/-!
# Zones

The zones of the IANA time zone database, release 2024a. An era is written as offset, saving and
end; the saving is a hyphen, an amount or the name of a set of rules, and the last era has no end.
-/

namespace TableQuery

/-- The eras of every zone. -/
def zoneTable : List (String × List String) := [
  ("Africa/Abidjan", ["-0:16:8 - 1912; 0 -"]),
  ("Africa/Algiers", [
    "0:12:12 - 1891 Mar 16; 0:9:21 - 1911 Mar 11; 0 d 1940 Feb 25 2; 1 d 1946 Oct 7",
    "0 - 1956 Jan 29; 1 - 1963 Apr 14; 0 d 1977 Oct 21; 1 d 1979 Oct 26; 0 d 1981 May; 1 -"]),
  ("Africa/Bissau", ["-1:2:20 - 1912 Jan 1 1u; -1 - 1975; 0 -"]),
  ("Africa/Cairo", ["2:5:9 - 1900 Oct; 2 K"]),
  ("Africa/Casablanca", [
    "-0:30:20 - 1913 Oct 26; 0 M 1984 Mar 16; 1 - 1986; 0 M 2018 Oct 28 3; 0 M"]),
  ("Africa/Ceuta", [
    "-0:21:16 - 1901 Jan 1 0u; 0 - 1918 May 6 23; 0 1 1918 Oct 7 23; 0 - 1924; 0 s 1929",
    "0 - 1967; 0 Sp 1984 Mar 16; 1 - 1986; 1 E"]),
  ("Africa/El_Aaiun", ["-0:52:48 - 1934; -1 - 1976 Apr 14; 0 M 2018 Oct 28 3; 0 M"]),
  ("Africa/Johannesburg", ["1:52 - 1892 Feb 8; 1:30 - 1903 Mar; 2 SA"]),
  ("Africa/Juba", ["2:6:28 - 1931; 2 SD 2000 Jan 15 12; 3 - 2021 Feb; 2 -"]),
  ("Africa/Khartoum", ["2:10:8 - 1931; 2 SD 2000 Jan 15 12; 3 - 2017 Nov; 2 -"]),
  ("Africa/Lagos", ["0:13:35 - 1905 Jul; 0 - 1908 Jul; 0:13:35 - 1914; 0:30 - 1919 Sep; 1 -"]),
  ("Africa/Maputo", ["2:10:18 - 1909; 2 -"]),
  ("Africa/Monrovia", ["-0:43:8 - 1882; -0:43:8 - 1919 Mar; -0:44:30 - 1972 Jan 7; 0 -"]),
  ("Africa/Nairobi", [
    "2:27:16 - 1908 May; 2:30 - 1928 Jun 30 24; 3 - 1930 Jan 4 24; 2:30 - 1936 Dec 31 24",
    "2:45 - 1942 Jul 31 24; 3 -"]),
  ("Africa/Ndjamena", ["1:0:12 - 1912; 1 - 1979 Oct 14; 1 1 1980 Mar 8; 1 -"]),
  ("Africa/Sao_Tome", [
    "0:26:56 - 1884; -0:36:45 - 1912 Jan 1 0u; 0 - 2018 Jan 1 1; 1 - 2019 Jan 1 2; 0 -"]),
  ("Africa/Tripoli", [
    "0:52:44 - 1920; 1 L 1959; 2 - 1982; 1 L 1990 May 4; 2 - 1996 Sep 30; 1 L 1997 Oct 4",
    "2 - 2012 Nov 10 2; 1 L 2013 Oct 25 2; 2 -"]),
  ("Africa/Tunis", ["0:40:44 - 1881 May 12; 0:9:21 - 1911 Mar 11; 1 n"]),
  ("Africa/Windhoek", [
    "1:8:24 - 1892 Feb 8; 1:30 - 1903 Mar; 2 - 1942 Sep 20 2; 2 1 1943 Mar 21 2",
    "2 - 1990 Mar 21; 2 - 1994 Mar 21; 1 NA 2017 Oct 24; 2 -"]),
  ("America/Adak", [
    "12:13:22 - 1867 Oct 19 12:44:35; -11:46:38 - 1900 Aug 20 12; -11 - 1942; -11 u 1946",
    "-11 - 1967 Apr; -11 - 1969; -11 u 1983 Oct 30 2; -10 u 1983 Nov 30; -10 u"]),
  ("America/Anchorage", [
    "14:0:24 - 1867 Oct 19 14:31:37; -9:59:36 - 1900 Aug 20 12; -10 - 1942; -10 u 1967 Apr",
    "-10 - 1969; -10 u 1983 Oct 30 2; -9 u 1983 Nov 30; -9 u"]),
  ("America/Araguaina", [
    "-3:12:48 - 1914; -3 B 1990 Sep 17; -3 - 1995 Sep 14; -3 B 2003 Sep 24; -3 - 2012 Oct 21",
    "-3 B 2013 Sep; -3 -"]),
  ("America/Argentina/Buenos_Aires", [
    "-3:53:48 - 1894 Oct 31; -4:16:48 - 1920 May; -4 - 1930 Dec; -4 A 1969 Oct 5",
    "-3 A 1999 Oct 3; -4 A 2000 Mar 3; -3 A"]),
  ("America/Argentina/Catamarca", [
    "-4:23:8 - 1894 Oct 31; -4:16:48 - 1920 May; -4 - 1930 Dec; -4 A 1969 Oct 5",
    "-3 A 1991 Mar 3; -4 - 1991 Oct 20; -3 A 1999 Oct 3; -4 A 2000 Mar 3; -3 - 2004 Jun",
    "-4 - 2004 Jun 20; -3 A 2008 Oct 18; -3 -"]),
  ("America/Argentina/Cordoba", [
    "-4:16:48 - 1894 Oct 31; -4:16:48 - 1920 May; -4 - 1930 Dec; -4 A 1969 Oct 5",
    "-3 A 1991 Mar 3; -4 - 1991 Oct 20; -3 A 1999 Oct 3; -4 A 2000 Mar 3; -3 A"]),
  ("America/Argentina/Jujuy", [
    "-4:21:12 - 1894 Oct 31; -4:16:48 - 1920 May; -4 - 1930 Dec; -4 A 1969 Oct 5",
    "-3 A 1990 Mar 4; -4 - 1990 Oct 28; -4 1 1991 Mar 17; -4 - 1991 Oct 6; -3 1 1992",
    "-3 A 1999 Oct 3; -4 A 2000 Mar 3; -3 A 2008 Oct 18; -3 -"]),
  ("America/Argentina/La_Rioja", [
    "-4:27:24 - 1894 Oct 31; -4:16:48 - 1920 May; -4 - 1930 Dec; -4 A 1969 Oct 5",
    "-3 A 1991 Mar; -4 - 1991 May 7; -3 A 1999 Oct 3; -4 A 2000 Mar 3; -3 - 2004 Jun",
    "-4 - 2004 Jun 20; -3 A 2008 Oct 18; -3 -"]),
  ("America/Argentina/Mendoza", [
    "-4:35:16 - 1894 Oct 31; -4:16:48 - 1920 May; -4 - 1930 Dec; -4 A 1969 Oct 5",
    "-3 A 1990 Mar 4; -4 - 1990 Oct 15; -4 1 1991 Mar; -4 - 1991 Oct 15; -4 1 1992 Mar",
    "-4 - 1992 Oct 18; -3 A 1999 Oct 3; -4 A 2000 Mar 3; -3 - 2004 May 23; -4 - 2004 Sep 26",
    "-3 A 2008 Oct 18; -3 -"]),
  ("America/Argentina/Rio_Gallegos", [
    "-4:36:52 - 1894 Oct 31; -4:16:48 - 1920 May; -4 - 1930 Dec; -4 A 1969 Oct 5",
    "-3 A 1999 Oct 3; -4 A 2000 Mar 3; -3 - 2004 Jun; -4 - 2004 Jun 20; -3 A 2008 Oct 18",
    "-3 -"]),
  ("America/Argentina/Salta", [
    "-4:21:40 - 1894 Oct 31; -4:16:48 - 1920 May; -4 - 1930 Dec; -4 A 1969 Oct 5",
    "-3 A 1991 Mar 3; -4 - 1991 Oct 20; -3 A 1999 Oct 3; -4 A 2000 Mar 3; -3 A 2008 Oct 18",
    "-3 -"]),
  ("America/Argentina/San_Juan", [
    "-4:34:4 - 1894 Oct 31; -4:16:48 - 1920 May; -4 - 1930 Dec; -4 A 1969 Oct 5",
    "-3 A 1991 Mar; -4 - 1991 May 7; -3 A 1999 Oct 3; -4 A 2000 Mar 3; -3 - 2004 May 31",
    "-4 - 2004 Jul 25; -3 A 2008 Oct 18; -3 -"]),
  ("America/Argentina/San_Luis", [
    "-4:25:24 - 1894 Oct 31; -4:16:48 - 1920 May; -4 - 1930 Dec; -4 A 1969 Oct 5; -3 A 1990",
    "-3 1 1990 Mar 14; -4 - 1990 Oct 15; -4 1 1991 Mar; -4 - 1991 Jun; -3 - 1999 Oct 3",
    "-4 1 2000 Mar 3; -3 - 2004 May 31; -4 - 2004 Jul 25; -3 A 2008 Jan 21; -4 Sa 2009 Oct 11",
    "-3 -"]),
  ("America/Argentina/Tucuman", [
    "-4:20:52 - 1894 Oct 31; -4:16:48 - 1920 May; -4 - 1930 Dec; -4 A 1969 Oct 5",
    "-3 A 1991 Mar 3; -4 - 1991 Oct 20; -3 A 1999 Oct 3; -4 A 2000 Mar 3; -3 - 2004 Jun",
    "-4 - 2004 Jun 13; -3 A"]),
  ("America/Argentina/Ushuaia", [
    "-4:33:12 - 1894 Oct 31; -4:16:48 - 1920 May; -4 - 1930 Dec; -4 A 1969 Oct 5",
    "-3 A 1999 Oct 3; -4 A 2000 Mar 3; -3 - 2004 May 30; -4 - 2004 Jun 20; -3 A 2008 Oct 18",
    "-3 -"]),
  ("America/Asuncion", ["-3:50:40 - 1931 Oct 10; -4 - 1972 Oct; -3 - 1974 Apr; -4 y"]),
  ("America/Bahia", [
    "-2:34:4 - 1914; -3 B 2003 Sep 24; -3 - 2011 Oct 16; -3 B 2012 Oct 21; -3 -"]),
  ("America/Bahia_Banderas", [
    "-7:1 - 1922 Jan 1 7u; -7 - 1927 Jun 10 23; -6 - 1930 Nov 15; -7 m 1932 Apr 1",
    "-6 - 1942 Apr 24; -7 - 1949 Jan 14; -8 - 1970; -7 m 2010 Apr 4 2; -6 m"]),
  ("America/Barbados", ["-3:58:29 - 1911 Aug 28; -4 BB 1944; -4 BB 1945; -4 BB"]),
  ("America/Belem", ["-3:13:56 - 1914; -3 B 1988 Sep 12; -3 -"]),
  ("America/Belize", ["-5:52:48 - 1912 Apr; -6 BZ"]),
  ("America/Boa_Vista", [
    "-4:2:40 - 1914; -4 B 1988 Sep 12; -4 - 1999 Sep 30; -4 B 2000 Oct 15; -4 -"]),
  ("America/Bogota", ["-4:56:16 - 1884 Mar 13; -4:56:16 - 1914 Nov 23; -5 CO"]),
  ("America/Boise", [
    "-7:44:49 - 1883 Nov 18 20u; -8 u 1923 May 13 2; -7 u 1974; -7 - 1974 Feb 3 2; -7 u"]),
  ("America/Cambridge_Bay", [
    "0 - 1920; -7 Y 1999 Oct 31 2; -6 C 2000 Oct 29 2; -5 - 2000 Nov 5; -6 - 2001 Apr 1 3",
    "-7 C"]),
  ("America/Campo_Grande", ["-3:38:28 - 1914; -4 B"]),
  ("America/Cancun", [
    "-5:47:4 - 1922 Jan 1 6u; -6 - 1981 Dec 23; -5 m 1998 Aug 2 2; -6 m 2015 Feb 1 2; -5 -"]),
  ("America/Caracas", [
    "-4:27:44 - 1890; -4:27:40 - 1912 Feb 12; -4:30 - 1965; -4 - 2007 Dec 9 3",
    "-4:30 - 2016 May 1 2:30; -4 -"]),
  ("America/Cayenne", ["-3:29:20 - 1911 Jul; -4 - 1967 Oct; -3 -"]),
  ("America/Chicago", [
    "-5:50:36 - 1883 Nov 18 18u; -6 u 1920; -6 Ch 1936 Mar 1 2; -5 - 1936 Nov 15 2",
    "-6 Ch 1942; -6 u 1946; -6 Ch 1967; -6 u"]),
  ("America/Chihuahua", [
    "-7:4:20 - 1922 Jan 1 7u; -7 - 1927 Jun 10 23; -6 - 1930 Nov 15; -7 m 1932 Apr 1",
    "-6 - 1996; -6 m 1998; -6 - 1998 Apr Sun>=1 3; -7 m 2022 Oct 30 2; -6 -"]),
  ("America/Ciudad_Juarez", [
    "-7:5:56 - 1922 Jan 1 7u; -7 - 1927 Jun 10 23; -6 - 1930 Nov 15; -7 m 1932 Apr 1",
    "-6 - 1996; -6 m 1998; -6 - 1998 Apr Sun>=1 3; -7 m 2010; -7 u 2022 Oct 30 2",
    "-6 - 2022 Nov 30; -7 u"]),
  ("America/Costa_Rica", ["-5:36:13 - 1890; -5:36:13 - 1921 Jan 15; -6 CR"]),
  ("America/Cuiaba", ["-3:44:20 - 1914; -4 B 2003 Sep 24; -4 - 2004 Oct; -4 B"]),
  ("America/Danmarkshavn", ["-1:14:40 - 1916 Jul 28; -3 - 1980 Apr 6 2; -3 E 1996; 0 -"]),
  ("America/Dawson", [
    "-9:17:40 - 1900 Aug 20; -9 Y 1965; -9 Yu 1973 Oct 28; -8 - 1980; -8 C 2020 Nov; -7 -"]),
  ("America/Dawson_Creek", ["-8:0:56 - 1884; -8 C 1947; -8 Va 1972 Aug 30 2; -7 -"]),
  ("America/Denver", [
    "-6:59:56 - 1883 Nov 18 19u; -7 u 1920; -7 De 1942; -7 u 1946; -7 De 1967; -7 u"]),
  ("America/Detroit", [
    "-5:32:11 - 1905; -6 - 1915 May 15 2; -5 - 1942; -5 u 1946; -5 Dt 1967 Jun 14 0:1",
    "-5 u 1969; -5 - 1973; -5 u 1975; -5 - 1975 Apr 27 2; -5 u"]),
  ("America/Edmonton", ["-7:33:52 - 1906 Sep; -7 Ed 1987; -7 C"]),
  ("America/Eirunepe", [
    "-4:39:28 - 1914; -5 B 1988 Sep 12; -5 - 1993 Sep 28; -5 B 1994 Sep 22; -5 - 2008 Jun 24",
    "-4 - 2013 Nov 10; -5 -"]),
  ("America/El_Salvador", ["-5:56:48 - 1921; -6 SV"]),
  ("America/Fort_Nelson", [
    "-8:10:47 - 1884; -8 Va 1946; -8 - 1947; -8 Va 1987; -8 C 2015 Mar 8 2; -7 -"]),
  ("America/Fortaleza", [
    "-2:34 - 1914; -3 B 1990 Sep 17; -3 - 1999 Sep 30; -3 B 2000 Oct 22; -3 - 2001 Sep 13",
    "-3 B 2002 Oct; -3 -"]),
  ("America/Glace_Bay", [
    "-3:59:48 - 1902 Jun 15; -4 C 1953; -4 H 1954; -4 - 1972; -4 H 1974; -4 C"]),
  ("America/Goose_Bay", [
    "-4:1:40 - 1884; -3:30:52 - 1918; -3:30:52 C 1919; -3:30:52 - 1935 Mar 30; -3:30 - 1936",
    "-3:30 j 1942 May 11; -3:30 C 1946; -3:30 j 1966 Mar 15 2; -4 j 2011 Nov; -4 C"]),
  ("America/Grand_Turk", [
    "-4:44:32 - 1890; -5:7:10 - 1912 Feb; -5 - 1979; -5 u 2015 Mar 8 2; -4 - 2018 Mar 11 3",
    "-5 u"]),
  ("America/Guatemala", ["-6:2:4 - 1918 Oct 5; -6 GT"]),
  ("America/Guayaquil", ["-5:19:20 - 1890; -5:14 - 1931; -5 EC"]),
  ("America/Guyana", [
    "-3:52:39 - 1911 Aug; -4 - 1915 Mar; -3:45 - 1975 Aug; -3 - 1992 Mar 29 1; -4 -"]),
  ("America/Halifax", [
    "-4:14:24 - 1902 Jun 15; -4 H 1918; -4 C 1919; -4 H 1942 Feb 9 2s; -4 C 1946; -4 H 1974",
    "-4 C"]),
  ("America/Havana", ["-5:29:28 - 1890; -5:29:36 - 1925 Jul 19 12; -5 Q"]),
  ("America/Hermosillo", [
    "-7:23:52 - 1922 Jan 1 7u; -7 - 1927 Jun 10 23; -6 - 1930 Nov 15; -7 m 1932 Apr 1",
    "-6 - 1942 Apr 24; -7 - 1949 Jan 14; -8 - 1970; -7 m 1999; -7 -"]),
  ("America/Indiana/Indianapolis", [
    "-5:44:38 - 1883 Nov 18 18u; -6 u 1920; -6 In 1942; -6 u 1946; -6 In 1955 Apr 24 2",
    "-5 - 1957 Sep 29 2; -6 - 1958 Apr 27 2; -5 - 1969; -5 u 1971; -5 - 2006; -5 u"]),
  ("America/Indiana/Knox", [
    "-5:46:30 - 1883 Nov 18 18u; -6 u 1947; -6 St 1962 Apr 29 2; -5 - 1963 Oct 27 2",
    "-6 u 1991 Oct 27 2; -5 - 2006 Apr 2 2; -6 u"]),
  ("America/Indiana/Marengo", [
    "-5:45:23 - 1883 Nov 18 18u; -6 u 1951; -6 Ma 1961 Apr 30 2; -5 - 1969; -5 u 1974 Jan 6 2",
    "-6 1 1974 Oct 27 2; -5 u 1976; -5 - 2006; -5 u"]),
  ("America/Indiana/Petersburg", [
    "-5:49:7 - 1883 Nov 18 18u; -6 u 1955; -6 Pi 1965 Apr 25 2; -5 - 1966 Oct 30 2",
    "-6 u 1977 Oct 30 2; -5 - 2006 Apr 2 2; -6 u 2007 Nov 4 2; -5 u"]),
  ("America/Indiana/Tell_City", [
    "-5:47:3 - 1883 Nov 18 18u; -6 u 1946; -6 Pe 1964 Apr 26 2; -5 - 1967 Oct 29 2",
    "-6 u 1969 Apr 27 2; -5 u 1971; -5 - 2006 Apr 2 2; -6 u"]),
  ("America/Indiana/Vevay", [
    "-5:40:16 - 1883 Nov 18 18u; -6 u 1954 Apr 25 2; -5 - 1969; -5 u 1973; -5 - 2006; -5 u"]),
  ("America/Indiana/Vincennes", [
    "-5:50:7 - 1883 Nov 18 18u; -6 u 1946; -6 V 1964 Apr 26 2; -5 - 1969; -5 u 1971",
    "-5 - 2006 Apr 2 2; -6 u 2007 Nov 4 2; -5 u"]),
  ("America/Indiana/Winamac", [
    "-5:46:25 - 1883 Nov 18 18u; -6 u 1946; -6 Pu 1961 Apr 30 2; -5 - 1969; -5 u 1971",
    "-5 - 2006 Apr 2 2; -6 u 2007 Mar 11 2; -5 u"]),
  ("America/Inuvik", ["0 - 1953; -8 Y 1979 Apr lastSun 2; -7 Y 1980; -7 C"]),
  ("America/Iqaluit", ["0 - 1942 Aug; -5 Y 1999 Oct 31 2; -6 C 2000 Oct 29 2; -5 C"]),
  ("America/Jamaica", ["-5:7:10 - 1890; -5:7:10 - 1912 Feb; -5 - 1974; -5 u 1984; -5 -"]),
  ("America/Juneau", [
    "15:2:19 - 1867 Oct 19 15:33:32; -8:57:41 - 1900 Aug 20 12; -8 - 1942; -8 u 1946",
    "-8 - 1969; -8 u 1980 Apr 27 2; -9 u 1980 Oct 26 2; -8 u 1983 Oct 30 2; -9 u 1983 Nov 30",
    "-9 u"]),
  ("America/Kentucky/Louisville", [
    "-5:43:2 - 1883 Nov 18 18u; -6 u 1921; -6 v 1942; -6 u 1946; -6 v 1961 Jul 23 2",
    "-5 - 1968; -5 u 1974 Jan 6 2; -6 1 1974 Oct 27 2; -5 u"]),
  ("America/Kentucky/Monticello", [
    "-5:39:24 - 1883 Nov 18 18u; -6 u 1946; -6 - 1968; -6 u 2000 Oct 29 2; -5 u"]),
  ("America/La_Paz", ["-4:32:36 - 1890; -4:32:36 - 1931 Oct 15; -4:32:36 1 1932 Mar 21; -4 -"]),
  ("America/Lima", ["-5:8:12 - 1890; -5:8:36 - 1908 Jul 28; -5 PE"]),
  ("America/Los_Angeles", ["-7:52:58 - 1883 Nov 18 20u; -8 u 1946; -8 CA 1967; -8 u"]),
  ("America/Maceio", [
    "-2:22:52 - 1914; -3 B 1990 Sep 17; -3 - 1995 Oct 13; -3 B 1996 Sep 4; -3 - 1999 Sep 30",
    "-3 B 2000 Oct 22; -3 - 2001 Sep 13; -3 B 2002 Oct; -3 -"]),
  ("America/Managua", [
    "-5:45:8 - 1890; -5:45:12 - 1934 Jun 23; -6 - 1973 May; -5 - 1975 Feb 16",
    "-6 NI 1992 Jan 1 4; -5 - 1992 Sep 24; -6 - 1993; -5 - 1997; -6 NI"]),
  ("America/Manaus", [
    "-4:0:4 - 1914; -4 B 1988 Sep 12; -4 - 1993 Sep 28; -4 B 1994 Sep 22; -4 -"]),
  ("America/Martinique", [
    "-4:4:20 - 1890; -4:4:20 - 1911 May; -4 - 1980 Apr 6; -4 1 1980 Sep 28; -4 -"]),
  ("America/Matamoros", ["-6:30 - 1922 Jan 1 6u; -6 - 1988; -6 u 1989; -6 m 2010; -6 u"]),
  ("America/Mazatlan", [
    "-7:5:40 - 1922 Jan 1 7u; -7 - 1927 Jun 10 23; -6 - 1930 Nov 15; -7 m 1932 Apr 1",
    "-6 - 1942 Apr 24; -7 - 1949 Jan 14; -8 - 1970; -7 m"]),
  ("America/Menominee", [
    "-5:50:27 - 1885 Sep 18 12; -6 u 1946; -6 Me 1969 Apr 27 2; -5 - 1973 Apr 29 2; -6 u"]),
  ("America/Merida", ["-5:58:28 - 1922 Jan 1 6u; -6 - 1981 Dec 23; -5 - 1982 Dec 2; -6 m"]),
  ("America/Metlakatla", [
    "15:13:42 - 1867 Oct 19 15:44:55; -8:46:18 - 1900 Aug 20 12; -8 - 1942; -8 u 1946",
    "-8 - 1969; -8 u 1983 Oct 30 2; -8 - 2015 Nov 1 2; -9 u 2018 Nov 4 2; -8 - 2019 Jan 20 2",
    "-9 u"]),
  ("America/Mexico_City", [
    "-6:36:36 - 1922 Jan 1 7u; -7 - 1927 Jun 10 23; -6 - 1930 Nov 15; -7 m 1932 Apr 1",
    "-6 m 2001 Sep 30 2; -6 - 2002 Feb 20; -6 m"]),
  ("America/Miquelon", ["-3:44:40 - 1911 Jun 15; -4 - 1980 May; -3 - 1987; -3 C"]),
  ("America/Moncton", [
    "-4:19:8 - 1883 Dec 9; -5 - 1902 Jun 15; -4 C 1933; -4 o 1942; -4 C 1946; -4 o 1973",
    "-4 C 1993; -4 o 2007; -4 C"]),
  ("America/Monterrey", ["-6:41:16 - 1922 Jan 1 6u; -6 - 1988; -6 u 1989; -6 m"]),
  ("America/Montevideo", [
    "-3:44:51 - 1908 Jun 10; -3:44:51 - 1920 May; -4 - 1923 Oct; -3:30 U 1942 Dec 14",
    "-3 U 1960; -3 U 1968; -3 U 1970; -3 U 1974; -3 U 1974 Mar 10; -3 U 1974 Dec 22; -3 U"]),
  ("America/New_York", [
    "-4:56:2 - 1883 Nov 18 17u; -5 u 1920; -5 NY 1942; -5 u 1946; -5 NY 1967; -5 u"]),
  ("America/Nome", [
    "12:58:22 - 1867 Oct 19 13:29:35; -11:1:38 - 1900 Aug 20 12; -11 - 1942; -11 u 1946",
    "-11 - 1967 Apr; -11 - 1969; -11 u 1983 Oct 30 2; -9 u 1983 Nov 30; -9 u"]),
  ("America/Noronha", [
    "-2:9:40 - 1914; -2 B 1990 Sep 17; -2 - 1999 Sep 30; -2 B 2000 Oct 15; -2 - 2001 Sep 13",
    "-2 B 2002 Oct; -2 -"]),
  ("America/North_Dakota/Beulah", ["-6:47:7 - 1883 Nov 18 19u; -7 u 2010 Nov 7 2; -6 u"]),
  ("America/North_Dakota/Center", ["-6:45:12 - 1883 Nov 18 19u; -7 u 1992 Oct 25 2; -6 u"]),
  ("America/North_Dakota/New_Salem", ["-6:45:39 - 1883 Nov 18 19u; -7 u 2003 Oct 26 2; -6 u"]),
  ("America/Nuuk", [
    "-3:26:56 - 1916 Jul 28; -3 - 1980 Apr 6 2; -3 E 2023 Mar 26 1u; -2 - 2023 Oct 29 1u",
    "-2 E"]),
  ("America/Ojinaga", [
    "-6:57:40 - 1922 Jan 1 7u; -7 - 1927 Jun 10 23; -6 - 1930 Nov 15; -7 m 1932 Apr 1",
    "-6 - 1996; -6 m 1998; -6 - 1998 Apr Sun>=1 3; -7 m 2010; -7 u 2022 Oct 30 2",
    "-6 - 2022 Nov 30; -6 u"]),
  ("America/Panama", ["-5:18:8 - 1890; -5:19:36 - 1908 Apr 22; -5 -"]),
  ("America/Paramaribo", [
    "-3:40:40 - 1911; -3:40:52 - 1935; -3:40:36 - 1945 Oct; -3:30 - 1984 Oct; -3 -"]),
  ("America/Phoenix", [
    "-7:28:18 - 1883 Nov 18 19u; -7 u 1944 Jan 1 0:1; -7 - 1944 Apr 1 0:1",
    "-7 u 1944 Oct 1 0:1; -7 - 1967; -7 u 1968 Mar 21; -7 -"]),
  ("America/Port-au-Prince", ["-4:49:20 - 1890; -4:49 - 1917 Jan 24 12; -5 HT"]),
  ("America/Porto_Velho", ["-4:15:36 - 1914; -4 B 1988 Sep 12; -4 -"]),
  ("America/Puerto_Rico", ["-4:24:25 - 1899 Mar 28 12; -4 - 1942 May 3; -4 u 1946; -4 -"]),
  ("America/Punta_Arenas", [
    "-4:43:40 - 1890; -4:42:45 - 1910 Jan 10; -5 - 1916 Jul; -4:42:45 - 1918 Sep 10",
    "-4 - 1919 Jul; -4:42:45 - 1927 Sep; -5 x 1932 Sep; -4 - 1942 Jun; -5 - 1942 Aug",
    "-4 - 1946 Aug 28 24; -5 1 1947 Mar 31 24; -5 - 1947 May 21 23; -4 x 2016 Dec 4; -3 -"]),
  ("America/Rankin_Inlet", ["0 - 1957; -6 Y 2000 Oct 29 2; -5 - 2001 Apr 1 3; -6 C"]),
  ("America/Recife", [
    "-2:19:36 - 1914; -3 B 1990 Sep 17; -3 - 1999 Sep 30; -3 B 2000 Oct 15; -3 - 2001 Sep 13",
    "-3 B 2002 Oct; -3 -"]),
  ("America/Regina", ["-6:58:36 - 1905 Sep; -7 r 1960 Apr lastSun 2; -6 -"]),
  ("America/Resolute", [
    "0 - 1947 Aug 31; -6 Y 2000 Oct 29 2; -5 - 2001 Apr 1 3; -6 C 2006 Oct 29 2",
    "-5 - 2007 Mar 11 3; -6 C"]),
  ("America/Rio_Branco", [
    "-4:31:12 - 1914; -5 B 1988 Sep 12; -5 - 2008 Jun 24; -4 - 2013 Nov 10; -5 -"]),
  ("America/Santarem", ["-3:38:48 - 1914; -4 B 1988 Sep 12; -4 - 2008 Jun 24; -3 -"]),
  ("America/Santiago", [
    "-4:42:45 - 1890; -4:42:45 - 1910 Jan 10; -5 - 1916 Jul; -4:42:45 - 1918 Sep 10",
    "-4 - 1919 Jul; -4:42:45 - 1927 Sep; -5 x 1932 Sep; -4 - 1942 Jun; -5 - 1942 Aug",
    "-4 - 1946 Jul 14 24; -4 1 1946 Aug 28 24; -5 1 1947 Mar 31 24; -5 - 1947 May 21 23; -4 x"]),
  ("America/Santo_Domingo", [
    "-4:39:36 - 1890; -4:40 - 1933 Apr 1 12; -5 DO 1974 Oct 27; -4 - 2000 Oct 29 2",
    "-5 u 2000 Dec 3 1; -4 -"]),
  ("America/Sao_Paulo", ["-3:6:28 - 1914; -3 B 1963 Oct 23; -3 1 1964; -3 B"]),
  ("America/Scoresbysund", [
    "-1:27:52 - 1916 Jul 28; -2 - 1980 Apr 6 2; -2 c 1981 Mar 29; -1 E 2024 Mar 31; -2 E"]),
  ("America/Sitka", [
    "14:58:47 - 1867 Oct 19 15:30; -9:1:13 - 1900 Aug 20 12; -8 - 1942; -8 u 1946; -8 - 1969",
    "-8 u 1983 Oct 30 2; -9 u 1983 Nov 30; -9 u"]),
  ("America/St_Johns", [
    "-3:30:52 - 1884; -3:30:52 j 1918; -3:30:52 C 1919; -3:30:52 j 1935 Mar 30",
    "-3:30 j 1942 May 11; -3:30 C 1946; -3:30 j 2011 Nov; -3:30 C"]),
  ("America/Swift_Current", [
    "-7:11:20 - 1905 Sep; -7 C 1946 Apr lastSun 2; -7 r 1950; -7 Sw 1972 Apr lastSun 2; -6 -"]),
  ("America/Tegucigalpa", ["-5:48:52 - 1921 Apr; -6 HN"]),
  ("America/Thule", ["-4:35:8 - 1916 Jul 28; -4 Th"]),
  ("America/Tijuana", [
    "-7:48:4 - 1922 Jan 1 7u; -7 - 1924; -8 - 1927 Jun 10 23; -7 - 1930 Nov 15",
    "-8 - 1931 Apr 1; -8 1 1931 Sep 30; -8 - 1942 Apr 24; -8 1 1945 Aug 14 23u",
    "-8 1 1945 Nov 12; -8 - 1948 Apr 5; -8 1 1949 Jan 14; -8 - 1954; -8 CA 1961; -8 - 1976",
    "-8 u 1996; -8 m 2001; -8 u 2002 Feb 20; -8 m 2010; -8 u"]),
  ("America/Toronto", [
    "-5:17:32 - 1895; -5 C 1919; -5 t 1942 Feb 9 2s; -5 C 1946; -5 t 1974; -5 C"]),
  ("America/Vancouver", ["-8:12:28 - 1884; -8 Va 1987; -8 C"]),
  ("America/Whitehorse", [
    "-9:0:12 - 1900 Aug 20; -9 Y 1965; -9 Yu 1966 Feb 27; -8 - 1980; -8 C 2020 Nov; -7 -"]),
  ("America/Winnipeg", ["-6:28:36 - 1887 Jul 16; -6 W 2006; -6 C"]),
  ("America/Yakutat", [
    "14:41:5 - 1867 Oct 19 15:12:18; -9:18:55 - 1900 Aug 20 12; -9 - 1942; -9 u 1946",
    "-9 - 1969; -9 u 1983 Nov 30; -9 u"]),
  ("Antarctica/Casey", [
    "0 - 1969; 8 - 2009 Oct 18 2; 11 - 2010 Mar 5 2; 8 - 2011 Oct 28 2; 11 - 2012 Feb 21 17u",
    "8 - 2016 Oct 22; 11 - 2018 Mar 11 4; 8 - 2018 Oct 7 4; 11 - 2019 Mar 17 3",
    "8 - 2019 Oct 4 3; 11 - 2020 Mar 8 3; 8 - 2020 Oct 4 0:1; 11 - 2021 Mar 14",
    "8 - 2021 Oct 3 0:1; 11 - 2022 Mar 13; 8 - 2022 Oct 2 0:1; 11 - 2023 Mar 9 3; 8 -"]),
  ("Antarctica/Davis", [
    "0 - 1957 Jan 13; 7 - 1964 Nov; 0 - 1969 Feb; 7 - 2009 Oct 18 2; 5 - 2010 Mar 10 20u",
    "7 - 2011 Oct 28 2; 5 - 2012 Feb 21 20u; 7 -"]),
  ("Antarctica/Macquarie", [
    "0 - 1899 Nov; 10 - 1916 Oct 1 2; 10 1 1917 Feb; 10 AU 1919 Apr 1 0s; 0 - 1948 Mar 25",
    "10 AU 1967; 10 AT 2010; 10 1 2011; 10 AT"]),
  ("Antarctica/Mawson", ["0 - 1954 Feb 13; 6 - 2009 Oct 18 2; 5 -"]),
  ("Antarctica/Palmer", ["0 - 1965; -4 A 1969 Oct 5; -3 A 1982 May; -4 x 2016 Dec 4; -3 -"]),
  ("Antarctica/Rothera", ["0 - 1976 Dec; -3 -"]),
  ("Antarctica/Troll", ["0 - 2005 Feb 12; 0 Tr"]),
  ("Antarctica/Vostok", ["0 - 1957 Dec 16; 7 - 1994 Feb; 0 - 1994 Nov; 7 - 2023 Dec 18 2; 5 -"]),
  ("Asia/Almaty", [
    "5:7:48 - 1924 May 2; 5 - 1930 Jun 21; 6 R 1991 Mar 31 2s; 5 R 1992 Jan 19 2s",
    "6 R 2004 Oct 31 2s; 6 - 2024 Mar; 5 -"]),
  ("Asia/Amman", ["2:23:44 - 1931; 2 J 2022 Oct 28 0s; 3 -"]),
  ("Asia/Anadyr", [
    "11:49:56 - 1924 May 2; 12 - 1930 Jun 21; 13 R 1982 Apr 1 0s; 12 R 1991 Mar 31 2s",
    "11 R 1992 Jan 19 2s; 12 R 2010 Mar 28 2s; 11 R 2011 Mar 27 2s; 12 -"]),
  ("Asia/Aqtau", [
    "3:21:4 - 1924 May 2; 4 - 1930 Jun 21; 5 - 1981 Oct; 6 - 1982 Apr; 5 R 1991 Mar 31 2s",
    "4 R 1992 Jan 19 2s; 5 R 1994 Sep 25 2s; 4 R 2004 Oct 31 2s; 5 -"]),
  ("Asia/Aqtobe", [
    "3:48:40 - 1924 May 2; 4 - 1930 Jun 21; 5 - 1981 Apr; 5 1 1981 Oct; 6 - 1982 Apr",
    "5 R 1991 Mar 31 2s; 4 R 1992 Jan 19 2s; 5 R 2004 Oct 31 2s; 5 -"]),
  ("Asia/Ashgabat", [
    "3:53:32 - 1924 May 2; 4 - 1930 Jun 21; 5 R 1991 Mar 31 2; 4 R 1992 Jan 19 2; 5 -"]),
  ("Asia/Atyrau", [
    "3:27:44 - 1924 May 2; 3 - 1930 Jun 21; 5 - 1981 Oct; 6 - 1982 Apr; 5 R 1991 Mar 31 2s",
    "4 R 1992 Jan 19 2s; 5 R 1999 Mar 28 2s; 4 R 2004 Oct 31 2s; 5 -"]),
  ("Asia/Baghdad", ["2:57:40 - 1890; 2:57:36 - 1918; 3 - 1982 May; 3 IQ"]),
  ("Asia/Baku", [
    "3:19:24 - 1924 May 2; 3 - 1957 Mar; 4 R 1991 Mar 31 2s; 3 R 1992 Sep lastSun 2s",
    "4 - 1996; 4 E 1997; 4 AZ"]),
  ("Asia/Bangkok", ["6:42:4 - 1880; 6:42:4 - 1920 Apr; 7 -"]),
  ("Asia/Barnaul", [
    "5:35 - 1919 Dec 10; 6 - 1930 Jun 21; 7 R 1991 Mar 31 2s; 6 R 1992 Jan 19 2s",
    "7 R 1995 May 28; 6 R 2011 Mar 27 2s; 7 - 2014 Oct 26 2s; 6 - 2016 Mar 27 2s; 7 -"]),
  ("Asia/Beirut", ["2:22 - 1880; 2 l"]),
  ("Asia/Bishkek", [
    "4:58:24 - 1924 May 2; 5 - 1930 Jun 21; 6 R 1991 Mar 31 2s; 5 R 1991 Aug 31 2",
    "5 KG 2005 Aug 12; 6 -"]),
  ("Asia/Chita", [
    "7:33:52 - 1919 Dec 15; 8 - 1930 Jun 21; 9 R 1991 Mar 31 2s; 8 R 1992 Jan 19 2s",
    "9 R 2011 Mar 27 2s; 10 - 2014 Oct 26 2s; 8 - 2016 Mar 27 2; 9 -"]),
  ("Asia/Choibalsan", ["7:38 - 1905 Aug; 7 - 1978; 8 - 1983 Apr; 9 X 2008 Mar 31; 8 X"]),
  ("Asia/Colombo", [
    "5:19:24 - 1880; 5:19:32 - 1906; 5:30 - 1942 Jan 5; 5:30 0:30 1942 Sep",
    "5:30 1 1945 Oct 16 2; 5:30 - 1996 May 25; 6:30 - 1996 Oct 26 0:30; 6 - 2006 Apr 15 0:30",
    "5:30 -"]),
  ("Asia/Damascus", ["2:25:12 - 1920; 2 S 2022 Oct 28; 3 -"]),
  ("Asia/Dhaka", [
    "6:1:40 - 1890; 5:53:20 - 1941 Oct; 6:30 - 1942 May 15; 5:30 - 1942 Sep",
    "6:30 - 1951 Sep 30; 6 - 2009; 6 BD"]),
  ("Asia/Dili", [
    "8:22:20 - 1911 Dec 31 16u; 8 - 1942 Feb 21 23; 9 - 1976 May 3; 8 - 2000 Sep 17; 9 -"]),
  ("Asia/Dubai", ["3:41:12 - 1920; 4 -"]),
  ("Asia/Dushanbe", [
    "4:35:12 - 1924 May 2; 5 - 1930 Jun 21; 6 R 1991 Mar 31 2s; 5 1 1991 Sep 9 2s; 5 -"]),
  ("Asia/Famagusta", [
    "2:15:48 - 1921 Nov 14; 2 CY 1998 Sep; 2 E 2016 Sep 8; 3 - 2017 Oct 29 1u; 2 E"]),
  ("Asia/Gaza", [
    "2:17:52 - 1900 Oct; 2 Z 1948 May 15; 2 K 1967 Jun 5; 2 Z 1996; 2 J 1999; 2 P 2008 Aug 29",
    "2 - 2008 Sep; 2 P 2010; 2 - 2010 Mar 27 0:1; 2 P 2011 Aug; 2 - 2012; 2 P"]),
  ("Asia/Hebron", [
    "2:20:23 - 1900 Oct; 2 Z 1948 May 15; 2 K 1967 Jun 5; 2 Z 1996; 2 J 1999; 2 P"]),
  ("Asia/Ho_Chi_Minh", [
    "7:6:30 - 1906 Jul; 7:6:30 - 1911 May; 7 - 1942 Dec 31 23; 8 - 1945 Mar 14 23",
    "9 - 1945 Sep 1 24; 7 - 1947 Apr; 8 - 1955 Jul 1 1; 7 - 1959 Dec 31 23; 8 - 1975 Jun 13",
    "7 -"]),
  ("Asia/Hong_Kong", [
    "7:36:42 - 1904 Oct 29 17u; 8 - 1941 Jun 15 3; 8 1 1941 Oct 1 4; 8 0:30 1941 Dec 25",
    "9 - 1945 Nov 18 2; 8 HK"]),
  ("Asia/Hovd", ["6:6:36 - 1905 Aug; 6 - 1978; 7 X"]),
  ("Asia/Irkutsk", [
    "6:57:5 - 1880; 6:57:5 - 1920 Jan 25; 7 - 1930 Jun 21; 8 R 1991 Mar 31 2s",
    "7 R 1992 Jan 19 2s; 8 R 2011 Mar 27 2s; 9 - 2014 Oct 26 2s; 8 -"]),
  ("Asia/Jakarta", [
    "7:7:12 - 1867 Aug 10; 7:7:12 - 1923 Dec 31 16:40u; 7:20 - 1932 Nov; 7:30 - 1942 Mar 23",
    "9 - 1945 Sep 23; 7:30 - 1948 May; 8 - 1950 May; 7:30 - 1964; 7 -"]),
  ("Asia/Jayapura", ["9:22:48 - 1932 Nov; 9 - 1944 Sep; 9:30 - 1964; 9 -"]),
  ("Asia/Jerusalem", ["2:20:54 - 1880; 2:20:40 - 1918; 2 Z"]),
  ("Asia/Kabul", ["4:36:48 - 1890; 4 - 1945; 4:30 -"]),
  ("Asia/Kamchatka", [
    "10:34:36 - 1922 Nov 10; 11 - 1930 Jun 21; 12 R 1991 Mar 31 2s; 11 R 1992 Jan 19 2s",
    "12 R 2010 Mar 28 2s; 11 R 2011 Mar 27 2s; 12 -"]),
  ("Asia/Karachi", [
    "4:28:12 - 1907; 5:30 - 1942 Sep; 5:30 1 1945 Oct 15; 5:30 - 1951 Sep 30; 5 - 1971 Mar 26",
    "5 PK"]),
  ("Asia/Kathmandu", ["5:41:16 - 1920; 5:30 - 1986; 5:45 -"]),
  ("Asia/Khandyga", [
    "9:2:13 - 1919 Dec 15; 8 - 1930 Jun 21; 9 R 1991 Mar 31 2s; 8 R 1992 Jan 19 2s; 9 R 2004",
    "10 R 2011 Mar 27 2s; 11 - 2011 Sep 13 0s; 10 - 2014 Oct 26 2s; 9 -"]),
  ("Asia/Kolkata", [
    "5:53:28 - 1854 Jun 28; 5:53:20 - 1870; 5:21:10 - 1906; 5:30 - 1941 Oct",
    "5:30 1 1942 May 15; 5:30 - 1942 Sep; 5:30 1 1945 Oct 15; 5:30 -"]),
  ("Asia/Krasnoyarsk", [
    "6:11:26 - 1920 Jan 6; 6 - 1930 Jun 21; 7 R 1991 Mar 31 2s; 6 R 1992 Jan 19 2s",
    "7 R 2011 Mar 27 2s; 8 - 2014 Oct 26 2s; 7 -"]),
  ("Asia/Kuching", ["7:21:20 - 1926 Mar; 7:30 - 1933; 8 NB 1942 Feb 16; 9 - 1945 Sep 12; 8 -"]),
  ("Asia/Macau", ["7:34:10 - 1904 Oct 30; 8 - 1941 Dec 21 23; 9 _ 1945 Sep 30 24; 8 _"]),
  ("Asia/Magadan", [
    "10:3:12 - 1924 May 2; 10 - 1930 Jun 21; 11 R 1991 Mar 31 2s; 10 R 1992 Jan 19 2s",
    "11 R 2011 Mar 27 2s; 12 - 2014 Oct 26 2s; 10 - 2016 Apr 24 2s; 11 -"]),
  ("Asia/Makassar", ["7:57:36 - 1920; 7:57:36 - 1932 Nov; 8 - 1942 Feb 9; 9 - 1945 Sep 23; 8 -"]),
  ("Asia/Manila", ["-15:56 - 1844 Dec 31; 8:4 - 1899 May 11; 8 PH 1942 May; 9 - 1944 Nov; 8 PH"]),
  ("Asia/Nicosia", ["2:13:28 - 1921 Nov 14; 2 CY 1998 Sep; 2 E"]),
  ("Asia/Novokuznetsk", [
    "5:48:48 - 1924 May; 6 - 1930 Jun 21; 7 R 1991 Mar 31 2s; 6 R 1992 Jan 19 2s",
    "7 R 2010 Mar 28 2s; 6 R 2011 Mar 27 2s; 7 -"]),
  ("Asia/Novosibirsk", [
    "5:31:40 - 1919 Dec 14 6; 6 - 1930 Jun 21; 7 R 1991 Mar 31 2s; 6 R 1992 Jan 19 2s",
    "7 R 1993 May 23; 6 R 2011 Mar 27 2s; 7 - 2014 Oct 26 2s; 6 - 2016 Jul 24 2s; 7 -"]),
  ("Asia/Omsk", [
    "4:53:30 - 1919 Nov 14; 5 - 1930 Jun 21; 6 R 1991 Mar 31 2s; 5 R 1992 Jan 19 2s",
    "6 R 2011 Mar 27 2s; 7 - 2014 Oct 26 2s; 6 -"]),
  ("Asia/Oral", [
    "3:25:24 - 1924 May 2; 3 - 1930 Jun 21; 5 - 1981 Apr; 5 1 1981 Oct; 6 - 1982 Apr",
    "5 R 1989 Mar 26 2s; 4 R 1992 Jan 19 2s; 5 R 1992 Mar 29 2s; 4 R 2004 Oct 31 2s; 5 -"]),
  ("Asia/Pontianak", [
    "7:17:20 - 1908 May; 7:17:20 - 1932 Nov; 7:30 - 1942 Jan 29; 9 - 1945 Sep 23",
    "7:30 - 1948 May; 8 - 1950 May; 7:30 - 1964; 8 - 1988; 7 -"]),
  ("Asia/Pyongyang", [
    "8:23 - 1908 Apr; 8:30 - 1912; 9 - 1945 Aug 24; 9 - 2015 Aug 15; 8:30 - 2018 May 4 23:30",
    "9 -"]),
  ("Asia/Qatar", ["3:26:8 - 1920; 4 - 1972 Jun; 3 -"]),
  ("Asia/Qostanay", [
    "4:14:28 - 1924 May 2; 4 - 1930 Jun 21; 5 - 1981 Apr; 5 1 1981 Oct; 6 - 1982 Apr",
    "5 R 1991 Mar 31 2s; 4 R 1992 Jan 19 2s; 5 R 2004 Oct 31 2s; 6 - 2024 Mar; 5 -"]),
  ("Asia/Qyzylorda", [
    "4:21:52 - 1924 May 2; 4 - 1930 Jun 21; 5 - 1981 Apr; 5 1 1981 Oct; 6 - 1982 Apr",
    "5 R 1991 Mar 31 2s; 4 R 1991 Sep 29 2s; 5 R 1992 Jan 19 2s; 6 R 1992 Mar 29 2s",
    "5 R 2004 Oct 31 2s; 6 - 2018 Dec 21; 5 -"]),
  ("Asia/Riyadh", ["3:6:52 - 1947 Mar 14; 3 -"]),
  ("Asia/Sakhalin", [
    "9:30:48 - 1905 Aug 23; 9 - 1945 Aug 25; 11 R 1991 Mar 31 2s; 10 R 1992 Jan 19 2s",
    "11 R 1997 Mar lastSun 2s; 10 R 2011 Mar 27 2s; 11 - 2014 Oct 26 2s; 10 - 2016 Mar 27 2s",
    "11 -"]),
  ("Asia/Samarkand", [
    "4:27:53 - 1924 May 2; 4 - 1930 Jun 21; 5 - 1981 Apr; 5 1 1981 Oct; 6 - 1982 Apr",
    "5 R 1992; 5 -"]),
  ("Asia/Seoul", [
    "8:27:52 - 1908 Apr; 8:30 - 1912; 9 - 1945 Sep 8; 9 KR 1954 Mar 21; 8:30 KR 1961 Aug 10",
    "9 KR"]),
  ("Asia/Shanghai", ["8:5:43 - 1901; 8 Sh 1949 May 28; 8 CN"]),
  ("Asia/Singapore", [
    "6:55:25 - 1901; 6:55:25 - 1905 Jun; 7 - 1933; 7 0:20 1936; 7:20 - 1941 Sep",
    "7:30 - 1942 Feb 16; 9 - 1945 Sep 12; 7:30 - 1981 Dec 31 16u; 8 -"]),
  ("Asia/Srednekolymsk", [
    "10:14:52 - 1924 May 2; 10 - 1930 Jun 21; 11 R 1991 Mar 31 2s; 10 R 1992 Jan 19 2s",
    "11 R 2011 Mar 27 2s; 12 - 2014 Oct 26 2s; 11 -"]),
  ("Asia/Taipei", ["8:6 - 1896; 8 - 1937 Oct; 9 - 1945 Sep 21 1; 8 f"]),
  ("Asia/Tashkent", ["4:37:11 - 1924 May 2; 5 - 1930 Jun 21; 6 R 1991 Mar 31 2; 5 R 1992; 5 -"]),
  ("Asia/Tbilisi", [
    "2:59:11 - 1880; 2:59:11 - 1924 May 2; 3 - 1957 Mar; 4 R 1991 Mar 31 2s; 3 R 1992",
    "3 e 1994 Sep lastSun; 4 e 1996 Oct lastSun; 4 1 1997 Mar lastSun; 4 e 2004 Jun 27",
    "3 R 2005 Mar lastSun 2; 4 -"]),
  ("Asia/Tehran", [
    "3:25:44 - 1916; 3:25:44 - 1935 Jun 13; 3:30 i 1977 Oct 20 24; 4 i 1979; 3:30 i"]),
  ("Asia/Thimphu", ["5:58:36 - 1947 Aug 15; 5:30 - 1987 Oct; 6 -"]),
  ("Asia/Tokyo", ["9:18:59 - 1887 Dec 31 15u; 9 JP"]),
  ("Asia/Tomsk", [
    "5:39:51 - 1919 Dec 22; 6 - 1930 Jun 21; 7 R 1991 Mar 31 2s; 6 R 1992 Jan 19 2s",
    "7 R 2002 May 1 3; 6 R 2011 Mar 27 2s; 7 - 2014 Oct 26 2s; 6 - 2016 May 29 2s; 7 -"]),
  ("Asia/Ulaanbaatar", ["7:7:32 - 1905 Aug; 7 - 1978; 8 X"]),
  ("Asia/Urumqi", ["5:50:20 - 1928; 6 -"]),
  ("Asia/Ust-Nera", [
    "9:32:54 - 1919 Dec 15; 8 - 1930 Jun 21; 9 R 1981 Apr; 11 R 1991 Mar 31 2s",
    "10 R 1992 Jan 19 2s; 11 R 2011 Mar 27 2s; 12 - 2011 Sep 13 0s; 11 - 2014 Oct 26 2s; 10 -"]),
  ("Asia/Vladivostok", [
    "8:47:31 - 1922 Nov 15; 9 - 1930 Jun 21; 10 R 1991 Mar 31 2s; 9 R 1992 Jan 19 2s",
    "10 R 2011 Mar 27 2s; 11 - 2014 Oct 26 2s; 10 -"]),
  ("Asia/Yakutsk", [
    "8:38:58 - 1919 Dec 15; 8 - 1930 Jun 21; 9 R 1991 Mar 31 2s; 8 R 1992 Jan 19 2s",
    "9 R 2011 Mar 27 2s; 10 - 2014 Oct 26 2s; 9 -"]),
  ("Asia/Yangon", ["6:24:47 - 1880; 6:24:47 - 1920; 6:30 - 1942 May; 9 - 1945 May 3; 6:30 -"]),
  ("Asia/Yekaterinburg", [
    "4:2:33 - 1916 Jul 3; 3:45:5 - 1919 Jul 15 4; 4 - 1930 Jun 21; 5 R 1991 Mar 31 2s",
    "4 R 1992 Jan 19 2s; 5 R 2011 Mar 27 2s; 6 - 2014 Oct 26 2s; 5 -"]),
  ("Asia/Yerevan", [
    "2:58 - 1924 May 2; 3 - 1957 Mar; 4 R 1991 Mar 31 2s; 3 R 1995 Sep 24 2s; 4 - 1997",
    "4 R 2011; 4 AM"]),
  ("Atlantic/Azores", [
    "-1:42:40 - 1884; -1:54:32 - 1912 Jan 1 2u; -2 p 1966 Apr 3 2; -1 p 1983 Sep 25 1s",
    "-1 W- 1992 Sep 27 1s; 0 E 1993 Mar 28 1u; -1 E"]),
  ("Atlantic/Bermuda", [
    "-4:19:18 - 1890; -4:19:18 Be 1930 Jan 1 2; -4 Be 1974 Apr 28 2; -4 C 1976; -4 u"]),
  ("Atlantic/Canary", [
    "-1:1:36 - 1922 Mar; -1 - 1946 Sep 30 1; 0 - 1980 Apr 6 0s; 0 1 1980 Sep 28 1u; 0 E"]),
  ("Atlantic/Cape_Verde", [
    "-1:34:4 - 1912 Jan 1 2u; -2 - 1942 Sep; -2 1 1945 Oct 15; -2 - 1975 Nov 25 2; -1 -"]),
  ("Atlantic/Faroe", ["-0:27:4 - 1908 Jan 11; 0 - 1981; 0 E"]),
  ("Atlantic/Madeira", ["-1:7:36 - 1912 Jan 1 1u; -1 p 1966 Apr 3 2; 0 p 1983 Sep 25 1s; 0 E"]),
  ("Atlantic/South_Georgia", ["-2:26:8 - 1890; -2 -"]),
  ("Atlantic/Stanley", [
    "-3:51:24 - 1890; -3:51:24 - 1912 Mar 12; -4 FK 1983 May; -3 FK 1985 Sep 15",
    "-4 FK 2010 Sep 5 2; -3 -"]),
  ("Australia/Adelaide", ["9:14:20 - 1895 Feb; 9 - 1899 May; 9:30 AU 1971; 9:30 AS"]),
  ("Australia/Brisbane", ["10:12:8 - 1895; 10 AU 1971; 10 AQ"]),
  ("Australia/Broken_Hill", [
    "9:25:48 - 1895 Feb; 10 - 1896 Aug 23; 9 - 1899 May; 9:30 AU 1971; 9:30 AN 2000; 9:30 AS"]),
  ("Australia/Darwin", ["8:43:20 - 1895 Feb; 9 - 1899 May; 9:30 AU"]),
  ("Australia/Eucla", ["8:35:28 - 1895 Dec; 8:45 AU 1943 Jul; 8:45 AW"]),
  ("Australia/Hobart", ["9:49:16 - 1895 Sep; 10 AT 1919 Oct 24; 10 AU 1967; 10 AT"]),
  ("Australia/Lindeman", ["9:55:56 - 1895; 10 AU 1971; 10 AQ 1992 Jul; 10 Ho"]),
  ("Australia/Lord_Howe", ["10:36:20 - 1895 Feb; 10 - 1981 Mar; 10:30 LH 1985 Jul; 10:30 LH"]),
  ("Australia/Melbourne", ["9:39:52 - 1895 Feb; 10 AU 1971; 10 AV"]),
  ("Australia/Perth", ["7:43:24 - 1895 Dec; 8 AU 1943 Jul; 8 AW"]),
  ("Australia/Sydney", ["10:4:52 - 1895 Feb; 10 AU 1971; 10 AN"]),
  ("CET", ["1 c"]),
  ("CST6CDT", ["-6 u"]),
  ("EET", ["2 E"]),
  ("EST", ["-5 -"]),
  ("EST5EDT", ["-5 u"]),
  ("Etc/GMT", ["0 -"]),
  ("Etc/GMT+1", ["-1 -"]),
  ("Etc/GMT+10", ["-10 -"]),
  ("Etc/GMT+11", ["-11 -"]),
  ("Etc/GMT+12", ["-12 -"]),
  ("Etc/GMT+2", ["-2 -"]),
  ("Etc/GMT+3", ["-3 -"]),
  ("Etc/GMT+4", ["-4 -"]),
  ("Etc/GMT+5", ["-5 -"]),
  ("Etc/GMT+6", ["-6 -"]),
  ("Etc/GMT+7", ["-7 -"]),
  ("Etc/GMT+8", ["-8 -"]),
  ("Etc/GMT+9", ["-9 -"]),
  ("Etc/GMT-1", ["1 -"]),
  ("Etc/GMT-10", ["10 -"]),
  ("Etc/GMT-11", ["11 -"]),
  ("Etc/GMT-12", ["12 -"]),
  ("Etc/GMT-13", ["13 -"]),
  ("Etc/GMT-14", ["14 -"]),
  ("Etc/GMT-2", ["2 -"]),
  ("Etc/GMT-3", ["3 -"]),
  ("Etc/GMT-4", ["4 -"]),
  ("Etc/GMT-5", ["5 -"]),
  ("Etc/GMT-6", ["6 -"]),
  ("Etc/GMT-7", ["7 -"]),
  ("Etc/GMT-8", ["8 -"]),
  ("Etc/GMT-9", ["9 -"]),
  ("Etc/UTC", ["0 -"]),
  ("Europe/Andorra", ["0:6:4 - 1901; 0 - 1946 Sep 30; 1 - 1985 Mar 31 2; 1 E"]),
  ("Europe/Astrakhan", [
    "3:12:12 - 1924 May; 3 - 1930 Jun 21; 4 R 1989 Mar 26 2s; 3 R 1991 Mar 31 2s",
    "4 - 1992 Mar 29 2s; 3 R 2011 Mar 27 2s; 4 - 2014 Oct 26 2s; 3 - 2016 Mar 27 2s; 4 -"]),
  ("Europe/Athens", [
    "1:34:52 - 1895 Sep 14; 1:34:52 - 1916 Jul 28 0:1; 2 g 1941 Apr 30; 1 g 1944 Apr 4",
    "2 g 1981; 2 E"]),
  ("Europe/Belgrade", [
    "1:22 - 1884; 1 - 1941 Apr 18 23; 1 c 1945; 1 - 1945 May 8 2s; 1 1 1945 Sep 16 2s",
    "1 - 1982 Nov 27; 1 E"]),
  ("Europe/Berlin", ["0:53:28 - 1893 Apr; 1 c 1945 May 24 2; 1 So 1946; 1 DE 1980; 1 E"]),
  ("Europe/Brussels", [
    "0:17:30 - 1880; 0:17:30 - 1892 May 1 0:17:30; 0 - 1914 Nov 8; 1 - 1916 May",
    "1 c 1918 Nov 11 11u; 0 b 1940 May 20 2s; 1 c 1944 Sep 3; 1 b 1977; 1 E"]),
  ("Europe/Bucharest", [
    "1:44:24 - 1891 Oct; 1:44:24 - 1931 Jul 24; 2 z 1981 Mar 29 2s; 2 c 1991; 2 z 1994",
    "2 e 1997; 2 E"]),
  ("Europe/Budapest", [
    "1:16:20 - 1890 Nov; 1 c 1918; 1 h 1941 Apr 7 23; 1 c 1945; 1 h 1984; 1 E"]),
  ("Europe/Chisinau", [
    "1:55:20 - 1880; 1:55 - 1918 Feb 15; 1:44:24 - 1931 Jul 24; 2 z 1940 Aug 15",
    "2 1 1941 Jul 17; 1 c 1944 Aug 24; 3 R 1990 May 6 2; 2 R 1992; 2 e 1997; 2 MD"]),
  ("Europe/Dublin", [
    "-0:25:21 - 1880 Aug 2; -0:25:21 - 1916 May 21 2s; -0:25:21 1 1916 Oct 1 2s",
    "0 G 1921 Dec 6; 0 G 1940 Feb 25 2s; 0 1 1946 Oct 6 2s; 0 - 1947 Mar 16 2s",
    "0 1 1947 Nov 2 2s; 0 - 1948 Apr 18 2s; 0 G 1968 Oct 27; 1 - 1971 Oct 31 2u; 0 G 1996",
    "0 E"]),
  ("Europe/Gibraltar", ["-0:21:24 - 1880 Aug 2; 0 G 1957 Apr 14 2; 1 - 1982; 1 E"]),
  ("Europe/Helsinki", ["1:39:49 - 1878 May 31; 1:39:49 - 1921 May; 2 FI 1983; 2 E"]),
  ("Europe/Istanbul", [
    "1:55:52 - 1880; 1:56:56 - 1910 Oct; 2 T 1978 Jun 29; 3 T 1984 Nov 1 2; 2 T 2007",
    "2 E 2011 Mar 27 1u; 2 - 2011 Mar 28 1u; 2 E 2014 Mar 30 1u; 2 - 2014 Mar 31 1u",
    "2 E 2015 Oct 25 1u; 2 1 2015 Nov 8 1u; 2 E 2016 Sep 7; 3 -"]),
  ("Europe/Kaliningrad", [
    "1:22 - 1893 Apr; 1 c 1945 Apr 10; 2 O 1946 Apr 7; 3 R 1989 Mar 26 2s; 2 R 2011 Mar 27 2s",
    "3 - 2014 Oct 26 2s; 2 -"]),
  ("Europe/Kirov", [
    "3:18:48 - 1919 Jul 1 0u; 3 - 1930 Jun 21; 4 R 1989 Mar 26 2s; 3 R 1991 Mar 31 2s",
    "4 - 1992 Mar 29 2s; 3 R 2011 Mar 27 2s; 4 - 2014 Oct 26 2s; 3 -"]),
  ("Europe/Kyiv", [
    "2:2:4 - 1880; 2:2:4 - 1924 May 2; 2 - 1930 Jun 21; 3 - 1941 Sep 20; 1 c 1943 Nov 6",
    "3 R 1990 Jul 1 2; 2 1 1991 Sep 29 3; 2 c 1996 May 13; 2 E"]),
  ("Europe/Lisbon", [
    "-0:36:45 - 1912 Jan 1 0u; 0 p 1966 Apr 3 2; 1 - 1976 Sep 26 1; 0 p 1983 Sep 25 1s",
    "0 W- 1992 Sep 27 1s; 1 E 1996 Mar 31 1u; 0 E"]),
  ("Europe/London", ["-0:1:15 - 1847 Dec; 0 G 1968 Oct 27; 1 - 1971 Oct 31 2u; 0 G 1996; 0 E"]),
  ("Europe/Madrid", ["-0:14:44 - 1901 Jan 1 0u; 0 s 1940 Mar 16 23; 1 s 1979; 1 E"]),
  ("Europe/Malta", ["0:58:4 - 1893 Nov 2; 1 I 1973 Mar 31; 1 MT 1981; 1 E"]),
  ("Europe/Minsk", [
    "1:50:16 - 1880; 1:50 - 1924 May 2; 2 - 1930 Jun 21; 3 - 1941 Jun 28; 1 c 1944 Jul 3",
    "3 R 1990; 3 - 1991 Mar 31 2s; 2 R 2011 Mar 27 2s; 3 -"]),
  ("Europe/Moscow", [
    "2:30:17 - 1880; 2:30:17 - 1916 Jul 3; 2:31:19 R 1919 Jul 1 0u; 3 R 1921 Oct",
    "3 R 1922 Oct; 2 - 1930 Jun 21; 3 R 1991 Mar 31 2s; 2 R 1992 Jan 19 2s",
    "3 R 2011 Mar 27 2s; 4 - 2014 Oct 26 2s; 3 -"]),
  ("Europe/Paris", [
    "0:9:21 - 1891 Mar 16; 0:9:21 - 1911 Mar 11; 0 F 1940 Jun 14 23; 1 c 1944 Aug 25",
    "0 F 1945 Sep 16 3; 1 F 1977; 1 E"]),
  ("Europe/Prague", [
    "0:57:44 - 1850; 0:57:44 - 1891 Oct; 1 c 1945 May 9; 1 CZ 1946 Dec 1 3; 0 - 1947 Feb 23 2",
    "1 CZ 1979; 1 E"]),
  ("Europe/Riga", [
    "1:36:34 - 1880; 1:36:34 - 1918 Apr 15 2; 1:36:34 1 1918 Sep 16 3; 1:36:34 - 1919 Apr 1 2",
    "1:36:34 1 1919 May 22 3; 1:36:34 - 1926 May 11; 2 - 1940 Aug 5; 3 - 1941 Jul",
    "1 c 1944 Oct 13; 3 R 1989 Mar lastSun 2s; 2 1 1989 Sep lastSun 2s; 2 LV 1997 Jan 21",
    "2 E 2000 Feb 29; 2 - 2001 Jan 2; 2 E"]),
  ("Europe/Rome", [
    "0:49:56 - 1866 Dec 12; 0:49:56 - 1893 Oct 31 23u; 1 I 1943 Sep 10; 1 c 1944 Jun 4",
    "1 I 1980; 1 E"]),
  ("Europe/Samara", [
    "3:20:20 - 1919 Jul 1 0u; 3 - 1930 Jun 21; 4 - 1935 Jan 27; 4 R 1989 Mar 26 2s",
    "3 R 1991 Mar 31 2s; 2 R 1991 Sep 29 2s; 3 - 1991 Oct 20 3; 4 R 2010 Mar 28 2s",
    "3 R 2011 Mar 27 2s; 4 -"]),
  ("Europe/Saratov", [
    "3:4:18 - 1919 Jul 1 0u; 3 - 1930 Jun 21; 4 R 1988 Mar 27 2s; 3 R 1991 Mar 31 2s",
    "4 - 1992 Mar 29 2s; 3 R 2011 Mar 27 2s; 4 - 2014 Oct 26 2s; 3 - 2016 Dec 4 2s; 4 -"]),
  ("Europe/Simferopol", [
    "2:16:24 - 1880; 2:16 - 1924 May 2; 2 - 1930 Jun 21; 3 - 1941 Nov; 1 c 1944 Apr 13",
    "3 R 1990; 3 - 1990 Jul 1 2; 2 - 1992 Mar 20; 2 c 1994 May; 3 c 1996 Mar 31 0s",
    "3 1 1996 Oct 27 3s; 3 - 1997 Mar lastSun 1u; 2 E 2014 Mar 30 2; 4 - 2014 Oct 26 2s; 3 -"]),
  ("Europe/Sofia", [
    "1:33:16 - 1880; 1:56:56 - 1894 Nov 30; 2 - 1942 Nov 2 3; 1 c 1945; 1 - 1945 Apr 2 3",
    "2 - 1979 Mar 31 23; 2 BG 1982 Sep 26 3; 2 c 1991; 2 e 1997; 2 E"]),
  ("Europe/Tallinn", [
    "1:39 - 1880; 1:39 - 1918 Feb; 1 c 1919 Jul; 1:39 - 1921 May; 2 - 1940 Aug 6",
    "3 - 1941 Sep 15; 1 c 1944 Sep 22; 3 R 1989 Mar 26 2s; 2 1 1989 Sep 24 2s",
    "2 c 1998 Sep 22; 2 E 1999 Oct 31 4; 2 - 2002 Feb 21; 2 E"]),
  ("Europe/Tirane", ["1:19:20 - 1914; 1 - 1940 Jun 16; 1 q 1984 Jul; 1 E"]),
  ("Europe/Ulyanovsk", [
    "3:13:36 - 1919 Jul 1 0u; 3 - 1930 Jun 21; 4 R 1989 Mar 26 2s; 3 R 1991 Mar 31 2s",
    "2 R 1992 Jan 19 2s; 3 R 2011 Mar 27 2s; 4 - 2014 Oct 26 2s; 3 - 2016 Mar 27 2s; 4 -"]),
  ("Europe/Vienna", [
    "1:5:21 - 1893 Apr; 1 c 1920; 1 a 1940 Apr 1 2s; 1 c 1945 Apr 2 2s; 1 1 1945 Apr 12 2s",
    "1 - 1946; 1 a 1981; 1 E"]),
  ("Europe/Vilnius", [
    "1:41:16 - 1880; 1:24 - 1917; 1:35:36 - 1919 Oct 10; 1 - 1920 Jul 12; 2 - 1920 Oct 9",
    "1 - 1940 Aug 3; 3 - 1941 Jun 24; 1 c 1944 Aug; 3 R 1989 Mar 26 2s; 2 R 1991 Sep 29 2s",
    "2 c 1998; 2 - 1998 Mar 29 1u; 1 E 1999 Oct 31 1u; 2 - 2003; 2 E"]),
  ("Europe/Volgograd", [
    "2:57:40 - 1920 Jan 3; 3 - 1930 Jun 21; 4 - 1961 Nov 11; 4 R 1988 Mar 27 2s",
    "3 R 1991 Mar 31 2s; 4 - 1992 Mar 29 2s; 3 R 2011 Mar 27 2s; 4 - 2014 Oct 26 2s",
    "3 - 2018 Oct 28 2s; 4 - 2020 Dec 27 2s; 3 -"]),
  ("Europe/Warsaw", [
    "1:24 - 1880; 1:24 - 1915 Aug 5; 1 c 1918 Sep 16 3; 2 O 1922 Jun; 1 O 1940 Jun 23 2",
    "1 c 1944 Oct; 1 O 1977; 1 W- 1988; 1 E"]),
  ("Europe/Zurich", ["0:34:8 - 1853 Jul 16; 0:29:46 - 1894 Jun; 1 CH 1981; 1 E"]),
  ("HST", ["-10 -"]),
  ("Indian/Chagos", ["4:49:40 - 1907; 5 - 1996; 6 -"]),
  ("Indian/Maldives", ["4:54 - 1880; 4:54 - 1960; 5 -"]),
  ("Indian/Mauritius", ["3:50 - 1907; 4 MU"]),
  ("MET", ["1 c"]),
  ("MST", ["-7 -"]),
  ("MST7MDT", ["-7 u"]),
  ("PST8PDT", ["-8 u"]),
  ("Pacific/Apia", [
    "12:33:4 - 1892 Jul 5; -11:26:56 - 1911; -11:30 - 1950; -11 WS 2011 Dec 29 24; 13 WS"]),
  ("Pacific/Auckland", ["11:39:4 - 1868 Nov 2; 11:30 NZ 1946; 12 NZ"]),
  ("Pacific/Bougainville", [
    "10:22:16 - 1880; 9:48:32 - 1895; 10 - 1942 Jul; 9 - 1945 Aug 21; 10 - 2014 Dec 28 2",
    "11 -"]),
  ("Pacific/Chatham", ["12:13:48 - 1868 Nov 2; 12:15 - 1946; 12:45 k"]),
  ("Pacific/Easter", ["-7:17:28 - 1890; -7:17:28 - 1932 Sep; -7 x 1982 Mar 14 3u; -6 x"]),
  ("Pacific/Efate", ["11:13:16 - 1912 Jan 13; 11 VU"]),
  ("Pacific/Fakaofo", ["-11:24:56 - 1901; -11 - 2011 Dec 30; 13 -"]),
  ("Pacific/Fiji", ["11:55:44 - 1915 Oct 26; 12 FJ"]),
  ("Pacific/Galapagos", ["-5:58:24 - 1931; -5 - 1986; -6 EC"]),
  ("Pacific/Gambier", ["-8:59:48 - 1912 Oct; -9 -"]),
  ("Pacific/Guadalcanal", ["10:39:48 - 1912 Oct; 11 -"]),
  ("Pacific/Guam", [
    "-14:21 - 1844 Dec 31; 9:39 - 1901; 10 - 1941 Dec 10; 9 - 1944 Jul 31; 10 Gu 2000 Dec 23",
    "10 -"]),
  ("Pacific/Honolulu", [
    "-10:31:26 - 1896 Jan 13 12; -10:30 - 1933 Apr 30 2; -10:30 1 1933 May 21 12",
    "-10:30 u 1947 Jun 8 2; -10 -"]),
  ("Pacific/Kanton", ["0 - 1937 Aug 31; -12 - 1979 Oct; -11 - 1994 Dec 31; 13 -"]),
  ("Pacific/Kiritimati", ["-10:29:20 - 1901; -10:40 - 1979 Oct; -10 - 1994 Dec 31; 14 -"]),
  ("Pacific/Kosrae", [
    "-13:8:4 - 1844 Dec 31; 10:51:56 - 1901; 11 - 1914 Oct; 9 - 1919 Feb; 11 - 1937",
    "10 - 1941 Apr; 9 - 1945 Aug; 11 - 1969 Oct; 12 - 1999; 11 -"]),
  ("Pacific/Kwajalein", [
    "11:9:20 - 1901; 11 - 1937; 10 - 1941 Apr; 9 - 1944 Feb 6; 11 - 1969 Oct",
    "-12 - 1993 Aug 20 24; 12 -"]),
  ("Pacific/Marquesas", ["-9:18 - 1912 Oct; -9:30 -"]),
  ("Pacific/Nauru", [
    "11:7:40 - 1921 Jan 15; 11:30 - 1942 Aug 29; 9 - 1945 Sep 8; 11:30 - 1979 Feb 10 2; 12 -"]),
  ("Pacific/Niue", ["-11:19:40 - 1952 Oct 16; -11:20 - 1964 Jul; -11 -"]),
  ("Pacific/Norfolk", [
    "11:11:52 - 1901; 11:12 - 1951; 11:30 - 1974 Oct 27 2s; 11:30 1 1975 Mar 2 2s",
    "11:30 - 2015 Oct 4 2s; 11 - 2019 Jul; 11 AN"]),
  ("Pacific/Noumea", ["11:5:48 - 1912 Jan 13; 11 NC"]),
  ("Pacific/Pago_Pago", ["12:37:12 - 1892 Jul 5; -11:22:48 - 1911; -11 -"]),
  ("Pacific/Palau", ["-15:2:4 - 1844 Dec 31; 8:57:56 - 1901; 9 -"]),
  ("Pacific/Pitcairn", ["-8:40:20 - 1901; -8:30 - 1998 Apr 27; -8 -"]),
  ("Pacific/Port_Moresby", ["9:48:40 - 1880; 9:48:32 - 1895; 10 -"]),
  ("Pacific/Rarotonga", [
    "13:20:56 - 1899 Dec 26; -10:39:4 - 1952 Oct 16; -10:30 - 1978 Nov 12; -10 CK"]),
  ("Pacific/Tahiti", ["-9:58:16 - 1912 Oct; -10 -"]),
  ("Pacific/Tarawa", ["11:32:4 - 1901; 12 -"]),
  ("Pacific/Tongatapu", ["12:19:12 - 1945 Sep 10; 12:20 - 1961; 13 - 1999; 13 TO"]),
  ("WET", ["0 E"])]

/-!
## Zone aliases

Names that stand for another zone of the IANA time zone database, release 2024a.
-/

/-- Each alias with the zone that it stands for. -/
def zoneAliases : List (String × String) := [
  ("Africa/Accra", "Africa/Abidjan"), ("Africa/Addis_Ababa", "Africa/Nairobi"),
  ("Africa/Asmara", "Africa/Nairobi"), ("Africa/Asmera", "Africa/Nairobi"),
  ("Africa/Bamako", "Africa/Abidjan"), ("Africa/Bangui", "Africa/Lagos"),
  ("Africa/Banjul", "Africa/Abidjan"), ("Africa/Blantyre", "Africa/Maputo"),
  ("Africa/Brazzaville", "Africa/Lagos"), ("Africa/Bujumbura", "Africa/Maputo"),
  ("Africa/Conakry", "Africa/Abidjan"), ("Africa/Dakar", "Africa/Abidjan"),
  ("Africa/Dar_es_Salaam", "Africa/Nairobi"), ("Africa/Djibouti", "Africa/Nairobi"),
  ("Africa/Douala", "Africa/Lagos"), ("Africa/Freetown", "Africa/Abidjan"),
  ("Africa/Gaborone", "Africa/Maputo"), ("Africa/Harare", "Africa/Maputo"),
  ("Africa/Kampala", "Africa/Nairobi"), ("Africa/Kigali", "Africa/Maputo"),
  ("Africa/Kinshasa", "Africa/Lagos"), ("Africa/Libreville", "Africa/Lagos"),
  ("Africa/Lome", "Africa/Abidjan"), ("Africa/Luanda", "Africa/Lagos"),
  ("Africa/Lubumbashi", "Africa/Maputo"), ("Africa/Lusaka", "Africa/Maputo"),
  ("Africa/Malabo", "Africa/Lagos"), ("Africa/Maseru", "Africa/Johannesburg"),
  ("Africa/Mbabane", "Africa/Johannesburg"), ("Africa/Mogadishu", "Africa/Nairobi"),
  ("Africa/Niamey", "Africa/Lagos"), ("Africa/Nouakchott", "Africa/Abidjan"),
  ("Africa/Ouagadougou", "Africa/Abidjan"), ("Africa/Porto-Novo", "Africa/Lagos"),
  ("Africa/Timbuktu", "Africa/Abidjan"), ("America/Anguilla", "America/Puerto_Rico"),
  ("America/Antigua", "America/Puerto_Rico"),
  ("America/Argentina/ComodRivadavia", "America/Argentina/Catamarca"),
  ("America/Aruba", "America/Puerto_Rico"), ("America/Atikokan", "America/Panama"),
  ("America/Atka", "America/Adak"), ("America/Blanc-Sablon", "America/Puerto_Rico"),
  ("America/Buenos_Aires", "America/Argentina/Buenos_Aires"),
  ("America/Catamarca", "America/Argentina/Catamarca"), ("America/Cayman", "America/Panama"),
  ("America/Coral_Harbour", "America/Panama"), ("America/Cordoba", "America/Argentina/Cordoba"),
  ("America/Creston", "America/Phoenix"), ("America/Curacao", "America/Puerto_Rico"),
  ("America/Dominica", "America/Puerto_Rico"), ("America/Ensenada", "America/Tijuana"),
  ("America/Fort_Wayne", "America/Indiana/Indianapolis"), ("America/Godthab", "America/Nuuk"),
  ("America/Grenada", "America/Puerto_Rico"), ("America/Guadeloupe", "America/Puerto_Rico"),
  ("America/Indianapolis", "America/Indiana/Indianapolis"),
  ("America/Jujuy", "America/Argentina/Jujuy"), ("America/Knox_IN", "America/Indiana/Knox"),
  ("America/Kralendijk", "America/Puerto_Rico"),
  ("America/Louisville", "America/Kentucky/Louisville"),
  ("America/Lower_Princes", "America/Puerto_Rico"), ("America/Marigot", "America/Puerto_Rico"),
  ("America/Mendoza", "America/Argentina/Mendoza"), ("America/Montreal", "America/Toronto"),
  ("America/Montserrat", "America/Puerto_Rico"), ("America/Nassau", "America/Toronto"),
  ("America/Nipigon", "America/Toronto"), ("America/Pangnirtung", "America/Iqaluit"),
  ("America/Port_of_Spain", "America/Puerto_Rico"), ("America/Porto_Acre", "America/Rio_Branco"),
  ("America/Rainy_River", "America/Winnipeg"), ("America/Rosario", "America/Argentina/Cordoba"),
  ("America/Santa_Isabel", "America/Tijuana"), ("America/Shiprock", "America/Denver"),
  ("America/St_Barthelemy", "America/Puerto_Rico"), ("America/St_Kitts", "America/Puerto_Rico"),
  ("America/St_Lucia", "America/Puerto_Rico"), ("America/St_Thomas", "America/Puerto_Rico"),
  ("America/St_Vincent", "America/Puerto_Rico"), ("America/Thunder_Bay", "America/Toronto"),
  ("America/Tortola", "America/Puerto_Rico"), ("America/Virgin", "America/Puerto_Rico"),
  ("America/Yellowknife", "America/Edmonton"),
  ("Antarctica/DumontDUrville", "Pacific/Port_Moresby"),
  ("Antarctica/McMurdo", "Pacific/Auckland"), ("Antarctica/South_Pole", "Pacific/Auckland"),
  ("Antarctica/Syowa", "Asia/Riyadh"), ("Arctic/Longyearbyen", "Europe/Berlin"),
  ("Asia/Aden", "Asia/Riyadh"), ("Asia/Ashkhabad", "Asia/Ashgabat"),
  ("Asia/Bahrain", "Asia/Qatar"), ("Asia/Brunei", "Asia/Kuching"),
  ("Asia/Calcutta", "Asia/Kolkata"), ("Asia/Chongqing", "Asia/Shanghai"),
  ("Asia/Chungking", "Asia/Shanghai"), ("Asia/Dacca", "Asia/Dhaka"),
  ("Asia/Harbin", "Asia/Shanghai"), ("Asia/Istanbul", "Europe/Istanbul"),
  ("Asia/Kashgar", "Asia/Urumqi"), ("Asia/Katmandu", "Asia/Kathmandu"),
  ("Asia/Kuala_Lumpur", "Asia/Singapore"), ("Asia/Kuwait", "Asia/Riyadh"),
  ("Asia/Macao", "Asia/Macau"), ("Asia/Muscat", "Asia/Dubai"),
  ("Asia/Phnom_Penh", "Asia/Bangkok"), ("Asia/Rangoon", "Asia/Yangon"),
  ("Asia/Saigon", "Asia/Ho_Chi_Minh"), ("Asia/Tel_Aviv", "Asia/Jerusalem"),
  ("Asia/Thimbu", "Asia/Thimphu"), ("Asia/Ujung_Pandang", "Asia/Makassar"),
  ("Asia/Ulan_Bator", "Asia/Ulaanbaatar"), ("Asia/Vientiane", "Asia/Bangkok"),
  ("Atlantic/Faeroe", "Atlantic/Faroe"), ("Atlantic/Jan_Mayen", "Europe/Berlin"),
  ("Atlantic/Reykjavik", "Africa/Abidjan"), ("Atlantic/St_Helena", "Africa/Abidjan"),
  ("Australia/ACT", "Australia/Sydney"), ("Australia/Canberra", "Australia/Sydney"),
  ("Australia/Currie", "Australia/Hobart"), ("Australia/LHI", "Australia/Lord_Howe"),
  ("Australia/NSW", "Australia/Sydney"), ("Australia/North", "Australia/Darwin"),
  ("Australia/Queensland", "Australia/Brisbane"), ("Australia/South", "Australia/Adelaide"),
  ("Australia/Tasmania", "Australia/Hobart"), ("Australia/Victoria", "Australia/Melbourne"),
  ("Australia/West", "Australia/Perth"), ("Australia/Yancowinna", "Australia/Broken_Hill"),
  ("Brazil/Acre", "America/Rio_Branco"), ("Brazil/DeNoronha", "America/Noronha"),
  ("Brazil/East", "America/Sao_Paulo"), ("Brazil/West", "America/Manaus"),
  ("Canada/Atlantic", "America/Halifax"), ("Canada/Central", "America/Winnipeg"),
  ("Canada/Eastern", "America/Toronto"), ("Canada/Mountain", "America/Edmonton"),
  ("Canada/Newfoundland", "America/St_Johns"), ("Canada/Pacific", "America/Vancouver"),
  ("Canada/Saskatchewan", "America/Regina"), ("Canada/Yukon", "America/Whitehorse"),
  ("Chile/Continental", "America/Santiago"), ("Chile/EasterIsland", "Pacific/Easter"),
  ("Cuba", "America/Havana"), ("Egypt", "Africa/Cairo"), ("Eire", "Europe/Dublin"),
  ("Etc/GMT+0", "Etc/GMT"), ("Etc/GMT-0", "Etc/GMT"), ("Etc/GMT0", "Etc/GMT"),
  ("Etc/Greenwich", "Etc/GMT"), ("Etc/UCT", "Etc/UTC"), ("Etc/Universal", "Etc/UTC"),
  ("Etc/Zulu", "Etc/UTC"), ("Europe/Amsterdam", "Europe/Brussels"),
  ("Europe/Belfast", "Europe/London"), ("Europe/Bratislava", "Europe/Prague"),
  ("Europe/Busingen", "Europe/Zurich"), ("Europe/Copenhagen", "Europe/Berlin"),
  ("Europe/Guernsey", "Europe/London"), ("Europe/Isle_of_Man", "Europe/London"),
  ("Europe/Jersey", "Europe/London"), ("Europe/Kiev", "Europe/Kyiv"),
  ("Europe/Ljubljana", "Europe/Belgrade"), ("Europe/Luxembourg", "Europe/Brussels"),
  ("Europe/Mariehamn", "Europe/Helsinki"), ("Europe/Monaco", "Europe/Paris"),
  ("Europe/Nicosia", "Asia/Nicosia"), ("Europe/Oslo", "Europe/Berlin"),
  ("Europe/Podgorica", "Europe/Belgrade"), ("Europe/San_Marino", "Europe/Rome"),
  ("Europe/Sarajevo", "Europe/Belgrade"), ("Europe/Skopje", "Europe/Belgrade"),
  ("Europe/Stockholm", "Europe/Berlin"), ("Europe/Tiraspol", "Europe/Chisinau"),
  ("Europe/Uzhgorod", "Europe/Kyiv"), ("Europe/Vaduz", "Europe/Zurich"),
  ("Europe/Vatican", "Europe/Rome"), ("Europe/Zagreb", "Europe/Belgrade"),
  ("Europe/Zaporozhye", "Europe/Kyiv"), ("GB", "Europe/London"), ("GB-Eire", "Europe/London"),
  ("GMT", "Etc/GMT"), ("GMT+0", "Etc/GMT"), ("GMT-0", "Etc/GMT"), ("GMT0", "Etc/GMT"),
  ("Greenwich", "Etc/GMT"), ("Hongkong", "Asia/Hong_Kong"), ("Iceland", "Africa/Abidjan"),
  ("Indian/Antananarivo", "Africa/Nairobi"), ("Indian/Christmas", "Asia/Bangkok"),
  ("Indian/Cocos", "Asia/Yangon"), ("Indian/Comoro", "Africa/Nairobi"),
  ("Indian/Kerguelen", "Indian/Maldives"), ("Indian/Mahe", "Asia/Dubai"),
  ("Indian/Mayotte", "Africa/Nairobi"), ("Indian/Reunion", "Asia/Dubai"), ("Iran", "Asia/Tehran"),
  ("Israel", "Asia/Jerusalem"), ("Jamaica", "America/Jamaica"), ("Japan", "Asia/Tokyo"),
  ("Kwajalein", "Pacific/Kwajalein"), ("Libya", "Africa/Tripoli"),
  ("Mexico/BajaNorte", "America/Tijuana"), ("Mexico/BajaSur", "America/Mazatlan"),
  ("Mexico/General", "America/Mexico_City"), ("NZ", "Pacific/Auckland"),
  ("NZ-CHAT", "Pacific/Chatham"), ("Navajo", "America/Denver"), ("PRC", "Asia/Shanghai"),
  ("Pacific/Chuuk", "Pacific/Port_Moresby"), ("Pacific/Enderbury", "Pacific/Kanton"),
  ("Pacific/Funafuti", "Pacific/Tarawa"), ("Pacific/Johnston", "Pacific/Honolulu"),
  ("Pacific/Majuro", "Pacific/Tarawa"), ("Pacific/Midway", "Pacific/Pago_Pago"),
  ("Pacific/Pohnpei", "Pacific/Guadalcanal"), ("Pacific/Ponape", "Pacific/Guadalcanal"),
  ("Pacific/Saipan", "Pacific/Guam"), ("Pacific/Samoa", "Pacific/Pago_Pago"),
  ("Pacific/Truk", "Pacific/Port_Moresby"), ("Pacific/Wake", "Pacific/Tarawa"),
  ("Pacific/Wallis", "Pacific/Tarawa"), ("Pacific/Yap", "Pacific/Port_Moresby"),
  ("Poland", "Europe/Warsaw"), ("Portugal", "Europe/Lisbon"), ("ROC", "Asia/Taipei"),
  ("ROK", "Asia/Seoul"), ("Singapore", "Asia/Singapore"), ("Turkey", "Europe/Istanbul"),
  ("UCT", "Etc/UTC"), ("US/Alaska", "America/Anchorage"), ("US/Aleutian", "America/Adak"),
  ("US/Arizona", "America/Phoenix"), ("US/Central", "America/Chicago"),
  ("US/East-Indiana", "America/Indiana/Indianapolis"), ("US/Eastern", "America/New_York"),
  ("US/Hawaii", "Pacific/Honolulu"), ("US/Indiana-Starke", "America/Indiana/Knox"),
  ("US/Michigan", "America/Detroit"), ("US/Mountain", "America/Denver"),
  ("US/Pacific", "America/Los_Angeles"), ("US/Samoa", "Pacific/Pago_Pago"), ("UTC", "Etc/UTC"),
  ("Universal", "Etc/UTC"), ("W-SU", "Europe/Moscow"), ("Zulu", "Etc/UTC")]

end TableQuery
