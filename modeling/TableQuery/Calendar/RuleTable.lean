/-!
# Saving rules

The recurring rules by which zones save daylight, under short names. A rule is written as first
year, last year, month, day, time of day and saving; `s` and `u` after a time mean standard and
universal time.
-/

namespace TableQuery

/-- All named sets of saving rules. -/
def ruleTable : List (String × List String) := [
  ("A", [
    "1930 1930 Dec 1 0 1; 1931 1931 Apr 1 0 0; 1931 1931 Oct 15 0 1; 1932 1940 Mar 1 0 0",
    "1932 1939 Nov 1 0 1; 1940 1940 Jul 1 0 1; 1941 1941 Jun 15 0 0; 1941 1941 Oct 15 0 1",
    "1943 1943 Aug 1 0 0; 1943 1943 Oct 15 0 1; 1946 1946 Mar 1 0 0; 1946 1946 Oct 1 0 1",
    "1963 1963 Oct 1 0 0; 1963 1963 Dec 15 0 1; 1964 1966 Mar 1 0 0; 1964 1966 Oct 15 0 1",
    "1967 1967 Apr 2 0 0; 1967 1968 Oct Sun>=1 0 1; 1968 1969 Apr Sun>=1 0 0",
    "1974 1974 Jan 23 0 1; 1974 1974 May 1 0 0; 1988 1988 Dec 1 0 1; 1989 1993 Mar Sun>=1 0 0",
    "1989 1992 Oct Sun>=15 0 1; 1999 1999 Oct Sun>=1 0 1; 2000 2000 Mar 3 0 0",
    "2007 2007 Dec 30 0 1; 2008 2009 Mar Sun>=15 0 0; 2008 2008 Oct Sun>=15 0 1"]),
  ("AM", ["2011 2011 Mar lastSun 2s 1; 2011 2011 Oct lastSun 2s 0"]),
  ("AN", [
    "1971 1985 Oct lastSun 2s 1; 1972 1972 Feb 27 2s 0; 1973 1981 Mar Sun>=1 2s 0",
    "1982 1982 Apr Sun>=1 2s 0; 1983 1985 Mar Sun>=1 2s 0; 1986 1989 Mar Sun>=15 2s 0",
    "1986 1986 Oct 19 2s 1; 1987 1999 Oct lastSun 2s 1; 1990 1995 Mar Sun>=1 2s 0",
    "1996 2005 Mar lastSun 2s 0; 2000 2000 Aug lastSun 2s 1; 2001 2007 Oct lastSun 2s 1",
    "2006 2006 Apr Sun>=1 2s 0; 2007 2007 Mar lastSun 2s 0; 2008 max Apr Sun>=1 2s 0",
    "2008 max Oct Sun>=1 2s 1"]),
  ("AQ", [
    "1971 1971 Oct lastSun 2s 1; 1972 1972 Feb lastSun 2s 0; 1989 1991 Oct lastSun 2s 1",
    "1990 1992 Mar Sun>=1 2s 0"]),
  ("AS", [
    "1971 1985 Oct lastSun 2s 1; 1986 1986 Oct 19 2s 1; 1987 2007 Oct lastSun 2s 1",
    "1972 1972 Feb 27 2s 0; 1973 1985 Mar Sun>=1 2s 0; 1986 1990 Mar Sun>=15 2s 0",
    "1991 1991 Mar 3 2s 0; 1992 1992 Mar 22 2s 0; 1993 1993 Mar 7 2s 0; 1994 1994 Mar 20 2s 0",
    "1995 2005 Mar lastSun 2s 0; 2006 2006 Apr 2 2s 0; 2007 2007 Mar lastSun 2s 0",
    "2008 max Apr Sun>=1 2s 0; 2008 max Oct Sun>=1 2s 1"]),
  ("AT", [
    "1916 1916 Oct Sun>=1 2s 1; 1917 1917 Mar lastSun 2s 0; 1917 1918 Oct Sun>=22 2s 1",
    "1918 1919 Mar Sun>=1 2s 0; 1967 1967 Oct Sun>=1 2s 1; 1968 1968 Mar Sun>=29 2s 0",
    "1968 1985 Oct lastSun 2s 1; 1969 1971 Mar Sun>=8 2s 0; 1972 1972 Feb lastSun 2s 0",
    "1973 1981 Mar Sun>=1 2s 0; 1982 1983 Mar lastSun 2s 0; 1984 1986 Mar Sun>=1 2s 0",
    "1986 1986 Oct Sun>=15 2s 1; 1987 1990 Mar Sun>=15 2s 0; 1987 1987 Oct Sun>=22 2s 1",
    "1988 1990 Oct lastSun 2s 1; 1991 1999 Oct Sun>=1 2s 1; 1991 2005 Mar lastSun 2s 0",
    "2000 2000 Aug lastSun 2s 1; 2001 max Oct Sun>=1 2s 1; 2006 2006 Apr Sun>=1 2s 0",
    "2007 2007 Mar lastSun 2s 0; 2008 max Apr Sun>=1 2s 0"]),
  ("AU", [
    "1917 1917 Jan 1 2s 1; 1917 1917 Mar lastSun 2s 0; 1942 1942 Jan 1 2s 1",
    "1942 1942 Mar lastSun 2s 0; 1942 1942 Sep 27 2s 1; 1943 1944 Mar lastSun 2s 0",
    "1943 1943 Oct 3 2s 1"]),
  ("AV", [
    "1971 1985 Oct lastSun 2s 1; 1972 1972 Feb lastSun 2s 0; 1973 1985 Mar Sun>=1 2s 0",
    "1986 1990 Mar Sun>=15 2s 0; 1986 1987 Oct Sun>=15 2s 1; 1988 1999 Oct lastSun 2s 1",
    "1991 1994 Mar Sun>=1 2s 0; 1995 2005 Mar lastSun 2s 0; 2000 2000 Aug lastSun 2s 1",
    "2001 2007 Oct lastSun 2s 1; 2006 2006 Apr Sun>=1 2s 0; 2007 2007 Mar lastSun 2s 0",
    "2008 max Apr Sun>=1 2s 0; 2008 max Oct Sun>=1 2s 1"]),
  ("AW", [
    "1974 1974 Oct lastSun 2s 1; 1975 1975 Mar Sun>=1 2s 0; 1983 1983 Oct lastSun 2s 1",
    "1984 1984 Mar Sun>=1 2s 0; 1991 1991 Nov 17 2s 1; 1992 1992 Mar Sun>=1 2s 0",
    "2006 2006 Dec 3 2s 1; 2007 2009 Mar lastSun 2s 0; 2007 2008 Oct lastSun 2s 1"]),
  ("AZ", ["1997 2015 Mar lastSun 4 1; 1997 2015 Oct lastSun 5 0"]),
  ("B", [
    "1931 1931 Oct 3 11 1; 1932 1933 Apr 1 0 0; 1932 1932 Oct 3 0 1; 1949 1952 Dec 1 0 1",
    "1950 1950 Apr 16 1 0; 1951 1952 Apr 1 0 0; 1953 1953 Mar 1 0 0; 1963 1963 Dec 9 0 1",
    "1964 1964 Mar 1 0 0; 1965 1965 Jan 31 0 1; 1965 1965 Mar 31 0 0; 1965 1965 Dec 1 0 1",
    "1966 1968 Mar 1 0 0; 1966 1967 Nov 1 0 1; 1985 1985 Nov 2 0 1; 1986 1986 Mar 15 0 0",
    "1986 1986 Oct 25 0 1; 1987 1987 Feb 14 0 0; 1987 1987 Oct 25 0 1; 1988 1988 Feb 7 0 0",
    "1988 1988 Oct 16 0 1; 1989 1989 Jan 29 0 0; 1989 1989 Oct 15 0 1; 1990 1990 Feb 11 0 0",
    "1990 1990 Oct 21 0 1; 1991 1991 Feb 17 0 0; 1991 1991 Oct 20 0 1; 1992 1992 Feb 9 0 0",
    "1992 1992 Oct 25 0 1; 1993 1993 Jan 31 0 0; 1993 1995 Oct Sun>=11 0 1",
    "1994 1995 Feb Sun>=15 0 0; 1996 1996 Feb 11 0 0; 1996 1996 Oct 6 0 1",
    "1997 1997 Feb 16 0 0; 1997 1997 Oct 6 0 1; 1998 1998 Mar 1 0 0; 1998 1998 Oct 11 0 1",
    "1999 1999 Feb 21 0 0; 1999 1999 Oct 3 0 1; 2000 2000 Feb 27 0 0",
    "2000 2001 Oct Sun>=8 0 1; 2001 2006 Feb Sun>=15 0 0; 2002 2002 Nov 3 0 1",
    "2003 2003 Oct 19 0 1; 2004 2004 Nov 2 0 1; 2005 2005 Oct 16 0 1; 2006 2006 Nov 5 0 1",
    "2007 2007 Feb 25 0 0; 2007 2007 Oct Sun>=8 0 1; 2008 2017 Oct Sun>=15 0 1",
    "2008 2011 Feb Sun>=15 0 0; 2012 2012 Feb Sun>=22 0 0; 2013 2014 Feb Sun>=15 0 0",
    "2015 2015 Feb Sun>=22 0 0; 2016 2019 Feb Sun>=15 0 0; 2018 2018 Nov Sun>=1 0 1"]),
  ("BB", [
    "1942 1942 Apr 19 5u 1; 1942 1942 Aug 31 6u 0; 1943 1943 May 2 5u 1; 1943 1943 Sep 5 6u 0",
    "1944 1944 Apr 10 5u 0:30; 1944 1944 Sep 10 6u 0; 1977 1977 Jun 12 2 1",
    "1977 1978 Oct Sun>=1 2 0; 1978 1980 Apr Sun>=15 2 1; 1979 1979 Sep 30 2 0",
    "1980 1980 Sep 25 2 0"]),
  ("BD", ["2009 2009 Jun 19 23 1; 2009 2009 Dec 31 24 0"]),
  ("BG", [
    "1979 1979 Mar 31 23 1; 1979 1979 Oct 1 1 0; 1980 1982 Apr Sat>=1 23 1",
    "1980 1980 Sep 29 1 0; 1981 1981 Sep 27 2 0"]),
  ("BZ", [
    "1918 1941 Oct Sat>=1 24 0:30; 1919 1942 Feb Sat>=8 24 0; 1942 1942 Jun 27 24 1",
    "1945 1945 Aug 14 23u 1; 1945 1945 Dec 15 24 0; 1947 1967 Oct Sat>=1 24 0:30",
    "1948 1968 Feb Sat>=8 24 0; 1973 1973 Dec 5 0 1; 1974 1974 Feb 9 0 0",
    "1982 1982 Dec 18 0 1; 1983 1983 Feb 12 0 0"]),
  ("Be", [
    "1917 1917 Apr 5 24 1; 1917 1917 Sep 30 24 0; 1918 1918 Apr 13 24 1",
    "1918 1918 Sep 15 24 0; 1942 1942 Jan 11 2 1; 1942 1942 Oct 18 2 0; 1943 1943 Mar 21 2 1",
    "1943 1943 Oct 31 2 0; 1944 1945 Mar Sun>=8 2 1; 1944 1945 Nov Sun>=1 2 0",
    "1947 1947 May Sun>=15 2 1; 1947 1947 Sep Sun>=8 2 0; 1948 1952 May Sun>=22 2 1",
    "1948 1952 Sep Sun>=1 2 0; 1956 1956 May Sun>=22 2 1; 1956 1956 Oct lastSun 2 0"]),
  ("C", [
    "1918 1918 Apr 14 2 1; 1918 1918 Oct 27 2 0; 1942 1942 Feb 9 2 1; 1945 1945 Aug 14 23u 1",
    "1945 1945 Sep 30 2 0; 1974 1986 Apr lastSun 2 1; 1974 2006 Oct lastSun 2 0",
    "1987 2006 Apr Sun>=1 2 1; 2007 max Mar Sun>=8 2 1; 2007 max Nov Sun>=1 2 0"]),
  ("CA", [
    "1948 1948 Mar 14 2:1 1; 1949 1949 Jan 1 2 0; 1950 1966 Apr lastSun 1 1",
    "1950 1961 Sep lastSun 2 0; 1962 1966 Oct lastSun 2 0"]),
  ("CH", ["1941 1942 May Mon>=1 1 1; 1941 1942 Oct Mon>=1 2 0"]),
  ("CK", ["1978 1978 Nov 12 0 0:30; 1979 1991 Mar Sun>=1 0 0; 1979 1990 Oct lastSun 0 0:30"]),
  ("CN", ["1986 1986 May 4 2 1; 1986 1991 Sep Sun>=11 2 0; 1987 1991 Apr Sun>=11 2 1"]),
  ("CO", ["1992 1992 May 3 0 1; 1993 1993 Feb 6 24 0"]),
  ("CR", [
    "1979 1980 Feb lastSun 0 1; 1979 1980 Jun Sun>=1 0 0; 1991 1992 Jan Sat>=15 0 1",
    "1991 1991 Jul 1 0 0; 1992 1992 Mar 15 0 0"]),
  ("CY", [
    "1975 1975 Apr 13 0 1; 1975 1975 Oct 12 0 0; 1976 1976 May 15 0 1; 1976 1976 Oct 11 0 0",
    "1977 1980 Apr Sun>=1 0 1; 1977 1977 Sep 25 0 0; 1978 1978 Oct 2 0 0",
    "1979 1997 Sep lastSun 0 0; 1981 1998 Mar lastSun 0 1"]),
  ("CZ", [
    "1945 1945 Apr Mon>=1 2s 1; 1945 1945 Oct 1 2s 0; 1946 1946 May 6 2s 1",
    "1946 1949 Oct Sun>=1 2s 0; 1947 1948 Apr Sun>=15 2s 1; 1949 1949 Apr 9 2s 1"]),
  ("Ch", [
    "1920 1920 Jun 13 2 1; 1920 1921 Oct lastSun 2 0; 1921 1921 Mar lastSun 2 1",
    "1922 1966 Apr lastSun 2 1; 1922 1954 Sep lastSun 2 0; 1955 1966 Oct lastSun 2 0"]),
  ("DE", [
    "1946 1946 Apr 14 2s 1; 1946 1946 Oct 7 2s 0; 1947 1949 Oct Sun>=1 2s 0",
    "1947 1947 Apr 6 3s 1; 1947 1947 May 11 2s 2; 1947 1947 Jun 29 3 1; 1948 1948 Apr 18 2s 1",
    "1949 1949 Apr 10 2s 1"]),
  ("DO", [
    "1966 1966 Oct 30 0 1; 1967 1967 Feb 28 0 0; 1969 1973 Oct lastSun 0 0:30",
    "1970 1970 Feb 21 0 0; 1971 1971 Jan 20 0 0; 1972 1974 Jan 21 0 0"]),
  ("De", [
    "1920 1921 Mar lastSun 2 1; 1920 1920 Oct lastSun 2 0; 1921 1921 May 22 2 0",
    "1965 1966 Apr lastSun 2 1; 1965 1966 Oct lastSun 2 0"]),
  ("Dt", ["1948 1948 Apr lastSun 2 1; 1948 1948 Sep lastSun 2 0"]),
  ("E", [
    "1977 1980 Apr Sun>=1 1u 1; 1977 1977 Sep lastSun 1u 0; 1978 1978 Oct 1 1u 0",
    "1979 1995 Sep lastSun 1u 0; 1981 max Mar lastSun 1u 1; 1996 max Oct lastSun 1u 0"]),
  ("EC", ["1992 1992 Nov 28 0 1; 1993 1993 Feb 5 0 0"]),
  ("Ed", [
    "1918 1919 Apr Sun>=8 2 1; 1918 1918 Oct 27 2 0; 1919 1919 May 27 2 0",
    "1920 1923 Apr lastSun 2 1; 1920 1920 Oct lastSun 2 0; 1921 1923 Sep lastSun 2 0",
    "1942 1942 Feb 9 2 1; 1945 1945 Aug 14 23u 1; 1945 1945 Sep lastSun 2 0",
    "1947 1947 Apr lastSun 2 1; 1947 1947 Sep lastSun 2 0; 1972 1986 Apr lastSun 2 1",
    "1972 2006 Oct lastSun 2 0"]),
  ("F", [
    "1916 1916 Jun 14 23s 1; 1916 1919 Oct Sun>=1 23s 0; 1917 1917 Mar 24 23s 1",
    "1918 1918 Mar 9 23s 1; 1919 1919 Mar 1 23s 1; 1920 1920 Feb 14 23s 1",
    "1920 1920 Oct 23 23s 0; 1921 1921 Mar 14 23s 1; 1921 1921 Oct 25 23s 0",
    "1922 1922 Mar 25 23s 1; 1922 1938 Oct Sat>=1 23s 0; 1923 1923 May 26 23s 1",
    "1924 1924 Mar 29 23s 1; 1925 1925 Apr 4 23s 1; 1926 1926 Apr 17 23s 1",
    "1927 1927 Apr 9 23s 1; 1928 1928 Apr 14 23s 1; 1929 1929 Apr 20 23s 1",
    "1930 1930 Apr 12 23s 1; 1931 1931 Apr 18 23s 1; 1932 1932 Apr 2 23s 1",
    "1933 1933 Mar 25 23s 1; 1934 1934 Apr 7 23s 1; 1935 1935 Mar 30 23s 1",
    "1936 1936 Apr 18 23s 1; 1937 1937 Apr 3 23s 1; 1938 1938 Mar 26 23s 1",
    "1939 1939 Apr 15 23s 1; 1939 1939 Nov 18 23s 0; 1940 1940 Feb 25 2 1",
    "1941 1941 May 5 0 2; 1941 1941 Oct 6 0 1; 1942 1942 Mar 9 0 2; 1942 1942 Nov 2 3 1",
    "1943 1943 Mar 29 2 2; 1943 1943 Oct 4 3 1; 1944 1944 Apr 3 2 2; 1944 1944 Oct 8 1 1",
    "1945 1945 Apr 2 2 2; 1945 1945 Sep 16 3 0; 1976 1976 Mar 28 1 1; 1976 1976 Sep 26 1 0"]),
  ("FI", [
    "1942 1942 Apr 2 24 1; 1942 1942 Oct 4 1 0; 1981 1982 Mar lastSun 2 1",
    "1981 1982 Sep lastSun 3 0"]),
  ("FJ", [
    "1998 1999 Nov Sun>=1 2 1; 1999 2000 Feb lastSun 3 0; 2009 2009 Nov 29 2 1",
    "2010 2010 Mar lastSun 3 0; 2010 2013 Oct Sun>=21 2 1; 2011 2011 Mar Sun>=1 3 0",
    "2012 2013 Jan Sun>=18 3 0; 2014 2014 Jan Sun>=18 2 0; 2014 2018 Nov Sun>=1 2 1",
    "2015 2021 Jan Sun>=12 3 0; 2019 2019 Nov Sun>=8 2 1; 2020 2020 Dec 20 2 1"]),
  ("FK", [
    "1937 1938 Sep lastSun 0 1; 1938 1942 Mar Sun>=19 0 0; 1939 1939 Oct 1 0 1",
    "1940 1942 Sep lastSun 0 1; 1943 1943 Jan 1 0 0; 1983 1983 Sep lastSun 0 1",
    "1984 1985 Apr lastSun 0 0; 1984 1984 Sep 16 0 1; 1985 2000 Sep Sun>=9 0 1",
    "1986 2000 Apr Sun>=16 0 0; 2001 2010 Apr Sun>=15 2 0; 2001 2010 Sep Sun>=1 2 1"]),
  ("G", [
    "1916 1916 May 21 2s 1; 1916 1916 Oct 1 2s 0; 1917 1917 Apr 8 2s 1; 1917 1917 Sep 17 2s 0",
    "1918 1918 Mar 24 2s 1; 1918 1918 Sep 30 2s 0; 1919 1919 Mar 30 2s 1",
    "1919 1919 Sep 29 2s 0; 1920 1920 Mar 28 2s 1; 1920 1920 Oct 25 2s 0",
    "1921 1921 Apr 3 2s 1; 1921 1921 Oct 3 2s 0; 1922 1922 Mar 26 2s 1; 1922 1922 Oct 8 2s 0",
    "1923 1923 Apr Sun>=16 2s 1; 1923 1924 Sep Sun>=16 2s 0; 1924 1924 Apr Sun>=9 2s 1",
    "1925 1926 Apr Sun>=16 2s 1; 1925 1938 Oct Sun>=2 2s 0; 1927 1927 Apr Sun>=9 2s 1",
    "1928 1929 Apr Sun>=16 2s 1; 1930 1930 Apr Sun>=9 2s 1; 1931 1932 Apr Sun>=16 2s 1",
    "1933 1933 Apr Sun>=9 2s 1; 1934 1934 Apr Sun>=16 2s 1; 1935 1935 Apr Sun>=9 2s 1",
    "1936 1937 Apr Sun>=16 2s 1; 1938 1938 Apr Sun>=9 2s 1; 1939 1939 Apr Sun>=16 2s 1",
    "1939 1939 Nov Sun>=16 2s 0; 1940 1940 Feb Sun>=23 2s 1; 1941 1941 May Sun>=2 1s 2",
    "1941 1943 Aug Sun>=9 1s 1; 1942 1944 Apr Sun>=2 1s 2; 1944 1944 Sep Sun>=16 1s 1",
    "1945 1945 Apr Mon>=2 1s 2; 1945 1945 Jul Sun>=9 1s 1; 1945 1946 Oct Sun>=2 2s 0",
    "1946 1946 Apr Sun>=9 2s 1; 1947 1947 Mar 16 2s 1; 1947 1947 Apr 13 1s 2",
    "1947 1947 Aug 10 1s 1; 1947 1947 Nov 2 2s 0; 1948 1948 Mar 14 2s 1",
    "1948 1948 Oct 31 2s 0; 1949 1949 Apr 3 2s 1; 1949 1949 Oct 30 2s 0",
    "1950 1952 Apr Sun>=14 2s 1; 1950 1952 Oct Sun>=21 2s 0; 1953 1953 Apr Sun>=16 2s 1",
    "1953 1960 Oct Sun>=2 2s 0; 1954 1954 Apr Sun>=9 2s 1; 1955 1956 Apr Sun>=16 2s 1",
    "1957 1957 Apr Sun>=9 2s 1; 1958 1959 Apr Sun>=16 2s 1; 1960 1960 Apr Sun>=9 2s 1",
    "1961 1963 Mar lastSun 2s 1; 1961 1968 Oct Sun>=23 2s 0; 1964 1967 Mar Sun>=19 2s 1",
    "1968 1968 Feb 18 2s 1; 1972 1980 Mar Sun>=16 2s 1; 1972 1980 Oct Sun>=23 2s 0",
    "1981 1995 Mar lastSun 1u 1; 1981 1989 Oct Sun>=23 1u 0; 1990 1995 Oct Sun>=22 1u 0"]),
  ("GT", [
    "1973 1973 Nov 25 0 1; 1974 1974 Feb 24 0 0; 1983 1983 May 21 0 1; 1983 1983 Sep 22 0 0",
    "1991 1991 Mar 23 0 1; 1991 1991 Sep 7 0 0; 2006 2006 Apr 30 0 1; 2006 2006 Oct 1 0 0"]),
  ("Gu", [
    "1959 1959 Jun 27 2 1; 1961 1961 Jan 29 2 0; 1967 1967 Sep 1 2 1; 1969 1969 Jan 26 0:1 0",
    "1969 1969 Jun 22 2 1; 1969 1969 Aug 31 2 0; 1970 1971 Apr lastSun 2 1",
    "1970 1971 Sep Sun>=1 2 0; 1973 1973 Dec 16 2 1; 1974 1974 Feb 24 2 0",
    "1976 1976 May 26 2 1; 1976 1976 Aug 22 2:1 0; 1977 1977 Apr 24 2 1; 1977 1977 Aug 28 2 0"]),
  ("H", [
    "1916 1916 Apr 1 0 1; 1916 1916 Oct 1 0 0; 1920 1920 May 9 0 1; 1920 1920 Aug 29 0 0",
    "1921 1921 May 6 0 1; 1921 1922 Sep 5 0 0; 1922 1922 Apr 30 0 1; 1923 1925 May Sun>=1 0 1",
    "1923 1923 Sep 4 0 0; 1924 1924 Sep 15 0 0; 1925 1925 Sep 28 0 0; 1926 1926 May 16 0 1",
    "1926 1926 Sep 13 0 0; 1927 1927 May 1 0 1; 1927 1927 Sep 26 0 0",
    "1928 1931 May Sun>=8 0 1; 1928 1928 Sep 9 0 0; 1929 1929 Sep 3 0 0; 1930 1930 Sep 15 0 0",
    "1931 1932 Sep Mon>=24 0 0; 1932 1932 May 1 0 1; 1933 1933 Apr 30 0 1",
    "1933 1933 Oct 2 0 0; 1934 1934 May 20 0 1; 1934 1934 Sep 16 0 0; 1935 1935 Jun 2 0 1",
    "1935 1935 Sep 30 0 0; 1936 1936 Jun 1 0 1; 1936 1936 Sep 14 0 0",
    "1937 1938 May Sun>=1 0 1; 1937 1941 Sep Mon>=24 0 0; 1939 1939 May 28 0 1",
    "1940 1941 May Sun>=1 0 1; 1946 1949 Apr lastSun 2 1; 1946 1949 Sep lastSun 2 0",
    "1951 1954 Apr lastSun 2 1; 1951 1954 Sep lastSun 2 0; 1956 1959 Apr lastSun 2 1",
    "1956 1959 Sep lastSun 2 0; 1962 1973 Apr lastSun 2 1; 1962 1973 Oct lastSun 2 0"]),
  ("HK", [
    "1946 1946 Apr 21 0 1; 1946 1946 Dec 1 3:30s 0; 1947 1947 Apr 13 3:30s 1",
    "1947 1947 Nov 30 3:30s 0; 1948 1948 May 2 3:30s 1; 1948 1952 Oct Sun>=28 3:30s 0",
    "1949 1953 Apr Sun>=1 3:30 1; 1953 1964 Oct Sun>=31 3:30 0; 1954 1964 Mar Sun>=18 3:30 1",
    "1965 1976 Apr Sun>=16 3:30 1; 1965 1976 Oct Sun>=16 3:30 0; 1973 1973 Dec 30 3:30 1",
    "1979 1979 May 13 3:30 1; 1979 1979 Oct 21 3:30 0"]),
  ("HN", [
    "1987 1988 May Sun>=1 0 1; 1987 1988 Sep lastSun 0 0; 2006 2006 May Sun>=1 0 1",
    "2006 2006 Aug Mon>=1 0 0"]),
  ("HT", [
    "1983 1983 May 8 0 1; 1984 1987 Apr lastSun 0 1; 1983 1987 Oct lastSun 0 0",
    "1988 1997 Apr Sun>=1 1s 1; 1988 1997 Oct lastSun 1s 0; 2005 2006 Apr Sun>=1 0 1",
    "2005 2006 Oct lastSun 0 0; 2012 2015 Mar Sun>=8 2 1; 2012 2015 Nov Sun>=1 2 0",
    "2017 max Mar Sun>=8 2 1; 2017 max Nov Sun>=1 2 0"]),
  ("Ho", ["1992 1993 Oct lastSun 2s 1; 1993 1994 Mar Sun>=1 2s 0"]),
  ("I", [
    "1916 1916 Jun 3 24 1; 1916 1917 Sep 30 24 0; 1917 1917 Mar 31 24 1; 1918 1918 Mar 9 24 1",
    "1918 1918 Oct 6 24 0; 1919 1919 Mar 1 24 1; 1919 1919 Oct 4 24 0; 1920 1920 Mar 20 24 1",
    "1920 1920 Sep 18 24 0; 1940 1940 Jun 14 24 1; 1942 1942 Nov 2 2s 0",
    "1943 1943 Mar 29 2s 1; 1943 1943 Oct 4 2s 0; 1944 1944 Apr 2 2s 1; 1944 1944 Sep 17 2s 0",
    "1945 1945 Apr 2 2 1; 1945 1945 Sep 15 1 0; 1946 1946 Mar 17 2s 1; 1946 1946 Oct 6 2s 0",
    "1947 1947 Mar 16 0s 1; 1947 1947 Oct 5 0s 0; 1948 1948 Feb 29 2s 1; 1948 1948 Oct 3 2s 0",
    "1966 1968 May Sun>=22 0s 1; 1966 1966 Sep 24 24 0; 1967 1969 Sep Sun>=22 0s 0",
    "1969 1969 Jun 1 0s 1; 1970 1970 May 31 0s 1; 1970 1970 Sep lastSun 0s 0",
    "1971 1972 May Sun>=22 0s 1; 1971 1971 Sep lastSun 0s 0; 1972 1972 Oct 1 0s 0",
    "1973 1973 Jun 3 0s 1; 1973 1974 Sep lastSun 0s 0; 1974 1974 May 26 0s 1",
    "1975 1975 Jun 1 0s 1; 1975 1977 Sep lastSun 0s 0; 1976 1976 May 30 0s 1",
    "1977 1979 May Sun>=22 0s 1; 1978 1978 Oct 1 0s 0; 1979 1979 Sep 30 0s 0"]),
  ("IQ", [
    "1982 1982 May 1 0 1; 1982 1984 Oct 1 0 0; 1983 1983 Mar 31 0 1; 1984 1985 Apr 1 0 1",
    "1985 1990 Sep lastSun 1s 0; 1986 1990 Mar lastSun 1s 1; 1991 2007 Apr 1 3s 1",
    "1991 2007 Oct 1 3s 0"]),
  ("In", ["1941 1941 Jun 22 2 1; 1941 1954 Sep lastSun 2 0; 1946 1954 Apr lastSun 2 1"]),
  ("J", [
    "1973 1973 Jun 6 0 1; 1973 1975 Oct 1 0 0; 1974 1977 May 1 0 1; 1976 1976 Nov 1 0 0",
    "1977 1977 Oct 1 0 0; 1978 1978 Apr 30 0 1; 1978 1978 Sep 30 0 0; 1985 1985 Apr 1 0 1",
    "1985 1985 Oct 1 0 0; 1986 1988 Apr Fri>=1 0 1; 1986 1990 Oct Fri>=1 0 0",
    "1989 1989 May 8 0 1; 1990 1990 Apr 27 0 1; 1991 1991 Apr 17 0 1; 1991 1991 Sep 27 0 0",
    "1992 1992 Apr 10 0 1; 1992 1993 Oct Fri>=1 0 0; 1993 1998 Apr Fri>=1 0 1",
    "1994 1994 Sep Fri>=15 0 0; 1995 1998 Sep Fri>=15 0s 0; 1999 1999 Jul 1 0s 1",
    "1999 2002 Sep lastFri 0s 0; 2000 2001 Mar lastThu 0s 1; 2002 2012 Mar lastThu 24 1",
    "2003 2003 Oct 24 0s 0; 2004 2004 Oct 15 0s 0; 2005 2005 Sep lastFri 0s 0",
    "2006 2011 Oct lastFri 0s 0; 2013 2013 Dec 20 0 0; 2014 2021 Mar lastThu 24 1",
    "2014 2022 Oct lastFri 0s 0; 2022 2022 Feb lastThu 24 1"]),
  ("JP", [
    "1948 1948 May Sat>=1 24 1; 1948 1951 Sep Sun>=9 1 0; 1949 1949 Apr Sat>=1 24 1",
    "1950 1951 May Sat>=1 24 1"]),
  ("K", [
    "1940 1940 Jul 15 0 1; 1940 1940 Oct 1 0 0; 1941 1941 Apr 15 0 1; 1941 1941 Sep 16 0 0",
    "1942 1944 Apr 1 0 1; 1942 1942 Oct 27 0 0; 1943 1945 Nov 1 0 0; 1945 1945 Apr 16 0 1",
    "1957 1957 May 10 0 1; 1957 1958 Oct 1 0 0; 1958 1958 May 1 0 1; 1959 1981 May 1 1 1",
    "1959 1965 Sep 30 3 0; 1966 1994 Oct 1 3 0; 1982 1982 Jul 25 1 1; 1983 1983 Jul 12 1 1",
    "1984 1988 May 1 1 1; 1989 1989 May 6 1 1; 1990 1994 May 1 1 1",
    "1995 2010 Apr lastFri 0s 1; 1995 2005 Sep lastThu 24 0; 2006 2006 Sep 21 24 0",
    "2007 2007 Sep Thu>=1 24 0; 2008 2008 Aug lastThu 24 0; 2009 2009 Aug 20 24 0",
    "2010 2010 Aug 10 24 0; 2010 2010 Sep 9 24 1; 2010 2010 Sep lastThu 24 0",
    "2014 2014 May 15 24 1; 2014 2014 Jun 26 24 0; 2014 2014 Jul 31 24 1",
    "2014 2014 Sep lastThu 24 0; 2023 max Apr lastFri 0 1; 2023 max Oct lastThu 24 0"]),
  ("KG", [
    "1992 1996 Apr Sun>=7 0s 1; 1992 1996 Sep lastSun 0 0; 1997 2005 Mar lastSun 2:30 1",
    "1997 2004 Oct lastSun 2:30 0"]),
  ("KR", [
    "1948 1948 Jun 1 0 1; 1948 1948 Sep 12 24 0; 1949 1949 Apr 3 0 1",
    "1949 1951 Sep Sat>=7 24 0; 1950 1950 Apr 1 0 1; 1951 1951 May 6 0 1; 1955 1955 May 5 0 1",
    "1955 1955 Sep 8 24 0; 1956 1956 May 20 0 1; 1956 1956 Sep 29 24 0",
    "1957 1960 May Sun>=1 0 1; 1957 1960 Sep Sat>=17 24 0; 1987 1988 May Sun>=8 2 1",
    "1987 1988 Oct Sun>=8 3 0"]),
  ("L", [
    "1951 1951 Oct 14 2 1; 1952 1952 Jan 1 0 0; 1953 1953 Oct 9 2 1; 1954 1954 Jan 1 0 0",
    "1955 1955 Sep 30 0 1; 1956 1956 Jan 1 0 0; 1982 1984 Apr 1 0 1; 1982 1985 Oct 1 0 0",
    "1985 1985 Apr 6 0 1; 1986 1986 Apr 4 0 1; 1986 1986 Oct 3 0 0; 1987 1989 Apr 1 0 1",
    "1987 1989 Oct 1 0 0; 1997 1997 Apr 4 0 1; 1997 1997 Oct 4 0 0; 2013 2013 Mar lastFri 1 1",
    "2013 2013 Oct lastFri 2 0"]),
  ("LH", [
    "1981 1984 Oct lastSun 2 1; 1982 1985 Mar Sun>=1 2 0; 1985 1985 Oct lastSun 2 0:30",
    "1986 1989 Mar Sun>=15 2 0; 1986 1986 Oct 19 2 0:30; 1987 1999 Oct lastSun 2 0:30",
    "1990 1995 Mar Sun>=1 2 0; 1996 2005 Mar lastSun 2 0; 2000 2000 Aug lastSun 2 0:30",
    "2001 2007 Oct lastSun 2 0:30; 2006 2006 Apr Sun>=1 2 0; 2007 2007 Mar lastSun 2 0",
    "2008 max Apr Sun>=1 2 0; 2008 max Oct Sun>=1 2 0:30"]),
  ("LV", ["1989 1996 Mar lastSun 2s 1; 1989 1996 Sep lastSun 2s 0"]),
  ("M", [
    "1939 1939 Sep 12 0 1; 1939 1939 Nov 19 0 0; 1940 1940 Feb 25 0 1; 1945 1945 Nov 18 0 0",
    "1950 1950 Jun 11 0 1; 1950 1950 Oct 29 0 0; 1967 1967 Jun 3 12 1; 1967 1967 Oct 1 0 0",
    "1974 1974 Jun 24 0 1; 1974 1974 Sep 1 0 0; 1976 1977 May 1 0 1; 1976 1976 Aug 1 0 0",
    "1977 1977 Sep 28 0 0; 1978 1978 Jun 1 0 1; 1978 1978 Aug 4 0 0; 2008 2008 Jun 1 0 1",
    "2008 2008 Sep 1 0 0; 2009 2009 Jun 1 0 1; 2009 2009 Aug 21 0 0; 2010 2010 May 2 0 1",
    "2010 2010 Aug 8 0 0; 2011 2011 Apr 3 0 1; 2011 2011 Jul 31 0 0",
    "2012 2013 Apr lastSun 2 1; 2012 2012 Jul 20 3 0; 2012 2012 Aug 20 2 1",
    "2012 2012 Sep 30 3 0; 2013 2013 Jul 7 3 0; 2013 2013 Aug 10 2 1",
    "2013 2017 Oct lastSun 3 0; 2014 2018 Mar lastSun 2 1; 2014 2014 Jun 28 3 0",
    "2014 2014 Aug 2 2 1; 2015 2015 Jun 14 3 0; 2015 2015 Jul 19 2 1; 2016 2016 Jun 5 3 0",
    "2016 2016 Jul 10 2 1; 2017 2017 May 21 3 0; 2017 2017 Jul 2 2 1; 2018 2018 May 13 3 0",
    "2018 2018 Jun 17 2 1; 2019 2019 May 5 3 0; 2019 2019 Jun 9 2 1; 2020 2020 Apr 19 3 0",
    "2020 2020 May 31 2 1; 2021 2021 Apr 11 3 0; 2021 2021 May 16 2 1; 2022 2022 Mar 27 3 0",
    "2022 2022 May 8 2 1; 2023 2023 Mar 19 3 0; 2023 2023 Apr 23 2 1; 2024 2024 Mar 10 3 0",
    "2024 2024 Apr 14 2 1; 2025 2025 Feb 23 3 0; 2025 2025 Apr 6 2 1; 2026 2026 Feb 15 3 0",
    "2026 2026 Mar 22 2 1; 2027 2027 Feb 7 3 0; 2027 2027 Mar 14 2 1; 2028 2028 Jan 23 3 0",
    "2028 2028 Mar 5 2 1; 2029 2029 Jan 14 3 0; 2029 2029 Feb 18 2 1; 2029 2029 Dec 30 3 0",
    "2030 2030 Feb 10 2 1; 2030 2030 Dec 22 3 0; 2031 2031 Jan 26 2 1; 2031 2031 Dec 14 3 0",
    "2032 2032 Jan 18 2 1; 2032 2032 Nov 28 3 0; 2033 2033 Jan 9 2 1; 2033 2033 Nov 20 3 0",
    "2033 2033 Dec 25 2 1; 2034 2034 Nov 5 3 0; 2034 2034 Dec 17 2 1; 2035 2035 Oct 28 3 0",
    "2035 2035 Dec 9 2 1; 2036 2036 Oct 19 3 0; 2036 2036 Nov 23 2 1; 2037 2037 Oct 4 3 0",
    "2037 2037 Nov 15 2 1; 2038 2038 Sep 26 3 0; 2038 2038 Oct 31 2 1; 2039 2039 Sep 18 3 0",
    "2039 2039 Oct 23 2 1; 2040 2040 Sep 2 3 0; 2040 2040 Oct 14 2 1; 2041 2041 Aug 25 3 0",
    "2041 2041 Sep 29 2 1; 2042 2042 Aug 10 3 0; 2042 2042 Sep 21 2 1; 2043 2043 Aug 2 3 0",
    "2043 2043 Sep 13 2 1; 2044 2044 Jul 24 3 0; 2044 2044 Aug 28 2 1; 2045 2045 Jul 9 3 0",
    "2045 2045 Aug 20 2 1; 2046 2046 Jul 1 3 0; 2046 2046 Aug 5 2 1; 2047 2047 Jun 23 3 0",
    "2047 2047 Jul 28 2 1; 2048 2048 Jun 7 3 0; 2048 2048 Jul 19 2 1; 2049 2049 May 30 3 0",
    "2049 2049 Jul 4 2 1; 2050 2050 May 15 3 0; 2050 2050 Jun 26 2 1; 2051 2051 May 7 3 0",
    "2051 2051 Jun 18 2 1; 2052 2052 Apr 28 3 0; 2052 2052 Jun 2 2 1; 2053 2053 Apr 13 3 0",
    "2053 2053 May 25 2 1; 2054 2054 Apr 5 3 0; 2054 2054 May 10 2 1; 2055 2055 Mar 28 3 0",
    "2055 2055 May 2 2 1; 2056 2056 Mar 12 3 0; 2056 2056 Apr 23 2 1; 2057 2057 Mar 4 3 0",
    "2057 2057 Apr 8 2 1; 2058 2058 Feb 17 3 0; 2058 2058 Mar 31 2 1; 2059 2059 Feb 9 3 0",
    "2059 2059 Mar 23 2 1; 2060 2060 Feb 1 3 0; 2060 2060 Mar 7 2 1; 2061 2061 Jan 16 3 0",
    "2061 2061 Feb 27 2 1; 2062 2062 Jan 8 3 0; 2062 2062 Feb 12 2 1; 2062 2062 Dec 31 3 0",
    "2063 2063 Feb 4 2 1; 2063 2063 Dec 16 3 0; 2064 2064 Jan 27 2 1; 2064 2064 Dec 7 3 0",
    "2065 2065 Jan 11 2 1; 2065 2065 Nov 22 3 0; 2066 2066 Jan 3 2 1; 2066 2066 Nov 14 3 0",
    "2066 2066 Dec 26 2 1; 2067 2067 Nov 6 3 0; 2067 2067 Dec 11 2 1; 2068 2068 Oct 21 3 0",
    "2068 2068 Dec 2 2 1; 2069 2069 Oct 13 3 0; 2069 2069 Nov 17 2 1; 2070 2070 Oct 5 3 0",
    "2070 2070 Nov 9 2 1; 2071 2071 Sep 20 3 0; 2071 2071 Nov 1 2 1; 2072 2072 Sep 11 3 0",
    "2072 2072 Oct 16 2 1; 2073 2073 Aug 27 3 0; 2073 2073 Oct 8 2 1; 2074 2074 Aug 19 3 0",
    "2074 2074 Sep 30 2 1; 2075 2075 Aug 11 3 0; 2075 2075 Sep 15 2 1; 2076 2076 Jul 26 3 0",
    "2076 2076 Sep 6 2 1; 2077 2077 Jul 18 3 0; 2077 2077 Aug 22 2 1; 2078 2078 Jul 10 3 0",
    "2078 2078 Aug 14 2 1; 2079 2079 Jun 25 3 0; 2079 2079 Aug 6 2 1; 2080 2080 Jun 16 3 0",
    "2080 2080 Jul 21 2 1; 2081 2081 Jun 1 3 0; 2081 2081 Jul 13 2 1; 2082 2082 May 24 3 0",
    "2082 2082 Jun 28 2 1; 2083 2083 May 16 3 0; 2083 2083 Jun 20 2 1; 2084 2084 Apr 30 3 0",
    "2084 2084 Jun 11 2 1; 2085 2085 Apr 22 3 0; 2085 2085 May 27 2 1; 2086 2086 Apr 14 3 0",
    "2086 2086 May 19 2 1; 2087 2087 Mar 30 3 0; 2087 2087 May 11 2 1"]),
  ("MD", ["1997 max Mar lastSun 2 1; 1997 max Oct lastSun 3 0"]),
  ("MT", [
    "1973 1973 Mar 31 0s 1; 1973 1973 Sep 29 0s 0; 1974 1974 Apr 21 0s 1",
    "1974 1974 Sep 16 0s 0; 1975 1979 Apr Sun>=15 2 1; 1975 1980 Sep Sun>=15 2 0",
    "1980 1980 Mar 31 2 1"]),
  ("MU", [
    "1982 1982 Oct 10 0 1; 1983 1983 Mar 21 0 0; 2008 2008 Oct lastSun 2 1",
    "2009 2009 Mar lastSun 2 0"]),
  ("Ma", [
    "1951 1951 Apr lastSun 2 1; 1951 1951 Sep lastSun 2 0; 1954 1960 Apr lastSun 2 1",
    "1954 1960 Sep lastSun 2 0"]),
  ("Me", [
    "1946 1946 Apr lastSun 2 1; 1946 1946 Sep lastSun 2 0; 1966 1966 Apr lastSun 2 1",
    "1966 1966 Oct lastSun 2 0"]),
  ("NA", ["1994 1994 Mar 21 0 0; 1994 2017 Sep Sun>=1 2 1; 1995 2017 Apr Sun>=1 2 0"]),
  ("NB", ["1935 1941 Sep 14 0 0:20; 1935 1941 Dec 14 0 0"]),
  ("NC", [
    "1977 1978 Dec Sun>=1 0 1; 1978 1979 Feb 27 0 0; 1996 1996 Dec 1 2s 1",
    "1997 1997 Mar 2 2s 0"]),
  ("NI", [
    "1979 1980 Mar Sun>=16 0 1; 1979 1980 Jun Mon>=23 0 0; 2005 2005 Apr 10 0 1",
    "2005 2005 Oct Sun>=1 0 0; 2006 2006 Apr 30 2 1; 2006 2006 Oct Sun>=1 1 0"]),
  ("NY", [
    "1920 1920 Mar lastSun 2 1; 1920 1920 Oct lastSun 2 0; 1921 1966 Apr lastSun 2 1",
    "1921 1954 Sep lastSun 2 0; 1955 1966 Oct lastSun 2 0"]),
  ("NZ", [
    "1927 1927 Nov 6 2 1; 1928 1928 Mar 4 2 0; 1928 1933 Oct Sun>=8 2 0:30",
    "1929 1933 Mar Sun>=15 2 0; 1934 1940 Apr lastSun 2 0; 1934 1940 Sep lastSun 2 0:30",
    "1946 1946 Jan 1 0 0; 1974 1974 Nov Sun>=1 2s 1; 1975 1975 Feb lastSun 2s 0",
    "1975 1988 Oct lastSun 2s 1; 1976 1989 Mar Sun>=1 2s 0; 1989 1989 Oct Sun>=8 2s 1",
    "1990 2006 Oct Sun>=1 2s 1; 1990 2007 Mar Sun>=15 2s 0; 2007 max Sep lastSun 2s 1",
    "2008 max Apr Sun>=1 2s 0"]),
  ("O", [
    "1918 1919 Sep 16 2s 0; 1919 1919 Apr 15 2s 1; 1944 1944 Apr 3 2s 1; 1944 1944 Oct 4 2 0",
    "1945 1945 Apr 29 0 1; 1945 1945 Nov 1 0 0; 1946 1946 Apr 14 0s 1; 1946 1946 Oct 7 2s 0",
    "1947 1947 May 4 2s 1; 1947 1949 Oct Sun>=1 2s 0; 1948 1948 Apr 18 2s 1",
    "1949 1949 Apr 10 2s 1; 1957 1957 Jun 2 1s 1; 1957 1958 Sep lastSun 1s 0",
    "1958 1958 Mar 30 1s 1; 1959 1959 May 31 1s 1; 1959 1961 Oct Sun>=1 1s 0",
    "1960 1960 Apr 3 1s 1; 1961 1964 May lastSun 1s 1; 1962 1964 Sep lastSun 1s 0"]),
  ("P", [
    "1999 2005 Apr Fri>=15 0 1; 1999 2003 Oct Fri>=15 0 0; 2004 2004 Oct 1 1 0",
    "2005 2005 Oct 4 2 0; 2006 2007 Apr 1 0 1; 2006 2006 Sep 22 0 0; 2007 2007 Sep 13 2 0",
    "2008 2009 Mar lastFri 0 1; 2008 2008 Sep 1 0 0; 2009 2009 Sep 4 1 0",
    "2010 2010 Mar 26 0 1; 2010 2010 Aug 11 0 0; 2011 2011 Apr 1 0:1 1; 2011 2011 Aug 1 0 0",
    "2011 2011 Aug 30 0 1; 2011 2011 Sep 30 0 0; 2012 2014 Mar lastThu 24 1",
    "2012 2012 Sep 21 1 0; 2013 2013 Sep 27 0 0; 2014 2014 Oct 24 0 0; 2015 2015 Mar 28 0 1",
    "2015 2015 Oct 23 1 0; 2016 2018 Mar Sat<=30 1 1; 2016 2018 Oct Sat<=30 1 0",
    "2019 2019 Mar 29 0 1; 2019 2019 Oct Sat<=30 0 0; 2020 2021 Mar Sat<=30 0 1",
    "2020 2020 Oct 24 1 0; 2021 2021 Oct 29 1 0; 2022 2022 Mar 27 0 1",
    "2022 2035 Oct Sat<=30 2 0; 2023 2023 Apr 29 2 1; 2024 2024 Apr 20 2 1",
    "2025 2025 Apr 12 2 1; 2026 2054 Mar Sat<=30 2 1; 2036 2036 Oct 18 2 0",
    "2037 2037 Oct 10 2 0; 2038 2038 Sep 25 2 0; 2039 2039 Sep 17 2 0; 2040 2040 Sep 1 2 0",
    "2040 2040 Oct 20 2 1; 2040 2067 Oct Sat<=30 2 0; 2041 2041 Aug 24 2 0",
    "2041 2041 Oct 5 2 1; 2042 2042 Aug 16 2 0; 2042 2042 Sep 27 2 1; 2043 2043 Aug 1 2 0",
    "2043 2043 Sep 19 2 1; 2044 2044 Jul 23 2 0; 2044 2044 Sep 3 2 1; 2045 2045 Jul 15 2 0",
    "2045 2045 Aug 26 2 1; 2046 2046 Jun 30 2 0; 2046 2046 Aug 18 2 1; 2047 2047 Jun 22 2 0",
    "2047 2047 Aug 3 2 1; 2048 2048 Jun 6 2 0; 2048 2048 Jul 25 2 1; 2049 2049 May 29 2 0",
    "2049 2049 Jul 10 2 1; 2050 2050 May 21 2 0; 2050 2050 Jul 2 2 1; 2051 2051 May 6 2 0",
    "2051 2051 Jun 24 2 1; 2052 2052 Apr 27 2 0; 2052 2052 Jun 8 2 1; 2053 2053 Apr 12 2 0",
    "2053 2053 May 31 2 1; 2054 2054 Apr 4 2 0; 2054 2054 May 23 2 1; 2055 2055 May 8 2 1",
    "2056 2056 Apr 29 2 1; 2057 2057 Apr 14 2 1; 2058 2058 Apr 6 2 1",
    "2059 max Mar Sat<=30 2 1; 2068 2068 Oct 20 2 0; 2069 2069 Oct 12 2 0",
    "2070 2070 Oct 4 2 0; 2071 2071 Sep 19 2 0; 2072 2072 Sep 10 2 0; 2072 2072 Oct 22 2 1",
    "2072 max Oct Sat<=30 2 0; 2073 2073 Sep 2 2 0; 2073 2073 Oct 14 2 1",
    "2074 2074 Aug 18 2 0; 2074 2074 Oct 6 2 1; 2075 2075 Aug 10 2 0; 2075 2075 Sep 21 2 1",
    "2076 2076 Jul 25 2 0; 2076 2076 Sep 12 2 1; 2077 2077 Jul 17 2 0; 2077 2077 Sep 4 2 1",
    "2078 2078 Jul 9 2 0; 2078 2078 Aug 20 2 1; 2079 2079 Jun 24 2 0; 2079 2079 Aug 12 2 1",
    "2080 2080 Jun 15 2 0; 2080 2080 Jul 27 2 1; 2081 2081 Jun 7 2 0; 2081 2081 Jul 19 2 1",
    "2082 2082 May 23 2 0; 2082 2082 Jul 11 2 1; 2083 2083 May 15 2 0; 2083 2083 Jun 26 2 1",
    "2084 2084 Apr 29 2 0; 2084 2084 Jun 17 2 1; 2085 2085 Apr 21 2 0; 2085 2085 Jun 9 2 1",
    "2086 2086 Apr 13 2 0; 2086 2086 May 25 2 1"]),
  ("PE", [
    "1938 1938 Jan 1 0 1; 1938 1938 Apr 1 0 0; 1938 1939 Sep lastSun 0 1",
    "1939 1940 Mar Sun>=24 0 0; 1986 1987 Jan 1 0 1; 1986 1987 Apr 1 0 0; 1990 1990 Jan 1 0 1",
    "1990 1990 Apr 1 0 0; 1994 1994 Jan 1 0 1; 1994 1994 Apr 1 0 0"]),
  ("PH", [
    "1936 1936 Nov 1 0 1; 1937 1937 Feb 1 0 0; 1954 1954 Apr 12 0 1; 1954 1954 Jul 1 0 0",
    "1978 1978 Mar 22 0 1; 1978 1978 Sep 21 0 0"]),
  ("PK", [
    "2002 2002 Apr Sun>=2 0 1; 2002 2002 Oct Sun>=2 0 0; 2008 2008 Jun 1 0 1",
    "2008 2009 Nov 1 0 0; 2009 2009 Apr 15 0 1"]),
  ("Pe", [
    "1955 1955 May 1 0 1; 1955 1960 Sep lastSun 2 0; 1956 1963 Apr lastSun 2 1",
    "1961 1963 Oct lastSun 2 0"]),
  ("Pi", [
    "1955 1955 May 1 0 1; 1955 1960 Sep lastSun 2 0; 1956 1964 Apr lastSun 2 1",
    "1961 1964 Oct lastSun 2 0"]),
  ("Pu", [
    "1946 1960 Apr lastSun 2 1; 1946 1954 Sep lastSun 2 0; 1955 1956 Oct lastSun 2 0",
    "1957 1960 Sep lastSun 2 0"]),
  ("Q", [
    "1928 1928 Jun 10 0 1; 1928 1928 Oct 10 0 0; 1940 1942 Jun Sun>=1 0 1",
    "1940 1942 Sep Sun>=1 0 0; 1945 1946 Jun Sun>=1 0 1; 1945 1946 Sep Sun>=1 0 0",
    "1965 1965 Jun 1 0 1; 1965 1965 Sep 30 0 0; 1966 1966 May 29 0 1; 1966 1966 Oct 2 0 0",
    "1967 1967 Apr 8 0 1; 1967 1968 Sep Sun>=8 0 0; 1968 1968 Apr 14 0 1",
    "1969 1977 Apr lastSun 0 1; 1969 1971 Oct lastSun 0 0; 1972 1974 Oct 8 0 0",
    "1975 1977 Oct lastSun 0 0; 1978 1978 May 7 0 1; 1978 1990 Oct Sun>=8 0 0",
    "1979 1980 Mar Sun>=15 0 1; 1981 1985 May Sun>=5 0 1; 1986 1989 Mar Sun>=14 0 1",
    "1990 1997 Apr Sun>=1 0 1; 1991 1995 Oct Sun>=8 0s 0; 1996 1996 Oct 6 0s 0",
    "1997 1997 Oct 12 0s 0; 1998 1999 Mar lastSun 0s 1; 1998 2003 Oct lastSun 0s 0",
    "2000 2003 Apr Sun>=1 0s 1; 2004 2004 Mar lastSun 0s 1; 2006 2010 Oct lastSun 0s 0",
    "2007 2007 Mar Sun>=8 0s 1; 2008 2008 Mar Sun>=15 0s 1; 2009 2010 Mar Sun>=8 0s 1",
    "2011 2011 Mar Sun>=15 0s 1; 2011 2011 Nov 13 0s 0; 2012 2012 Apr 1 0s 1",
    "2012 max Nov Sun>=1 0s 0; 2013 max Mar Sun>=8 0s 1"]),
  ("R", [
    "1917 1917 Jul 1 23 1; 1917 1917 Dec 28 0 0; 1918 1918 May 31 22 2; 1918 1918 Sep 16 1 1",
    "1919 1919 May 31 23 2; 1919 1919 Jul 1 0u 1; 1919 1919 Aug 16 0 0; 1921 1921 Feb 14 23 1",
    "1921 1921 Mar 20 23 2; 1921 1921 Sep 1 0 1; 1921 1921 Oct 1 0 0; 1981 1984 Apr 1 0 1",
    "1981 1983 Oct 1 0 0; 1984 1995 Sep lastSun 2s 0; 1985 2010 Mar lastSun 2s 1",
    "1996 2010 Oct lastSun 2s 0"]),
  ("S", [
    "1920 1923 Apr Sun>=15 2 1; 1920 1923 Oct Sun>=1 2 0; 1962 1962 Apr 29 2 1",
    "1962 1962 Oct 1 2 0; 1963 1965 May 1 2 1; 1963 1963 Sep 30 2 0; 1964 1964 Oct 1 2 0",
    "1965 1965 Sep 30 2 0; 1966 1966 Apr 24 2 1; 1966 1976 Oct 1 2 0; 1967 1978 May 1 2 1",
    "1977 1978 Sep 1 2 0; 1983 1984 Apr 9 2 1; 1983 1984 Oct 1 2 0; 1986 1986 Feb 16 2 1",
    "1986 1986 Oct 9 2 0; 1987 1987 Mar 1 2 1; 1987 1988 Oct 31 2 0; 1988 1988 Mar 15 2 1",
    "1989 1989 Mar 31 2 1; 1989 1989 Oct 1 2 0; 1990 1990 Apr 1 2 1; 1990 1990 Sep 30 2 0",
    "1991 1991 Apr 1 0 1; 1991 1992 Oct 1 0 0; 1992 1992 Apr 8 0 1; 1993 1993 Mar 26 0 1",
    "1993 1993 Sep 25 0 0; 1994 1996 Apr 1 0 1; 1994 2005 Oct 1 0 0",
    "1997 1998 Mar lastMon 0 1; 1999 2006 Apr 1 0 1; 2006 2006 Sep 22 0 0",
    "2007 2007 Mar lastFri 0 1; 2007 2007 Nov Fri>=1 0 0; 2008 2008 Apr Fri>=1 0 1",
    "2008 2008 Nov 1 0 0; 2009 2009 Mar lastFri 0 1; 2010 2011 Apr Fri>=1 0 1",
    "2012 2022 Mar lastFri 0 1; 2009 2022 Oct lastFri 0 0"]),
  ("SA", ["1942 1943 Sep Sun>=15 2 1; 1943 1944 Mar Sun>=15 2 0"]),
  ("SD", [
    "1970 1970 May 1 0 1; 1970 1985 Oct 15 0 0; 1971 1971 Apr 30 0 1",
    "1972 1985 Apr lastSun 0 1"]),
  ("SV", ["1987 1988 May Sun>=1 0 1; 1987 1988 Sep lastSun 0 0"]),
  ("Sa", ["2008 2009 Mar Sun>=8 0 0; 2007 2008 Oct Sun>=8 0 1"]),
  ("Sh", [
    "1919 1919 Apr 12 24 1; 1919 1919 Sep 30 24 0; 1940 1940 Jun 1 0 1; 1940 1940 Oct 12 24 0",
    "1941 1941 Mar 15 0 1; 1941 1941 Nov 1 24 0; 1942 1942 Jan 31 0 1; 1945 1945 Sep 1 24 0",
    "1946 1946 May 15 0 1; 1946 1946 Sep 30 24 0; 1947 1947 Apr 15 0 1; 1947 1947 Oct 31 24 0",
    "1948 1949 May 1 0 1; 1948 1949 Sep 30 24 0"]),
  ("So", ["1945 1945 May 24 2 2; 1945 1945 Sep 24 3 1; 1945 1945 Nov 18 2s 0"]),
  ("Sp", [
    "1967 1967 Jun 3 12 1; 1967 1967 Oct 1 0 0; 1974 1974 Jun 24 0 1; 1974 1974 Sep 1 0 0",
    "1976 1977 May 1 0 1; 1976 1976 Aug 1 0 0; 1977 1977 Sep 28 0 0; 1978 1978 Jun 1 0 1",
    "1978 1978 Aug 4 0 0"]),
  ("St", [
    "1947 1961 Apr lastSun 2 1; 1947 1954 Sep lastSun 2 0; 1955 1956 Oct lastSun 2 0",
    "1957 1958 Sep lastSun 2 0; 1959 1961 Oct lastSun 2 0"]),
  ("Sw", [
    "1957 1957 Apr lastSun 2 1; 1957 1957 Oct lastSun 2 0; 1959 1961 Apr lastSun 2 1",
    "1959 1959 Oct lastSun 2 0; 1960 1961 Sep lastSun 2 0"]),
  ("T", [
    "1916 1916 May 1 0 1; 1916 1916 Oct 1 0 0; 1920 1920 Mar 28 0 1; 1920 1920 Oct 25 0 0",
    "1921 1921 Apr 3 0 1; 1921 1921 Oct 3 0 0; 1922 1922 Mar 26 0 1; 1922 1922 Oct 8 0 0",
    "1924 1924 May 13 0 1; 1924 1925 Oct 1 0 0; 1925 1925 May 1 0 1; 1940 1940 Jul 1 0 1",
    "1940 1940 Oct 6 0 0; 1940 1940 Dec 1 0 1; 1941 1941 Sep 21 0 0; 1942 1942 Apr 1 0 1",
    "1945 1945 Oct 8 0 0; 1946 1946 Jun 1 0 1; 1946 1946 Oct 1 0 0; 1947 1948 Apr Sun>=16 0 1",
    "1947 1951 Oct Sun>=2 0 0; 1949 1949 Apr 10 0 1; 1950 1950 Apr 16 0 1",
    "1951 1951 Apr 22 0 1; 1962 1962 Jul 15 0 1; 1963 1963 Oct 30 0 0; 1964 1964 May 15 0 1",
    "1964 1964 Oct 1 0 0; 1973 1973 Jun 3 1 1; 1973 1976 Oct Sun>=31 2 0",
    "1974 1974 Mar 31 2 1; 1975 1975 Mar 22 2 1; 1976 1976 Mar 21 2 1",
    "1977 1978 Apr Sun>=1 2 1; 1977 1978 Oct Sun>=15 2 0; 1978 1978 Jun 29 0 0",
    "1983 1983 Jul 31 2 1; 1983 1983 Oct 2 2 0; 1985 1985 Apr 20 1s 1; 1985 1985 Sep 28 1s 0",
    "1986 1993 Mar lastSun 1s 1; 1986 1995 Sep lastSun 1s 0; 1994 1994 Mar 20 1s 1",
    "1995 2006 Mar lastSun 1s 1; 1996 2006 Oct lastSun 1s 0"]),
  ("TO", [
    "1999 1999 Oct 7 2s 1; 2000 2000 Mar 19 2s 0; 2000 2001 Nov Sun>=1 2 1",
    "2001 2002 Jan lastSun 2 0; 2016 2016 Nov Sun>=1 2 1; 2017 2017 Jan Sun>=15 3 0"]),
  ("Th", [
    "1991 1992 Mar lastSun 2 1; 1991 1992 Sep lastSun 2 0; 1993 2006 Apr Sun>=1 2 1",
    "1993 2006 Oct lastSun 2 0; 2007 max Mar Sun>=8 2 1; 2007 max Nov Sun>=1 2 0"]),
  ("Tr", ["2005 max Mar lastSun 1u 2; 2004 max Oct lastSun 1u 0"]),
  ("U", [
    "1923 1925 Oct 1 0 0:30; 1924 1926 Apr 1 0 0; 1933 1938 Oct lastSun 0 0:30",
    "1934 1941 Mar lastSat 24 0; 1939 1939 Oct 1 0 0:30; 1940 1940 Oct 27 0 0:30",
    "1941 1941 Aug 1 0 0:30; 1942 1942 Dec 14 0 0:30; 1943 1943 Mar 14 0 0",
    "1959 1959 May 24 0 0:30; 1959 1959 Nov 15 0 0; 1960 1960 Jan 17 0 1; 1960 1960 Mar 6 0 0",
    "1965 1965 Apr 4 0 1; 1965 1965 Sep 26 0 0; 1968 1968 May 27 0 0:30; 1968 1968 Dec 1 0 0",
    "1970 1970 Apr 25 0 1; 1970 1970 Jun 14 0 0; 1972 1972 Apr 23 0 1; 1972 1972 Jul 16 0 0",
    "1974 1974 Jan 13 0 1:30; 1974 1974 Mar 10 0 0:30; 1974 1974 Sep 1 0 0",
    "1974 1974 Dec 22 0 1; 1975 1975 Mar 30 0 0; 1976 1976 Dec 19 0 1; 1977 1977 Mar 6 0 0",
    "1977 1977 Dec 4 0 1; 1978 1979 Mar Sun>=1 0 0; 1978 1978 Dec 17 0 1",
    "1979 1979 Apr 29 0 1; 1980 1980 Mar 16 0 0; 1987 1987 Dec 14 0 1; 1988 1988 Feb 28 0 0",
    "1988 1988 Dec 11 0 1; 1989 1989 Mar 5 0 0; 1989 1989 Oct 29 0 1; 1990 1990 Feb 25 0 0",
    "1990 1991 Oct Sun>=21 0 1; 1991 1992 Mar Sun>=1 0 0; 1992 1992 Oct 18 0 1",
    "1993 1993 Feb 28 0 0; 2004 2004 Sep 19 0 1; 2005 2005 Mar 27 2 0; 2005 2005 Oct 9 2 1",
    "2006 2015 Mar Sun>=8 2 0; 2006 2014 Oct Sun>=1 2 1"]),
  ("V", [
    "1946 1946 Apr lastSun 2 1; 1946 1946 Sep lastSun 2 0; 1953 1954 Apr lastSun 2 1",
    "1953 1959 Sep lastSun 2 0; 1955 1955 May 1 0 1; 1956 1963 Apr lastSun 2 1",
    "1960 1960 Oct lastSun 2 0; 1961 1961 Sep lastSun 2 0; 1962 1963 Oct lastSun 2 0"]),
  ("VU", [
    "1973 1973 Dec 22 12u 1; 1974 1974 Mar 30 12u 0; 1983 1991 Sep Sat>=22 24 1",
    "1984 1991 Mar Sat>=22 24 0; 1992 1993 Jan Sat>=22 24 0; 1992 1992 Oct Sat>=22 24 1"]),
  ("Va", [
    "1918 1918 Apr 14 2 1; 1918 1918 Oct 27 2 0; 1942 1942 Feb 9 2 1; 1945 1945 Aug 14 23u 1",
    "1945 1945 Sep 30 2 0; 1946 1986 Apr lastSun 2 1; 1946 1946 Sep 29 2 0",
    "1947 1961 Sep lastSun 2 0; 1962 2006 Oct lastSun 2 0"]),
  ("W", [
    "1916 1916 Apr 23 0 1; 1916 1916 Sep 17 0 0; 1918 1918 Apr 14 2 1; 1918 1918 Oct 27 2 0",
    "1937 1937 May 16 2 1; 1937 1937 Sep 26 2 0; 1942 1942 Feb 9 2 1; 1945 1945 Aug 14 23u 1",
    "1945 1945 Sep lastSun 2 0; 1946 1946 May 12 2 1; 1946 1946 Oct 13 2 0",
    "1947 1949 Apr lastSun 2 1; 1947 1949 Sep lastSun 2 0; 1950 1950 May 1 2 1",
    "1950 1950 Sep 30 2 0; 1951 1960 Apr lastSun 2 1; 1951 1958 Sep lastSun 2 0",
    "1959 1959 Oct lastSun 2 0; 1960 1960 Sep lastSun 2 0; 1963 1963 Apr lastSun 2 1",
    "1963 1963 Sep 22 2 0; 1966 1986 Apr lastSun 2s 1; 1966 2005 Oct lastSun 2s 0",
    "1987 2005 Apr Sun>=1 2s 1"]),
  ("W-", [
    "1977 1980 Apr Sun>=1 1s 1; 1977 1977 Sep lastSun 1s 0; 1978 1978 Oct 1 1s 0",
    "1979 1995 Sep lastSun 1s 0; 1981 max Mar lastSun 1s 1; 1996 max Oct lastSun 1s 0"]),
  ("WS", [
    "2010 2010 Sep lastSun 0 1; 2011 2011 Apr Sat>=1 4 0; 2011 2011 Sep lastSat 3 1",
    "2012 2021 Apr Sun>=1 4 0; 2012 2020 Sep lastSun 3 1"]),
  ("X", [
    "1983 1984 Apr 1 0 1; 1983 1983 Oct 1 0 0; 1985 1998 Mar lastSun 0 1",
    "1984 1998 Sep lastSun 0 0; 2001 2001 Apr lastSat 2 1; 2001 2006 Sep lastSat 2 0",
    "2002 2006 Mar lastSat 2 1; 2015 2016 Mar lastSat 2 1; 2015 2016 Sep lastSat 0 0"]),
  ("Y", [
    "1918 1918 Apr 14 2 1; 1918 1918 Oct 27 2 0; 1919 1919 May 25 2 1; 1919 1919 Nov 1 0 0",
    "1942 1942 Feb 9 2 1; 1945 1945 Aug 14 23u 1; 1945 1945 Sep 30 2 0",
    "1972 1986 Apr lastSun 2 1; 1972 2006 Oct lastSun 2 0; 1987 2006 Apr Sun>=1 2 1"]),
  ("Yu", ["1965 1965 Apr lastSun 0 2; 1965 1965 Oct lastSun 2 0"]),
  ("Z", [
    "1940 1940 May 31 24u 1; 1940 1940 Sep 30 24u 0; 1940 1940 Nov 16 24u 1",
    "1942 1946 Oct 31 24u 0; 1943 1944 Mar 31 24u 1; 1945 1946 Apr 15 24u 1",
    "1948 1948 May 22 24u 2; 1948 1948 Aug 31 24u 1; 1948 1949 Oct 31 24u 0",
    "1949 1949 Apr 30 24u 1; 1950 1950 Apr 15 24u 1; 1950 1950 Sep 14 24u 0",
    "1951 1951 Mar 31 24u 1; 1951 1951 Nov 10 24u 0; 1952 1952 Apr 19 24u 1",
    "1952 1952 Oct 18 24u 0; 1953 1953 Apr 11 24u 1; 1953 1953 Sep 12 24u 0",
    "1954 1954 Jun 12 24u 1; 1954 1954 Sep 11 24u 0; 1955 1955 Jun 11 24u 1",
    "1955 1955 Sep 10 24u 0; 1956 1956 Jun 2 24u 1; 1956 1956 Sep 29 24u 0",
    "1957 1957 Apr 27 24u 1; 1957 1957 Sep 21 24u 0; 1974 1974 Jul 6 24 1",
    "1974 1974 Oct 12 24 0; 1975 1975 Apr 19 24 1; 1975 1975 Aug 30 24 0",
    "1980 1980 Aug 2 24s 1; 1980 1980 Sep 13 24s 0; 1984 1984 May 5 24s 1",
    "1984 1984 Aug 25 24s 0; 1985 1985 Apr 13 24 1; 1985 1985 Aug 31 24 0",
    "1986 1986 May 17 24 1; 1986 1986 Sep 6 24 0; 1987 1987 Apr 14 24 1",
    "1987 1987 Sep 12 24 0; 1988 1988 Apr 9 24 1; 1988 1988 Sep 3 24 0; 1989 1989 Apr 29 24 1",
    "1989 1989 Sep 2 24 0; 1990 1990 Mar 24 24 1; 1990 1990 Aug 25 24 0",
    "1991 1991 Mar 23 24 1; 1991 1991 Aug 31 24 0; 1992 1992 Mar 28 24 1",
    "1992 1992 Sep 5 24 0; 1993 1993 Apr 2 0 1; 1993 1993 Sep 5 0 0; 1994 1994 Apr 1 0 1",
    "1994 1994 Aug 28 0 0; 1995 1995 Mar 31 0 1; 1995 1995 Sep 3 0 0; 1996 1996 Mar 14 24 1",
    "1996 1996 Sep 15 24 0; 1997 1997 Mar 20 24 1; 1997 1997 Sep 13 24 0",
    "1998 1998 Mar 20 0 1; 1998 1998 Sep 6 0 0; 1999 1999 Apr 2 2 1; 1999 1999 Sep 3 2 0",
    "2000 2000 Apr 14 2 1; 2000 2000 Oct 6 1 0; 2001 2001 Apr 9 1 1; 2001 2001 Sep 24 1 0",
    "2002 2002 Mar 29 1 1; 2002 2002 Oct 7 1 0; 2003 2003 Mar 28 1 1; 2003 2003 Oct 3 1 0",
    "2004 2004 Apr 7 1 1; 2004 2004 Sep 22 1 0; 2005 2012 Apr Fri<=1 2 1; 2005 2005 Oct 9 2 0",
    "2006 2006 Oct 1 2 0; 2007 2007 Sep 16 2 0; 2008 2008 Oct 5 2 0; 2009 2009 Sep 27 2 0",
    "2010 2010 Sep 12 2 0; 2011 2011 Oct 2 2 0; 2012 2012 Sep 23 2 0",
    "2013 max Mar Fri>=23 2 1; 2013 max Oct lastSun 2 0"]),
  ("_", [
    "1942 1943 Apr 30 23 1; 1942 1942 Nov 17 23 0; 1943 1943 Sep 30 23 0",
    "1946 1946 Apr 30 23s 1; 1946 1946 Sep 30 23s 0; 1947 1947 Apr 19 23s 1",
    "1947 1947 Nov 30 23s 0; 1948 1948 May 2 23s 1; 1948 1948 Oct 31 23s 0",
    "1949 1950 Apr Sat>=1 23s 1; 1949 1950 Oct lastSat 23s 0; 1951 1951 Mar 31 23s 1",
    "1951 1951 Oct 28 23s 0; 1952 1953 Apr Sat>=1 23s 1; 1952 1952 Nov 1 23s 0",
    "1953 1954 Oct lastSat 23s 0; 1954 1956 Mar Sat>=17 23s 1; 1955 1955 Nov 5 23s 0",
    "1956 1964 Nov Sun>=1 3:30 0; 1957 1964 Mar Sun>=18 3:30 1; 1965 1973 Apr Sun>=16 3:30 1",
    "1965 1966 Oct Sun>=16 2:30 0; 1967 1976 Oct Sun>=16 3:30 0; 1973 1973 Dec 30 3:30 1",
    "1975 1976 Apr Sun>=16 3:30 1; 1979 1979 May 13 3:30 1; 1979 1979 Oct Sun>=16 3:30 0"]),
  ("a", [
    "1920 1920 Apr 5 2s 1; 1920 1920 Sep 13 2s 0; 1946 1946 Apr 14 2s 1; 1946 1946 Oct 7 2s 0",
    "1947 1948 Oct Sun>=1 2s 0; 1947 1947 Apr 6 2s 1; 1948 1948 Apr 18 2s 1",
    "1980 1980 Apr 6 0 1; 1980 1980 Sep 28 0 0"]),
  ("b", [
    "1918 1918 Mar 9 0s 1; 1918 1919 Oct Sat>=1 23s 0; 1919 1919 Mar 1 23s 1",
    "1920 1920 Feb 14 23s 1; 1920 1920 Oct 23 23s 0; 1921 1921 Mar 14 23s 1",
    "1921 1921 Oct 25 23s 0; 1922 1922 Mar 25 23s 1; 1922 1927 Oct Sat>=1 23s 0",
    "1923 1923 Apr 21 23s 1; 1924 1924 Mar 29 23s 1; 1925 1925 Apr 4 23s 1",
    "1926 1926 Apr 17 23s 1; 1927 1927 Apr 9 23s 1; 1928 1928 Apr 14 23s 1",
    "1928 1938 Oct Sun>=2 2s 0; 1929 1929 Apr 21 2s 1; 1930 1930 Apr 13 2s 1",
    "1931 1931 Apr 19 2s 1; 1932 1932 Apr 3 2s 1; 1933 1933 Mar 26 2s 1; 1934 1934 Apr 8 2s 1",
    "1935 1935 Mar 31 2s 1; 1936 1936 Apr 19 2s 1; 1937 1937 Apr 4 2s 1",
    "1938 1938 Mar 27 2s 1; 1939 1939 Apr 16 2s 1; 1939 1939 Nov 19 2s 0",
    "1940 1940 Feb 25 2s 1; 1944 1944 Sep 17 2s 0; 1945 1945 Apr 2 2s 1",
    "1945 1945 Sep 16 2s 0; 1946 1946 May 19 2s 1; 1946 1946 Oct 7 2s 0"]),
  ("c", [
    "1916 1916 Apr 30 23 1; 1916 1916 Oct 1 1 0; 1917 1918 Apr Mon>=15 2s 1",
    "1917 1918 Sep Mon>=15 2s 0; 1940 1940 Apr 1 2s 1; 1942 1942 Nov 2 2s 0",
    "1943 1943 Mar 29 2s 1; 1943 1943 Oct 4 2s 0; 1944 1945 Apr Mon>=1 2s 1",
    "1944 1944 Oct 2 2s 0; 1945 1945 Sep 16 2s 0; 1977 1980 Apr Sun>=1 2s 1",
    "1977 1977 Sep lastSun 2s 0; 1978 1978 Oct 1 2s 0; 1979 1995 Sep lastSun 2s 0",
    "1981 max Mar lastSun 2s 1; 1996 max Oct lastSun 2s 0"]),
  ("d", [
    "1916 1916 Jun 14 23s 1; 1916 1919 Oct Sun>=1 23s 0; 1917 1917 Mar 24 23s 1",
    "1918 1918 Mar 9 23s 1; 1919 1919 Mar 1 23s 1; 1920 1920 Feb 14 23s 1",
    "1920 1920 Oct 23 23s 0; 1921 1921 Mar 14 23s 1; 1921 1921 Jun 21 23s 0",
    "1939 1939 Sep 11 23s 1; 1939 1939 Nov 19 1 0; 1944 1945 Apr Mon>=1 2 1",
    "1944 1944 Oct 8 2 0; 1945 1945 Sep 16 1 0; 1971 1971 Apr 25 23s 1",
    "1971 1971 Sep 26 23s 0; 1977 1977 May 6 0 1; 1977 1977 Oct 21 0 0; 1978 1978 Mar 24 1 1",
    "1978 1978 Sep 22 3 0; 1980 1980 Apr 25 0 1; 1980 1980 Oct 31 2 0"]),
  ("e", [
    "1977 1980 Apr Sun>=1 0 1; 1977 1977 Sep lastSun 0 0; 1978 1978 Oct 1 0 0",
    "1979 1995 Sep lastSun 0 0; 1981 max Mar lastSun 0 1; 1996 max Oct lastSun 0 0"]),
  ("f", [
    "1946 1946 May 15 0 1; 1946 1946 Oct 1 0 0; 1947 1947 Apr 15 0 1; 1947 1947 Nov 1 0 0",
    "1948 1951 May 1 0 1; 1948 1951 Oct 1 0 0; 1952 1952 Mar 1 0 1; 1952 1954 Nov 1 0 0",
    "1953 1959 Apr 1 0 1; 1955 1961 Oct 1 0 0; 1960 1961 Jun 1 0 1; 1974 1975 Apr 1 0 1",
    "1974 1975 Oct 1 0 0; 1979 1979 Jul 1 0 1; 1979 1979 Oct 1 0 0"]),
  ("g", [
    "1932 1932 Jul 7 0 1; 1932 1932 Sep 1 0 0; 1941 1941 Apr 7 0 1; 1942 1942 Nov 2 3 0",
    "1943 1943 Mar 30 0 1; 1943 1943 Oct 4 0 0; 1952 1952 Jul 1 0 1; 1952 1952 Nov 2 0 0",
    "1975 1975 Apr 12 0s 1; 1975 1975 Nov 26 0s 0; 1976 1976 Apr 11 2s 1",
    "1976 1976 Oct 10 2s 0; 1977 1978 Apr Sun>=1 2s 1; 1977 1977 Sep 26 2s 0",
    "1978 1978 Sep 24 4 0; 1979 1979 Apr 1 9 1; 1979 1979 Sep 29 2 0; 1980 1980 Apr 1 0 1",
    "1980 1980 Sep 28 0 0"]),
  ("h", [
    "1918 1919 Apr 15 2 1; 1918 1920 Sep Mon>=15 3 0; 1920 1920 Apr 5 2 1",
    "1945 1945 May 1 23 1; 1945 1945 Nov 1 1 0; 1946 1946 Mar 31 2s 1; 1946 1946 Oct 7 2 0",
    "1947 1949 Apr Sun>=4 2s 1; 1947 1949 Oct Sun>=1 2s 0; 1954 1954 May 23 0 1",
    "1954 1954 Oct 3 0 0; 1955 1955 May 22 2 1; 1955 1955 Oct 2 3 0; 1956 1957 Jun Sun>=1 2 1",
    "1956 1957 Sep lastSun 3 0; 1980 1980 Apr 6 0 1; 1980 1980 Sep 28 1 0",
    "1981 1983 Mar lastSun 0 1; 1981 1983 Sep lastSun 1 0"]),
  ("i", [
    "1910 1910 Jan 1 0 0; 1977 1977 Mar 21 23 1; 1977 1977 Oct 20 24 0; 1978 1978 Mar 24 24 1",
    "1978 1978 Aug 5 1 0; 1979 1979 May 26 24 1; 1979 1979 Sep 18 24 0; 1980 1980 Mar 20 24 1",
    "1980 1980 Sep 22 24 0; 1991 1991 May 2 24 1; 1992 1995 Mar 21 24 1",
    "1991 1995 Sep 21 24 0; 1996 1996 Mar 20 24 1; 1996 1996 Sep 20 24 0",
    "1997 1999 Mar 21 24 1; 1997 1999 Sep 21 24 0; 2000 2000 Mar 20 24 1",
    "2000 2000 Sep 20 24 0; 2001 2003 Mar 21 24 1; 2001 2003 Sep 21 24 0",
    "2004 2004 Mar 20 24 1; 2004 2004 Sep 20 24 0; 2005 2005 Mar 21 24 1",
    "2005 2005 Sep 21 24 0; 2008 2008 Mar 20 24 1; 2008 2008 Sep 20 24 0",
    "2009 2011 Mar 21 24 1; 2009 2011 Sep 21 24 0; 2012 2012 Mar 20 24 1",
    "2012 2012 Sep 20 24 0; 2013 2015 Mar 21 24 1; 2013 2015 Sep 21 24 0",
    "2016 2016 Mar 20 24 1; 2016 2016 Sep 20 24 0; 2017 2019 Mar 21 24 1",
    "2017 2019 Sep 21 24 0; 2020 2020 Mar 20 24 1; 2020 2020 Sep 20 24 0",
    "2021 2022 Mar 21 24 1; 2021 2022 Sep 21 24 0"]),
  ("j", [
    "1917 1917 Apr 8 2 1; 1917 1917 Sep 17 2 0; 1919 1919 May 5 23 1; 1919 1919 Aug 12 23 0",
    "1920 1935 May Sun>=1 23 1; 1920 1935 Oct lastSun 23 0; 1936 1941 May Mon>=9 0 1",
    "1936 1941 Oct Mon>=2 0 0; 1946 1950 May Sun>=8 2 1; 1946 1950 Oct Sun>=2 2 0",
    "1951 1986 Apr lastSun 2 1; 1951 1959 Sep lastSun 2 0; 1960 1986 Oct lastSun 2 0",
    "1987 1987 Apr Sun>=1 0:1 1; 1987 2006 Oct lastSun 0:1 0; 1988 1988 Apr Sun>=1 0:1 2",
    "1989 2006 Apr Sun>=1 0:1 1; 2007 2011 Mar Sun>=8 0:1 1; 2007 2010 Nov Sun>=1 0:1 0"]),
  ("k", [
    "1974 1974 Nov Sun>=1 2:45s 1; 1975 1975 Feb lastSun 2:45s 0",
    "1975 1988 Oct lastSun 2:45s 1; 1976 1989 Mar Sun>=1 2:45s 0",
    "1989 1989 Oct Sun>=8 2:45s 1; 1990 2006 Oct Sun>=1 2:45s 1",
    "1990 2007 Mar Sun>=15 2:45s 0; 2007 max Sep lastSun 2:45s 1; 2008 max Apr Sun>=1 2:45s 0"]),
  ("l", [
    "1920 1920 Mar 28 0 1; 1920 1920 Oct 25 0 0; 1921 1921 Apr 3 0 1; 1921 1921 Oct 3 0 0",
    "1922 1922 Mar 26 0 1; 1922 1922 Oct 8 0 0; 1923 1923 Apr 22 0 1; 1923 1923 Sep 16 0 0",
    "1957 1961 May 1 0 1; 1957 1961 Oct 1 0 0; 1972 1972 Jun 22 0 1; 1972 1977 Oct 1 0 0",
    "1973 1977 May 1 0 1; 1978 1978 Apr 30 0 1; 1978 1978 Sep 30 0 0; 1984 1987 May 1 0 1",
    "1984 1991 Oct 16 0 0; 1988 1988 Jun 1 0 1; 1989 1989 May 10 0 1; 1990 1992 May 1 0 1",
    "1992 1992 Oct 4 0 0; 1993 max Mar lastSun 0 1; 1993 1998 Sep lastSun 0 0",
    "1999 max Oct lastSun 0 0"]),
  ("m", [
    "1931 1931 May 1 23 1; 1931 1931 Oct 1 0 0; 1939 1939 Feb 5 0 1; 1939 1939 Jun 25 0 0",
    "1940 1940 Dec 9 0 1; 1941 1941 Apr 1 0 0; 1943 1943 Dec 16 0 1; 1944 1944 May 1 0 0",
    "1950 1950 Feb 12 0 1; 1950 1950 Jul 30 0 0; 1996 2000 Apr Sun>=1 2 1",
    "1996 2000 Oct lastSun 2 0; 2001 2001 May Sun>=1 2 1; 2001 2001 Sep lastSun 2 0",
    "2002 2022 Apr Sun>=1 2 1; 2002 2022 Oct lastSun 2 0"]),
  ("n", [
    "1939 1939 Apr 15 23s 1; 1939 1939 Nov 18 23s 0; 1940 1940 Feb 25 23s 1",
    "1941 1941 Oct 6 0 0; 1942 1942 Mar 9 0 1; 1942 1942 Nov 2 3 0; 1943 1943 Mar 29 2 1",
    "1943 1943 Apr 17 2 0; 1943 1943 Apr 25 2 1; 1943 1943 Oct 4 2 0",
    "1944 1945 Apr Mon>=1 2 1; 1944 1944 Oct 8 0 0; 1945 1945 Sep 16 0 0",
    "1977 1977 Apr 30 0s 1; 1977 1977 Sep 24 0s 0; 1978 1978 May 1 0s 1; 1978 1978 Oct 1 0s 0",
    "1988 1988 Jun 1 0s 1; 1988 1990 Sep lastSun 0s 0; 1989 1989 Mar 26 0s 1",
    "1990 1990 May 1 0s 1; 2005 2005 May 1 0s 1; 2005 2005 Sep 30 1s 0",
    "2006 2008 Mar lastSun 2s 1; 2006 2008 Oct lastSun 2s 0"]),
  ("o", [
    "1933 1935 Jun Sun>=8 1 1; 1933 1935 Sep Sun>=8 1 0; 1936 1938 Jun Sun>=1 1 1",
    "1936 1938 Sep Sun>=1 1 0; 1939 1939 May 27 1 1; 1939 1941 Sep Sat>=21 1 0",
    "1940 1940 May 19 1 1; 1941 1941 May 4 1 1; 1946 1972 Apr lastSun 2 1",
    "1946 1956 Sep lastSun 2 0; 1957 1972 Oct lastSun 2 0; 1993 2006 Apr Sun>=1 0:1 1",
    "1993 2006 Oct lastSun 0:1 0"]),
  ("p", [
    "1916 1916 Jun 17 23 1; 1916 1916 Nov 1 1 0; 1917 1917 Feb 28 23s 1",
    "1917 1921 Oct 14 23s 0; 1918 1918 Mar 1 23s 1; 1919 1919 Feb 28 23s 1",
    "1920 1920 Feb 29 23s 1; 1921 1921 Feb 28 23s 1; 1924 1924 Apr 16 23s 1",
    "1924 1924 Oct 14 23s 0; 1926 1926 Apr 17 23s 1; 1926 1929 Oct Sat>=1 23s 0",
    "1927 1927 Apr 9 23s 1; 1928 1928 Apr 14 23s 1; 1929 1929 Apr 20 23s 1",
    "1931 1931 Apr 18 23s 1; 1931 1932 Oct Sat>=1 23s 0; 1932 1932 Apr 2 23s 1",
    "1934 1934 Apr 7 23s 1; 1934 1938 Oct Sat>=1 23s 0; 1935 1935 Mar 30 23s 1",
    "1936 1936 Apr 18 23s 1; 1937 1937 Apr 3 23s 1; 1938 1938 Mar 26 23s 1",
    "1939 1939 Apr 15 23s 1; 1939 1939 Nov 18 23s 0; 1940 1940 Feb 24 23s 1",
    "1940 1941 Oct 5 23s 0; 1941 1941 Apr 5 23s 1; 1942 1945 Mar Sat>=8 23s 1",
    "1942 1942 Apr 25 22s 2; 1942 1942 Aug 15 22s 1; 1942 1945 Oct Sat>=24 23s 0",
    "1943 1943 Apr 17 22s 2; 1943 1945 Aug Sat>=25 22s 1; 1944 1945 Apr Sat>=21 22s 2",
    "1946 1946 Apr Sat>=1 23s 1; 1946 1946 Oct Sat>=1 23s 0; 1947 1965 Apr Sun>=1 2s 1",
    "1947 1965 Oct Sun>=1 2s 0; 1977 1977 Mar 27 0s 1; 1977 1977 Sep 25 0s 0",
    "1978 1979 Apr Sun>=1 0s 1; 1978 1978 Oct 1 0s 0; 1979 1982 Sep lastSun 1s 0",
    "1980 1980 Mar lastSun 0s 1; 1981 1982 Mar lastSun 1s 1; 1983 1983 Mar lastSun 2s 1"]),
  ("q", [
    "1940 1940 Jun 16 0 1; 1942 1942 Nov 2 3 0; 1943 1943 Mar 29 2 1; 1943 1943 Apr 10 3 0",
    "1974 1974 May 4 0 1; 1974 1974 Oct 2 0 0; 1975 1975 May 1 0 1; 1975 1975 Oct 2 0 0",
    "1976 1976 May 2 0 1; 1976 1976 Oct 3 0 0; 1977 1977 May 8 0 1; 1977 1977 Oct 2 0 0",
    "1978 1978 May 6 0 1; 1978 1978 Oct 1 0 0; 1979 1979 May 5 0 1; 1979 1979 Sep 30 0 0",
    "1980 1980 May 3 0 1; 1980 1980 Oct 4 0 0; 1981 1981 Apr 26 0 1; 1981 1981 Sep 27 0 0",
    "1982 1982 May 2 0 1; 1982 1982 Oct 3 0 0; 1983 1983 Apr 18 0 1; 1983 1983 Oct 1 0 0",
    "1984 1984 Apr 1 0 1"]),
  ("r", [
    "1918 1918 Apr 14 2 1; 1918 1918 Oct 27 2 0; 1930 1934 May Sun>=1 0 1",
    "1930 1934 Oct Sun>=1 0 0; 1937 1941 Apr Sun>=8 0 1; 1937 1937 Oct Sun>=8 0 0",
    "1938 1938 Oct Sun>=1 0 0; 1939 1941 Oct Sun>=8 0 0; 1942 1942 Feb 9 2 1",
    "1945 1945 Aug 14 23u 1; 1945 1945 Sep lastSun 2 0; 1946 1946 Apr Sun>=8 2 1",
    "1946 1946 Oct Sun>=8 2 0; 1947 1957 Apr lastSun 2 1; 1947 1957 Sep lastSun 2 0",
    "1959 1959 Apr lastSun 2 1; 1959 1959 Oct lastSun 2 0"]),
  ("s", [
    "1918 1918 Apr 15 23 1; 1918 1919 Oct 6 24s 0; 1919 1919 Apr 6 23 1",
    "1924 1924 Apr 16 23 1; 1924 1924 Oct 4 24s 0; 1926 1926 Apr 17 23 1",
    "1926 1929 Oct Sat>=1 24s 0; 1927 1927 Apr 9 23 1; 1928 1928 Apr 15 0 1",
    "1929 1929 Apr 20 23 1; 1937 1937 Jun 16 23 1; 1937 1937 Oct 2 24s 0",
    "1938 1938 Apr 2 23 1; 1938 1938 Apr 30 23 2; 1938 1938 Oct 2 24 1; 1939 1939 Oct 7 24s 0",
    "1942 1942 May 2 23 1; 1942 1942 Sep 1 1 0; 1943 1946 Apr Sat>=13 23 1",
    "1943 1944 Oct Sun>=1 1 0; 1945 1946 Sep lastSun 1 0; 1949 1949 Apr 30 23 1",
    "1949 1949 Oct 2 1 0; 1974 1975 Apr Sat>=12 23 1; 1974 1975 Oct Sun>=1 1 0",
    "1976 1976 Mar 27 23 1; 1976 1977 Sep lastSun 1 0; 1977 1977 Apr 2 23 1",
    "1978 1978 Apr 2 2s 1; 1978 1978 Oct 1 2s 0"]),
  ("t", [
    "1919 1919 Mar 30 23:30 1; 1919 1919 Oct 26 0 0; 1920 1920 May 2 2 1",
    "1920 1920 Sep 26 0 0; 1921 1921 May 15 2 1; 1921 1921 Sep 15 2 0",
    "1922 1923 May Sun>=8 2 1; 1922 1926 Sep Sun>=15 2 0; 1924 1927 May Sun>=1 2 1",
    "1927 1937 Sep Sun>=25 2 0; 1928 1937 Apr Sun>=25 2 1; 1938 1940 Apr lastSun 2 1",
    "1938 1939 Sep lastSun 2 0; 1945 1948 Sep lastSun 2 0; 1946 1973 Apr lastSun 2 1",
    "1949 1950 Nov lastSun 2 0; 1951 1956 Sep lastSun 2 0; 1957 1973 Oct lastSun 2 0"]),
  ("u", [
    "1918 1919 Mar lastSun 2 1; 1918 1919 Oct lastSun 2 0; 1942 1942 Feb 9 2 1",
    "1945 1945 Aug 14 23u 1; 1945 1945 Sep 30 2 0; 1967 2006 Oct lastSun 2 0",
    "1967 1973 Apr lastSun 2 1; 1974 1974 Jan 6 2 1; 1975 1975 Feb lastSun 2 1",
    "1976 1986 Apr lastSun 2 1; 1987 2006 Apr Sun>=1 2 1; 2007 max Mar Sun>=8 2 1",
    "2007 max Nov Sun>=1 2 0"]),
  ("v", [
    "1921 1921 May 1 2 1; 1921 1921 Sep 1 2 0; 1941 1941 Apr lastSun 2 1",
    "1941 1941 Sep lastSun 2 0; 1946 1946 Apr lastSun 0:1 1; 1946 1946 Jun 2 2 0",
    "1950 1961 Apr lastSun 2 1; 1950 1955 Sep lastSun 2 0; 1956 1961 Oct lastSun 2 0"]),
  ("x", [
    "1927 1931 Sep 1 0 1; 1928 1932 Apr 1 0 0; 1968 1968 Nov 3 4u 1; 1969 1969 Mar 30 3u 0",
    "1969 1969 Nov 23 4u 1; 1970 1970 Mar 29 3u 0; 1971 1971 Mar 14 3u 0",
    "1970 1972 Oct Sun>=9 4u 1; 1972 1986 Mar Sun>=9 3u 0; 1973 1973 Sep 30 4u 1",
    "1974 1987 Oct Sun>=9 4u 1; 1987 1987 Apr 12 3u 0; 1988 1990 Mar Sun>=9 3u 0",
    "1988 1989 Oct Sun>=9 4u 1; 1990 1990 Sep 16 4u 1; 1991 1996 Mar Sun>=9 3u 0",
    "1991 1997 Oct Sun>=9 4u 1; 1997 1997 Mar 30 3u 0; 1998 1998 Mar Sun>=9 3u 0",
    "1998 1998 Sep 27 4u 1; 1999 1999 Apr 4 3u 0; 1999 2010 Oct Sun>=9 4u 1",
    "2000 2007 Mar Sun>=9 3u 0; 2008 2008 Mar 30 3u 0; 2009 2009 Mar Sun>=9 3u 0",
    "2010 2010 Apr Sun>=1 3u 0; 2011 2011 May Sun>=2 3u 0; 2011 2011 Aug Sun>=16 4u 1",
    "2012 2014 Apr Sun>=23 3u 0; 2012 2014 Sep Sun>=2 4u 1; 2016 2018 May Sun>=9 3u 0",
    "2016 2018 Aug Sun>=9 4u 1; 2019 max Apr Sun>=2 3u 0; 2019 2021 Sep Sun>=2 4u 1",
    "2022 2022 Sep Sun>=9 4u 1; 2023 max Sep Sun>=2 4u 1"]),
  ("y", [
    "1975 1988 Oct 1 0 1; 1975 1978 Mar 1 0 0; 1979 1991 Apr 1 0 0; 1989 1989 Oct 22 0 1",
    "1990 1990 Oct 1 0 1; 1991 1991 Oct 6 0 1; 1992 1992 Mar 1 0 0; 1992 1992 Oct 5 0 1",
    "1993 1993 Mar 31 0 0; 1993 1995 Oct 1 0 1; 1994 1995 Feb lastSun 0 0",
    "1996 1996 Mar 1 0 0; 1996 2001 Oct Sun>=1 0 1; 1997 1997 Feb lastSun 0 0",
    "1998 2001 Mar Sun>=1 0 0; 2002 2004 Apr Sun>=1 0 0; 2002 2003 Sep Sun>=1 0 1",
    "2004 2009 Oct Sun>=15 0 1; 2005 2009 Mar Sun>=8 0 0; 2010 max Oct Sun>=1 0 1",
    "2010 2012 Apr Sun>=8 0 0; 2013 max Mar Sun>=22 0 0"]),
  ("z", [
    "1932 1932 May 21 0s 1; 1932 1939 Oct Sun>=1 0s 0; 1933 1939 Apr Sun>=2 0s 1",
    "1979 1979 May 27 0 1; 1979 1979 Sep lastSun 0 0; 1980 1980 Apr 5 23 1",
    "1980 1980 Sep lastSun 1 0; 1991 1993 Mar lastSun 0s 1; 1991 1993 Sep lastSun 0s 0"])]

end TableQuery
