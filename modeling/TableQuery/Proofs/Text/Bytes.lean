import Mathlib.Data.List.TakeWhile
import TableQuery.Text.Basic

/-!
# Texts as bytes and as characters

The bytes of a text are those of its characters, one character after the other. A character of one
byte is below 128, and of the other characters every byte is at least 128; so digits and other ASCII
characters are found byte by byte, and what is found between two of them lies between characters.
-/

namespace TableQuery.Text

/-- The bytes of characters. -/
def encoded (cs : List Char) : List UInt8 :=
  cs.flatMap String.utf8EncodeChar

/-- The bytes of a text from a position on. -/
def bytesFrom (text : String) (i : Nat) : List UInt8 :=
  (encoded text.toList).drop i

/-- The bytes of characters in a row. -/
theorem encoded_append (front rest : List Char) :
    encoded (front ++ rest) = encoded front ++ encoded rest :=
  List.flatMap_append

/-- Some characters have some bytes. -/
theorem length_encoded_pos {cs : List Char} (h : cs ≠ []) : 0 < (encoded cs).length := by
  obtain ⟨c, rest, rfl⟩ := List.exists_cons_of_ne_nil h
  have hbytes : 0 < (String.utf8EncodeChar c).length :=
    List.length_pos_iff.2 String.utf8EncodeChar_ne_nil
  rw [encoded, List.flatMap_cons, List.length_append]
  omega

/-- A text is stored as the bytes of its characters. -/
theorem toList_toByteArray (text : String) :
    text.toByteArray.data.toList = encoded text.toList := by
  obtain ⟨cs, rfl⟩ := text.exists_eq_ofList
  rw [String.toByteArray_ofList, String.toList_ofList, List.utf8Encode, List.data_toByteArray]
  rfl

/-- The size of a text is the number of its bytes. -/
theorem length_encoded (text : String) : (encoded text.toList).length = text.utf8ByteSize := by
  rw [← toList_toByteArray, Array.length_toList, ← String.size_toByteArray]
  rfl

/-- Inside of a text the bytes begin with the one at the position. -/
theorem bytesFrom_of_lt {text : String} {i : Nat} (h : i < text.utf8ByteSize) :
    bytesFrom text i = text.getUTF8Byte ⟨i⟩ h :: bytesFrom text (i + 1) := by
  have hlength : i < text.toByteArray.data.toList.length := by
    rwa [toList_toByteArray, length_encoded]
  rw [bytesFrom, bytesFrom, ← toList_toByteArray, List.drop_eq_getElem_cons hlength]
  rfl

/-- Behind a text there are no bytes. -/
theorem bytesFrom_of_le {text : String} {i : Nat} (h : text.utf8ByteSize ≤ i) :
    bytesFrom text i = [] := by
  rwa [bytesFrom, List.drop_eq_nil_iff, length_encoded]

/-- Behind its first characters the bytes of a text are those of the other ones. -/
theorem bytesFrom_append {text : String} {front rest : List Char}
    (h : text.toList = front ++ rest) : bytesFrom text (encoded front).length = encoded rest := by
  rw [bytesFrom, h, encoded_append, List.drop_left]

/-- Between the ends of two texts at its beginning a text can be cut out. -/
theorem slice?_append (before middle after : String) :
    slice? (before ++ middle ++ after) before.utf8ByteSize (before ++ middle).utf8ByteSize =
      some middle := by
  have hfirst : String.Pos.Raw.IsValid (before ++ middle ++ after) ⟨before.utf8ByteSize⟩ :=
    String.Pos.Raw.isValid_iff_exists_append.2
      ⟨before, middle ++ after, String.append_assoc .., rfl⟩
  have hlast : String.Pos.Raw.IsValid (before ++ middle ++ after)
      ⟨(before ++ middle).utf8ByteSize⟩ :=
    String.Pos.Raw.isValid_iff_exists_append.2 ⟨before ++ middle, after, rfl, rfl⟩
  have hle : before.utf8ByteSize ≤ (before ++ middle).utf8ByteSize := by
    rw [String.utf8ByteSize_append]
    omega
  have hextract : (before.toByteArray ++ middle.toByteArray ++ after.toByteArray).extract
      before.utf8ByteSize (before ++ middle).utf8ByteSize = middle.toByteArray := by
    have hfront := ByteArray.extract_append_size_add (a := before.toByteArray)
      (b := middle.toByteArray ++ after.toByteArray) (i := 0) (j := middle.toByteArray.size)
    rw [Nat.add_zero] at hfront
    rw [ByteArray.append_assoc, ← String.size_toByteArray, ← String.size_toByteArray,
      String.toByteArray_append, ByteArray.size_append, hfront,
      ByteArray.extract_append_eq_left rfl]
  rw [slice?, dif_pos ⟨hle, hfirst, hlast⟩, Option.some_inj, ← String.toByteArray_inj,
    String.toByteArray_extract, String.toByteArray_append, String.toByteArray_append]
  exact hextract

/-- What lies between characters of a text can be cut out of it. -/
theorem slice?_of_toList {text : String} {front middle rest : List Char}
    (h : text.toList = front ++ middle ++ rest) :
    slice? text (encoded front).length (encoded (front ++ middle)).length =
      some (String.ofList middle) := by
  have hsize (cs : List Char) : (String.ofList cs).utf8ByteSize = (encoded cs).length := by
    rw [← length_encoded, String.toList_ofList]
  have htext : text = String.ofList front ++ String.ofList middle ++ String.ofList rest := by
    rw [← String.toList_inj, h]
    simp
  have hslice := slice?_append (String.ofList front) (String.ofList middle) (String.ofList rest)
  rwa [← htext, ← String.ofList_append, hsize, hsize] at hslice

/-- An ASCII character is one byte. -/
theorem utf8EncodeChar_ascii {c : Char} (h : c.toNat < 128) :
    String.utf8EncodeChar c = [c.toUInt8] := by
  have hle : c.val.toNat ≤ 127 := Nat.le_of_lt_succ h
  rw [String.utf8EncodeChar]
  exact if_pos hle

/-- The byte of an ASCII character has its number. -/
theorem toNat_toUInt8 {c : Char} (h : c.toNat < 128) : c.toUInt8.toNat = c.toNat := by
  have hbyte : c.toUInt8.toNat = c.toNat % 2 ^ 8 := UInt8.toNat_ofNat'
  omega

/-- An ASCII character takes one byte more. -/
theorem length_encoded_ascii {c : Char} (hc : c.toNat < 128) (front : List Char) :
    (encoded (front ++ [c])).length = (encoded front).length + 1 := by
  rw [encoded_append, List.length_append, encoded, encoded, List.flatMap_singleton,
    utf8EncodeChar_ascii hc, List.length_singleton]

/-- An ASCII character is found as the byte behind those in front of it. -/
theorem getUTF8Byte_ascii {text : String} {front rest : List Char} {c : Char} (hc : c.toNat < 128)
    (h : text.toList = front ++ c :: rest) : ∃ hi : (encoded front).length < text.utf8ByteSize,
      text.getUTF8Byte ⟨(encoded front).length⟩ hi = c.toUInt8 := by
  have hbytes : bytesFrom text (encoded front).length = c.toUInt8 :: encoded rest := by
    rw [bytesFrom_append h, encoded, List.flatMap_cons, utf8EncodeChar_ascii hc]
    rfl
  have hi : (encoded front).length < text.utf8ByteSize := by
    by_contra hend
    rw [bytesFrom_of_le (Nat.le_of_not_lt hend)] at hbytes
    cases hbytes
  rw [bytesFrom_of_lt hi] at hbytes
  exact ⟨hi, (List.cons.inj hbytes).1⟩

/-- Every byte of a character that is not ASCII is at least 128. -/
theorem le_of_mem_utf8EncodeChar {c : Char} (h : 128 ≤ c.toNat) :
    ∀ b ∈ String.utf8EncodeChar c, 128 ≤ b.toNat := by
  have hmore : ¬c.val.toNat ≤ 127 := Nat.not_le.2 h
  rw [String.utf8EncodeChar]
  simp only [if_neg hmore]
  -- two, three or four bytes
  split
  · simp only [List.forall_mem_cons, UInt8.toNat_ofNat']
    exact ⟨by omega, by omega, List.forall_mem_nil _⟩
  · split
    · simp only [List.forall_mem_cons, UInt8.toNat_ofNat']
      exact ⟨by omega, by omega, by omega, List.forall_mem_nil _⟩
    · simp only [List.forall_mem_cons, UInt8.toNat_ofNat']
      exact ⟨by omega, by omega, by omega, by omega, List.forall_mem_nil _⟩

/-- An ASCII character is a byte of no other character. -/
theorem notMem_utf8EncodeChar {c d : Char} (hd : d.toNat < 128) (h : c ≠ d) :
    d.toUInt8 ∉ String.utf8EncodeChar c := by
  intro hmem
  by_cases hc : c.toNat < 128
  · rw [utf8EncodeChar_ascii hc, List.mem_singleton] at hmem
    have hnat := congrArg UInt8.toNat hmem
    rw [toNat_toUInt8 hd, toNat_toUInt8 hc] at hnat
    exact h (Char.toNat_inj.1 hnat.symm)
  · have hhigh := le_of_mem_utf8EncodeChar (Nat.le_of_not_lt hc) _ hmem
    rw [toNat_toUInt8 hd] at hhigh
    omega

/-- The bytes of digits have the numbers of digits. -/
theorem isDigitByte_iff {b : UInt8} : isDigitByte b = true ↔ 48 ≤ b.toNat ∧ b.toNat ≤ 57 := by
  simp only [isDigitByte, UInt8.le_iff_toNat_le, Bool.and_eq_true, decide_eq_true_eq]
  rfl

/-- A digit is one byte, that of a digit. -/
theorem utf8EncodeChar_digit {c : Char} (h : c.isDigit = true) :
    ∃ b, String.utf8EncodeChar c = [b] ∧ isDigitByte b = true := by
  have hrange : 48 ≤ c.toNat ∧ c.toNat ≤ 57 := Char.isDigit_iff_toNat.1 h
  have hascii : c.toNat < 128 := by omega
  refine ⟨_, utf8EncodeChar_ascii hascii, ?_⟩
  rw [isDigitByte_iff, toNat_toUInt8 hascii]
  exact hrange

/-- No byte of a character that is no digit is that of a digit. -/
theorem isDigitByte_of_mem {c : Char} (h : c.isDigit = false) {b : UInt8}
    (hb : b ∈ String.utf8EncodeChar c) : isDigitByte b = false := by
  have hrange : ¬(48 ≤ c.toNat ∧ c.toNat ≤ 57) := fun hrange =>
    Bool.eq_false_iff.1 h (Char.isDigit_iff_toNat.2 hrange)
  rw [Bool.eq_false_iff, ne_eq, isDigitByte_iff]
  by_cases hc : c.toNat < 128
  · rw [utf8EncodeChar_ascii hc, List.mem_singleton] at hb
    rw [hb, toNat_toUInt8 hc]
    exact hrange
  · have hhigh := le_of_mem_utf8EncodeChar (Nat.le_of_not_lt hc) b hb
    omega

/-- The bytes of digits at the beginning are those of the digits at the beginning. -/
theorem takeWhile_encoded (cs : List Char) :
    (encoded cs).takeWhile isDigitByte = encoded (cs.takeWhile Char.isDigit) := by
  induction cs with
  | nil => rfl
  | cons c cs ih =>
    cases hc : c.isDigit with
    | true =>
      obtain ⟨b, hb, hdigit⟩ := utf8EncodeChar_digit hc
      have hcons (rest : List Char) : encoded (c :: rest) = b :: encoded rest := by
        rw [encoded, List.flatMap_cons, hb]
        rfl
      rw [List.takeWhile_cons_of_pos hc, hcons, hcons, List.takeWhile_cons_of_pos hdigit, ih]
    | false =>
      obtain ⟨b, bs, hbytes⟩ := List.exists_cons_of_ne_nil (@String.utf8EncodeChar_ne_nil c)
      have hb : isDigitByte b = false :=
        isDigitByte_of_mem hc (hbytes ▸ List.mem_cons_self)
      rw [List.takeWhile_cons_of_neg (by simp [hc]), encoded, List.flatMap_cons, hbytes,
        List.cons_append, List.takeWhile_cons_of_neg (by simp [hb])]
      rfl

/-- The digits at a position end behind the bytes of digits that begin there. -/
theorem digitsEnd_eq (text : String) (i : Nat) :
    digitsEnd text i = i + ((bytesFrom text i).takeWhile isDigitByte).length := by
  fun_induction digitsEnd text i with
  | case1 i h hdigit ih =>
    rw [ih, bytesFrom_of_lt h, List.takeWhile_cons_of_pos hdigit, List.length_cons]
    omega
  | case2 i h hdigit =>
    rw [bytesFrom_of_lt h, List.takeWhile_cons_of_neg hdigit]
    rfl
  | case3 i h =>
    rw [bytesFrom_of_le (Nat.le_of_not_lt h)]
    rfl

/-- Behind the first characters of a text the digits end where the digits among the other ones
do. -/
theorem digitsEnd_append {text : String} {front rest : List Char}
    (h : text.toList = front ++ rest) : digitsEnd text (encoded front).length =
      (encoded (front ++ rest.takeWhile Char.isDigit)).length := by
  rw [digitsEnd_eq, bytesFrom_append h, takeWhile_encoded, encoded_append, List.length_append]

end TableQuery.Text
