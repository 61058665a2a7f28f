/-!
# Texts

Blanks in texts, the cutting of texts, and texts byte by byte.
-/

/-!
## Blank characters

Blank means the Unicode property White_Space. Column specs drop every blank, expressions and
environment values are trimmed of blanks, and operators are split into words at blanks.
Zero-width characters and the separators U+001C to U+001F are not blank.
-/

namespace TableQuery.Text

/-- A character with the Unicode property White_Space. -/
def isBlank (c : Char) : Bool :=
  let n := c.toNat
  (9 ≤ n && n ≤ 13) || n == 0x20 || n == 0x85 || n == 0xA0 || n == 0x1680 ||
    (0x2000 ≤ n && n ≤ 0x200A) || n == 0x2028 || n == 0x2029 || n == 0x202F ||
    n == 0x205F || n == 0x3000

/-- The text without its leading blanks. -/
def trimStart (cs : List Char) : List Char :=
  cs.dropWhile isBlank

/-- The text without its trailing blanks. -/
def trimEnd (cs : List Char) : List Char :=
  (cs.reverse.dropWhile isBlank).reverse

/-- The text without the blanks at its two ends. -/
def trimChars (cs : List Char) : List Char :=
  trimEnd (trimStart cs)

/-- `trimChars` on strings. -/
def trim (s : String) : String :=
  String.ofList (trimChars s.toList)

/-- The text without any blank. -/
def strip (s : String) : String :=
  String.ofList (s.toList.filter fun c => !isBlank c)

/-- The text is empty or holds blanks only. -/
def isBlankText (s : String) : Bool :=
  s.toList.all isBlank

/-- The words of a text, the first of them already begun with the characters `word` read in
reverse. Words are separated by one or more blanks and are never empty. -/
def wordsFrom (word : List Char) : List Char → List (List Char)
  | [] => if word.isEmpty then [] else [word.reverse]
  | c :: cs =>
    if isBlank c then
      if word.isEmpty then wordsFrom [] cs else word.reverse :: wordsFrom [] cs
    else wordsFrom (c :: word) cs

/-- The maximal runs of characters that are not blank, in order. -/
def words (cs : List Char) : List (List Char) :=
  wordsFrom [] cs

/-!
## Cutting texts

Texts are cut at the first occurrence of a pattern or at every occurrence of a character. All cuts
work on lists of characters and lose nothing but the pattern itself.
-/

/-- The text before and after the first occurrence of `pattern`. -/
def cutAt (pattern : List Char) : List Char → Option (List Char × List Char)
  | [] => if pattern.isEmpty then some ([], []) else none
  | c :: cs =>
    if pattern.isPrefixOf (c :: cs) then some ([], (c :: cs).drop pattern.length)
    else (cutAt pattern cs).map fun (before, after) => (c :: before, after)

/-- The pattern and the two parts of a cut make up the whole text. -/
theorem append_of_cutAt {pattern cs before after : List Char}
    (h : cutAt pattern cs = some (before, after)) : cs = before ++ pattern ++ after := by
  induction cs generalizing before after with
  | nil =>
    simp only [cutAt] at h
    split at h
    · next hp => cases h; simpa using hp
    · cases h
  | cons c cs ih =>
    simp only [cutAt] at h
    split at h
    · next hp =>
      obtain ⟨tail, ht⟩ := List.isPrefixOf_iff_prefix.1 hp
      cases h
      rw [← ht]
      simp
    · obtain ⟨⟨b, a⟩, hb, he⟩ := Option.map_eq_some_iff.1 h
      cases he
      rw [ih hb]
      simp

/-- The text occurs somewhere in `cs`. -/
def contains (pattern cs : List Char) : Bool :=
  (cutAt pattern cs).isSome

/-- The text between its two delimiters, if it starts with the first and, after that, ends with
the second. -/
def between? (first last : Char) : List Char → Option (List Char)
  | [] => none
  | c :: cs =>
    if c = first then
      match cs.reverse with
      | [] => none
      | d :: inner => if d = last then some inner.reverse else none
    else none

/-- The pieces of a text between the occurrences of `separator`; at least one piece. -/
def splitAt (separator : Char) : List Char → List (List Char)
  | [] => [[]]
  | c :: cs =>
    if c = separator then [] :: splitAt separator cs
    else
      match splitAt separator cs with
      | [] => [[c]]
      | piece :: pieces => (c :: piece) :: pieces

/-- A text always has a first piece. -/
theorem splitAt_ne_nil (separator : Char) (cs : List Char) : splitAt separator cs ≠ [] := by
  cases cs with
  | nil => simp [splitAt]
  | cons c cs =>
    simp only [splitAt]
    split
    · simp
    · split <;> simp

/-- Replace every occurrence of one character by another. -/
def replaceChar (old new : Char) (s : String) : String :=
  String.ofList (s.toList.map fun c => if c = old then new else c)

/-- Joining texts with a separator between neighbours. -/
def join (separator : String) (parts : List String) : String :=
  String.intercalate separator parts

/-!
## Texts byte by byte

A text can be gone through along the bytes of its UTF-8 form. Positions then count bytes and may lie
inside a character; a part can be taken out of a text only between characters.
-/

/-- The byte of a digit. -/
def isDigitByte (b : UInt8) : Bool :=
  '0'.toUInt8 ≤ b && b ≤ '9'.toUInt8

/-- The end of the digits that stand at a position, which is the position itself if there are
none. -/
def digitsEnd (text : String) (i : Nat) : Nat :=
  if h : i < text.utf8ByteSize then
    if isDigitByte (text.getUTF8Byte ⟨i⟩ h) then digitsEnd text (i + 1) else i
  else i
termination_by text.utf8ByteSize - i

/-- The part of a text between two positions. There is none if they are out of order, or if one of
them lies outside of the text or inside a character. -/
def slice? (text : String) (first last : Nat) : Option String :=
  if h : first ≤ last ∧ String.Pos.Raw.IsValid text ⟨first⟩ ∧ String.Pos.Raw.IsValid text ⟨last⟩
  then some (text.extract (text.pos ⟨first⟩ h.2.1) (text.pos ⟨last⟩ h.2.2))
  else none

end TableQuery.Text
