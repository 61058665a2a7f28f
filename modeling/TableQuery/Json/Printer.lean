import TableQuery.Decimal.Shortest
import TableQuery.Json.Basic

/-!
# Printing JSON

The compact form, without any blank, and the indented form. Strings escape quotes, backslashes and
the characters below U+0020 and nothing else.
-/

namespace TableQuery.Json

/-- A hexadecimal digit in lower case. -/
def hexDigit (n : Nat) : Char :=
  Nat.digitChar n

/-- A character as it stands inside quotes. -/
def escape (c : Char) : List Char :=
  match c with
  | '"' => ['\\', '"']
  | '\\' => ['\\', '\\']
  | '\x08' => ['\\', 'b']
  | '\t' => ['\\', 't']
  | '\n' => ['\\', 'n']
  | '\x0c' => ['\\', 'f']
  | '\r' => ['\\', 'r']
  | c =>
    if c.toNat < 0x20 then
      ['\\', 'u', '0', '0', hexDigit (c.toNat / 16), hexDigit (c.toNat % 16)]
    else [c]

/-- A text in quotes. -/
def quoted (s : String) : List Char :=
  '"' :: s.toList.flatMap escape ++ ['"']

mutual

/-- The characters of the compact form. -/
def chars : Json → List Char
  | .null => "null".toList
  | .bool b => (if b then "true" else "false").toList
  | .integer n => Decimal.intChars n
  | .float x => (Decimal.Layout.document.text x).toList
  | .string s => quoted s
  | .array items => '[' :: itemChars true items ++ [']']
  | .object fields => '\x7b' :: fieldChars true fields ++ ['\x7d']

/-- The items of an array, a comma in front of each but the first. -/
def itemChars (first : Bool) : List Json → List Char
  | [] => []
  | item :: rest => (if first then [] else [',']) ++ item.chars ++ itemChars false rest

/-- The fields of an object, a comma in front of each but the first. -/
def fieldChars (first : Bool) : List (String × Json) → List Char
  | [] => []
  | (name, value) :: rest =>
    (if first then [] else [',']) ++ quoted name ++ ':' :: value.chars ++ fieldChars false rest

end

/-- The compact form. -/
def compact (j : Json) : String :=
  String.ofList j.chars

/-- A new line with the blanks of an indentation level, two for each. -/
def lineBreak (level : Nat) : List Char :=
  '\n' :: List.replicate (2 * level) ' '

mutual

/-- The characters of the indented form at a level. -/
def indentedChars (level : Nat) : Json → List Char
  | .array [] => ['[', ']']
  | .array items => '[' :: indentedItems (level + 1) true items ++ lineBreak level ++ [']']
  | .object [] => ['\x7b', '\x7d']
  | .object fields =>
    '\x7b' :: indentedFields (level + 1) true fields ++ lineBreak level ++ ['\x7d']
  | j => j.chars

/-- The items of an array, each on a line of its own. -/
def indentedItems (level : Nat) (first : Bool) : List Json → List Char
  | [] => []
  | item :: rest =>
    (if first then [] else [',']) ++ lineBreak level ++ item.indentedChars level ++
      indentedItems level false rest

/-- The fields of an object, each on a line of its own. -/
def indentedFields (level : Nat) (first : Bool) : List (String × Json) → List Char
  | [] => []
  | (name, value) :: rest =>
    (if first then [] else [',']) ++ lineBreak level ++ quoted name ++ ':' :: ' ' ::
      value.indentedChars level ++ indentedFields level false rest

end

/-- The form with two blanks of indentation. -/
def indented (j : Json) : String :=
  String.ofList (j.indentedChars 0)

end TableQuery.Json
