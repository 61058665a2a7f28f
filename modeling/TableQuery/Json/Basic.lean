import TableQuery.Binary64.Basic
import TableQuery.Decimal.Basic

/-!
# JSON values

JSON values with ordered objects. A number is an integer of at most 64 bits or a double.
-/

namespace TableQuery

/-- A JSON value. -/
inductive Json where
  /-- The null value. -/
  | null
  /-- A truth value. -/
  | bool (b : Bool)
  /-- A number written without point and exponent that fits 64 bits, signed or unsigned. -/
  | integer (n : Int)
  /-- Any other number. -/
  | float (x : Binary64)
  /-- A text. -/
  | string (s : String)
  /-- A list of values. -/
  | array (items : List Json)
  /-- Named values, each name once, in their order. -/
  | object (fields : List (String × Json))
  deriving Inhabited, Repr

/-- The fields with one of them set: an existing name keeps its position and gets the new value,
another name is added at the end. -/
def putField {α β : Type} [DecidableEq α] (key : α) (value : β) : List (α × β) → List (α × β)
  | [] => [(key, value)]
  | (k, v) :: rest =>
    if k = key then (k, value) :: rest else (k, v) :: putField key value rest

/-- The value of a name. -/
def getField? {α β : Type} [DecidableEq α] (key : α) : List (α × β) → Option β
  | [] => none
  | (k, v) :: rest => if k = key then some v else getField? key rest

/-- The field that was set has the value it was set to; all others keep theirs. -/
theorem getField?_putField {α β : Type} [DecidableEq α] (key : α) (value : β)
    (fields : List (α × β)) (other : α) :
    getField? other (putField key value fields) =
      if key = other then some value else getField? other fields := by
  induction fields with
  | nil => simp [putField, getField?]
  | cons f rest ih =>
    obtain ⟨k, v⟩ := f
    by_cases h : k = key
    · subst h
      by_cases o : k = other <;> simp [putField, getField?, o]
    · by_cases o : k = other
      · subst o
        simp [putField, getField?, h, Ne.symm h]
      · simp [putField, getField?, h, o, ih]

/-- A list of pairs gathered into fields; the last value of a name wins. -/
def gatherFields {α β : Type} [DecidableEq α] (pairs : List (α × β)) : List (α × β) :=
  pairs.foldl (fun fields p => putField p.1 p.2 fields) []

namespace Json

/-- The text of a string value. -/
def asString? : Json → Option String
  | .string s => some s
  | _ => none

/-- The value of an object's field. -/
def field? (name : String) : Json → Option Json
  | .object fields => getField? name fields
  | _ => none

end Json

end TableQuery

/-!
## JSON tokens

Cuts JSON text into tokens, character by character. Numbers and strings are kept as written; whether
they have a value is asked later, because a value that nobody reads need not have one.
-/

namespace TableQuery.Json

/-- A number as written. -/
structure NumberLiteral where
  /-- The number starts with a minus sign. -/
  negative : Bool
  /-- Digits in front of the point. -/
  whole : List Char
  /-- Digits after the point, if there is one. -/
  fraction : Option (List Char)
  /-- Sign and digits of the exponent, if there is one. -/
  exponent : Option (Bool × List Char)
  deriving DecidableEq, Repr

/-- A character of a string, or a code unit given by an escape. -/
inductive StringPiece where
  /-- A character, written plainly or by a short escape. -/
  | char (c : Char)
  /-- A code unit of four hexadecimal digits. -/
  | unit (code : Nat)
  deriving DecidableEq, Repr

/-- A token of JSON text. -/
inductive Token where
  /-- The bracket that opens an array. -/
  | openArray
  /-- The bracket that closes an array. -/
  | closeArray
  /-- The brace that opens an object. -/
  | openObject
  /-- The brace that closes an object. -/
  | closeObject
  /-- A comma. -/
  | comma
  /-- A colon. -/
  | colon
  /-- The word `null`. -/
  | null
  /-- One of the words `true` and `false`. -/
  | bool (b : Bool)
  /-- A number. -/
  | number (literal : NumberLiteral)
  /-- A string, without a text if its code units do not form one. -/
  | string (text : Option String)
  deriving DecidableEq, Repr

/-- Where in the text the reader stands. -/
inductive LexState where
  /-- Between tokens. -/
  | outside
  /-- Inside a word or number, its characters latest first. -/
  | word (read : List Char)
  /-- Inside a string, its pieces latest first. -/
  | text (read : List StringPiece)
  /-- Behind a backslash in a string. -/
  | escaped (read : List StringPiece)
  /-- Inside the digits of a code unit, the digits latest first. -/
  | code (read : List StringPiece) (digits : List Nat)

/-- White space between tokens. -/
def isSpace (c : Char) : Bool :=
  c = ' ' || c = '\t' || c = '\n' || c = '\r'

/-- The value of a hexadecimal digit. -/
def hexValue? (c : Char) : Option Nat :=
  if c.isDigit then some (c.toNat - 48)
  else if 'a' ≤ c && c ≤ 'f' then some (c.toNat - 87)
  else if 'A' ≤ c && c ≤ 'F' then some (c.toNat - 55)
  else none

/-- The character that a short escape stands for. -/
def shortEscape? (c : Char) : Option Char :=
  match c with
  | '"' => some '"'
  | '\\' => some '\\'
  | '/' => some '/'
  | 'b' => some '\x08'
  | 'f' => some '\x0c'
  | 'n' => some '\n'
  | 'r' => some '\r'
  | 't' => some '\t'
  | _ => none

/-- The text of string pieces. Two code units of a surrogate pair are one character; half a pair
has no text. -/
def pieceChars? : List StringPiece → Option (List Char)
  | [] => some []
  | .char c :: rest => (pieceChars? rest).map (c :: ·)
  | .unit high :: .unit low :: rest =>
    if 0xD800 ≤ high && high < 0xDC00 then
      if 0xDC00 ≤ low && low < 0xE000 then
        (pieceChars? rest).map
          (Char.ofNat (0x10000 + (high - 0xD800) * 0x400 + (low - 0xDC00)) :: ·)
      else none
    else if 0xDC00 ≤ high && high < 0xE000 then none
    else (pieceChars? (.unit low :: rest)).map (Char.ofNat high :: ·)
  | .unit code :: rest =>
    if 0xD800 ≤ code && code < 0xE000 then none
    else (pieceChars? rest).map (Char.ofNat code :: ·)

/-- The exponent of a number, from its `e` on. -/
def exponent? : List Char → Option (Option (Bool × List Char))
  | [] => some none
  | c :: rest =>
    if c = 'e' || c = 'E' then
      let (negative, ds) := match rest with
        | '-' :: ds => (true, ds)
        | '+' :: ds => (false, ds)
        | _ => (false, rest)
      if Decimal.isDigits ds then some (some (negative, ds)) else none
    else none

/-- A number from its characters: digits without a needless leading zero, then an optional point
with digits and an optional exponent. -/
def number? (cs : List Char) : Option NumberLiteral :=
  let (negative, body) := match cs with
    | '-' :: rest => (true, rest)
    | _ => (false, cs)
  let whole := body.takeWhile Char.isDigit
  let rest := body.dropWhile Char.isDigit
  if whole.isEmpty || (whole.head? == some '0' && whole.length != 1) then none
  else
    match rest with
    | '.' :: after =>
      let fraction := after.takeWhile Char.isDigit
      if fraction.isEmpty then none
      else (exponent? (after.dropWhile Char.isDigit)).map fun e =>
        ⟨negative, whole, some fraction, e⟩
    | _ => (exponent? rest).map fun e => ⟨negative, whole, none, e⟩

/-- The token of a word or number. -/
def wordToken? (cs : List Char) : Option Token :=
  match String.ofList cs with
  | "null" => some .null
  | "true" => some (.bool true)
  | "false" => some (.bool false)
  | _ => (number? cs).map .number

/-- The token of a single character. -/
def markToken? (c : Char) : Option Token :=
  match c with
  | '[' => some .openArray
  | ']' => some .closeArray
  | '\x7b' => some .openObject
  | '\x7d' => some .closeObject
  | ',' => some .comma
  | ':' => some .colon
  | _ => none

/-- What follows a finished string. -/
def textToken (read : List StringPiece) : Token :=
  .string ((pieceChars? read.reverse).map String.ofList)

/-- The tokens of the rest of a text. -/
def lexFrom : LexState → List Char → Option (List Token)
  | .outside, [] => some []
  | .word read, [] => do some [← wordToken? read.reverse]
  | _, [] => none
  | .outside, c :: cs =>
    if isSpace c then lexFrom .outside cs
    else if c = '"' then lexFrom (.text []) cs
    else
      match markToken? c with
      | some token => (lexFrom .outside cs).map (token :: ·)
      | none => lexFrom (.word [c]) cs
  | .word read, c :: cs =>
    if isSpace c then do
      let token ← wordToken? read.reverse
      (lexFrom .outside cs).map (token :: ·)
    else
      match markToken? c with
      | some mark => do
        let token ← wordToken? read.reverse
        (lexFrom .outside cs).map fun rest => token :: mark :: rest
      | none => if c = '"' then none else lexFrom (.word (c :: read)) cs
  | .text read, c :: cs =>
    if c = '"' then (lexFrom .outside cs).map (textToken read :: ·)
    else if c = '\\' then lexFrom (.escaped read) cs
    else if c.toNat < 0x20 then none
    else lexFrom (.text (.char c :: read)) cs
  | .escaped read, c :: cs =>
    if c = 'u' then lexFrom (.code read []) cs
    else
      match shortEscape? c with
      | some e => lexFrom (.text (.char e :: read)) cs
      | none => none
  | .code read digits, c :: cs =>
    match hexValue? c with
    | none => none
    | some d =>
      match digits with
      | [c3, c2, c1] =>
        lexFrom (.text (.unit (((c1 * 16 + c2) * 16 + c3) * 16 + d) :: read)) cs
      | _ => lexFrom (.code read (d :: digits)) cs

/-- The tokens of a text. -/
def tokens? (cs : List Char) : Option (List Token) :=
  lexFrom .outside cs

end TableQuery.Json
