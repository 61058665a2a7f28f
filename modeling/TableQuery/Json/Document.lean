import TableQuery.Binary64.Basic
import TableQuery.Json.Basic

/-!
# JSON documents

A document is JSON as written: objects keep repeated names, numbers keep their digits, and strings
may fail to be texts. Its content has numbers as integers or doubles and at most 127 levels of
nesting; its value has every name once as well.
-/

namespace TableQuery.Json

/-- JSON as written. -/
inductive Document where
  /-- The null value. -/
  | null
  /-- A truth value. -/
  | bool (b : Bool)
  /-- A number, as written. -/
  | number (literal : NumberLiteral)
  /-- A string, without a text if its code units do not form one. -/
  | string (text : Option String)
  /-- The items of an array. -/
  | array (items : List Document)
  /-- The fields of an object, as often as they are written. -/
  | object (fields : List (Option String × Document))
  deriving Inhabited, Repr

/-! ### Reading -/

/-- A container that is still open, with what it holds so far, latest first. -/
inductive Frame where
  /-- An array. -/
  | items (done : List Document)
  /-- An object between two fields. -/
  | fields (done : List (Option String × Document))
  /-- An object whose next name has been read. -/
  | named (done : List (Option String × Document)) (name : Option String)

/-- What may come next. -/
inductive Expect where
  /-- A value. -/
  | value
  /-- A value, or the end of the array that has just been opened. -/
  | valueOrClose
  /-- A name. -/
  | name
  /-- A name, or the end of the object that has just been opened. -/
  | nameOrClose
  /-- The colon behind a name. -/
  | colon
  /-- A comma, or the end of the innermost container. -/
  | separator

/-- How far a document has been read. -/
inductive Progress where
  /-- Inside some containers, innermost first. -/
  | inside (next : Expect) (frames : List Frame)
  /-- All of it. -/
  | finished (document : Document)

/-- Put a value into the innermost container. -/
def place (d : Document) : List Frame → Option Progress
  | [] => some (.finished d)
  | .items done :: outer => some (.inside .separator (.items (d :: done) :: outer))
  | .named done name :: outer => some (.inside .separator (.fields ((name, d) :: done) :: outer))
  | .fields _ :: _ => none

/-- Read a token where a value may stand. -/
def startValue (frames : List Frame) : Token → Option Progress
  | .null => place .null frames
  | .bool b => place (.bool b) frames
  | .number literal => place (.number literal) frames
  | .string text => place (.string text) frames
  | .openArray => some (.inside .valueOrClose (.items [] :: frames))
  | .openObject => some (.inside .nameOrClose (.fields [] :: frames))
  | _ => none

/-- Read a token where a name may stand. -/
def startName (frames : List Frame) (token : Token) : Option Progress :=
  match token, frames with
  | .string text, .fields done :: outer => some (.inside .colon (.named done text :: outer))
  | _, _ => none

/-- Close the innermost container, if the token does that. -/
def close (frames : List Frame) (token : Token) : Option Progress :=
  match token, frames with
  | .closeArray, .items done :: outer => place (.array done.reverse) outer
  | .closeObject, .fields done :: outer => place (.object done.reverse) outer
  | _, _ => none

/-- Read one token. -/
def step (progress : Progress) (token : Token) : Option Progress :=
  match progress with
  | .finished _ => none
  | .inside .value frames => startValue frames token
  | .inside .valueOrClose frames =>
    match token with
    | .closeArray => close frames token
    | _ => startValue frames token
  | .inside .name frames => startName frames token
  | .inside .nameOrClose frames =>
    match token with
    | .closeObject => close frames token
    | _ => startName frames token
  | .inside .colon frames =>
    match token with
    | .colon => some (.inside .value frames)
    | _ => none
  | .inside .separator frames =>
    match token, frames with
    | .comma, .items _ :: _ => some (.inside .value frames)
    | .comma, .fields _ :: _ => some (.inside .name frames)
    | _, _ => close frames token

/-- The document that tokens form. -/
def Document.ofTokens? (tokens : List Token) : Option Document :=
  match tokens.foldlM step (.inside .value []) with
  | some (.finished d) => some d
  | _ => none

/-- The document written in a text. -/
def Document.parse? (text : String) : Option Document := do
  Document.ofTokens? (← tokens? text.toList)

/-! ### Values -/

/-- The largest number that is kept while digits are gathered into one. -/
def maxSignificand : Nat := UInt64.size - 1

/-- Add digits to a significand as long as it fits 64 bits; returns the digits left over. -/
def takeDigits (significand : Nat) : List Char → Nat × List Char
  | [] => (significand, [])
  | c :: cs =>
    let next := significand * 10 + (c.toNat - 48)
    if next ≤ maxSignificand then takeDigits next cs else (significand, c :: cs)

/-- The largest exponent that is read; a larger one leaves only zero or overflow. -/
def maxExponent : Nat := 0x7fffffff

/-- The value of a number. Digits in front of the point that do not fit 64 bits only scale the
number, and digits after it that do not fit are dropped. No value on overflow. -/
def NumberLiteral.value? (n : NumberLiteral) : Option Json :=
  let (whole, skipped) := takeDigits 0 n.whole
  match n.fraction, n.exponent with
  | none, none =>
    if skipped.isEmpty then
      if !n.negative then some (.integer whole)
      else if 0 < whole && whole ≤ 0x8000000000000000 then some (.integer (-(whole : Int)))
      else some (.float ((Binary64.ofInt whole).withSign true))
    else (Binary64.ofParts n.negative whole skipped.length).map .float
  | _, _ =>
    let (significand, dropped) := takeDigits whole (n.fraction.getD [])
    let scale : Int := skipped.length - ((n.fraction.getD []).length - dropped.length : Nat)
    match n.exponent with
    | none => (Binary64.ofParts n.negative significand scale).map .float
    | some (down, ds) =>
      let power := Decimal.value ds
      if maxExponent < power then
        if significand != 0 && !down then none
        else some (.float (Binary64.ofMagnitude n.negative 0))
      else
        let exponent := if down then scale - power else scale + power
        (Binary64.ofParts n.negative significand exponent).map .float

/-- Deepest nesting that a value may have. -/
def maxDepth : Nat := 127

mutual

/-- The content of a document with at most `depth` levels of nesting: its numbers and strings have
values, its objects are as written. -/
def Document.contentWithin? (depth : Nat) : Document → Option Json
  | .null => some .null
  | .bool b => some (.bool b)
  | .number literal => literal.value?
  | .string text => text.map .string
  | .array items =>
    if depth = 0 then none else (itemContents? (depth - 1) items).map .array
  | .object fields =>
    if depth = 0 then none else (fieldContents? (depth - 1) fields).map .object

/-- The contents of documents. -/
def itemContents? (depth : Nat) : List Document → Option (List Json)
  | [] => some []
  | item :: rest => do
    let value ← item.contentWithin? depth
    let values ← itemContents? depth rest
    some (value :: values)

/-- The names and contents of fields. -/
def fieldContents? (depth : Nat) :
    List (Option String × Document) → Option (List (String × Json))
  | [] => some []
  | (name, field) :: rest => do
    let key ← name
    let value ← field.contentWithin? depth
    let values ← fieldContents? depth rest
    some ((key, value) :: values)

end

/-- The content of a document. Its objects may still repeat names. -/
def Document.content? (d : Document) : Option Json :=
  d.contentWithin? maxDepth

/-- The fields with the given names, with their contents. Fields of other names need no content. -/
def knownContents? (known : List String) :
    List (Option String × Document) → Option (List (String × Json))
  | [] => some []
  | (name, field) :: rest => do
    let key ← name
    if known.contains key then
      let value ← field.contentWithin? (maxDepth - 1)
      let values ← knownContents? known rest
      some ((key, value) :: values)
    else knownContents? known rest

/-- The content of a document that is read for the given fields only. -/
def Document.contentFor? (known : List String) : Document → Option Json
  | .object fields => (knownContents? known fields).map .object
  | d => d.content?

mutual

/-- A content with every name once: the last value of a name, at its first position. -/
def gathered : Json → Json
  | .array items => .array (gatheredItems items)
  | .object fields => .object (gatherFields (gatheredFields fields))
  | j => j

/-- `gathered` on the items of an array. -/
def gatheredItems : List Json → List Json
  | [] => []
  | item :: rest => item.gathered :: gatheredItems rest

/-- `gathered` on the values of fields. -/
def gatheredFields : List (String × Json) → List (String × Json)
  | [] => []
  | (name, value) :: rest => (name, value.gathered) :: gatheredFields rest

end

/-- The value of a document. -/
def Document.value? (d : Document) : Option Json :=
  d.content?.map gathered

/-- The value written in a text. -/
def parse? (text : String) : Option Json := do
  (← Document.parse? text).value?

/-- The content written in a text, as far as the given fields need it. -/
def parseFor? (known : List String) (text : String) : Option Json := do
  (← Document.parse? text).contentFor? known

end TableQuery.Json
