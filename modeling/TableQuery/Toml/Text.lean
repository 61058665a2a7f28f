import TableQuery.Json.Basic

/-!
# TOML texts

Reads texts in quotes: basic ones with escapes and literal ones without, each on one line or on
several. A reader gets what follows the opening quotes and returns the text and what follows the
closing ones.
-/

namespace TableQuery.Toml

/-- A character that may stand in a line: no control character but the tab. -/
def isLineChar (c : Char) : Bool :=
  c = '\t' || (0x20 ≤ c.toNat && c.toNat ≠ 0x7F)

/-- A blank within a line. -/
def isLineBlank (c : Char) : Bool :=
  c = ' ' || c = '\t'

/-- The character of a code that is no surrogate. -/
def charOfCode? (code : Nat) : Option Char :=
  if code < 0xD800 || (0xE000 ≤ code && code < 0x110000) then some (Char.ofNat code) else none

/-- The character of hexadecimal digits. -/
def charOfHex? (digits : List Char) : Option Char := do
  let values ← digits.mapM Json.hexValue?
  charOfCode? (values.foldl (fun n d => n * 16 + d) 0)

/-- The character that a short escape stands for. -/
def shortEscape? (c : Char) : Option Char :=
  if c = '/' then none else Json.shortEscape? c

/-- Where a reader of escaped text stands. -/
inductive TextState where
  /-- Between characters. -/
  | plain
  /-- Behind a backslash. -/
  | escaped
  /-- In the digits of a code, with the number of digits to come and those read, latest first. -/
  | code (left : Nat) (digits : List Char)
  /-- Behind a backslash and blanks, before the end of the line. -/
  | lineEnd
  /-- In the blanks and line ends that are left out. -/
  | skipping

/-- The rest of a basic text on one line. -/
def basicText : TextState → List Char → Option (List Char × List Char)
  | _, [] => none
  | .plain, c :: cs =>
    if c = '"' then some ([], cs)
    else if c = '\\' then basicText .escaped cs
    else if isLineChar c then (basicText .plain cs).map fun (t, r) => (c :: t, r)
    else none
  | .escaped, c :: cs =>
    if c = 'u' then basicText (.code 3 []) cs
    else if c = 'U' then basicText (.code 7 []) cs
    else
      match shortEscape? c with
      | some e => (basicText .plain cs).map fun (t, r) => (e :: t, r)
      | none => none
  | .code 0 digits, c :: cs =>
    match charOfHex? (c :: digits).reverse with
    | some e => (basicText .plain cs).map fun (t, r) => (e :: t, r)
    | none => none
  | .code (left + 1) digits, c :: cs => basicText (.code left (c :: digits)) cs
  | _, _ => none

/-- The rest of a literal text on one line. -/
def literalText : List Char → Option (List Char × List Char)
  | [] => none
  | c :: cs =>
    if c = '\'' then some ([], cs)
    else if isLineChar c then (literalText cs).map fun (t, r) => (c :: t, r)
    else none

/-- The end of a text on several lines, from behind its three closing quotes: up to two further
quotes still belong to the text. -/
def closing? (quote : Char) (cs : List Char) : Option (List Char × List Char) :=
  let extra := cs.takeWhile (· = quote)
  if extra.length ≤ 2 then some (extra, cs.drop extra.length) else none

/-- The rest of a basic text on several lines. A backslash at the end of a line leaves out all
blanks and line ends up to the next other character. -/
def basicLines : TextState → List Char → Option (List Char × List Char)
  | _, [] => none
  | .plain, '"' :: '"' :: '"' :: cs => closing? '"' cs
  | .skipping, '"' :: '"' :: '"' :: cs => closing? '"' cs
  | .plain, '\r' :: '\n' :: cs => (basicLines .plain cs).map fun (t, r) => ('\n' :: t, r)
  | .escaped, '\r' :: '\n' :: cs => basicLines .skipping cs
  | .lineEnd, '\r' :: '\n' :: cs => basicLines .skipping cs
  | .skipping, '\r' :: '\n' :: cs => basicLines .skipping cs
  | .plain, c :: cs =>
    if c = '\\' then basicLines .escaped cs
    else if isLineChar c || c = '\n' then (basicLines .plain cs).map fun (t, r) => (c :: t, r)
    else none
  | .escaped, c :: cs =>
    if c = 'u' then basicLines (.code 3 []) cs
    else if c = 'U' then basicLines (.code 7 []) cs
    else if c = '\n' then basicLines .skipping cs
    else if isLineBlank c then basicLines .lineEnd cs
    else
      match shortEscape? c with
      | some e => (basicLines .plain cs).map fun (t, r) => (e :: t, r)
      | none => none
  | .code 0 digits, c :: cs =>
    match charOfHex? (c :: digits).reverse with
    | some e => (basicLines .plain cs).map fun (t, r) => (e :: t, r)
    | none => none
  | .code (left + 1) digits, c :: cs => basicLines (.code left (c :: digits)) cs
  | .lineEnd, c :: cs =>
    if isLineBlank c then basicLines .lineEnd cs
    else if c = '\n' then basicLines .skipping cs
    else none
  | .skipping, c :: cs =>
    if isLineBlank c || c = '\n' then basicLines .skipping cs
    else if c = '\\' then basicLines .escaped cs
    else if isLineChar c then (basicLines .plain cs).map fun (t, r) => (c :: t, r)
    else none

/-- The rest of a literal text on several lines. -/
def literalLines : List Char → Option (List Char × List Char)
  | [] => none
  | '\'' :: '\'' :: '\'' :: cs => closing? '\'' cs
  | '\r' :: '\n' :: cs => (literalLines cs).map fun (t, r) => ('\n' :: t, r)
  | c :: cs =>
    if isLineChar c || c = '\n' then (literalLines cs).map fun (t, r) => (c :: t, r) else none

/-- The text without a line end at its beginning. -/
def dropLineEnd : List Char → List Char
  | '\n' :: cs => cs
  | '\r' :: '\n' :: cs => cs
  | cs => cs

/-- A text in any quotes at the beginning of the characters. -/
def quoted? (cs : List Char) : Option (String × List Char) :=
  let found := match cs with
    | '"' :: '"' :: '"' :: rest => basicLines .plain (dropLineEnd rest)
    | '"' :: rest => basicText .plain rest
    | '\'' :: '\'' :: '\'' :: rest => literalLines (dropLineEnd rest)
    | '\'' :: rest => literalText rest
    | _ => none
  found.map fun (t, r) => (String.ofList t, r)

end TableQuery.Toml
