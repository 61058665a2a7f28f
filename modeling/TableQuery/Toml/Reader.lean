import TableQuery.Toml.Scalar
import TableQuery.Toml.Text

/-!
# Reading TOML

Reads a whole TOML document into its table. Every step of a loop consumes characters, so the number
of characters bounds the steps.
-/

namespace TableQuery.Toml

open TableQuery.Text

/-- Behind the blanks within the line. -/
def dropBlanks (cs : List Char) : List Char :=
  cs.dropWhile isLineBlank

/-- Behind an optional comment; its characters must be allowed ones. -/
def dropComment? (cs : List Char) : Option (List Char) :=
  match cs with
  | '#' :: rest =>
    match rest.dropWhile isLineChar with
    | [] => some []
    | '\n' :: after => some ('\n' :: after)
    | '\r' :: '\n' :: after => some ('\n' :: after)
    | _ => none
  | _ => some cs

/-- Behind the end of a line, with blanks and a comment before it. -/
def endLine? (cs : List Char) : Option (List Char) := do
  match ← dropComment? (dropBlanks cs) with
  | [] => some []
  | '\n' :: rest => some rest
  | '\r' :: '\n' :: rest => some rest
  | _ => none

/-- Behind blanks, comments and line ends. -/
def dropLines? : Nat → List Char → Option (List Char)
  | 0, _ => none
  | fuel + 1, cs =>
    match dropBlanks cs with
    | '#' :: rest => do dropLines? fuel (← dropComment? ('#' :: rest))
    | '\n' :: rest => dropLines? fuel rest
    | '\r' :: '\n' :: rest => dropLines? fuel rest
    | rest => some rest

/-- A character of a key without quotes. -/
def isKeyChar (c : Char) : Bool :=
  c.isAlphanum || c = '_' || c = '-'

/-- A key without points. -/
def simpleKey? (cs : List Char) : Option (String × List Char) :=
  match cs with
  | '"' :: rest => (basicText .plain rest).map fun (t, r) => (String.ofList t, r)
  | '\'' :: rest => (literalText rest).map fun (t, r) => (String.ofList t, r)
  | _ =>
    let name := cs.takeWhile isKeyChar
    if name.isEmpty then none else some (String.ofList name, cs.dropWhile isKeyChar)

/-- The parts of a key with points between them. -/
def key? : Nat → List Char → Option (List String × List Char)
  | 0, _ => none
  | fuel + 1, cs => do
    let (part, rest) ← simpleKey? (dropBlanks cs)
    match dropBlanks rest with
    | '.' :: more => do
      let (parts, after) ← key? fuel more
      some (part :: parts, after)
    | after => some ([part], after)

/-- A character of a value without quotes and brackets. -/
def isScalarChar (c : Char) : Bool :=
  c.isAlphanum || c = '_' || c = '-' || c = '+' || c = '.' || c = ':'

/-- A value without quotes and brackets. A blank may stand between date and time. -/
def bareValue? (cs : List Char) : Option (Toml × List Char) :=
  let word := cs.takeWhile isScalarChar
  let rest := cs.dropWhile isScalarChar
  match rest with
  | ' ' :: d :: _ =>
    if isDate word && d.isDigit then
      let time := (rest.drop 1).takeWhile isScalarChar
      (scalar? (word ++ ' ' :: time)).map (·, (rest.drop 1).dropWhile isScalarChar)
    else (scalar? word).map (·, rest)
  | _ => (scalar? word).map (·, rest)

/-- Levels of arrays and inline tables that may stand inside one another. -/
def maxNesting : Nat := 79

mutual

/-- A value at the beginning of the characters. -/
def value? : (fuel depth : Nat) → List Char → Option (Toml × List Char)
  | 0, _, _ => none
  | fuel + 1, depth, cs =>
    match cs with
    | '[' :: rest =>
      if depth = 0 then none
      else (items? fuel (depth - 1) rest).map fun (items, r) => (.array items, r)
    | '\x7b' :: rest =>
      if depth = 0 then none
      else
        match dropBlanks rest with
        | '\x7d' :: r => some (.inlineTable [], r)
        | _ =>
          (entries? fuel (depth - 1) (.empty .header) rest).map fun (t, r) =>
            (.inlineTable t.entries, r)
    | '"' :: _ | '\'' :: _ => (quoted? cs).map fun (s, r) => (.string s, r)
    | _ => bareValue? cs

/-- The items of an array up to its closing bracket. -/
def items? : (fuel depth : Nat) → List Char → Option (List Toml × List Char)
  | 0, _, _ => none
  | fuel + 1, depth, cs => do
    match ← dropLines? (cs.length + 1) cs with
    | ']' :: rest => some ([], rest)
    | start => do
      let (item, rest) ← value? fuel depth start
      match ← dropLines? (rest.length + 1) rest with
      | ',' :: more => do
        let (items, after) ← items? fuel depth more
        some (item :: items, after)
      | ']' :: after => some ([item], after)
      | _ => none

/-- The entries of an inline table up to its closing brace, added to those read before. -/
def entries? : (fuel depth : Nat) → TomlTable → List Char → Option (TomlTable × List Char)
  | 0, _, _, _ => none
  | fuel + 1, depth, t, cs => do
    let (path, rest) ← key? (cs.length + 1) cs
    match rest with
    | '=' :: start => do
      let (v, after) ← value? fuel depth (dropBlanks start)
      let added ← t.addEntry? path.dropLast (path.getLastD "") v
      match dropBlanks after with
      | ',' :: more => entries? fuel depth added more
      | '\x7d' :: r => some (added, r)
      | _ => none
    | _ => none

end

/-- Read the header of a table up to its closing brackets. -/
def header? (closing : List Char) (cs : List Char) : Option (List String × List Char) := do
  let (path, rest) ← key? (cs.length + 1) cs
  if closing.isPrefixOf rest then some (path, rest.drop closing.length) else none

/-- Read the lines of a document into its table. `current` is the path of the latest header. -/
def lines? : Nat → TomlTable → List String → List Char → Option TomlTable
  | 0, _, _, _ => none
  | fuel + 1, root, current, cs => do
    match ← dropLines? (cs.length + 1) cs with
    | [] => some root
    | '[' :: '[' :: rest => do
      let (path, after) ← header? [']', ']'] rest
      let opened ← root.openTables? path.dropLast (path.getLastD "")
      lines? fuel opened path (← endLine? after)
    | '[' :: rest => do
      let (path, after) ← header? [']'] rest
      let opened ← root.openTable? path.dropLast (path.getLastD "")
      lines? fuel opened path (← endLine? after)
    | start => do
      let (path, rest) ← key? (start.length + 1) start
      match rest with
      | '=' :: more => do
        let (v, after) ← value? (more.length + 1) maxNesting (dropBlanks more)
        let added ← TomlTable.change? false
          (TomlTable.addEntry? path.dropLast (path.getLastD "") v) current root
        lines? fuel added current (← endLine? after)
      | _ => none

/-- The table that a document describes. A byte order mark in front is left out. -/
def parse? (text : String) : Option TomlTable :=
  let cs := match text.toList with
    | '\ufeff' :: rest => rest
    | all => all
  lines? (cs.length + 1) (.empty .header) [] cs

end TableQuery.Toml
