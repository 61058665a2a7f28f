import TableQuery.Text.Alphanumeric
import TableQuery.Text.Basic

/-!
# Environment files

A file of variables, one `NAME=value` on a line. Values may be quoted, quoted values may go on over
several lines, and values outside single quotes may mention other variables. Reading ends at the
first bad line; the variables before it count.
-/

namespace TableQuery.EnvFile

/-- Where the division of a file into lines stands. -/
inductive LineState where
  /-- Nothing but blanks so far. -/
  | start
  /-- Outside quotes. -/
  | plain
  /-- Outside quotes, behind a blank, where a comment may begin. -/
  | blank
  /-- Behind a backslash outside quotes. -/
  | escape
  /-- In single quotes. -/
  | single
  /-- Behind a backslash in single quotes. -/
  | singleEscape
  /-- In double quotes. -/
  | double
  /-- Behind a backslash in double quotes. -/
  | doubleEscape
  /-- In a comment. -/
  | comment
  deriving DecidableEq, Repr

/-- The state behind a character outside quotes. -/
def LineState.afterMark (other : LineState) : Char → LineState
  | '\\' => .escape
  | '"' => .double
  | '\'' => .single
  | _ => other

/-- The character is a blank within a line. -/
def isInnerBlank (c : Char) : Bool :=
  Text.isBlank c && c != '\n' && c != '\r'

/-- The state behind a character. Of two blanks in a row the second one counts as plain. -/
def LineState.next : LineState → Char → LineState
  | .start, c =>
    if c = '#' then .comment else if Text.isBlank c then .start else LineState.afterMark .plain c
  | .plain, c => if isInnerBlank c then .blank else LineState.afterMark .plain c
  | .blank, c => if c = '#' then .comment else LineState.afterMark .plain c
  | .escape, _ => .plain
  | .single, c => if c = '\\' then .singleEscape else if c = '\'' then .plain else .single
  | .singleEscape, _ => .single
  | .double, c => if c = '\\' then .doubleEscape else if c = '"' then .plain else .double
  | .doubleEscape, _ => .double
  | .comment, _ => .comment

/-- A line may end in this state. -/
def LineState.mayEnd : LineState → Bool
  | .start | .plain | .comment => true
  | _ => false

/-- Divide a file into lines, comments left out. Line breaks in quotes do not end a line. What is
left at the end in quotes or behind a blank is no line. -/
def linesFrom (state : LineState) (line : List Char) : List Char → List (List Char)
  | [] => if state.mayEnd then [line] else []
  | c :: rest =>
    let next := state.next c
    if c = '\n' && next.mayEnd then line :: linesFrom .start [] rest
    else if next = .comment then linesFrom .comment line rest
    else linesFrom next (line ++ [c]) rest

/-- The lines of a file. -/
def lines (cs : List Char) : List (List Char) :=
  linesFrom .start [] cs

/-- Where the reading of a value stands. -/
inductive ValueState where
  /-- Among plain characters. -/
  | plain
  /-- Behind a backslash. -/
  | escape
  /-- In single quotes. -/
  | single
  /-- In the name of a variable. -/
  | name (name : List Char)
  /-- In the name of a variable in braces. -/
  | braced (name : List Char)
  /-- Behind the value. -/
  | done
  deriving DecidableEq, Repr

/-- The characters that a backslash takes the meaning from. -/
def isEscapable (c : Char) : Bool :=
  ['\\', '\'', '"', '$', ' '].contains c

/-- Read a value. `quoted` says that double quotes are open, `value` is what has been read. -/
def readValueFrom (lookUp : List Char → List Char) (state : ValueState) (quoted : Bool)
    (value : List Char) : List Char → Option (List Char)
  | [] =>
    match state with
    | .braced _ | .single => none
    | .name name => if quoted then none else some (value ++ lookUp name)
    | _ => if quoted then none else some value
  | c :: rest =>
    let go (state : ValueState) (quoted : Bool) (more : List Char) :=
      readValueFrom lookUp state quoted (value ++ more) rest
    match state with
    | .done =>
      if c = ' ' || c = '\t' then go .done quoted []
      else if c = '#' then (if quoted then none else some value)
      else none
    | .escape =>
      if isEscapable c then go .plain quoted [c]
      else if c = 'n' then go .plain quoted ['\n']
      else none
    | .single => if c = '\'' then go .plain quoted [] else go .single quoted [c]
    | .name name =>
      if Text.isAlphanumeric c then go (.name (name ++ [c])) quoted []
      else if c = '\x7b' && name.isEmpty then go (.braced []) quoted []
      else if c = '$' then go (.name []) quoted (lookUp name)
      else go .plain quoted (lookUp name ++ [c])
    | .braced name =>
      if c = '\x7d' then go .plain quoted (lookUp name) else go (.braced (name ++ [c])) quoted []
    | .plain =>
      if c = '$' then go (.name []) quoted []
      else if c = '"' then go .plain (!quoted) []
      else if c = '\\' then go .escape quoted []
      else if quoted then go .plain quoted [c]
      else if c = '\'' then go .single quoted []
      else if c = ' ' || c = '\t' then go .done quoted []
      else go .plain quoted [c]

/-- A character of a name, behind the first one. -/
def isNameChar (c : Char) : Bool :=
  c.isAlphanum || c = '_' || c = '.'

/-- Read a name and what follows it, blanks skipped. -/
def readName? (cs : List Char) : Option (List Char × List Char) :=
  match cs with
  | c :: _ =>
    if c.isAlpha || c = '_' then
      some (cs.takeWhile isNameChar, Text.trimStart (cs.dropWhile isNameChar))
    else none
  | [] => none

/-- The name of a line and the text behind its equals sign. The word `export` may stand in front. -/
def readHead? (cs : List Char) : Option (List Char × List Char) := do
  let (name, rest) ← readName? cs
  match rest with
  | '=' :: value => return (name, value)
  | _ =>
    if name = "export".toList then
      let (name, rest) ← readName? rest
      match rest with
      | '=' :: value => return (name, value)
      | _ => none
    else none

/-- Read a line: `none` for a bad one, no variable for a blank one. -/
def readLine (lookUp : List Char → List Char) (line : List Char) :
    Option (Option (String × String)) :=
  let cs := Text.trimChars line
  match cs with
  | [] | '#' :: _ => some none
  | _ => do
    let (name, rest) ← readHead? cs
    match Text.trimStart rest with
    | [] | '#' :: _ => return some (String.ofList name, "")
    | text =>
      let value ← readValueFrom lookUp .plain false [] text
      return some (String.ofList name, String.ofList value)

/-- The value of a variable: what the environment has, or else what the file has set. -/
def valueOf (environment : String → Option String) (set : List (String × String)) (name : String) :
    Option String :=
  (environment name).orElse fun _ => set.lookup name

/-- Read lines up to the first bad one, with the variables that are set already. A variable that has
a value keeps it. -/
def readLines (environment : String → Option String) (set : List (String × String)) :
    List (List Char) → List (String × String)
  | [] => set
  | line :: rest =>
    let lookUp (name : List Char) : List Char :=
      ((valueOf environment set (String.ofList name)).getD "").toList
    match readLine lookUp line with
    | none => set
    | some none => readLines environment set rest
    | some (some (name, value)) =>
      readLines environment
        (if (valueOf environment set name).isSome then set else set ++ [(name, value)]) rest

/-- The environment with the variables of a file that it does not have itself. -/
def extend (environment : String → Option String) (text : String) : String → Option String :=
  let cs := match text.toList with
    | '\uFEFF' :: rest => rest
    | cs => cs
  valueOf environment (readLines environment [] (lines cs))

end TableQuery.EnvFile
