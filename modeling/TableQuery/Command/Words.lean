import TableQuery.Text.Basic

/-!
# Words of a command line

Options and positional words, read by a table of the options that a command knows. An option may be
joined with its value (`--where=X`, `-w=X`, `-wX`) or take the next word, unless that one looks like
an option. Behind `--` every word is positional.
-/

namespace TableQuery.Command

/-- How an option may be given. -/
inductive OptionKind where
  /-- Without a value, once. -/
  | flag
  /-- With a value, once. -/
  | single
  /-- With a value, any number of times. -/
  | repeated
  deriving DecidableEq, Repr

/-- An option that a command knows. -/
structure OptionSpec where
  /-- Its long name. -/
  long : String
  /-- How it may be given. -/
  kind : OptionKind
  /-- Its letter, if it has one. -/
  letter : Option Char := none
  deriving DecidableEq, Repr

/-- What the words say. -/
structure Words where
  /-- The flags that are given. -/
  flags : List String := []
  /-- The options with their values, in order. -/
  values : List (String × String) := []
  /-- The positional words, in order. -/
  positional : List String := []
  deriving DecidableEq, Repr, Inhabited

namespace Words

/-- The flag is given. -/
def has (w : Words) (name : String) : Bool :=
  w.flags.contains name

/-- The value of an option. -/
def value? (w : Words) (name : String) : Option String :=
  w.values.lookup name

/-- All values of an option, in order. -/
def valuesOf (w : Words) (name : String) : List String :=
  (w.values.filter fun v => v.1 == name).map Prod.snd

/-- Take a flag over, unless it is there already. -/
def addFlag? (w : Words) (name : String) : Option Words :=
  if w.has name then none else some { w with flags := w.flags ++ [name] }

/-- Take an option with its value over, unless it may be given only once and is there already. -/
def addValue? (w : Words) (spec : OptionSpec) (value : String) : Option Words :=
  if spec.kind != .repeated && (w.value? spec.long).isSome then none
  else some { w with values := w.values ++ [(spec.long, value)] }

/-- Take a positional word over. -/
def addPositional (w : Words) (word : String) : Words :=
  { w with positional := w.positional ++ [word] }

end Words

/-- A word, by the form that it has. -/
inductive WordForm where
  /-- The mark behind which every word is positional. -/
  | endOfOptions
  /-- A long name, perhaps joined with a value. -/
  | long (name : String) (joined : Option String)
  /-- A letter, perhaps joined with a value. -/
  | short (letter : Char) (joined : Option String)
  /-- A word that is no option; a single dash is none. -/
  | plain
  deriving DecidableEq, Repr

/-- The form of a word. -/
def WordForm.ofWord (word : String) : WordForm :=
  match word.toList with
  | ['-', '-'] => .endOfOptions
  | '-' :: '-' :: rest =>
    match Text.cutAt ['='] rest with
    | some (name, value) => .long (String.ofList name) (some (String.ofList value))
    | none => .long (String.ofList rest) none
  | ['-'] => .plain
  | '-' :: letter :: rest =>
    match rest with
    | [] => .short letter none
    | '=' :: value => .short letter (some (String.ofList value))
    | value => .short letter (some (String.ofList value))
  | _ => .plain

/-- Read an option that may be joined with its value, given the words behind it. The result has the
number of those words that it takes. -/
def readOption (spec : Option OptionSpec) (joined : Option String) (rest : List String)
    (w : Words) : Option (Words × Nat) := do
  let spec ← spec
  match spec.kind, joined, rest with
  | .flag, none, _ => return (← w.addFlag? spec.long, 0)
  | .flag, some _, _ => none
  | _, some value, _ => return (← w.addValue? spec value, 0)
  | _, none, value :: _ =>
    if WordForm.ofWord value = .plain then return (← w.addValue? spec value, 1) else none
  | _, none, [] => none

/-- Read the first word, given the words behind it. The result has the number of those words that it
takes; `none` in place of the words read stands for the end of the options. -/
def readWord (specs : List OptionSpec) (word : String) (rest : List String) (w : Words) :
    Option (Option Words × Nat) :=
  let found (matching : OptionSpec → Bool) (joined : Option String) :=
    (readOption (specs.find? matching) joined rest w).map fun r => (some r.1, r.2)
  match WordForm.ofWord word with
  | .endOfOptions => some (none, 0)
  | .long name joined => found (fun s => s.long == name) joined
  | .short letter joined => found (fun s => s.letter == some letter) joined
  | .plain => some (some (w.addPositional word), 0)

/-- Read words up to and including the `limit`-th positional word, if there is a limit. The rest of
the words is returned as well. -/
def readUpTo (specs : List OptionSpec) (limit : Option Nat) :
    (skip : Nat) → List String → Words → Option (Words × List String)
  | _, [], w => some (w, [])
  | skip + 1, _ :: rest, w => readUpTo specs limit skip rest w
  | 0, word :: rest, w =>
    if limit = some w.positional.length then some (w, word :: rest)
    else
      match readWord specs word rest w with
      | none => none
      | some (none, _) =>
        if limit.isSome then none
        else some ({ w with positional := w.positional ++ rest }, [])
      | some (some w, taken) => readUpTo specs limit taken rest w

/-- Read all words of a command that has no commands of its own. -/
def readAll (specs : List OptionSpec) (words : List String) : Option Words :=
  (readUpTo specs none 0 words {}).map Prod.fst

/-- Read the options in front of a subcommand, its name, and the words that are left for it. -/
def readSubcommand (specs : List OptionSpec) (words : List String) :
    Option (Words × String × List String) := do
  let (w, rest) ← readUpTo specs (some 1) 0 words {}
  return (w, ← w.positional.head?, rest)

end TableQuery.Command
