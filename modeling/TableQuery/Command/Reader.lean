import TableQuery.Command.Basic
import TableQuery.Command.Words
import TableQuery.Decimal.Basic

/-!
# Reading command lines

The commands with their options and positional words. What does not fit is no command at all.
-/

namespace TableQuery.Command

/-- The option for conditions, and the flag that makes them alternatives. -/
def filterOptions : List OptionSpec :=
  [⟨"where", .repeated, some 'w'⟩, ⟨"or", .flag, none⟩]

/-- The options of a select. -/
def selectOptions : List OptionSpec :=
  filterOptions ++ [⟨"order-by", .single, none⟩, ⟨"desc", .flag, none⟩, ⟨"skip", .single, none⟩,
    ⟨"limit", .single, none⟩, ⟨"extra", .single, none⟩]

/-- The options of a count. -/
def countOptions : List OptionSpec :=
  filterOptions ++ [⟨"extra", .single, none⟩]

/-- The options of a delete. -/
def deleteOptions : List OptionSpec :=
  filterOptions ++ [⟨"all", .flag, none⟩]

/-- The options of an insert. -/
def insertOptions : List OptionSpec :=
  [⟨"returning", .single, none⟩]

/-- The options of an update. -/
def updateOptions : List OptionSpec :=
  filterOptions ++ insertOptions

/-- The option for casts. -/
def castOptions : List OptionSpec :=
  [⟨"cast", .repeated, none⟩]

/-- The options for assumed facts. -/
def factOptions : List OptionSpec :=
  castOptions ++ [⟨"soft-delete", .flag, none⟩, ⟨"updated-at", .flag, none⟩]

/-- The options that every command has. -/
def globalOptions : List OptionSpec :=
  [⟨"debug", .flag, none⟩, ⟨"config", .single, none⟩]

/-- A number of 64 bits under an option; `none` if what stands there is no number. -/
def word64? (w : Words) (name : String) : Option (Option UInt64) :=
  match w.value? name with
  | none => some none
  | some value => (Decimal.readUnsigned? 64 value.toList).map fun n => some (UInt64.ofNat n)

/-- The conditions of a command. -/
def filterArguments (w : Words) : FilterArguments :=
  ⟨w.valuesOf "where", w.has "or"⟩

/-- The arguments of a select. A direction needs a column to sort by. -/
def selectArguments? (w : Words) : Option SelectArguments :=
  match w.positional with
  | [table, columns] =>
    if w.has "desc" && (w.value? "order-by").isNone then none
    else do
      return ⟨table, columns, filterArguments w, w.value? "order-by", w.has "desc",
        ← word64? w "skip", ← word64? w "limit", w.value? "extra"⟩
  | _ => none

/-- The arguments of a count. The columns may be left out. -/
def countArguments? (w : Words) : Option CountArguments :=
  match w.positional with
  | [table] => some ⟨table, "", filterArguments w, w.value? "extra"⟩
  | [table, columns] => some ⟨table, columns, filterArguments w, w.value? "extra"⟩
  | _ => none

/-- The arguments of a delete. -/
def deleteArguments? (w : Words) : Option DeleteArguments :=
  match w.positional with
  | [table] => some ⟨table, filterArguments w, w.has "all"⟩
  | _ => none

/-- The arguments of an insert. -/
def insertArguments? (w : Words) : Option InsertArguments :=
  match w.positional with
  | [table, data] => some ⟨table, data, w.value? "returning"⟩
  | _ => none

/-- The arguments of an update. -/
def updateArguments? (w : Words) : Option UpdateArguments :=
  match w.positional with
  | [table, data] => some ⟨table, data, filterArguments w, w.value? "returning"⟩
  | _ => none

/-- The facts that are assumed. -/
def assumedFacts (w : Words) : AssumedFacts :=
  ⟨w.has "soft-delete", w.has "updated-at", w.valuesOf "cast"⟩

/-- The command that prints statements, from its name and its words, and the words read. -/
def planCommand? (globals : List OptionSpec) (name : String) (words : List String) :
    Option (PlanCommand × Words) := do
  let read (specs : List OptionSpec) := readAll (globals ++ specs) words
  match name with
  | "select" =>
    let w ← read (selectOptions ++ factOptions)
    return (.select (← selectArguments? w) (assumedFacts w), w)
  | "count" =>
    let w ← read (countOptions ++ factOptions)
    return (.count (← countArguments? w) (assumedFacts w), w)
  | "delete" =>
    let w ← read (deleteOptions ++ castOptions)
    return (.delete (← deleteArguments? w) (w.valuesOf "cast"), w)
  | "update" =>
    let w ← read (updateOptions ++ factOptions)
    return (.update (← updateArguments? w) (assumedFacts w), w)
  | "insert" =>
    let w ← read (insertOptions ++ castOptions)
    return (.insert (← insertArguments? w) (w.valuesOf "cast"), w)
  | _ => none

/-- The command that asks a database, from its name and its words, and the words read. -/
def queryCommand? (globals : List OptionSpec) (name : String) (words : List String) :
    Option (QueryCommand × Words) := do
  let read (specs : List OptionSpec) := readAll (globals ++ specs) words
  match name with
  | "select" =>
    let w ← read selectOptions
    return (.select (← selectArguments? w), w)
  | "count" =>
    let w ← read countOptions
    return (.count (← countArguments? w), w)
  | "insert" =>
    let w ← read insertOptions
    return (.insert (← insertArguments? w), w)
  | "update" =>
    let w ← read updateOptions
    return (.update (← updateArguments? w), w)
  | "delete" =>
    let w ← read deleteOptions
    return (.delete (← deleteArguments? w), w)
  | "has-column" =>
    let w ← read []
    match w.positional with
    | [table, column] => return (.hasColumn table column, w)
    | _ => none
  | _ => none

/-- Read the words of a command that prints statements, without the options of every command. -/
def PlanCommand.read? (words : List String) : Option PlanCommand := do
  let (_, name, rest) ← readSubcommand [] words
  return (← planCommand? [] name rest).1

/-- What to do, and the words that were read for every command on the way. -/
def task? (words : List String) : Option (Task × List Words) := do
  let (outer, name, rest) ← readSubcommand globalOptions words
  if name = "plan" then
    let (middle, name, rest) ← readSubcommand globalOptions rest
    let (command, inner) ← planCommand? globalOptions name rest
    return (.plan command, [outer, middle, inner])
  else
    let (command, inner) ← queryCommand? globalOptions name rest
    return (.query command, [outer, inner])

/-- The configuration file. Every command on the way may name one, or else takes the one that the
environment names; the last one that is named counts more than the environment. A file without a
name is an error wherever it comes from. -/
def configFile? (environment : Option String) (levels : List Words) : Option (Option String) :=
  let named := levels.map fun w => w.value? "config"
  let taken := named.map fun n => n.orElse fun _ => environment
  if taken.contains (some "") then none
  else some ((named.filterMap id).getLast?.orElse fun _ => environment)

/-- Read a command line, given the configuration file that the environment names. -/
def Invocation.read? (environment : Option String) (words : List String) : Option Invocation := do
  let (task, levels) ← task? words
  let file ← configFile? environment levels
  return ⟨levels.any fun w => w.has "debug", file, task⟩

end TableQuery.Command
