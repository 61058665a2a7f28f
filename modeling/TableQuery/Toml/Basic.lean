/-!
# TOML values

Tables of named values as a TOML document describes them. A table remembers how it came to be,
because that decides which later lines may still add to it.
-/

namespace TableQuery

/-- How a table was made. -/
inductive TomlTableKind where
  /-- By a header of its own, or as the document itself. -/
  | header
  /-- By a header of a table inside it. -/
  | implied
  /-- By a dotted key. -/
  | dotted
  deriving DecidableEq, Repr

/-- A TOML value. -/
inductive Toml where
  /-- A text. -/
  | string (s : String)
  /-- An integer of 64 bits. -/
  | integer (n : Int)
  /-- A number with a fraction or an exponent, as written. -/
  | float (written : String)
  /-- A truth value. -/
  | boolean (b : Bool)
  /-- A date, a time or both, as written. -/
  | dateTime (written : String)
  /-- A list of values. -/
  | array (items : List Toml)
  /-- A table written in one line; nothing can be added to it. -/
  | inlineTable (entries : List (String × Toml))
  /-- A table of lines. -/
  | table (kind : TomlTableKind) (entries : List (String × Toml))
  /-- Tables of lines under one name, latest first. -/
  | tables (items : List (List (String × Toml)))
  deriving Inhabited, Repr

/-- A table with its entries, in the order in which they were written. -/
structure TomlTable where
  /-- How the table was made. -/
  kind : TomlTableKind
  /-- The entries. -/
  entries : List (String × Toml)
  deriving Repr

/-- The entries with the first one of a name replaced, or with a new one at the end. -/
def setEntry (key : String) (value : Toml) : List (String × Toml) → List (String × Toml)
  | [] => [(key, value)]
  | (k, v) :: rest => if k = key then (k, value) :: rest else (k, v) :: setEntry key value rest

namespace TomlTable

/-- The table without entries. -/
def empty (kind : TomlTableKind) : TomlTable := ⟨kind, []⟩

/-- Change the table that a path leads to, making the tables on the way. A dotted path does not
lead into a table that has a header. The path leads into the latest of several tables. -/
def change? (dotted : Bool) (act : TomlTable → Option TomlTable) :
    List String → TomlTable → Option TomlTable
  | [], t => act t
  | key :: path, t =>
    let put (value : Toml) : TomlTable := ⟨t.kind, setEntry key value t.entries⟩
    match t.entries.lookup key with
    | none => do
      let child ← change? dotted act path (empty (if dotted then .dotted else .implied))
      some (put (.table child.kind child.entries))
    | some (.table kind entries) =>
      if dotted && kind = .header then none
      else do
        let child ← change? dotted act path ⟨kind, entries⟩
        some (put (.table child.kind child.entries))
    | some (.tables (latest :: earlier)) => do
      let child ← change? dotted act path ⟨.header, latest⟩
      some (put (.tables (child.entries :: earlier)))
    | some _ => none

/-- Add an entry under a dotted key. Only a table made by a dotted key takes entries from one. -/
def addEntry? (path : List String) (key : String) (value : Toml) (t : TomlTable) :
    Option TomlTable :=
  let add (target : TomlTable) : Option TomlTable :=
    if decide (target.kind = .dotted) = path.isEmpty then none
    else if (target.entries.lookup key).isSome then none
    else some ⟨target.kind, target.entries ++ [(key, value)]⟩
  change? true add path t

/-- Open the table of a header. A table that was only implied so far gets its header. -/
def openTable? (path : List String) (key : String) (t : TomlTable) : Option TomlTable :=
  let make (parent : TomlTable) : Option TomlTable :=
    match parent.entries.lookup key with
    | none => some ⟨parent.kind, parent.entries ++ [(key, .table .header [])]⟩
    | some (.table .implied entries) =>
      some ⟨parent.kind, setEntry key (.table .header entries) parent.entries⟩
    | some _ => none
  change? false make path t

/-- Open a further table under the name of a double header. -/
def openTables? (path : List String) (key : String) (t : TomlTable) : Option TomlTable :=
  let make (parent : TomlTable) : Option TomlTable :=
    match parent.entries.lookup key with
    | none => some ⟨parent.kind, parent.entries ++ [(key, .tables [[]])]⟩
    | some (.tables items) =>
      some ⟨parent.kind, setEntry key (.tables ([] :: items)) parent.entries⟩
    | some _ => none
  change? false make path t

end TomlTable

end TableQuery
