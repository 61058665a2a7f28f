import TableQuery.Proofs.Sql.Predicate

/-!
# Queries

The statements that read and write a table as trees, their tokens, and a reader that goes by the
position of the words: a name may be spelled like a keyword. The reader gives every tree back from
its tokens. From the tree come the columns with the placeholders that are compared with them or
assigned to them.
-/

namespace TableQuery.Sql

/-- One column of a select list. -/
structure OutputColumn where
  /-- The column as it is written. -/
  column : String
  /-- The name that it is given. -/
  newName : Option String
  deriving DecidableEq, Repr

/-- A joined table with the two columns that must be equal. -/
structure JoinedTable where
  /-- The joined table. -/
  table : String
  /-- The column in front of the sign. -/
  left : String
  /-- The column behind the sign. -/
  right : String
  deriving DecidableEq, Repr

/-- One assignment of an update. -/
inductive Assignment where
  /-- A bound value, and what is taken instead of a null. -/
  | bound (column : String) (placeholder : Placeholder) (otherwise : String)
  /-- The current time. -/
  | now (column : String)
  deriving DecidableEq, Repr

/-- A statement on the rows of a table. -/
inductive Query where
  /-- Select columns. -/
  | select (output : List OutputColumn) (table : String) (joins : List JoinedTable)
    (rows : Option RowPredicate) (order : Option (String × Option String))
    (offset limit : Option String)
  /-- Count values of columns, or rows. -/
  | count (columns : List String) (table : String) (rows : Option RowPredicate)
  /-- Insert one row. -/
  | insert (table : String) (columns : List String) (values : List Placeholder)
    (returning : List String)
  /-- Update rows. -/
  | update (table : String) (assignments : List Assignment) (rows : Option RowPredicate)
    (returning : List String)
  /-- Delete rows. -/
  | delete (table : String) (rows : Option RowPredicate)
  deriving DecidableEq, Repr

/-- Entries with a comma between neighbours. -/
def listTokens (entries : List (List Token)) : List Token :=
  [Token.comma].intercalate entries

/-- Texts with commas between them have the tokens of the texts with commas between them. -/
theorem Lexed.join {α : Type} {text : α → String} {tokens : α → List Token} {entries : List α}
    (h : ∀ a ∈ entries, Lexed (text a) (tokens a)) :
    Lexed (Text.join ", " (entries.map text)) (listTokens (entries.map tokens)) := by
  have hcomma : Lexed ", " [Token.comma] := by decide
  induction entries with
  | nil => exact rfl
  | cons a entries ih =>
    obtain ⟨ha, hrest⟩ := List.forall_mem_cons.1 h
    cases entries with
    | nil => simpa [Text.join, listTokens] using ha
    | cons b entries =>
      have hfront := ha.append_of_head hcomma (by decide)
      have hall := hfront.append_of_getLast (ih hrest) (endsFree_append _ (by decide))
      simpa [Text.join, listTokens, List.intercalate_cons_cons] using hall

/-- A name as a token. -/
def nameToken (name : String) : Token :=
  .word name.toList

/-- Names with commas between them are read as their tokens. -/
theorem Lexed.join_names {names : List String} (h : ∀ name ∈ names, isWord name.toList = true) :
    Lexed (Text.join ", " names) (listTokens (names.map fun c => [nameToken c])) := by
  have hid : ∀ name ∈ names, Lexed (id name) [nameToken name] :=
    fun name hmem => Lexed.word (h name hmem)
  have hjoin := Lexed.join hid
  rwa [List.map_id] at hjoin

/-- The tokens of one column of a select list. -/
def OutputColumn.tokens (c : OutputColumn) : List Token :=
  match c.newName with
  | none => [nameToken c.column]
  | some name => [nameToken c.column, keyword "AS", nameToken name]

/-- The tokens of a joined table. -/
def JoinedTable.tokens (j : JoinedTable) : List Token :=
  [keyword "LEFT", keyword "JOIN", nameToken j.table, keyword "ON", nameToken j.left,
    .comparison ['='], nameToken j.right]

/-- The tokens of an assignment. -/
def Assignment.tokens : Assignment → List Token
  | .bound column p otherwise =>
    [nameToken column, .comparison ['='], keyword "COALESCE", .opening, p.token, .comma,
      nameToken otherwise, .closing]
  | .now column => [nameToken column, .comparison ['='], keyword "NOW", .opening, .closing]

/-- The column that an assignment sets to a bound value, with the placeholder of this value. -/
def Assignment.binding : Assignment → List (String × Placeholder)
  | .bound column p _ => [(column, p)]
  | .now _ => []

/-- The tokens of a clause on rows. -/
def rowTokens : Option RowPredicate → List Token
  | none => []
  | some p => keyword "WHERE" :: p.tokens

/-- The tokens of an order. -/
def orderTokens : Option (String × Option String) → List Token
  | none => []
  | some (column, none) => [keyword "ORDER", keyword "BY", nameToken column]
  | some (column, some direction) =>
    [keyword "ORDER", keyword "BY", nameToken column, nameToken direction]

/-- The tokens of a keyword with a number, if there is one. -/
def pagingTokens (word : String) : Option String → List Token
  | none => []
  | some number => [keyword word, nameToken number]

namespace Query

/-- The tokens of a query. -/
def tokens : Query → List Token
  | .select output table joins rows order offset limit =>
    keyword "SELECT" :: (listTokens (output.map OutputColumn.tokens) ++
      (keyword "FROM" :: nameToken table :: (joins.flatMap JoinedTable.tokens ++
        (rowTokens rows ++ (orderTokens order ++
          (pagingTokens "OFFSET" offset ++ pagingTokens "LIMIT" limit))))))
  | .count columns table rows =>
    keyword "SELECT" :: keyword "COUNT" :: .opening ::
      (listTokens (columns.map fun c => [nameToken c]) ++
        (.closing :: keyword "FROM" :: nameToken table :: rowTokens rows))
  | .insert table columns values returning =>
    keyword "INSERT" :: keyword "INTO" :: nameToken table :: .opening ::
      (listTokens (columns.map fun c => [nameToken c]) ++
        (.closing :: keyword "VALUES" :: .opening ::
          (listTokens (values.map fun p => [p.token]) ++
            (.closing :: keyword "RETURNING" ::
              listTokens (returning.map fun c => [nameToken c])))))
  | .update table assignments rows returning =>
    keyword "UPDATE" :: nameToken table :: keyword "SET" ::
      (listTokens (assignments.map Assignment.tokens) ++
        (rowTokens rows ++
          (keyword "RETURNING" :: listTokens (returning.map fun c => [nameToken c]))))
  | .delete table rows =>
    keyword "DELETE" :: keyword "FROM" :: nameToken table :: rowTokens rows

/-- The predicate on rows, if there is a clause on rows. -/
def rows : Query → Option RowPredicate
  | .select _ _ _ rows _ _ _ => rows
  | .count _ _ rows => rows
  | .insert _ _ _ _ => none
  | .update _ _ rows _ => rows
  | .delete _ rows => rows

/-- The operators of the comparisons with bound values. -/
def operators (q : Query) : List String :=
  q.rows.elim [] RowPredicate.operators

/-- The columns that bound values are assigned to. -/
def assigned : Query → List (String × Placeholder)
  | .insert _ columns values _ => columns.zip values
  | .update _ assignments _ _ => assignments.flatMap Assignment.binding
  | _ => []

/-- The columns that bound values are assigned to or compared with, and the placeholders of these
values, from left to right. -/
def bindings (q : Query) : List (String × Placeholder) :=
  q.assigned ++ q.rows.elim [] RowPredicate.bindings

end Query

/-- What reads an entry from the beginning of some tokens, and gives the tokens behind it. -/
abbrev Reads (α : Type) := List Token → Option (α × List Token)

/-- Read a given token. -/
def readToken (t : Token) : List Token → Option (List Token)
  | [] => none
  | u :: rest => if u = t then some rest else none

/-- A token is read where it stands. -/
theorem readToken_cons (t : Token) (rest : List Token) : readToken t (t :: rest) = some rest := by
  rw [readToken, if_pos rfl]

/-- Read a name. -/
def readName : Reads String
  | .word cs :: rest => some (String.ofList cs, rest)
  | _ => none

/-- A name is read back from its token. -/
theorem readName_cons (name : String) (rest : List Token) :
    readName (nameToken name :: rest) = some (name, rest) := by
  rw [nameToken, readName, String.ofList_toList]

/-- Read a placeholder. -/
def readPlaceholder : Reads Placeholder
  | .bound cs :: rest => (Placeholder.read? cs).map fun p => (p, rest)
  | _ => none

/-- Read entries with a comma between neighbours; at least one. -/
def readList {α : Type} (read : Reads α) (tokens : List Token) : Option (List α × List Token) :=
  match read tokens with
  | none => none
  | some (a, .comma :: rest) =>
    if rest.length < tokens.length then
      (readList read rest).map fun r => (a :: r.1, r.2)
    else none
  | some (a, rest) => some ([a], rest)
termination_by tokens.length

/-- Read one column of a select list. -/
def readOutputColumn : Reads OutputColumn
  | .word column :: k :: .word name :: rest =>
    if k = keyword "AS" then
      some (⟨String.ofList column, some (String.ofList name)⟩, rest)
    else some (⟨String.ofList column, none⟩, k :: .word name :: rest)
  | .word column :: rest => some (⟨String.ofList column, none⟩, rest)
  | _ => none

/-- Read joined tables, as many as there are. -/
def readJoins : List Token → List JoinedTable × List Token
  | l :: j :: .word table :: o :: .word left :: sign :: .word right :: rest =>
    if l = keyword "LEFT" ∧ j = keyword "JOIN" ∧ o = keyword "ON" ∧ sign = .comparison ['='] then
      let others := readJoins rest
      (⟨String.ofList table, String.ofList left, String.ofList right⟩ :: others.1, others.2)
    else ([], l :: j :: .word table :: o :: .word left :: sign :: .word right :: rest)
  | tokens => ([], tokens)

/-- Read an assignment. -/
def readAssignment : Reads Assignment
  | .word column :: .comparison sign :: .word function :: .opening :: rest =>
    if sign = ['='] then
      if .word function = keyword "NOW" then
        (readToken .closing rest).map fun rest => (.now (String.ofList column), rest)
      else if .word function = keyword "COALESCE" then do
        let (p, rest) ← readPlaceholder rest
        let rest ← readToken .comma rest
        let (otherwise, rest) ← readName rest
        let rest ← readToken .closing rest
        some (.bound (String.ofList column) p otherwise, rest)
      else none
    else none
  | _ => none

/-- Read a clause on rows, if there is one. -/
def readRows : List Token → Option (Option RowPredicate × List Token)
  | [] => some (none, [])
  | t :: rest =>
    if t = keyword "WHERE" then (readPredicate rest).map fun r => (some r.1, r.2)
    else some (none, t :: rest)

/-- Read the direction of an order, if there is one. -/
def readDirection : List Token → Option String × List Token
  | .word cs :: rest =>
    if .word cs = keyword "ASC" ∨ .word cs = keyword "DESC" then (some (String.ofList cs), rest)
    else (none, .word cs :: rest)
  | tokens => (none, tokens)

/-- Read an order, if there is one. -/
def readOrder : List Token → Option (String × Option String) × List Token
  | t :: u :: .word column :: rest =>
    if t = keyword "ORDER" ∧ u = keyword "BY" then
      let direction := readDirection rest
      (some (String.ofList column, direction.1), direction.2)
    else (none, t :: u :: .word column :: rest)
  | tokens => (none, tokens)

/-- Read a keyword with a number, if it is there. -/
def readPaging (word : String) : List Token → Option String × List Token
  | t :: .word number :: rest =>
    if t = keyword word then (some (String.ofList number), rest)
    else (none, t :: .word number :: rest)
  | tokens => (none, tokens)

namespace Query

/-- Read what follows `SELECT` in a select. -/
def readSelect (tokens : List Token) : Option Query := do
  let (output, rest) ← readList readOutputColumn tokens
  let rest ← readToken (keyword "FROM") rest
  let (table, rest) ← readName rest
  let (joins, rest) := readJoins rest
  let (rows, rest) ← readRows rest
  let (order, rest) := readOrder rest
  let (offset, rest) := readPaging "OFFSET" rest
  let (limit, rest) := readPaging "LIMIT" rest
  if rest.isEmpty then some (.select output table joins rows order offset limit) else none

/-- Read what follows `SELECT COUNT(`. -/
def readCount (tokens : List Token) : Option Query := do
  let (columns, rest) ← readList readName tokens
  let rest ← readToken .closing rest
  let rest ← readToken (keyword "FROM") rest
  let (table, rest) ← readName rest
  let (rows, rest) ← readRows rest
  if rest.isEmpty then some (.count columns table rows) else none

/-- Read what follows `INSERT`. -/
def readInsert (tokens : List Token) : Option Query := do
  let rest ← readToken (keyword "INTO") tokens
  let (table, rest) ← readName rest
  let rest ← readToken .opening rest
  let (columns, rest) ← readList readName rest
  let rest ← readToken .closing rest
  let rest ← readToken (keyword "VALUES") rest
  let rest ← readToken .opening rest
  let (values, rest) ← readList readPlaceholder rest
  let rest ← readToken .closing rest
  let rest ← readToken (keyword "RETURNING") rest
  let (returning, rest) ← readList readName rest
  if rest.isEmpty then some (.insert table columns values returning) else none

/-- Read what follows `UPDATE`. -/
def readUpdate (tokens : List Token) : Option Query := do
  let (table, rest) ← readName tokens
  let rest ← readToken (keyword "SET") rest
  let (assignments, rest) ← readList readAssignment rest
  let (rows, rest) ← readRows rest
  let rest ← readToken (keyword "RETURNING") rest
  let (returning, rest) ← readList readName rest
  if rest.isEmpty then some (.update table assignments rows returning) else none

/-- Read what follows `DELETE`. -/
def readDelete (tokens : List Token) : Option Query := do
  let rest ← readToken (keyword "FROM") tokens
  let (table, rest) ← readName rest
  let (rows, rest) ← readRows rest
  if rest.isEmpty then some (.delete table rows) else none

/-- Read what follows `SELECT`: a count has a parenthesis behind its second word. -/
def readSelection : List Token → Option Query
  | c :: .opening :: rest => if c = keyword "COUNT" then readCount rest else none
  | tokens => readSelect tokens

/-- Read a query from all its tokens. -/
def read : List Token → Option Query
  | [] => none
  | t :: rest =>
    if t = keyword "SELECT" then readSelection rest
    else if t = keyword "INSERT" then readInsert rest
    else if t = keyword "UPDATE" then readUpdate rest
    else if t = keyword "DELETE" then readDelete rest
    else none

/-- The query that a text is. -/
def ofText (sql : String) : Option Query :=
  (lex sql.toList).bind read

/-- What the reader asks of a query: lists that are not empty, known operators and directions. -/
def Readable : Query → Prop
  | .select output _ _ rows order _ _ =>
    output ≠ [] ∧ (∀ p ∈ rows, p.Readable) ∧
      ∀ o ∈ order, ∀ direction ∈ o.2, direction = "ASC" ∨ direction = "DESC"
  | .count columns _ rows => columns ≠ [] ∧ ∀ p ∈ rows, p.Readable
  | .insert _ columns values returning => columns ≠ [] ∧ values ≠ [] ∧ returning ≠ []
  | .update _ assignments rows returning =>
    assignments ≠ [] ∧ (∀ p ∈ rows, p.Readable) ∧ returning ≠ []
  | .delete _ rows => ∀ p ∈ rows, p.Readable

end Query

/-- A list is read back from its tokens where every entry is, in front of a comma as well as in
front of what follows the list. -/
theorem readList_listTokens {α : Type} {read : Reads α} {toTokens : α → List Token}
    (before : List Token → Prop) (hcomma : ∀ more, before (.comma :: more)) {entries : List α}
    (hread : ∀ a ∈ entries, ∀ rest, before rest → read (toTokens a ++ rest) = some (a, rest))
    (hne : entries ≠ []) {rest : List Token} (hrest : before rest)
    (hend : rest.head? ≠ some .comma) :
    readList read (listTokens (entries.map toTokens) ++ rest) = some (entries, rest) := by
  induction entries with
  | nil => exact absurd rfl hne
  | cons a entries ih =>
    obtain ⟨ha, hothers⟩ := List.forall_mem_cons.1 hread
    cases entries with
    | nil =>
      rw [listTokens, List.map_singleton, List.intercalate_singleton, readList, ha rest hrest]
      cases rest with
      | nil => rfl
      | cons t rest => cases t <;> first | rfl | exact absurd rfl hend
    | cons b entries =>
      have hi := ih hothers (by simp)
      rw [listTokens, List.map_cons, List.map_cons, List.intercalate_cons_cons, ← List.map_cons,
        List.append_assoc, List.append_assoc, List.singleton_append, readList,
        ha _ (hcomma _)]
      rw [listTokens] at hi
      -- the reader goes on only where something was consumed, and the comma was
      have hlength : ([Token.comma].intercalate ((b :: entries).map toTokens) ++ rest).length <
          (toTokens a ++ .comma ::
            ([Token.comma].intercalate ((b :: entries).map toTokens) ++ rest)).length := by
        simp only [List.length_append, List.length_cons]
        omega
      simp only [if_pos hlength, hi, Option.map_some]

/-- A list of names is read back. -/
theorem readList_names {names : List String} (hne : names ≠ []) {rest : List Token}
    (hend : rest.head? ≠ some .comma) :
    readList readName (listTokens (names.map fun c => [nameToken c]) ++ rest) =
      some (names, rest) :=
  readList_listTokens (fun _ => True) (fun _ => trivial)
    (fun a _ rest _ => readName_cons a rest) hne trivial hend

/-- A list of placeholders is read back. -/
theorem readList_placeholders {values : List Placeholder} (hne : values ≠ []) {rest : List Token}
    (hend : rest.head? ≠ some .comma) :
    readList readPlaceholder (listTokens (values.map fun p => [p.token]) ++ rest) =
      some (values, rest) :=
  readList_listTokens (fun _ => True) (fun _ => trivial)
    (fun a _ rest _ => by
      simp [readPlaceholder, Placeholder.token, Placeholder.read?_chars]) hne trivial hend

/-- An assignment is read back. -/
theorem readAssignment_tokens (a : Assignment) (rest : List Token) :
    readAssignment (a.tokens ++ rest) = some (a, rest) := by
  cases a with
  | bound column p otherwise =>
    have hnow : keyword "COALESCE" ≠ keyword "NOW" := by decide
    simp [Assignment.tokens, readAssignment, nameToken, keyword, readPlaceholder,
      Placeholder.token, Placeholder.read?_chars, readToken, readName]
  | now column =>
    simp [Assignment.tokens, readAssignment, nameToken, keyword, readToken]

/-- A column of a select list is read back, unless what follows names it. -/
theorem readOutputColumn_tokens (c : OutputColumn) {rest : List Token}
    (hrest : rest.head? ≠ some (keyword "AS")) :
    readOutputColumn (c.tokens ++ rest) = some (c, rest) := by
  obtain ⟨column, newName⟩ := c
  cases newName with
  | some name => simp [OutputColumn.tokens, readOutputColumn, nameToken]
  | none =>
    simp only [OutputColumn.tokens, nameToken, List.singleton_append]
    cases rest with
    | nil => simp [readOutputColumn]
    | cons k rest =>
      have hk : k ≠ keyword "AS" := by simpa using hrest
      cases rest with
      | nil => simp [readOutputColumn]
      | cons t rest => cases t <;> simp [readOutputColumn, hk]

/-- Nothing is joined where no join begins. -/
theorem readJoins_of_head {tokens : List Token} (h : tokens.head? ≠ some (keyword "LEFT")) :
    readJoins tokens = ([], tokens) := by
  rw [readJoins.eq_def]
  split
  · rw [if_neg]
    rintro ⟨rfl, -⟩
    exact h rfl
  · rfl

/-- Joined tables are read back. -/
theorem readJoins_tokens (joins : List JoinedTable) {rest : List Token}
    (hrest : rest.head? ≠ some (keyword "LEFT")) :
    readJoins (joins.flatMap JoinedTable.tokens ++ rest) = (joins, rest) := by
  induction joins with
  | nil => exact readJoins_of_head hrest
  | cons j joins ih =>
    rw [List.flatMap_cons, List.append_assoc]
    simp only [JoinedTable.tokens, nameToken, List.cons_append, List.nil_append, readJoins, ih,
      and_self, if_true, String.ofList_toList]

/-- A clause on rows is read back. -/
theorem readRows_tokens {rows : Option RowPredicate} (hrows : ∀ p ∈ rows, p.Readable)
    {rest : List Token} (hwhere : rest.head? ≠ some (keyword "WHERE"))
    (hand : rest.head? ≠ some (keyword "AND")) (hor : rest.head? ≠ some (keyword "OR")) :
    readRows (rowTokens rows ++ rest) = some (rows, rest) := by
  cases rows with
  | none =>
    cases rest with
    | nil => rfl
    | cons t rest =>
      rw [rowTokens, List.nil_append, readRows, if_neg (by simpa using hwhere)]
  | some p =>
    rw [rowTokens, List.cons_append, readRows, if_pos rfl,
      RowPredicate.readPredicate_tokens (hrows p rfl) hand hor]
    rfl

/-- A direction is read back. -/
theorem readDirection_cons {direction : String} (h : direction = "ASC" ∨ direction = "DESC")
    (rest : List Token) : readDirection (nameToken direction :: rest) = (some direction, rest) := by
  rcases h with rfl | rfl <;> simp [readDirection, nameToken, keyword]

/-- Without a direction none is read. -/
theorem readDirection_of_head {rest : List Token} (hasc : rest.head? ≠ some (keyword "ASC"))
    (hdesc : rest.head? ≠ some (keyword "DESC")) : readDirection rest = (none, rest) := by
  rw [readDirection.eq_def]
  split
  · rw [if_neg]
    rintro (h | h)
    · exact hasc (congrArg some h)
    · exact hdesc (congrArg some h)
  · rfl

/-- An order is read back. -/
theorem readOrder_tokens {order : Option (String × Option String)}
    (horder : ∀ o ∈ order, ∀ direction ∈ o.2, direction = "ASC" ∨ direction = "DESC")
    {rest : List Token} (hnext : rest.head? ≠ some (keyword "ORDER"))
    (hasc : rest.head? ≠ some (keyword "ASC")) (hdesc : rest.head? ≠ some (keyword "DESC")) :
    readOrder (orderTokens order ++ rest) = (order, rest) := by
  cases order with
  | none =>
    rw [orderTokens, List.nil_append, readOrder.eq_def]
    split
    · rw [if_neg]
      rintro ⟨rfl, -⟩
      exact hnext rfl
    · rfl
  | some o =>
    obtain ⟨column, direction⟩ := o
    cases direction with
    | none =>
      simp only [orderTokens, nameToken, List.cons_append, List.nil_append, readOrder, and_self,
        if_true, readDirection_of_head hasc hdesc, String.ofList_toList]
    | some direction =>
      have hd := readDirection_cons (horder _ rfl direction rfl) rest
      simp only [orderTokens, nameToken, List.cons_append, List.nil_append] at hd ⊢
      simp only [readOrder, and_self, if_true, hd, String.ofList_toList]

/-- A keyword with a number is read back. -/
theorem readPaging_tokens (word : String) (number : Option String) {rest : List Token}
    (hrest : rest.head? ≠ some (keyword word)) :
    readPaging word (pagingTokens word number ++ rest) = (number, rest) := by
  cases number with
  | none =>
    rw [pagingTokens, List.nil_append, readPaging.eq_def]
    split
    · rw [if_neg]
      rintro rfl
      exact hrest rfl
    · rfl
  | some number =>
    simp only [pagingTokens, nameToken, List.cons_append, List.nil_append, readPaging, if_true,
      String.ofList_toList]

/-- What may stand behind the clause on rows of a select. -/
theorem head?_tail (order : Option (String × Option String)) (offset limit : Option String) :
    (orderTokens order ++ (pagingTokens "OFFSET" offset ++ pagingTokens "LIMIT" limit)).head? ∈
      [none, some (keyword "ORDER"), some (keyword "OFFSET"), some (keyword "LIMIT")] := by
  rcases order with _ | ⟨column, _ | direction⟩ <;> cases offset <;> cases limit <;>
    simp [orderTokens, pagingTokens]

/-- What may stand behind the joins of a select. -/
theorem head?_rows_tail (rows : Option RowPredicate) {rest : List Token}
    {heads : List (Option Token)} (h : rest.head? ∈ heads) :
    (rowTokens rows ++ rest).head? ∈ some (keyword "WHERE") :: heads := by
  cases rows with
  | none => exact List.mem_cons_of_mem _ h
  | some p => exact List.mem_cons_self

/-- A token that is among no heads of a list is not its head. -/
theorem head?_ne_of_mem {rest : List Token} {heads : List (Option Token)} (h : rest.head? ∈ heads)
    {t : Token} (ht : some t ∉ heads) : rest.head? ≠ some t :=
  fun he => ht (he ▸ h)

/-- Nothing begins with a token if nothing is left. -/
theorem head?_nil_ne (t : Token) : ([] : List Token).head? ≠ some t :=
  nofun

/-- A clause on rows that nothing follows is read back. -/
theorem readRows_end {rows : Option RowPredicate} (hrows : ∀ p ∈ rows, p.Readable) :
    readRows (rowTokens rows) = some (rows, []) := by
  have hread := readRows_tokens hrows (head?_nil_ne _) (head?_nil_ne _) (head?_nil_ne _)
  rwa [List.append_nil] at hread

/-- A list of names that nothing follows is read back. -/
theorem readNames_end {names : List String} (hne : names ≠ []) :
    readList readName (listTokens (names.map fun c => [nameToken c])) = some (names, []) := by
  have hread := readList_names hne (head?_nil_ne _)
  rwa [List.append_nil] at hread

namespace Query

/-- What follows `SELECT` in a select is read back. -/
theorem readSelect_tokens {output : List OutputColumn} (houtput : output ≠ []) (table : String)
    (joins : List JoinedTable) {rows : Option RowPredicate} (hrows : ∀ p ∈ rows, p.Readable)
    {order : Option (String × Option String)}
    (horder : ∀ o ∈ order, ∀ direction ∈ o.2, direction = "ASC" ∨ direction = "DESC")
    (offset limit : Option String) :
    readSelect (listTokens (output.map OutputColumn.tokens) ++
      (keyword "FROM" :: nameToken table :: (joins.flatMap JoinedTable.tokens ++
        (rowTokens rows ++ (orderTokens order ++
          (pagingTokens "OFFSET" offset ++ pagingTokens "LIMIT" limit)))))) =
      some (.select output table joins rows order offset limit) := by
  have htail := head?_tail order offset limit
  have hjoined := head?_rows_tail rows htail
  have hlimit : (pagingTokens "LIMIT" limit).head? ∈ [none, some (keyword "LIMIT")] := by
    cases limit <;> simp [pagingTokens]
  have hoffset : (pagingTokens "OFFSET" offset ++ pagingTokens "LIMIT" limit).head? ∈
      [none, some (keyword "OFFSET"), some (keyword "LIMIT")] := by
    cases offset <;> cases limit <;> simp [pagingTokens]
  have hp := readPaging_tokens "LIMIT" limit (head?_nil_ne _)
  rw [List.append_nil] at hp
  rw [readSelect, readList_listTokens (fun rest => rest.head? ≠ some (keyword "AS"))
    (fun _ => by simp [keyword]) (fun c _ _ => readOutputColumn_tokens c) houtput
    (by simp [keyword]) (by simp [keyword])]
  simp only [Option.bind_eq_bind, Option.bind_some, readToken_cons, readName_cons]
  rw [readJoins_tokens joins (head?_ne_of_mem hjoined (by decide))]
  simp only
  rw [readRows_tokens hrows (head?_ne_of_mem htail (by decide)) (head?_ne_of_mem htail (by decide))
    (head?_ne_of_mem htail (by decide))]
  simp only [Option.bind_some]
  rw [readOrder_tokens horder (head?_ne_of_mem hoffset (by decide))
    (head?_ne_of_mem hoffset (by decide)) (head?_ne_of_mem hoffset (by decide))]
  simp only
  rw [readPaging_tokens "OFFSET" offset (head?_ne_of_mem hlimit (by decide)), hp]
  rfl

/-- A select list has no parenthesis behind its first word. -/
theorem readSelection_select {output : List OutputColumn} (houtput : output ≠ [])
    (rest : List Token) :
    readSelection (listTokens (output.map OutputColumn.tokens) ++ (keyword "FROM" :: rest)) =
      readSelect (listTokens (output.map OutputColumn.tokens) ++ (keyword "FROM" :: rest)) := by
  rw [readSelection]
  intro c more
  rcases output with _ | ⟨⟨column, _ | name⟩, _ | ⟨other, others⟩⟩
  · exact absurd rfl houtput
  all_goals simp [listTokens, OutputColumn.tokens, nameToken, keyword, List.intercalate_cons_cons]

/-- Reading a query from its tokens gives it back. -/
theorem read_tokens {q : Query} (h : q.Readable) : read q.tokens = some q := by
  cases q with
  | select output table joins rows order offset limit =>
    obtain ⟨houtput, hrows, horder⟩ := h
    rw [tokens, read, if_pos rfl, readSelection_select houtput]
    exact readSelect_tokens houtput table joins hrows horder offset limit
  | count columns table rows =>
    obtain ⟨hcolumns, hrows⟩ := h
    rw [tokens, read, if_pos rfl, readSelection, if_pos rfl, readCount,
      readList_names hcolumns (by simp)]
    simp only [Option.bind_eq_bind, Option.bind_some, readToken_cons, readName_cons,
      readRows_end hrows]
    rfl
  | insert table columns values returning =>
    obtain ⟨hcolumns, hvalues, hreturning⟩ := h
    rw [tokens, read, if_neg (by decide), if_pos rfl, readInsert]
    simp only [Option.bind_eq_bind, Option.bind_some, readToken_cons, readName_cons]
    rw [readList_names hcolumns (by simp)]
    simp only [Option.bind_some, readToken_cons]
    rw [readList_placeholders hvalues (by simp)]
    simp only [Option.bind_some, readToken_cons, readNames_end hreturning]
    rfl
  | update table assignments rows returning =>
    obtain ⟨hassignments, hrows, hreturning⟩ := h
    have hreturn : (keyword "RETURNING" ::
        listTokens (returning.map fun c => [nameToken c])).head? ∈
        [some (keyword "RETURNING")] := by simp
    have hnext := head?_rows_tail rows hreturn
    rw [tokens, read, if_neg (by decide), if_neg (by decide), if_pos rfl, readUpdate]
    simp only [Option.bind_eq_bind, Option.bind_some, readToken_cons, readName_cons]
    rw [readList_listTokens (fun _ => True) (fun _ => trivial)
      (fun a _ rest _ => readAssignment_tokens a rest) hassignments trivial
      (head?_ne_of_mem hnext (by decide))]
    simp only [Option.bind_some]
    rw [readRows_tokens hrows (head?_ne_of_mem hreturn (by decide))
      (head?_ne_of_mem hreturn (by decide)) (head?_ne_of_mem hreturn (by decide))]
    simp only [Option.bind_some, readToken_cons, readNames_end hreturning]
    rfl
  | delete table rows =>
    rw [tokens, read, if_neg (by decide), if_neg (by decide), if_neg (by decide), if_pos rfl,
      readDelete]
    simp only [Option.bind_eq_bind, Option.bind_some, readToken_cons, readName_cons,
      readRows_end h]
    rfl

/-- A text that has the tokens of a query is that query. -/
theorem ofText_of_lexed {q : Query} (h : q.Readable) {sql : String} (hsql : Lexed sql q.tokens) :
    ofText sql = some q := by
  rw [ofText, hsql, Option.bind_some, read_tokens h]

end Query

end TableQuery.Sql
