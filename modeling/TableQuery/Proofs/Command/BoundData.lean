import TableQuery.Command.Plan
import TableQuery.Proofs.Fields
import TableQuery.Proofs.Json.WellFormed
import TableQuery.Proofs.Statement.Write

/-!
# Data of a command

Rows to insert and new values of an update are given as JSON texts. Every object becomes a record
with its fields in their order, and a printed statement shows the values of these fields. They are
shown as they were given, apart from integers that do not fit a signed word of 64 bits: those are
bound as doubles.
-/

namespace TableQuery

open TableQuery.Sql

namespace Json

/-- The value that is shown for a field of the data: an integer beyond a signed word of 64 bits is
the nearest double, and anything else is what it was. -/
def shown : Json → Json
  | .integer n => if n < 2 ^ 63 then .integer n else .float (Binary64.ofInt n)
  | j => j

/-- The values of an array, or the value itself. -/
def entries : Json → List Json
  | .array items => items
  | j => [j]

/-- A value is shown as it was given unless it is an integer beyond a signed word of 64 bits. -/
theorem shown_eq_self_iff {j : Json} : j.shown = j ↔ ∀ n, j = .integer n → n < 2 ^ 63 := by
  cases j with
  | integer n =>
    rw [shown]
    split
    · next hn => exact ⟨fun _ m hm => (by cases hm; exact hn), fun _ => rfl⟩
    · next hn => exact ⟨fun h => (by cases h), fun h => absurd (h n rfl) hn⟩
  | _ => exact ⟨fun _ n hn => (by cases hn), fun _ => rfl⟩

/-- The values of fields are shown as they were given unless one of them is an integer beyond a
signed word of 64 bits. -/
theorem map_shown_eq_iff {fields : List (String × Json)} :
    (fields.map fun f => f.2.shown) = fields.map Prod.snd ↔
      ∀ field ∈ fields, ∀ n, field.2 = .integer n → n < 2 ^ 63 := by
  rw [List.map_inj_left]
  exact forall₂_congr fun field _ => shown_eq_self_iff

/-- What is bound for a well-formed value is shown as that value, or as the nearest double. -/
theorem WellFormed.serialized_ofJson {j : Json} (h : j.WellFormed) :
    (Value.ofJson j).serialized = j.shown := by
  cases h with
  | @integer n hlow hhigh =>
    by_cases hn : n < 2 ^ 63
    · have hfits : Value.fitsInt64 n = true := by
        rw [Value.fitsInt64, Bool.and_eq_true, decide_eq_true_iff, decide_eq_true_iff]
        omega
      have hword : (Int64.ofInt n).toInt = n := Int64.toInt_ofInt_of_le hlow hn
      rw [Value.ofJson, if_pos hfits, shown, if_pos hn]
      exact congrArg Json.integer hword
    · have hfits : Value.fitsInt64 n = false := by
        rw [Value.fitsInt64, Bool.and_eq_false_iff, decide_eq_false_iff_not,
          decide_eq_false_iff_not]
        omega
      have hfinite : (Binary64.ofInt n).isFinite = true :=
        Binary64.isFinite_ofInt (by omega)
      rw [Value.ofJson, hfits, shown, if_neg hn]
      exact if_pos hfinite
  | float hfinite => exact if_pos hfinite
  | _ => rfl

end Json

namespace Record

/-- The record with the fields of an object, in their order. -/
def ofFields (fields : List (String × Json)) : Record :=
  ⟨fields.map fun f => (f.1, Value.ofJson f.2)⟩

/-- The columns are the names of the fields. -/
theorem columns_ofFields (fields : List (String × Json)) :
    (ofFields fields).columns = fields.map Prod.fst := by
  rw [columns, ofFields, List.map_map]
  rfl

/-- The values of well-formed fields are shown field by field. -/
theorem map_serialized_ofFields {fields : List (String × Json)}
    (h : ∀ field ∈ fields, field.2.WellFormed) :
    (ofFields fields).values.map Value.serialized = fields.map fun f => f.2.shown := by
  rw [values, ofFields, List.map_map, List.map_map]
  exact List.map_congr_left fun field hmem => (h field hmem).serialized_ofJson

/-- A record holds the fields of an object, whose values are well formed. -/
def Holds (row : Record) (j : Json) : Prop :=
  ∃ fields, j = .object fields ∧ (∀ field ∈ fields, field.2.WellFormed) ∧ row = ofFields fields

/-- The record of a well-formed value holds its fields: no two of them have one name. -/
theorem holds_of_ofJson? {j : Json} (hj : j.WellFormed) {row : Record}
    (h : ofJson? j = some row) : row.Holds j := by
  cases hj with
  | @object fields hnames hvalues =>
    have hdifferent : ((ofFields fields).fields.map Prod.fst).Nodup := by
      rw [← columns, columns_ofFields]
      exact hnames
    have hfields : (ofList (ofFields fields).fields).fields = (ofFields fields).fields := by
      rw [fields_ofList, gatherFields_of_nodup hdifferent]
    cases h
    exact ⟨fields, rfl, hvalues, congrArg Record.mk hfields⟩
  | _ => cases h

end Record

/-- The rows of a well-formed value hold the fields of its entries, one by one. -/
theorem InsertRows.holds_of_ofJson? {j : Json} (hj : j.WellFormed) {rows : InsertRows}
    (h : ofJson? j = some rows) :
    List.Forall₂ (fun entry row => row.Holds entry) j.entries rows.toList := by
  cases hj with
  | @array items hitems =>
    obtain ⟨records, hrecords, rfl⟩ := Option.map_eq_some_iff.1 h
    have hread : List.Forall₂ (fun item row => Record.ofJson? item = some row) items records :=
      mapM_some_iff.1 hrecords
    exact ((List.forall₂_and_left _ _).2 ⟨hitems, hread⟩).imp fun _ _ h =>
      Record.holds_of_ofJson? h.1 h.2
  | @object fields hnames hvalues =>
    have hone : (Record.ofJson? (.object fields)).map InsertRows.one = some rows := h
    obtain ⟨row, hrow, rfl⟩ := Option.map_eq_some_iff.1 hone
    exact .cons (Record.holds_of_ofJson? (.object hnames hvalues) hrow) .nil
  | _ => cases h

namespace Command

/-- Taking over a check that succeeds means that it succeeded. -/
theorem ofInput_eq_ok_iff {α : Type} {x : Except InputError α} {a : α} :
    ofInput x = .ok a ↔ x = .ok a := by
  cases x with
  | error e => exact ⟨fun h => (by cases h), fun h => (by cases h)⟩
  | ok b => exact ⟨fun h => by cases h; rfl, fun h => by cases h; rfl⟩

/-- Data that is read and used is a document. -/
theorem readData_ok {use : DataUse} {text : String} {j : Json} (h : readData use text = .ok j) :
    Json.parse? text = some j := by
  rw [readData] at h
  split at h
  · next hparse =>
    cases h
    exact hparse
  · cases h

/-- Rows are read from a document that holds them. -/
theorem InsertArguments.rows_ok {a : InsertArguments} {rows : InsertRows}
    (h : a.rows = .ok rows) : ∃ document, Json.parse? a.data = some document ∧
      List.Forall₂ (fun entry row => row.Holds entry) document.entries rows.toList := by
  obtain ⟨document, hread, h⟩ := ok_of_bind h
  have hparse : Json.parse? a.data = some document := readData_ok hread
  split at h
  · next given hgiven =>
    cases h
    exact ⟨document, hparse, InsertRows.holds_of_ofJson? (Json.wellFormed_of_parse? hparse) hgiven⟩
  · cases h

/-- The record of an update is read from an object that it holds. -/
theorem UpdateArguments.record_ok {a : UpdateArguments} {data : Record}
    (h : a.record = .ok data) : ∃ document, Json.parse? a.data = some document ∧
      data.Holds document := by
  obtain ⟨document, hread, h⟩ := ok_of_bind h
  have hparse : Json.parse? a.data = some document := readData_ok hread
  split at h
  · next given hgiven =>
    cases h
    exact ⟨document, hparse, Record.holds_of_ofJson? (Json.wellFormed_of_parse? hparse) hgiven⟩
  · cases h

/-- A printed statement with given parameters. -/
def printedStatement (sql : String) (parameters : List Json) : Json :=
  .object [("sql", .string sql), ("params", .array parameters)]

/-- What is printed shows the rows of an insert: a statement for every object of the data, in their
order, with the values of the object in theirs. They are those of the object exactly if none of them
is an integer beyond a signed word of 64 bits. -/
def InsertArguments.ShownIn (a : InsertArguments) (casts : List String) (out : Json) : Prop :=
  ∃ document types printed, Json.parse? a.data = some document ∧ readCasts casts = .ok types ∧
    out = .array printed ∧
    List.Forall₂ (fun entry statement => ∃ fields sql, entry = .object fields ∧
      statement = printedStatement sql (fields.map fun f => f.2.shown) ∧
      Query.ofText sql = some (Statement.insertQuery a.table (.ofFields fields) a.returning types) ∧
      ((fields.map fun f => f.2.shown) = fields.map Prod.snd ↔
        ∀ field ∈ fields, ∀ n, field.2 = .integer n → n < 2 ^ 63)) document.entries printed

/-- What is printed shows the new values of an update: a statement with the values of the object in
their order and those of the filter behind them. The former are those of the object exactly if none
of them is an integer beyond a signed word of 64 bits. -/
def UpdateArguments.ShownIn (a : UpdateArguments) (facts : AssumedFacts) (out : Json) : Prop :=
  ∃ fields filter info sql, Json.parse? a.data = some (.object fields) ∧
    a.filter.filter = .ok filter ∧ facts.info = .ok info ∧
    out = printedStatement sql
      ((fields.map fun f => f.2.shown) ++ filter.boundValues.map Value.serialized) ∧
    Query.ofText sql = some (Statement.updateQuery a.table (.ofFields fields)
      { filter, returning := a.returning } info) ∧
    ((fields.map fun f => f.2.shown) = fields.map Prod.snd ↔
      ∀ field ∈ fields, ∀ n, field.2 = .integer n → n < 2 ^ 63)

/-- The statements of an insert show its rows. -/
theorem InsertArguments.shownIn_of_planInsert {a : InsertArguments} {casts : List String}
    {statements : List Statement} (h : planInsert a casts = .ok statements) :
    a.ShownIn casts (.array (statements.map statementJson)) := by
  obtain ⟨types, htypes, h⟩ := ok_of_bind h
  obtain ⟨rows, hrows, h⟩ := ok_of_bind h
  obtain ⟨document, hparse, hheld⟩ := InsertArguments.rows_ok hrows
  have hstatements := mapM_ok_iff.1 (ofInput_eq_ok_iff.1 h)
  refine ⟨document, types, _, hparse, htypes, rfl, ?_⟩
  rw [List.forall₂_map_right_iff]
  refine forall₂_of_middle (fun entry row s hrow hs => ?_) hheld hstatements
  obtain ⟨fields, rfl, hvalues, rfl⟩ := hrow
  have hmeans := insert_means hs
  refine ⟨fields, s.sql, rfl, ?_, hmeans.ofText, Json.map_shown_eq_iff⟩
  rw [statementJson, hmeans.parameters, Record.map_serialized_ofFields hvalues]
  rfl

/-- The statement of an update shows its new values. -/
theorem UpdateArguments.shownIn_of_planUpdate {a : UpdateArguments} {facts : AssumedFacts}
    {s : Statement} (h : planUpdate a facts = .ok s) : a.ShownIn facts (statementJson s) := by
  obtain ⟨data, hdata, h⟩ := ok_of_bind h
  obtain ⟨options, hoptions, h⟩ := ok_of_bind h
  obtain ⟨info, hinfo, h⟩ := ok_of_bind h
  obtain ⟨filter, hfilter, hoptions⟩ := ok_of_bind hoptions
  cases hoptions
  obtain ⟨document, hparse, fields, rfl, hvalues, rfl⟩ := UpdateArguments.record_ok hdata
  have hmeans := update_means (ofInput_eq_ok_iff.1 h)
  refine ⟨fields, filter, info, s.sql, hparse, hfilter, hinfo, ?_, hmeans.ofText,
    Json.map_shown_eq_iff⟩
  rw [statementJson, hmeans.parameters, List.map_append, Record.map_serialized_ofFields hvalues]
  rfl

/-- Inserts and updates that are printed show the data they were given, field by field. A value is
shown as it was given unless it is an integer beyond a signed word of 64 bits, which is shown as the
nearest double. -/
theorem output_shows_data {command : PlanCommand} {out : Json} (h : command.output = .ok out) :
    (∀ a casts, command = .insert a casts → a.ShownIn casts out) ∧
      ∀ a facts, command = .update a facts → a.ShownIn facts out := by
  constructor
  · rintro a casts rfl
    obtain ⟨statements, hplan, rfl⟩ := map_ok_iff.1 h
    exact InsertArguments.shownIn_of_planInsert hplan
  · rintro a facts rfl
    obtain ⟨s, hplan, rfl⟩ := map_ok_iff.1 h
    exact UpdateArguments.shownIn_of_planUpdate hplan

/-- Two rows are printed in their order, and an update with its filter. The nested integer keeps all
its digits. -/
theorem output_shows_data_nested :
    let a : InsertArguments :=
      ⟨"t", "[\x7b\"b\":[18446744073709551615],\"a\":-7\x7d,\x7b\"n\":null\x7d]", none⟩
    let u : UpdateArguments := ⟨"t", "\x7b\"b\":true,\"a\":\"x\"\x7d", ⟨["id=5"], false⟩, none⟩
    let inserted := "[\x7b\"sql\":\"INSERT INTO t(b, a) VALUES($1, $2) RETURNING id\"," ++
      "\"params\":[[18446744073709551615],-7]\x7d,\x7b\"sql\":\"INSERT INTO t(n) VALUES($1) " ++
      "RETURNING id\",\"params\":[null]\x7d]"
    let updated := "\x7b\"sql\":\"UPDATE t SET b=COALESCE($1, b), a=COALESCE($2, a) " ++
      "WHERE id = $3 RETURNING id\",\"params\":[true,\"x\",5]\x7d"
    (∃ out, (PlanCommand.insert a []).output = .ok out ∧ out.compact = inserted ∧
      a.ShownIn [] out) ∧
    ∃ out, (PlanCommand.update u {}).output = .ok out ∧ out.compact = updated ∧
      u.ShownIn {} out := by
  intro a u inserted updated
  constructor
  · obtain ⟨out, hout, htext⟩ : ∃ out, (PlanCommand.insert a []).output = .ok out ∧
        (out.compact == inserted) = true :=
      exists_ok_of_any (by decide +kernel)
    exact ⟨out, hout, eq_of_beq htext, (output_shows_data hout).1 a [] rfl⟩
  · obtain ⟨out, hout, htext⟩ : ∃ out, (PlanCommand.update u {}).output = .ok out ∧
        (out.compact == updated) = true :=
      exists_ok_of_any (by decide +kernel)
    exact ⟨out, hout, eq_of_beq htext, (output_shows_data hout).2 u {} rfl⟩

/-- The largest integer that a document can hold, in a field. -/
theorem parse?_largest : Json.parse? "\x7b\"n\":18446744073709551615\x7d" =
    some (.object [("n", .integer 18446744073709551615)]) := by
  have htokens : Json.tokens? "\x7b\"n\":18446744073709551615\x7d".toList =
      some [.openObject, .string (some "n"), .colon,
        .number ⟨false, "18446744073709551615".toList, none, none⟩, .closeObject] := by
    decide +kernel
  have hdocument : Json.Document.ofTokens? [.openObject, .string (some "n"), .colon,
      .number ⟨false, "18446744073709551615".toList, none, none⟩, .closeObject] =
        some (.object [(some "n", .number ⟨false, "18446744073709551615".toList, none, none⟩)]) :=
    rfl
  have hnumber : (Json.NumberLiteral.mk false "18446744073709551615".toList none none).value? =
      some (.integer 18446744073709551615) := by
    cbv
  simp only [Json.parse?, Json.Document.parse?, htokens, Option.bind_eq_bind, Option.bind_some,
    hdocument, Json.Document.value?, Json.Document.content?,
    Json.Document.contentWithin?, Json.fieldContents?, hnumber]
  rfl

/-- The largest integer that a document holds is printed as a double. -/
theorem output_rounds_largest :
    let a : InsertArguments := ⟨"t", "\x7b\"n\":18446744073709551615\x7d", none⟩
    Json.parse? a.data = some (.object [("n", .integer 18446744073709551615)]) ∧
      (PlanCommand.insert a []).output = .ok (.array [.object
        [("sql", .string "INSERT INTO t(n) VALUES($1) RETURNING id"),
          ("params", .array [.float (Binary64.ofInt 18446744073709551615)])]]) ∧
      Json.float (Binary64.ofInt 18446744073709551615) ≠ .integer 18446744073709551615 := by
  intro a
  refine ⟨parse?_largest, ?_, fun h => by cases h⟩
  simp only [PlanCommand.output, planInsert, InsertArguments.rows, readData, a, parse?_largest]
  rfl

end Command

end TableQuery
