import TableQuery.Filter.Expression
import TableQuery.Proofs.Checks
import TableQuery.Proofs.Json.WellFormed

/-!
# Lists of conditions and single conditions

A filter may be one condition or an array of conditions, and one condition may itself be an array,
of its four fields. An array of objects with a column is never taken for one condition: its first
item would have to name a connective, and an object names one only as a single field with the
value null.
-/

namespace TableQuery

section Fields

variable {α : Type} {name : String} {fields : List (String × Json)}

/-- Among fields with different names, a name has the one value that stands beside it. -/
theorem fieldValues_of_nodup (h : (fields.map Prod.fst).Nodup) :
    fieldValues name fields = (getField? name fields).toList := by
  induction fields with
  | nil => rfl
  | cons field rest ih =>
    obtain ⟨other, value⟩ := field
    rw [List.map_cons, List.nodup_cons] at h
    have hrest : fieldValues name rest = (getField? name rest).toList := ih h.2
    by_cases hname : other = name
    · subst hname
      have hfree : getField? other rest = none := getField?_eq_none_iff.2 h.1
      have hfirst : fieldValues other ((other, value) :: rest) =
          value :: fieldValues other rest := by
        simp [fieldValues]
      rw [hfirst, hrest, hfree, getField?, if_pos rfl]
      rfl
    · have hskip : fieldValues name ((other, value) :: rest) = fieldValues name rest := by
        simp [fieldValues, hname]
      rw [hskip, hrest, getField?, if_neg hname]

/-- Among fields with different names, a field is its default where the name is missing, and else
what is read from its value. -/
theorem readField?_of_nodup (h : (fields.map Prod.fst).Nodup) (default : α)
    (read : Json → Option α) :
    readField? name default read fields = (getField? name fields).elim (some default) read := by
  rw [readField?, fieldValues_of_nodup h]
  cases getField? name fields <;> rfl

end Fields

/-- A value that names a connective: its name, or an object of its name and null. -/
inductive Connective.NamedBy : Connective → Json → Prop where
  /-- The name of the conjunction. -/
  | and : NamedBy .and (.string "and")
  /-- The name of the disjunction. -/
  | or : NamedBy .or (.string "or")
  /-- The conjunction as the only field of an object. -/
  | andField : NamedBy .and (.object [("and", .null)])
  /-- The disjunction as the only field of an object. -/
  | orField : NamedBy .or (.object [("or", .null)])

/-- The connective that is looked up under a name. -/
theorem Connective.lookup_eq_some_iff {name : String} {c : Connective} :
    [("and", Connective.and), ("or", .or)].lookup name = some c ↔
      name = "and" ∧ c = .and ∨ name = "or" ∧ c = .or := by
  by_cases hand : name = "and"
  · subst hand
    simp [eq_comm]
  · by_cases hor : name = "or"
    · subst hor
      simp [List.lookup, eq_comm]
    · have hnone : [("and", Connective.and), ("or", .or)].lookup name = none := by
        simp [List.lookup_eq_none_iff, hand, hor]
      simp [hnone, hand, hor]

/-- A connective is read exactly from the values that name it. -/
theorem Connective.ofJson?_eq_some_iff {j : Json} {c : Connective} :
    Connective.ofJson? j = some c ↔ c.NamedBy j := by
  constructor
  · intro h
    unfold Connective.ofJson? readChoice? at h
    split at h
    · rcases Connective.lookup_eq_some_iff.1 h with ⟨rfl, rfl⟩ | ⟨rfl, rfl⟩
      · exact .and
      · exact .or
    · rcases Connective.lookup_eq_some_iff.1 h with ⟨rfl, rfl⟩ | ⟨rfl, rfl⟩
      · exact .andField
      · exact .orField
    · cases h
  · rintro (_ | _ | _ | _) <;> rfl

/-- What a condition compares with, as the value of a field that may be missing. -/
structure FilterValue.WrittenAs (side : FilterValue) (written : Option Json) : Prop where
  /-- Without the field the column is to be null. -/
  missing : written = none → side = .isNull
  /-- Null and its word ask for null. -/
  null : written = some .null ∨ written = some (.string "null") → side = .isNull
  /-- Two words ask for not null. -/
  notNull : written = some (.string "notnull") ∨ written = some (.string "not_null") →
    side = .notNull
  /-- Everything else is compared with. -/
  value : ∀ j, written = some j → j ≠ .null →
    (∀ word ∈ ["null", "notnull", "not_null"], j ≠ .string word) → side = .value (.ofJson j)

/-- The right-hand side of a value is the one that the value writes. -/
theorem FilterValue.writtenAs_ofJson (written : Option Json) :
    (written.elim .isNull FilterValue.ofJson).WrittenAs written := by
  refine ⟨?_, ?_, ?_, ?_⟩
  · rintro rfl
    rfl
  · rintro (rfl | rfl) <;> rfl
  · rintro (rfl | rfl) <;> rfl
  · rintro j rfl hnull hword
    cases j with
    | null => exact absurd rfl hnull
    | string s =>
      have hs : ∀ word ∈ ["null", "notnull", "not_null"], s ≠ word := by
        rintro word hmem rfl
        exact hword s hmem rfl
      simp only [List.forall_mem_cons] at hs
      obtain ⟨hisNull, hnotnull, hnot, -⟩ := hs
      simp only [Option.elim, FilterValue.ofJson, if_neg hisNull, Bool.or_eq_true,
        decide_eq_true_eq, hnotnull, hnot, or_self, if_false]
      rfl
    | _ => rfl

/-- There is one right-hand side only that a value writes. -/
theorem FilterValue.WrittenAs.eq_ofJson {side : FilterValue} {written : Option Json}
    (h : side.WrittenAs written) : side = written.elim .isNull FilterValue.ofJson := by
  have hread := FilterValue.writtenAs_ofJson written
  cases written with
  | none => rw [h.missing rfl, hread.missing rfl]
  | some j =>
    by_cases hnull : j = .null ∨ j = .string "null"
    · have hwritten : some j = some .null ∨ some j = some (.string "null") := by simpa using hnull
      rw [h.null hwritten, hread.null hwritten]
    · by_cases hnotNull : j = .string "notnull" ∨ j = .string "not_null"
      · have hwritten : some j = some (.string "notnull") ∨ some j = some (.string "not_null") := by
          simpa using hnotNull
        rw [h.notNull hwritten, hread.notNull hwritten]
      · rw [not_or] at hnull hnotNull
        have hwords : ∀ word ∈ ["null", "notnull", "not_null"], j ≠ .string word := by
          simp [hnull.2, hnotNull.1, hnotNull.2]
        rw [h.value j rfl hnull.1 hwords, hread.value j rfl hnull.1 hwords]

namespace Condition

/-- A condition that an object writes with its fields. Other fields say nothing. -/
structure WrittenAs (j : Json) (c : Condition) : Prop where
  /-- Without a connective the condition is a further requirement. -/
  connective : (j.field? "type").elim (c.connective = .and) c.connective.NamedBy
  /-- The column is there, and a text. -/
  column : j.field? "col" = some (.string c.column)
  /-- Without an operator the comparison is for equality. -/
  operator : (j.field? "op").elim (c.operator = "=") (· = .string c.operator)
  /-- What the column is compared with. -/
  value : c.value.WrittenAs (j.field? "val")

/-- A text that is read is the text of the value. -/
theorem asString?_eq_some_iff {j : Json} {s : String} : j.asString? = some s ↔ j = .string s := by
  constructor
  · intro h
    cases j with
    | string t =>
      cases h
      rfl
    | _ => cases h
  · rintro rfl
    rfl

/-- The right-hand side is read as it is: gathering the fields of its value changes nothing. -/
theorem readField?_value {fields : List (String × Json)} (h : (Json.object fields).WellFormed) :
    readField? "val" FilterValue.isNull (fun j => some (.ofJson j.gathered)) fields =
      some ((getField? "val" fields).elim .isNull FilterValue.ofJson) := by
  cases h with
  | object hnames hvalues =>
    rw [readField?_of_nodup hnames]
    cases hval : getField? "val" fields with
    | none => rfl
    | some j =>
      have hwell : j.WellFormed := hvalues ("val", j) ((getField?_eq_some_iff hnames).1 hval)
      simp only [Option.elim, Json.gathered_of_wellFormed hwell]

/-- A condition is read from an object exactly if each of its parts is. -/
theorem ofJson?_object_eq_some_iff {fields : List (String × Json)} {c : Condition} :
    ofJson? (.object fields) = some c ↔
      readField? "type" .and Connective.ofJson? fields = some c.connective ∧
      readField? "col" none (fun j => j.asString?.map some) fields = some (some c.column) ∧
      readField? "op" "=" Json.asString? fields = some c.operator ∧
      readField? "val" .isNull (fun j => some (.ofJson j.gathered)) fields = some c.value := by
  rw [ofJson?]
  constructor
  · intro h
    obtain ⟨connective, hconnective, h⟩ := Option.bind_eq_some_iff.1 h
    obtain ⟨column, hcolumn, h⟩ := Option.bind_eq_some_iff.1 h
    obtain ⟨operator, hoperator, h⟩ := Option.bind_eq_some_iff.1 h
    obtain ⟨value, hvalue, h⟩ := Option.bind_eq_some_iff.1 h
    cases column with
    | none => cases h
    | some column =>
      cases h
      exact ⟨hconnective, hcolumn, hoperator, hvalue⟩
  · rintro ⟨hconnective, hcolumn, hoperator, hvalue⟩
    rw [hconnective, hcolumn, hoperator, hvalue]
    rfl

/-- A condition is read from a well-formed object exactly if the object writes it. -/
theorem ofJson?_object_iff {fields : List (String × Json)} (h : (Json.object fields).WellFormed)
    {c : Condition} : ofJson? (.object fields) = some c ↔ c.WrittenAs (.object fields) := by
  rw [ofJson?_object_eq_some_iff, readField?_value h]
  cases h with
  | object hnames _ =>
    rw [readField?_of_nodup hnames, readField?_of_nodup hnames, readField?_of_nodup hnames]
    have hconnective : (getField? "type" fields).elim (some .and) Connective.ofJson? =
        some c.connective ↔ (getField? "type" fields).elim (c.connective = .and)
          c.connective.NamedBy := by
      cases getField? "type" fields with
      | none => exact Option.some_inj.trans eq_comm
      | some j => exact Connective.ofJson?_eq_some_iff
    have hcolumn : (getField? "col" fields).elim (some none) (fun j => j.asString?.map some) =
        some (some c.column) ↔ getField? "col" fields = some (.string c.column) := by
      cases getField? "col" fields with
      | none => simp
      | some j => simp [asString?_eq_some_iff]
    have hoperator : (getField? "op" fields).elim (some "=") Json.asString? = some c.operator ↔
        (getField? "op" fields).elim (c.operator = "=") (· = .string c.operator) := by
      cases getField? "op" fields with
      | none => exact Option.some_inj.trans eq_comm
      | some j => exact asString?_eq_some_iff
    have hvalue : some ((getField? "val" fields).elim FilterValue.isNull FilterValue.ofJson) =
        some c.value ↔ c.value.WrittenAs (getField? "val" fields) := by
      refine ⟨fun h => ?_, fun h => congrArg some h.eq_ofJson.symm⟩
      rw [← Option.some_inj.1 h]
      exact FilterValue.writtenAs_ofJson _
    rw [hconnective, hcolumn, hoperator, hvalue]
    exact ⟨fun ⟨ht, hc, ho, hv⟩ => ⟨ht, hc, ho, hv⟩, fun h => ⟨h.1, h.2, h.3, h.4⟩⟩

/-- An object with a column is no name of a connective. -/
theorem connective_ofJson?_of_column {item : Json} {column : String}
    (h : item.field? "col" = some (.string column)) : Connective.ofJson? item = none := by
  rw [← Option.not_isSome_iff_eq_none, Option.isSome_iff_exists]
  rintro ⟨c, hc⟩
  cases Connective.ofJson?_eq_some_iff.1 hc <;> cases h

/-- An array that begins with an object with a column is not one condition. -/
theorem ofJson?_array_of_column {item : Json} {rest : List Json} {column : String}
    (h : item.field? "col" = some (.string column)) : ofJson? (.array (item :: rest)) = none := by
  have hfirst : readItem? 0 .and Connective.ofJson? (item :: rest) = none :=
    connective_ofJson?_of_column h
  rw [ofJson?, hfirst]
  exact ite_self none

end Condition

namespace Filter

/-- A filter is read from an object exactly as the one condition that is read from it. -/
theorem ofJson?_object_iff {fields : List (String × Json)} {f : Filter} :
    ofJson? (.object fields) = some f ↔
      ∃ c, Condition.ofJson? (.object fields) = some c ∧ f = ⟨[c]⟩ := by
  unfold ofJson?
  cases Condition.ofJson? (.object fields) with
  | none => simp
  | some c => simp [eq_comm]

/-- A filter is read from an array of objects with columns exactly as the conditions that are read
from them, in their order. -/
theorem ofJson?_array_iff {items : List Json} (hitems : items ≠ [])
    (hcolumns : ∀ item ∈ items, ∃ column, item.field? "col" = some (.string column))
    {f : Filter} : ofJson? (.array items) = some f ↔
      List.Forall₂ (fun item c => Condition.ofJson? item = some c) items f.conditions := by
  obtain ⟨item, rest, rfl⟩ := List.exists_cons_of_ne_nil hitems
  obtain ⟨column, hcolumn⟩ := hcolumns item List.mem_cons_self
  rw [ofJson?, Condition.ofJson?_array_of_column hcolumn, ← mapM_some_iff]
  cases (item :: rest).mapM Condition.ofJson? with
  | none => simp
  | some conditions =>
    obtain ⟨others⟩ := f
    simp

/-- Where conditions are read from well-formed objects with columns, they are what these write. -/
theorem forall₂_ofJson?_iff_writtenAs {items : List Json} (hwell : ∀ item ∈ items, item.WellFormed)
    (hcolumns : ∀ item ∈ items, ∃ column, item.field? "col" = some (.string column))
    {conditions : List Condition} :
    List.Forall₂ (fun item c => Condition.ofJson? item = some c) items conditions ↔
      List.Forall₂ (fun item c => c.WrittenAs item) items conditions := by
  have hitem : ∀ item ∈ items, ∀ c, Condition.ofJson? item = some c ↔ c.WrittenAs item := by
    intro item hmem c
    obtain ⟨column, hcolumn⟩ := hcolumns item hmem
    cases item with
    | object fields => exact Condition.ofJson?_object_iff (hwell _ hmem)
    | _ => cases hcolumn
  induction items generalizing conditions with
  | nil => rw [List.forall₂_nil_left_iff, List.forall₂_nil_left_iff]
  | cons item rest ih =>
    rw [List.forall_mem_cons] at hwell hcolumns hitem
    cases conditions with
    | nil => simp
    | cons c others =>
      rw [List.forall₂_cons, List.forall₂_cons]
      exact and_congr (hitem.1 c) (ih hwell.2 hcolumns.2 hitem.2)

/-- A document with conditions is read condition by condition. An array of objects with columns is
a filter exactly if each of them is a condition, and then its conditions are these, in their order;
an object is a filter exactly if it is a condition, and then this is the only one. The conditions
are what the objects write. -/
theorem ofJson?_condition_by_condition {j : Json} (hj : j.WellFormed) :
    (∀ items, j = .array items → items ≠ [] →
      (∀ item ∈ items, ∃ column, item.field? "col" = some (.string column)) →
      ((∃ f, ofJson? j = some f) ↔ ∀ item ∈ items, ∃ c, Condition.ofJson? item = some c) ∧
      ∀ f, (ofJson? j = some f ↔
          List.Forall₂ (fun item c => Condition.ofJson? item = some c) items f.conditions) ∧
        (ofJson? j = some f ↔ List.Forall₂ (fun item c => c.WrittenAs item) items f.conditions)) ∧
    ∀ fields, j = .object fields →
      ((∃ f, ofJson? j = some f) ↔ ∃ c, Condition.ofJson? j = some c) ∧
      ∀ f, (ofJson? j = some f ↔ ∃ c, Condition.ofJson? j = some c ∧ f = ⟨[c]⟩) ∧
        (ofJson? j = some f ↔ ∃ c : Condition, c.WrittenAs j ∧ f = ⟨[c]⟩) := by
  constructor
  · rintro items rfl hitems hcolumns
    have hread (f : Filter) := ofJson?_array_iff hitems hcolumns (f := f)
    cases hj with
    | array hwell =>
      refine ⟨?_, fun f => ⟨hread f, ?_⟩⟩
      · rw [← exists_forall₂_iff]
        exact ⟨fun ⟨f, hf⟩ => ⟨f.conditions, (hread f).1 hf⟩,
          fun ⟨conditions, h⟩ => ⟨⟨conditions⟩, (hread ⟨conditions⟩).2 h⟩⟩
      · rw [hread f, forall₂_ofJson?_iff_writtenAs hwell hcolumns]
  · rintro fields rfl
    refine ⟨?_, fun f => ⟨ofJson?_object_iff, ?_⟩⟩
    · simp only [ofJson?_object_iff]
      exact ⟨fun ⟨_, c, hc, _⟩ => ⟨c, hc⟩, fun ⟨c, hc⟩ => ⟨⟨[c]⟩, c, hc, rfl⟩⟩
    · simp only [ofJson?_object_iff, Condition.ofJson?_object_iff hj]

/-- An array of an object with a word for null, an alternative with a field that says nothing and an
object with its column alone is read as these three conditions; the first object alone is read as
the first of them. -/
theorem ofJson?_condition_by_condition_of_three :
    ofJson? (.array [.object [("col", .string "a"), ("val", .string "not_null")],
        .object [("type", .string "or"), ("note", .array [.null]), ("col", .string "b"),
          ("op", .string "<"), ("val", .integer 5)],
        .object [("col", .string "c")]]) =
      some ⟨[⟨.and, "a", "=", .notNull⟩, ⟨.or, "b", "<", .value (.int 5)⟩,
        ⟨.and, "c", "=", .isNull⟩]⟩ ∧
    ofJson? (.object [("col", .string "a"), ("val", .string "not_null")]) =
      some ⟨[⟨.and, "a", "=", .notNull⟩]⟩ := by
  have hfirst : (Json.object [("col", .string "a"), ("val", .string "not_null")]).WellFormed :=
    .object (by decide) (by simp [Json.WellFormed.string])
  have hsecond : (Json.object [("type", .string "or"), ("note", .array [.null]),
      ("col", .string "b"), ("op", .string "<"), ("val", .integer 5)]).WellFormed := by
    refine .object (by decide) ?_
    simp only [List.forall_mem_cons]
    exact ⟨.string _, .array (by simp [Json.WellFormed.null]), .string _, .string _,
      .integer (by decide) (by decide), List.forall_mem_nil _⟩
  have hthird : (Json.object [("col", .string "c")]).WellFormed :=
    .object (by decide) (by simp [Json.WellFormed.string])
  have hlist : (Json.array [_, _, _]).WellFormed := .array
    (List.forall_mem_cons.2 ⟨hfirst, List.forall_mem_cons.2 ⟨hsecond,
      List.forall_mem_cons.2 ⟨hthird, List.forall_mem_nil _⟩⟩⟩)
  constructor
  · refine (((ofJson?_condition_by_condition hlist).1 _ rfl (by decide) ?_).2 _).1.2 ?_
    · simp [Json.field?, getField?]
    · exact .cons rfl (.cons rfl (.cons rfl .nil))
  · exact (((ofJson?_condition_by_condition hfirst).2 _ rfl).2 _).1.2 ⟨_, rfl, rfl⟩

end Filter

end TableQuery
