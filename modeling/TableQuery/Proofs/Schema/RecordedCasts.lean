import Mathlib.Data.List.Induction
import TableQuery.Proofs.Schema.WrittenTypes

/-!
# What a schema says of the columns of the catalog

A schema is made of the rows of the catalog. It has the columns that are named there, whatever their
types are; only casts need a type that can be written. The cast of a column is that of its last row
whose type is a type name. A cast that is written with its schema stands for the very type of the
catalog; that is so for the types that the catalog calls user-defined, and for no others.
-/

namespace TableQuery

/-- The cast of a column behind setting one by its written name. -/
theorem ColumnTypes.get?_insert (types : ColumnTypes) (column written other : String) :
    (types.insert column written).get? other =
      (if column = other then TypeName.ofString? written else none).or (types.get? other) := by
  rw [insert, insert?]
  cases TypeName.ofString? written with
  | none => split <;> rfl
  | some type =>
    rw [Option.map_some, Option.getD_some, get?_set]
    split <;> rfl

/-- The row is about a column of this name. -/
def Describes (row : Row) (column : String) : Prop :=
  getField? "column_name" row = some (.string column)

/-- The cast that a row asks for, as it is written. -/
def writtenCast (row : Row) : String :=
  castType (textField "data_type" row) (textField "udt_schema" row) (textField "udt_name" row)

/-- The cast that a row gives to a column: its type, if the row is about the column and what is
written is a type name. -/
def castOf? (column : String) (row : Row) : Option TypeName :=
  (TableSchema.catalogColumn? row).bind fun c =>
    if c.1 = column then TypeName.ofString? c.2 else none

variable {row : Row} {column : String}

/-- A row gives its column and its cast to a schema, if it is about a column at all. -/
theorem catalogColumn?_eq_some_iff {written : String} :
    TableSchema.catalogColumn? row = some (column, written) ↔
      Describes row column ∧ written = writtenCast row := by
  have hname : ∀ field : Option Json, field.bind Json.asString? = some column ↔
      field = some (.string column) := by
    rintro (_ | (_ | _ | _ | _ | _ | _ | _)) <;> simp [Json.asString?]
  rw [TableSchema.catalogColumn?, Option.map_eq_some_iff, Describes, ← hname]
  constructor
  · rintro ⟨name, hfield, hcolumn⟩
    obtain ⟨rfl, rfl⟩ := Prod.mk.inj hcolumn
    exact ⟨hfield, rfl⟩
  · rintro ⟨hfield, rfl⟩
    exact ⟨column, hfield, rfl⟩

/-- When a row gives a cast to a column. -/
theorem castOf?_eq_some_iff {t : TypeName} :
    castOf? column row = some t ↔
      Describes row column ∧ TypeName.ofString? (writtenCast row) = some t := by
  rw [castOf?, Option.bind_eq_some_iff]
  constructor
  · rintro ⟨⟨name, written⟩, hcolumn, ht⟩
    obtain ⟨hdescribes, rfl⟩ := catalogColumn?_eq_some_iff.1 hcolumn
    split at ht
    · next hname => exact ⟨hname ▸ hdescribes, ht⟩
    · cases ht
  · rintro ⟨hdescribes, ht⟩
    refine ⟨(column, writtenCast row), catalogColumn?_eq_some_iff.2 ⟨hdescribes, rfl⟩, ?_⟩
    rw [if_pos rfl]
    exact ht

/-- When a row gives no cast to a column. -/
theorem castOf?_eq_none_iff : castOf? column row = none ↔
    (Describes row column → TypeName.ofString? (writtenCast row) = none) := by
  simp only [Option.eq_none_iff_forall_ne_some, ne_eq, castOf?_eq_some_iff, not_and]
  exact ⟨fun h hd t => h t hd, fun h t hd => h hd t⟩

/-- The cast of a row names the schema of its type. -/
def WritesSchema (row : Row) : Prop :=
  textField "data_type" row = "USER-DEFINED" ∧ textField "udt_schema" row ≠ ""

/-- The names that make up the cast of a row can be written. -/
def TypeCanBeWritten (row : Row) : Prop :=
  CanBeWritten (textField "udt_name" row) ∧
    (WritesSchema row → CanBeWritten (textField "udt_schema" row))

/-- The cast of a row that names the schema of its type. -/
theorem writtenCast_of_writesSchema (h : WritesSchema row) :
    writtenCast row = writtenTypeName (textField "udt_schema" row) ++ "." ++
      writtenTypeName (textField "udt_name" row) := by
  rw [writtenCast, castType, if_pos]
  simp [h.1, h.2]

/-- The cast of a row that does not name the schema of its type. -/
theorem writtenCast_of_not_writesSchema (h : ¬ WritesSchema row) :
    writtenCast row = writtenTypeName (textField "udt_name" row) := by
  rw [writtenCast, castType, if_neg]
  simpa [WritesSchema] using h

/-- The text is the cast of a row: the name of its type, in quotes where it needs them, and for
types that the catalog calls user-defined the name of their schema in front. -/
def SpellsCast (row : Row) (text : String) : Prop :=
  (WritesSchema row ∧ ∃ schema name, SpellsName (textField "udt_schema" row) schema ∧
      SpellsName (textField "udt_name" row) name ∧ text = schema ++ "." ++ name) ∨
    (¬WritesSchema row ∧ SpellsName (textField "udt_name" row) text)

/-- What is written for a row spells its cast. -/
theorem eq_writtenCast_iff {text : String} : text = writtenCast row ↔ SpellsCast row text := by
  by_cases hschema : WritesSchema row
  · rw [writtenCast_of_writesSchema hschema]
    simp only [SpellsCast, hschema, ← eq_writtenTypeName_iff, true_and, not_true_eq_false,
      false_and, or_false]
    constructor
    · intro htext
      exact ⟨_, _, rfl, rfl, htext⟩
    · rintro ⟨_, _, rfl, rfl, htext⟩
      exact htext
  · rw [writtenCast_of_not_writesSchema hschema]
    simp only [SpellsCast, hschema, ← eq_writtenTypeName_iff, false_and, not_false_eq_true,
      true_and, false_or]

/-- What is accepted as a cast is a type name, with this text. -/
theorem TypeName.ofString?_eq_some_iff {written : String} {t : TypeName} :
    ofString? written = some t ↔ t.text = written := by
  rw [ofString?]
  constructor
  · intro h
    split at h
    · cases h
      rfl
    · cases h
  · rintro rfl
    rw [dif_pos t.wellFormed]

/-- A type whose names can be written is accepted as a cast. -/
theorem ofString?_writtenCast (h : TypeCanBeWritten row) :
    TypeName.ofString? (writtenCast row) ≠ none := by
  have hwell : isTypeNameChars (writtenCast row).toList = true := by
    by_cases hschema : WritesSchema row
    · rw [writtenCast_of_writesSchema hschema]
      exact isTypeNameChars_qualifiedName_iff.2 ⟨h.2 hschema, h.1⟩
    · rw [writtenCast_of_not_writesSchema hschema]
      exact isTypeNameChars_writtenTypeName_iff.2 (.inl h.1)
  rw [TypeName.ofString?, dif_pos hwell]
  exact Option.some_ne_none _

namespace TableSchema

/-- The columns of a schema with one row more. -/
theorem columns_ofCatalog_concat (rows : List Row) (row : Row) :
    (ofCatalog (rows ++ [row])).columns =
      (ofCatalog rows).columns ++ (catalogColumn? row).toList := by
  rw [ofCatalog, ofCatalog, List.filterMap_append]
  cases h : catalogColumn? row <;> simp [h]

/-- The cast of a column with one row more: that of the row if it gives one, and the one from before
otherwise. -/
theorem get?_ofCatalog_concat (rows : List Row) (row : Row) (column : String) :
    (ofCatalog (rows ++ [row])).info.columnTypes.get? column =
      (castOf? column row).or ((ofCatalog rows).info.columnTypes.get? column) := by
  rw [info, info, columns_ofCatalog_concat, castOf?, ColumnTypes.ofList, List.foldl_append]
  cases catalogColumn? row with
  | none => rfl
  | some c => exact ColumnTypes.get?_insert _ c.1 c.2 column

/-- The cast of a column is the last one that a row gives. -/
theorem get?_ofCatalog (rows : List Row) (column : String) :
    (ofCatalog rows).info.columnTypes.get? column =
      rows.reverse.findSome? (castOf? column) := by
  induction rows using List.reverseRecOn with
  | nil => rfl
  | append_singleton rows row ih =>
    rw [get?_ofCatalog_concat, ih, List.reverse_append, List.reverse_singleton,
      List.singleton_append, List.findSome?_cons]
    cases castOf? column row <;> rfl

/-- The row that the cast of a column comes from. -/
theorem get?_ofCatalog_eq_some_iff {rows : List Row} {t : TypeName} :
    (ofCatalog rows).info.columnTypes.get? column = some t ↔
      ∃ before row after, rows = before ++ row :: after ∧ Describes row column ∧
        TypeName.ofString? (writtenCast row) = some t ∧
        ∀ later ∈ after, Describes later column →
          TypeName.ofString? (writtenCast later) = none := by
  rw [get?_ofCatalog, List.findSome?_eq_some_iff]
  constructor
  · rintro ⟨after, row, before, hrows, hrow, hafter⟩
    obtain ⟨hdescribes, ht⟩ := castOf?_eq_some_iff.1 hrow
    refine ⟨before.reverse, row, after.reverse, ?_, hdescribes, ht, fun later hlater => ?_⟩
    · rw [← List.reverse_reverse rows, hrows]
      simp
    · exact castOf?_eq_none_iff.1 (hafter later (List.mem_reverse.1 hlater))
  · rintro ⟨before, row, after, rfl, hdescribes, ht, hafter⟩
    refine ⟨after.reverse, row, before.reverse, by simp, castOf?_eq_some_iff.2 ⟨hdescribes, ht⟩,
      fun later hlater => ?_⟩
    exact castOf?_eq_none_iff.2 (hafter later (List.mem_reverse.1 hlater))

/-- A column has no cast where none of its rows has a type that is accepted. -/
theorem get?_ofCatalog_eq_none_iff {rows : List Row} :
    (ofCatalog rows).info.columnTypes.get? column = none ↔
      ∀ row ∈ rows, Describes row column → TypeName.ofString? (writtenCast row) = none := by
  rw [get?_ofCatalog, List.findSome?_eq_none_iff]
  simp only [List.mem_reverse, castOf?_eq_none_iff]

/-- A schema has the columns that its rows are about. -/
theorem hasColumn_ofCatalog_iff {rows : List Row} :
    (ofCatalog rows).hasColumn column = true ↔ ∃ row ∈ rows, Describes row column := by
  rw [hasColumn, ofCatalog, List.any_eq_true]
  constructor
  · rintro ⟨⟨name, written⟩, hmem, hname⟩
    obtain ⟨row, hrow, hcolumn⟩ := List.mem_filterMap.1 hmem
    rw [beq_iff_eq] at hname
    exact ⟨row, hrow, hname ▸ (catalogColumn?_eq_some_iff.1 hcolumn).1⟩
  · rintro ⟨row, hrow, hdescribes⟩
    refine ⟨(column, writtenCast row), List.mem_filterMap.2 ⟨row, hrow, ?_⟩, beq_self_eq_true _⟩
    exact catalogColumn?_eq_some_iff.2 ⟨hdescribes, rfl⟩

/-- What a schema says of the columns of the catalog. -/
structure FactsOf (schema : TableSchema) (rows : List Row) : Prop where
  /-- It has the columns that rows are about. -/
  hasColumn_iff : ∀ column, schema.hasColumn column = true ↔ ∃ row ∈ rows, Describes row column
  /-- Rows are deleted softly if there is the column that marks them, whatever its type is. -/
  softDelete_iff : schema.info.softDelete = true ↔ ∃ row ∈ rows, Describes row softDeleteColumn
  /-- Updates are stamped if there is the column for it, whatever its type is. -/
  updatedAt_iff : schema.info.updatedAt = true ↔ ∃ row ∈ rows, Describes row updatedAtColumn
  /-- The cast of a column is that of its last row with a type that is accepted. -/
  cast_iff : ∀ column t, schema.info.columnTypes.get? column = some t ↔
    ∃ before row after, rows = before ++ row :: after ∧ Describes row column ∧
      TypeName.ofString? (writtenCast row) = some t ∧
      ∀ later ∈ after, Describes later column → TypeName.ofString? (writtenCast later) = none
  /-- A column without such a row has no cast. -/
  uncast_iff : ∀ column, schema.info.columnTypes.get? column = none ↔
    ∀ row ∈ rows, Describes row column → TypeName.ofString? (writtenCast row) = none
  /-- What is accepted of a row is the type name that spells its cast: the name of its type, in
  quotes where it needs them, and for user-defined types the name of their schema in front. -/
  text_iff : ∀ row ∈ rows, ∀ t, TypeName.ofString? (writtenCast row) = some t ↔
    SpellsCast row t.text
  /-- Types whose names can be written are accepted. -/
  accepted : ∀ row ∈ rows, TypeCanBeWritten row → TypeName.ofString? (writtenCast row) ≠ none
  /-- So their columns have a cast. -/
  castKept : ∀ row ∈ rows, TypeCanBeWritten row → ∀ column, Describes row column →
    schema.info.columnTypes.get? column ≠ none

/-- The schema that is made of the rows of the catalog says what they say. It has all columns that
are named there, whatever their types are; only casts need a type that is accepted, the last one
counts, and every type whose names can be written is accepted. -/
theorem ofCatalog_facts (rows : List Row) : (ofCatalog rows).FactsOf rows where
  hasColumn_iff _ := hasColumn_ofCatalog_iff
  softDelete_iff := hasColumn_ofCatalog_iff
  updatedAt_iff := hasColumn_ofCatalog_iff
  cast_iff _ _ := get?_ofCatalog_eq_some_iff
  uncast_iff _ := get?_ofCatalog_eq_none_iff
  text_iff _ _ _ := TypeName.ofString?_eq_some_iff.trans eq_writtenCast_iff
  accepted _ _ htype := ofString?_writtenCast htype
  castKept row hrow htype _ hdescribes hnone :=
    ofString?_writtenCast htype (get?_ofCatalog_eq_none_iff.1 hnone row hrow hdescribes)

end TableSchema

/-- What the cast that comes from a row stands for. -/
structure CastStandsFor (row : Row) (t : TypeName) : Prop where
  /-- It stands for the type in its schema exactly if the catalog calls the type user-defined. -/
  own_iff : textField "udt_schema" row ≠ "" →
    (NamedType.ofText? t.text =
      some ⟨some (textField "udt_schema" row), textField "udt_name" row⟩ ↔
        textField "data_type" row = "USER-DEFINED")
  /-- Names that cannot be written have no cast with a schema. -/
  canBeWritten : WritesSchema row →
    CanBeWritten (textField "udt_schema" row) ∧ CanBeWritten (textField "udt_name" row)
  /-- A cast without its schema stands for the name alone, or for the two names that it looks
  like. -/
  alone : ¬ WritesSchema row →
    (CanBeWritten (textField "udt_name" row) ∧
      NamedType.ofText? t.text = some ⟨none, textField "udt_name" row⟩) ∨
    ∃ first second, CanBeWritten first ∧ CanBeWritten second ∧
      textField "udt_name" row = first ++ "\".\"" ++ second ∧
      NamedType.ofText? t.text = some ⟨some first, second⟩

/-- What a cast stands for that is accepted. -/
theorem castStandsFor_of_ofString? {t : TypeName}
    (h : TypeName.ofString? (writtenCast row) = some t) : CastStandsFor row t := by
  have htext := TypeName.ofString?_eq_some_iff.1 h
  have hwell := t.wellFormed
  have hqualified : WritesSchema row →
      CanBeWritten (textField "udt_schema" row) ∧ CanBeWritten (textField "udt_name" row) := by
    intro hschema
    rw [htext, writtenCast_of_writesSchema hschema] at hwell
    exact isTypeNameChars_qualifiedName_iff.1 hwell
  have halone : ¬ WritesSchema row →
      (CanBeWritten (textField "udt_name" row) ∧
        NamedType.ofText? t.text = some ⟨none, textField "udt_name" row⟩) ∨
      ∃ first second, CanBeWritten first ∧ CanBeWritten second ∧
        textField "udt_name" row = first ++ "\".\"" ++ second ∧
        NamedType.ofText? t.text = some ⟨some first, second⟩ := by
    intro hschema
    rw [htext, writtenCast_of_not_writesSchema hschema] at hwell ⊢
    rcases isTypeNameChars_writtenTypeName_iff.1 hwell with
      hname | ⟨first, second, hfirst, hsecond, hname⟩
    · exact .inl ⟨hname, NamedType.ofText?_writtenTypeName hname⟩
    · refine .inr ⟨first, second, hfirst, hsecond, hname, ?_⟩
      rw [hname]
      exact NamedType.ofText?_pair hfirst hsecond
  refine ⟨fun hne => ⟨fun hown => ?_, fun hkind => ?_⟩, hqualified, halone⟩
  · by_contra hkind
    rcases halone fun hschema => hkind hschema.1 with
      ⟨-, hnone⟩ | ⟨first, second, -, -, hname, hpair⟩
    · rw [hnone] at hown
      cases hown
    · -- the name would be a proper part of itself
      rw [hpair] at hown
      obtain rfl : second = textField "udt_name" row :=
        congrArg NamedType.name (Option.some.inj hown)
      have hlength := congrArg String.length hname
      simp only [String.length_append] at hlength
      have hquotes : "\".\"".length = 3 := by decide
      omega
  · obtain ⟨hschema, hname⟩ := hqualified ⟨hkind, hne⟩
    rw [htext, writtenCast_of_writesSchema ⟨hkind, hne⟩]
    exact NamedType.ofText?_qualifiedName hschema hname

namespace TableSchema

/-- The cast that a schema has for a column comes from a row about this column, the last one with a
type that is accepted. For a type in a schema the cast stands for exactly this type if the catalog
calls it user-defined, and only then; names that cannot be written have no such cast. All other
types are written without their schema. -/
theorem recorded_cast_names {rows : List Row} {t : TypeName}
    (h : (ofCatalog rows).info.columnTypes.get? column = some t) :
    ∃ before row after, rows = before ++ row :: after ∧ Describes row column ∧
      (∀ later ∈ after, Describes later column →
        TypeName.ofString? (writtenCast later) = none) ∧
      CastStandsFor row t := by
  obtain ⟨before, row, after, hrows, hdescribes, ht, hafter⟩ := get?_ofCatalog_eq_some_iff.1 h
  exact ⟨before, row, after, hrows, hdescribes, hafter, castStandsFor_of_ofString? ht⟩

/-- A row of the catalog with four texts. -/
def catalogRow (column kind schema name : String) : Row :=
  [("column_name", .string column), ("data_type", .string kind), ("udt_schema", .string schema),
    ("udt_name", .string name)]

/-- The cast to a type with a blank in its schema and a point in its name stands for that type. -/
theorem recorded_cast_names_blank :
    ∃ t, (ofCatalog [catalogRow "mood" "USER-DEFINED" "my app" "Mood.v2"]).info.columnTypes.get?
        "mood" = some t ∧ t.text = "\"my app\".\"Mood.v2\"" ∧
      NamedType.ofText? t.text = some ⟨some "my app", "Mood.v2"⟩ := by
  obtain ⟨t, ht⟩ : ∃ t, (ofCatalog [catalogRow "mood" "USER-DEFINED" "my app"
      "Mood.v2"]).info.columnTypes.get? "mood" = some t := ⟨_, rfl⟩
  obtain ⟨before, row, after, hrows, -, -, hstands⟩ := recorded_cast_names ht
  have hrow : row ∈ [catalogRow "mood" "USER-DEFINED" "my app" "Mood.v2"] := by simp [hrows]
  obtain rfl := List.mem_singleton.1 hrow
  refine ⟨t, ht, ?_, (hstands.own_iff (by decide)).2 rfl⟩
  cases ht
  rfl

/-- A column with an array of a type of some schema: its cast does not name the schema. -/
theorem array_cast_unqualified :
    ∃ t, (ofCatalog [catalogRow "tags" "ARRAY" "public" "_citext"]).info.columnTypes.get? "tags" =
        some t ∧ t.text = "_citext" ∧ NamedType.ofText? t.text = some ⟨none, "_citext"⟩ ∧
      NamedType.ofText? t.text ≠ some ⟨some "public", "_citext"⟩ := by
  refine ⟨_, rfl, ?_⟩
  decide

end TableSchema

end TableQuery
