import Mathlib.Data.List.Induction
import Mathlib.Data.List.Nodup
import TableQuery.Json.Basic
import TableQuery.Value

/-!
# Fields with different names

Setting fields one after the other never gives two of them one name. Where all names are different,
the value of a name is the one that stands beside it, and gathering the fields changes nothing.
-/

namespace TableQuery

variable {α β : Type} [DecidableEq α] {key : α} {value : β} {fields : List (α × β)}

/-- A name that is set for the first time is added at the end. -/
theorem putField_of_notMem (h : key ∉ fields.map Prod.fst) :
    putField key value fields = fields ++ [(key, value)] := by
  induction fields with
  | nil => rfl
  | cons field rest ih =>
    rw [List.map_cons, List.mem_cons, not_or] at h
    rw [putField, if_neg (Ne.symm h.1), ih h.2, List.cons_append]

/-- A name that was set before keeps its place. -/
theorem map_fst_putField_of_mem (h : key ∈ fields.map Prod.fst) :
    (putField key value fields).map Prod.fst = fields.map Prod.fst := by
  induction fields with
  | nil => cases h
  | cons field rest ih =>
    rw [putField]
    split
    · next hkey => rw [List.map_cons, List.map_cons, hkey]
    · next hkey =>
      rw [List.map_cons, List.mem_cons] at h
      rw [List.map_cons, List.map_cons, ih (h.resolve_left (Ne.symm hkey))]

/-- Of fields with different names, setting one that is there replaces its value and nothing
else. -/
theorem putField_of_mem (hnames : (fields.map Prod.fst).Nodup)
    (h : key ∈ fields.map Prod.fst) :
    putField key value fields = fields.map fun f => if f.1 = key then (key, value) else f := by
  induction fields with
  | nil => cases h
  | cons field rest ih =>
    rw [List.map_cons, List.nodup_cons] at hnames
    rw [List.map_cons, List.mem_cons] at h
    rw [putField, List.map_cons]
    split
    · next hkey =>
      have hrest : rest.map (fun f => if f.1 = key then (key, value) else f) = rest := by
        refine (List.map_congr_left fun f hf => if_neg ?_).trans (List.map_id rest)
        rintro rfl
        exact hnames.1 (hkey ▸ List.mem_map_of_mem hf)
      rw [hrest, hkey]
    · next hkey => rw [ih hnames.2 (h.resolve_left (Ne.symm hkey))]

/-- Setting a field keeps all names different. -/
theorem nodup_putField (h : (fields.map Prod.fst).Nodup) (key : α) (value : β) :
    ((putField key value fields).map Prod.fst).Nodup := by
  by_cases hkey : key ∈ fields.map Prod.fst
  · rw [map_fst_putField_of_mem hkey]
    exact h
  · rw [putField_of_notMem hkey, List.map_append]
    exact h.append (List.nodup_singleton key) (List.disjoint_singleton.2 hkey)

/-- The fields behind setting one are that one and fields from before. -/
theorem mem_of_mem_putField {field : α × β} (h : field ∈ putField key value fields) :
    field = (key, value) ∨ field ∈ fields := by
  induction fields with
  | nil => exact .inl (List.mem_singleton.1 h)
  | cons first rest ih =>
    obtain ⟨name, old⟩ := first
    rw [putField] at h
    split at h
    · next hname =>
      rw [hname, List.mem_cons] at h
      exact h.imp_right (List.mem_cons_of_mem _)
    · rw [List.mem_cons] at h
      rcases h with rfl | h
      · exact .inr List.mem_cons_self
      · exact (ih h).imp_right (List.mem_cons_of_mem _)

/-- A name without a field has no value. -/
theorem getField?_eq_none_iff : getField? key fields = none ↔ key ∉ fields.map Prod.fst := by
  induction fields with
  | nil => exact ⟨fun _ => List.not_mem_nil, fun _ => rfl⟩
  | cons field rest ih =>
    rw [getField?, List.map_cons, List.mem_cons, not_or, ← ih]
    split
    · next hkey => exact ⟨fun h => (by cases h), fun h => absurd hkey.symm h.1⟩
    · next hkey => exact ⟨fun h => ⟨Ne.symm hkey, h⟩, And.right⟩

/-- The value of a name stands beside it. -/
theorem mem_of_getField? (h : getField? key fields = some value) : (key, value) ∈ fields := by
  induction fields with
  | nil => cases h
  | cons field rest ih =>
    obtain ⟨name, first⟩ := field
    rw [getField?] at h
    split at h
    · next hname =>
      cases h
      rw [hname]
      exact List.mem_cons_self
    · exact List.mem_cons_of_mem _ (ih h)

/-- Where all names are different, the value of a name is the one that stands beside it. -/
theorem getField?_eq_some_iff (h : (fields.map Prod.fst).Nodup) :
    getField? key fields = some value ↔ (key, value) ∈ fields := by
  induction fields with
  | nil => exact ⟨fun h => (by cases h), fun h => (by cases h)⟩
  | cons field rest ih =>
    obtain ⟨name, first⟩ := field
    rw [List.map_cons, List.nodup_cons] at h
    rw [getField?, List.mem_cons, Prod.mk.injEq]
    split
    · next hname =>
      subst hname
      have hrest : (name, value) ∉ rest := by
        intro hmem
        have hagain : name ∈ rest.map Prod.fst := List.mem_map_of_mem hmem
        exact h.1 hagain
      simp only [Option.some.injEq, true_and, hrest, or_false]
      exact eq_comm
    · next hname =>
      rw [ih h.2]
      exact ⟨.inr, fun hmem => hmem.resolve_left fun hfirst => hname hfirst.1.symm⟩

/-- Gathered fields have different names. -/
theorem nodup_gatherFields (pairs : List (α × β)) :
    ((gatherFields pairs).map Prod.fst).Nodup := by
  refine List.foldlRecOn (motive := fun gathered : List (α × β) =>
    (gathered.map Prod.fst).Nodup) pairs _ List.nodup_nil ?_
  intro gathered hnodup p _
  exact nodup_putField hnodup p.1 p.2

/-- Gathered fields are among those that were given. -/
theorem mem_of_mem_gatherFields {pairs : List (α × β)} :
    ∀ field ∈ gatherFields pairs, field ∈ pairs := by
  refine List.foldlRecOn (motive := fun gathered : List (α × β) =>
    ∀ field ∈ gathered, field ∈ pairs) pairs _ (List.forall_mem_nil _) ?_
  intro gathered hgathered p hp field hfield
  rcases mem_of_mem_putField hfield with rfl | hold
  · exact hp
  · exact hgathered field hold

/-- Gathering one field more is setting it behind the others. -/
theorem gatherFields_append_singleton (pairs : List (α × β)) (p : α × β) :
    gatherFields (pairs ++ [p]) = putField p.1 p.2 (gatherFields pairs) := by
  rw [gatherFields, List.foldl_append, List.foldl_cons, List.foldl_nil, gatherFields]

/-- Gathered fields have the names that were given, each at its first place. -/
theorem map_fst_gatherFields (pairs : List (α × β)) :
    (gatherFields pairs).map Prod.fst = (pairs.map Prod.fst).eraseDups := by
  induction pairs using List.reverseRecOn with
  | nil => rfl
  | append_singleton pairs p ih =>
    have hmem : p.1 ∈ (gatherFields pairs).map Prod.fst ↔ p.1 ∈ pairs.map Prod.fst := by
      rw [ih, List.mem_eraseDups]
    rw [gatherFields_append_singleton, List.map_append, List.map_singleton,
      List.eraseDups_append, ← ih]
    by_cases hknown : p.1 ∈ pairs.map Prod.fst
    · rw [map_fst_putField_of_mem (hmem.2 hknown)]
      simp [List.removeAll, List.mem_map.1 hknown]
    · rw [putField_of_notMem (mt hmem.1 hknown), List.map_append]
      have hnew : [p.1].removeAll (pairs.map Prod.fst) = [p.1] := by
        simp [List.removeAll, hknown]
      rw [hnew]
      rfl

/-- Of the values that were given for a name, the last one is gathered. -/
theorem getField?_gatherFields (key : α) (pairs : List (α × β)) :
    getField? key (gatherFields pairs) =
      (pairs.reverse.find? fun p => p.1 = key).map Prod.snd := by
  induction pairs using List.reverseRecOn with
  | nil => rfl
  | append_singleton pairs p ih =>
    rw [gatherFields_append_singleton, getField?_putField, ih, List.reverse_append,
      List.reverse_singleton, List.singleton_append]
    by_cases hkey : p.1 = key
    · simp [hkey]
    · simp [hkey]

/-- Fields with different names are gathered as they are. -/
theorem gatherFields_of_nodup (h : (fields.map Prod.fst).Nodup) : gatherFields fields = fields := by
  -- along the list, with the fields that are gathered already in front
  suffices hbehind : ∀ before : List (α × β), ((before ++ fields).map Prod.fst).Nodup →
      fields.foldl (fun fields p => putField p.1 p.2 fields) before = before ++ fields from
    hbehind [] h
  clear h
  induction fields with
  | nil => exact fun before _ => (List.append_nil before).symm
  | cons field rest ih =>
    intro before hnodup
    have hnew : field.1 ∉ before.map Prod.fst := by
      rw [List.map_append, List.nodup_append'] at hnodup
      exact fun hmem => hnodup.2.2 hmem List.mem_cons_self
    rw [List.foldl_cons, putField_of_notMem hnew, ih, List.append_assoc, List.singleton_append]
    rwa [List.append_assoc, List.singleton_append]

end TableQuery

/-!
## Records that can be built

Callers build records by setting fields, one after the other or all of a list or a JSON object. Such
a record never has two fields for one column.
-/

namespace TableQuery.Record

/-- Records that callers can build. -/
inductive Built : Record → Prop where
  /-- The record without fields. -/
  | empty : Built .empty
  /-- A field is set. -/
  | set {r : Record} (h : Built r) (column : String) (value : Value) : Built (r.set column value)

/-- The record of a list is built by setting its fields. -/
theorem Built.ofList (fields : List (String × Value)) : Built (ofList fields) :=
  List.foldlRecOn fields _ .empty fun _ h field _ => h.set field.1 field.2

/-- The record of a JSON object is built by setting its fields. -/
theorem Built.ofJson? {j : Json} {r : Record} (h : ofJson? j = some r) : Built r := by
  cases j with
  | object fields =>
    cases h
    exact .ofList _
  | _ => cases h

/-- A record that was built has one field for each of its columns. -/
theorem Built.nodup_columns {r : Record} (h : Built r) : r.columns.Nodup := by
  induction h with
  | empty => exact List.nodup_nil
  | set _ column value ih => exact nodup_putField ih column value

/-- The record of a list has the fields that are gathered from it. -/
theorem fields_ofList (fields : List (String × Value)) :
    (ofList fields).fields = gatherFields fields :=
  (List.foldl_hom Record.fields fun _ _ => rfl).symm

/-- Records that callers can build, with all fields that were given for them, in their order. -/
inductive BuiltFrom : List (String × Value) → Record → Prop where
  /-- A record without fields. -/
  | empty : BuiltFrom [] .empty
  /-- The record of a list. -/
  | ofList (fields : List (String × Value)) : BuiltFrom fields (.ofList fields)
  /-- The record of a JSON object. -/
  | ofJson {fields : List (String × Json)} {r : Record} (h : ofJson? (.object fields) = some r) :
    BuiltFrom (fields.map fun f => (f.1, Value.ofJson f.2)) r
  /-- A field is set. -/
  | set {given : List (String × Value)} {r : Record} (h : BuiltFrom given r) (column : String)
    (value : Value) : BuiltFrom (given ++ [(column, value)]) (r.set column value)

variable {given : List (String × Value)} {r : Record}

/-- Such a record is built by setting fields. -/
theorem BuiltFrom.built (h : r.BuiltFrom given) : r.Built := by
  induction h with
  | empty => exact .empty
  | ofList fields => exact .ofList fields
  | ofJson h => exact .ofJson? h
  | set _ column value ih => exact ih.set column value

/-- A record has the fields that are gathered from all that were given. -/
theorem BuiltFrom.fields_eq (h : r.BuiltFrom given) : r.fields = gatherFields given := by
  induction h with
  | empty => rfl
  | ofList fields => exact fields_ofList fields
  | ofJson h =>
    cases h
    exact fields_ofList _
  | set _ column value ih =>
    rw [gatherFields_append_singleton, ← ih]
    rfl

/-- The columns of a record are those that were given, each at its first place. -/
theorem BuiltFrom.columns_eq (h : r.BuiltFrom given) :
    r.columns = (given.map Prod.fst).eraseDups := by
  rw [columns, h.fields_eq, map_fst_gatherFields]

/-- The value of a column is the last one that was given for it. -/
theorem BuiltFrom.get?_eq (h : r.BuiltFrom given) (column : String) :
    r.get? column = (given.reverse.find? fun f => f.1 = column).map Prod.snd := by
  rw [get?, h.fields_eq, getField?_gatherFields]

end TableQuery.Record
