import DeclScope.Declaration.ClassDefinition
import Mathlib.Data.List.Nodup

/-!
# The fields of a class, in order and without repeats

Fields are kept in a list, and an index tells the place of each name in it.  The two agree: the
index leads to a place exactly if the name stands there.  Inserting a field keeps this, whether the
field replaces another or goes to the end, and so no name ever stands in two places.

A class is expanded by inserting one field after the other.  Its names are therefore those of the
inserted fields, each at the place where it came up first.
-/

namespace DeclScope

namespace Fields

variable {fields : Fields} {name : String}

/-- The index leads to a place exactly if the name stands there. -/
def Indexed (fields : Fields) : Prop :=
  ∀ (name : String) (place : Nat), fields.index[name]? = some place ↔ fields.names[place]? = some name

/-- Without fields there is nothing to find. -/
theorem indexed_empty : empty.Indexed := by
  intro name place
  simp [empty, names, toList]

/-- No name stands in two places. -/
theorem Indexed.nodup_names (indexed : fields.Indexed) : fields.names.Nodup := by
  rw [List.nodup_iff_getElem?_ne_getElem?]
  intro first second before bound same
  have stands : fields.names[second]? = some fields.names[second] :=
    List.getElem?_eq_getElem bound
  have atFirst := (indexed _ first).mpr (same.trans stands)
  have atSecond := (indexed _ second).mpr stands
  cases atFirst.symm.trans atSecond
  omega

/-- The index leads nowhere exactly if the name is not stored. -/
theorem Indexed.getElem?_index_eq_none_iff (indexed : fields.Indexed) :
    fields.index[name]? = none ↔ name ∉ fields.names := by
  rw [List.mem_iff_getElem?]
  constructor
  · rintro unknown ⟨place, stands⟩
    cases unknown.symm.trans ((indexed name place).mpr stands)
  · intro absent
    rw [Option.eq_none_iff_forall_ne_some]
    intro place found
    exact absent ⟨place, (indexed name place).mp found⟩

/-- The names after an insertion: a new name goes to the end, and a known one stays where it is. -/
theorem Indexed.names_insert (indexed : fields.Indexed) (field : Declaration) :
    (fields.insert field).2.names =
      if field.name ∈ fields.names then fields.names else fields.names ++ [field.name] := by
  unfold insert
  cases found : fields.index[field.name]? with
  | none =>
    rw [if_neg (indexed.getElem?_index_eq_none_iff.mp found)]
    simp [names, toList]
  | some place =>
    have stands : fields.names[place]? = some field.name := (indexed _ place).mp found
    rw [if_pos (List.mem_of_getElem? stands)]
    -- The field in that place has the same name as the one that replaces it.
    have unchanged : fields.names.set place field.name = fields.names := by
      obtain ⟨bound, here⟩ := List.getElem?_eq_some_iff.mp stands
      rw [← here, List.set_getElem_self bound]
    simpa [names, toList, List.map_set] using unchanged

/-- One more name comes up first at the end, unless it came up before. -/
theorem eraseDups_concat (names : List String) (name : String) :
    (names ++ [name]).eraseDups =
      if name ∈ names then names.eraseDups else names.eraseDups ++ [name] := by
  rw [List.eraseDups_append, List.removeAll]
  by_cases known : name ∈ names
  · rw [if_pos known, List.filter_cons_of_neg (by simp [known])]
    simp
  · rw [if_neg known, List.filter_cons_of_pos (by simp [known])]
    simp [List.eraseDups_cons]

/-- An insertion keeps the names in the order in which they came up first. -/
theorem Indexed.names_insert_of_eq (indexed : fields.Indexed) {inserted : List Declaration}
    (soFar : fields.names = (inserted.map (·.name)).eraseDups) (field : Declaration) :
    (fields.insert field).2.names = ((inserted ++ [field]).map (·.name)).eraseDups := by
  rw [indexed.names_insert field, List.map_append, List.map_singleton, eraseDups_concat, soFar]
  simp only [List.mem_eraseDups]

/-- An insertion keeps the index in step with the list. -/
theorem Indexed.insert (indexed : fields.Indexed) (field : Declaration) :
    (fields.insert field).2.Indexed := by
  intro name place
  rw [indexed.names_insert field]
  cases found : fields.index[field.name]? with
  | some taken =>
    have stands : fields.names[taken]? = some field.name := (indexed _ taken).mp found
    rw [if_pos (List.mem_of_getElem? stands), ← indexed name place]
    simp [Fields.insert, found]
  | none =>
    have absent := indexed.getElem?_index_eq_none_iff.mp found
    rw [if_neg absent]
    have size : fields.names.length = fields.entries.size := by simp [names, toList]
    simp only [Fields.insert, found, Std.HashMap.getElem?_insert, beq_iff_eq]
    by_cases same : field.name = name
    · subst same
      rw [if_pos rfl, Option.some_inj]
      -- The name is new, so it can only stand at the end.
      grind
    · rw [if_neg same, indexed name place]
      grind

/-- A field with a new name is added at the end. -/
theorem Indexed.toList_insert_of_not_mem (indexed : fields.Indexed) {field : Declaration}
    (fresh : field.name ∉ fields.names) :
    (fields.insert field).2.toList = fields.toList ++ [field] := by
  have unknown := indexed.getElem?_index_eq_none_iff.mpr fresh
  simp [Fields.insert, unknown, toList]

/-- A stored field is found under its name. -/
theorem Indexed.get?_of_mem (indexed : fields.Indexed) {field : Declaration}
    (stored : field ∈ fields.toList) : fields.get? field.name = some field := by
  obtain ⟨place, stands⟩ := List.mem_iff_getElem?.mp stored
  have named : fields.names[place]? = some field.name := by
    rw [names, List.getElem?_map, stands, Option.map_some]
  rw [get?, (indexed _ place).mpr named, Option.bind_some, ← Array.getElem?_toList]
  exact stands

/-- A place that the index leads to is a place of a field. -/
theorem Indexed.lt_size (indexed : fields.Indexed) {place : Nat}
    (found : fields.index[name]? = some place) : place < fields.entries.size := by
  obtain ⟨bound, -⟩ := List.getElem?_eq_some_iff.mp ((indexed name place).mp found)
  simpa [names, toList] using bound

/-- An insertion returns the field that was stored under the name. -/
theorem insert_fst (fields : Fields) (field : Declaration) :
    (fields.insert field).1 = fields.get? field.name := by
  unfold Fields.insert get?
  cases fields.index[field.name]? with
  | none => rfl
  | some place => rfl

/-- After an insertion the field is stored under its name, and all other names are as before. -/
theorem Indexed.get?_insert (indexed : fields.Indexed) (field : Declaration) (name : String) :
    (fields.insert field).2.get? name =
      if field.name = name then some field else fields.get? name := by
  unfold Fields.insert get?
  by_cases same : field.name = name
  · subst same
    cases found : fields.index[field.name]? with
    | none => simp
    | some taken => simp [found, indexed.lt_size found]
  · rw [if_neg same]
    cases found : fields.index[field.name]? with
    | none =>
      cases other : fields.index[name]? with
      | none => simp [Std.HashMap.getElem?_insert, same, other]
      | some place =>
        have inside : place < fields.entries.size := indexed.lt_size other
        simp [Std.HashMap.getElem?_insert, same, other, Array.getElem?_push_lt, inside]
    | some taken =>
      cases other : fields.index[name]? with
      | none => rfl
      | some place =>
        -- Two names do not stand in one place.
        have apart : taken ≠ place := by
          rintro rfl
          have here := (indexed _ taken).mp found
          rw [(indexed _ taken).mp other] at here
          exact same (Option.some.inj here).symm
        simp [apart]

/-- An insertion replaces one field or adds one. -/
theorem Indexed.size_insert (indexed : fields.Indexed) (field : Declaration) :
    (fields.insert field).1.toList.length + (fields.insert field).2.size = fields.size + 1 := by
  unfold Fields.insert size
  cases found : fields.index[field.name]? with
  | none => simp
  | some place => simp [indexed.lt_size found, Nat.add_comm]

end Fields

namespace ClassDefinition

/-- A definition that a cursor leads to once some fields are inserted: it is of the class that the
cursor declares, and has the names of the fields, each where it came up first. -/
structure Gathers (cursor : Cursor) (inserted : List Declaration) (definition : ClassDefinition) :
    Prop where
  declaration : definition.declaration = .ofCursor cursor
  indexed : definition.fields.Indexed
  names : definition.fields.names = (inserted.map (·.name)).eraseDups

/-- Before any field is inserted. -/
theorem gathers_ofCursor (cursor : Cursor) : Gathers cursor [] (ofCursor cursor) where
  declaration := rfl
  indexed := Fields.indexed_empty
  names := rfl

/-- One more field. -/
theorem Gathers.addField {cursor : Cursor} {inserted : List Declaration}
    {state : ClassDefinition × List LogRecord} (gathered : Gathers cursor inserted state.1)
    (field : Declaration) : Gathers cursor (inserted ++ [field]) (addField state field).1 where
  declaration := gathered.declaration
  indexed := gathered.indexed.insert field
  names := gathered.indexed.names_insert_of_eq gathered.names field

/-- Fields one after the other. -/
theorem Gathers.foldl_addField {cursor : Cursor} {inserted : List Declaration}
    {state : ClassDefinition × List LogRecord} (gathered : Gathers cursor inserted state.1)
    (fields : List Declaration) :
    Gathers cursor (inserted ++ fields) (fields.foldl ClassDefinition.addField state).1 := by
  induction fields generalizing inserted state with
  | nil => simpa using gathered
  | cons field rest inductionHypothesis =>
    have next := inductionHypothesis (gathered.addField field)
    rwa [List.append_assoc, List.singleton_append] at next

/-- An expanded class is the one that the cursor declares, with the names of its data members, each
where it came up first. -/
theorem gathers_expand (cursor : Cursor) :
    Gathers cursor ((fieldCursors cursor.childWalk).map .ofCursor) (expand cursor).1 := by
  have start : Gathers cursor [] (ofCursor cursor, ([] : List LogRecord)).1 :=
    gathers_ofCursor cursor
  exact start.foldl_addField ((fieldCursors cursor.childWalk).map .ofCursor)

/-- Fields that all have names of their own are kept as they come. -/
theorem Gathers.toList_foldl_addField {cursor : Cursor} {inserted : List Declaration}
    {state : ClassDefinition × List LogRecord} (gathered : Gathers cursor inserted state.1)
    (kept : state.1.fields.toList = inserted) (fields : List Declaration)
    (distinct : ((inserted ++ fields).map (·.name)).Nodup) :
    (fields.foldl ClassDefinition.addField state).1.fields.toList = inserted ++ fields := by
  induction fields generalizing inserted state with
  | nil => simpa using kept
  | cons field rest inductionHypothesis =>
    have fresh : field.name ∉ state.1.fields.names := by
      rw [List.map_append, List.map_cons, ← kept] at distinct
      intro taken
      exact List.disjoint_of_nodup_append distinct taken List.mem_cons_self
    have next : (ClassDefinition.addField state field).1.fields.toList = inserted ++ [field] := by
      rw [← kept]
      exact gathered.indexed.toList_insert_of_not_mem fresh
    have shifted : inserted ++ field :: rest = inserted ++ [field] ++ rest := by simp
    rw [shifted] at distinct ⊢
    exact inductionHypothesis (gathered.addField field) next distinct

/-- A class whose data members all have names of their own is expanded to these members. -/
theorem toList_expand {cursor : Cursor}
    (distinct : ((fieldCursors cursor.childWalk).map (·.displayName)).Nodup) :
    (expand cursor).1.fields.toList = (fieldCursors cursor.childWalk).map .ofCursor := by
  have start : Gathers cursor [] (ofCursor cursor, ([] : List LogRecord)).1 :=
    gathers_ofCursor cursor
  apply start.toList_foldl_addField rfl
  rw [List.nil_append, List.map_map]
  exact distinct

/-- The document of a class: what identifies the class, where it stands, and its fields under their
names, with the same about each of them. -/
def documentOf (cursor : Cursor) (fields : List Declaration) : Json :=
  .obj
    [("kind", .str "class"), ("name", .str cursor.displayName),
      ("spelling", .str cursor.spelling), ("usr", .str cursor.usr),
      ("start_location", cursor.extent.1.toJson), ("end_location", cursor.extent.2.toJson),
      ("fields", .obj (fields.map fun field =>
        (field.name, .obj
          [("name", .str field.name), ("spelling", .str field.spelling), ("usr", .str field.usr),
            ("start_location", field.start.toJson), ("end_location", field.stop.toJson)])))]

/-- An expanded class becomes its document. -/
theorem toJson_expand (cursor : Cursor) :
    (expand cursor).1.toJson = documentOf cursor (expand cursor).1.fields.toList := by
  rw [toJson, (gathers_expand cursor).declaration]
  rfl

/-- A class whose data members all have names of their own becomes a document with these members. -/
theorem toJson_expand_of_nodup {cursor : Cursor}
    (distinct : ((fieldCursors cursor.childWalk).map (·.displayName)).Nodup) :
    (expand cursor).1.toJson =
      documentOf cursor ((fieldCursors cursor.childWalk).map .ofCursor) := by
  rw [toJson_expand, toList_expand distinct]

end ClassDefinition

end DeclScope
