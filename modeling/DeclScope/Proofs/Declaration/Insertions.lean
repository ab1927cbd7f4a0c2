import DeclScope.Proofs.Declaration.Fields

/-!
# What a sequence of insertions leaves behind

Fields are only ever made by insertions, starting from none.  So whatever an insertion keeps holds
of all of them: the index leads to the place where a name stands, the names stand in the order in
which they came up first, and under each name is the field that was inserted last.

The second of these is about the first insertion of a name and the third about the last one.  They
are compatible because a field that replaces another takes over its place and its name.  What an
insertion returns is told by the insertions before it.
-/

namespace DeclScope.Fields

/-- Insert fields one after the other, and list what each insertion returns. -/
def insertAll : Fields → List Declaration → List (Option Declaration) × Fields
  | fields, [] => ([], fields)
  | fields, field :: rest =>
    let (replaced, next) := fields.insert field
    let (later, final) := next.insertAll rest
    (replaced :: later, final)

/-- The last field with a given name. -/
def lastNamed (name : String) (inserted : List Declaration) : Option Declaration :=
  (inserted.filter (·.name == name)).getLast?

/-- The fields are those that some insertions leave. -/
structure Stores (inserted : List Declaration) (fields : Fields) : Prop where
  indexed : fields.Indexed
  names : fields.names = (inserted.map (·.name)).eraseDups
  last : ∀ name, fields.get? name = lastNamed name inserted

/-- Before any insertion. -/
theorem stores_empty : Stores [] empty where
  indexed := indexed_empty
  names := rfl
  last name := by simp [empty, get?, lastNamed]

/-- One more field is the last one with its name, and with no other name. -/
theorem lastNamed_concat (name : String) (inserted : List Declaration) (field : Declaration) :
    lastNamed name (inserted ++ [field]) =
      if field.name = name then some field else lastNamed name inserted := by
  unfold lastNamed
  rw [List.filter_append]
  by_cases same : field.name = name
  · simp [same]
  · simp [same, beq_eq_false_iff_ne.mpr same]

/-- One more insertion. -/
theorem Stores.insert {inserted : List Declaration} {fields : Fields}
    (stores : Stores inserted fields) (field : Declaration) :
    Stores (inserted ++ [field]) (fields.insert field).2 where
  indexed := stores.indexed.insert field
  names := stores.indexed.names_insert_of_eq stores.names field
  last name := by rw [stores.indexed.get?_insert field name, lastNamed_concat, stores.last]

/-- Insertions one after the other. -/
theorem Stores.insertAll {before inserted : List Declaration} {fields : Fields}
    (stores : Stores before fields) :
    Stores (before ++ inserted) (fields.insertAll inserted).2 := by
  induction inserted generalizing before fields with
  | nil => simpa [Fields.insertAll] using stores
  | cons field rest inductionHypothesis =>
    have next := inductionHypothesis (stores.insert field)
    rwa [List.append_assoc, List.singleton_append] at next

/-- Each insertion returns the field that the insertions before it left under the name. -/
theorem insertAll_fst (fields : Fields) (inserted : List Declaration) :
    (fields.insertAll inserted).1 = inserted.zipIdx.map fun (field, place) =>
      (fields.insertAll (inserted.take place)).2.get? field.name := by
  induction inserted generalizing fields with
  | nil => rfl
  | cons field rest inductionHypothesis =>
    rw [List.zipIdx_cons', List.map_cons, List.map_map]
    show (fields.insert field).1 :: ((fields.insert field).2.insertAll rest).1 = _
    rw [insert_fst, inductionHypothesis]
    rfl

/-- A name is contained exactly if a field is found under it. -/
theorem Indexed.contains_eq {fields : Fields} (indexed : fields.Indexed) (name : String) :
    fields.contains name = (fields.get? name).isSome := by
  rw [contains, Std.HashMap.contains_eq_isSome_getElem?, get?]
  cases found : fields.index[name]? with
  | none => rfl
  | some place => simp [indexed.lt_size found]

/-- After any insertions into no fields, the index leads from a name to a place exactly if the name
stands there, and that place is one of a field with this name; no name stands twice.  The names are
in the order in which they came up first, and under each is the field that was inserted last.  Each
insertion has returned the field that was stored under the name.  The fields as JSON have the names
as keys, none of them twice. -/
theorem insertAll_stores_last_writes (inserted : List Declaration) :
    let fields := (empty.insertAll inserted).2
    (∀ (name : String) (place : Nat),
      fields.index[name]? = some place ↔ fields.names[place]? = some name) ∧
    (∀ (name : String) (place : Nat), fields.index[name]? = some place →
      ∃ bound : place < fields.entries.size, fields.entries[place].name = name) ∧
    fields.names.Nodup ∧
    fields.names = (inserted.map (·.name)).eraseDups ∧
    (∀ name, fields.get? name = lastNamed name inserted) ∧
    (∀ name, fields.contains name = (fields.get? name).isSome) ∧
    ((empty.insertAll inserted).1 = inserted.zipIdx.map fun (field, place) =>
      (empty.insertAll (inserted.take place)).2.get? field.name) ∧
    ∃ members, fields.toJson = .obj members ∧ members.map Prod.fst = fields.names ∧
      (members.map Prod.fst).Nodup := by
  intro fields
  have stores : Stores inserted fields := stores_empty.insertAll
  have distinct : fields.names.Nodup := stores.indexed.nodup_names
  refine ⟨stores.indexed, ?_, distinct, stores.names, stores.last, stores.indexed.contains_eq,
    insertAll_fst empty inserted, ?_⟩
  · intro name place found
    have bound : place < fields.entries.size := stores.indexed.lt_size found
    have stands : fields.names[place]? = some name := (stores.indexed name place).mp found
    refine ⟨bound, ?_⟩
    simpa [names, toList, bound] using stands
  · have keys : (fields.toList.map fun field => (field.name, field.toJson)).map Prod.fst =
        fields.names := by
      rw [List.map_map]
      rfl
    exact ⟨_, rfl, keys, keys ▸ distinct⟩

end DeclScope.Fields
