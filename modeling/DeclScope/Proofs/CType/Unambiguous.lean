import DeclScope.Proofs.Declarator.Wrappers

/-!
# Spellings are unambiguous

A type is serialized as its spelling only, so a spelling has to say what type it is.  It does, up to
two things that it leaves out: what sort of type a name stands for, and what a typedef stands for.
All else, which wrappers a type has and in which order, with their qualifiers, sizes and parameters,
is the same for two types with one spelling.

The spelling is read in three steps.  Its brackets are matched, which gives its marks.  The words in
front are taken off, and the wrappers off the declarator behind them.  Then the type is built up
again from its name, and the parameters of its functions are read in the same way.

The names are sequences of words, sizes are not empty and have no square brackets, and there is no
reference to a reference.
-/

namespace DeclScope.CType

/-- Whether a type is a reference. -/
def isReference : CType → Bool
  | reference _ _ => true
  | _ => false

/-- Types whose spelling can be read.  Typedefs are spelled as names. -/
inductive Spellable : CType → Prop where
  | named {kind : TypeKind} {words : List String} {quals : Qualifiers} (nonempty : words ≠ [])
      (areWords : ∀ word ∈ words, Text.IsWord word) :
      Spellable (named kind (" ".intercalate words) quals)
  | synonym {words : List String} {target : CType} (nonempty : words ≠ [])
      (areWords : ∀ word ∈ words, Text.IsWord word) :
      Spellable (synonym (" ".intercalate words) target)
  | pointer {quals : Qualifiers} {pointee : CType} (inner : Spellable pointee) :
      Spellable (pointer quals pointee)
  | reference {form : ReferenceForm} {pointee : CType} (single : pointee.isReference = false)
      (inner : Spellable pointee) : Spellable (reference form pointee)
  | array {size? : Option String} {element : CType}
      (sizes : ∀ size ∈ size?, size ≠ "" ∧ '[' ∉ size.toList ∧ ']' ∉ size.toList)
      (inner : Spellable element) : Spellable (array size? element)
  | function {result : CType} {parameters : List CType} (inner : Spellable result)
      (taken : ∀ parameter ∈ parameters, Spellable parameter) :
      Spellable (function result parameters)

mutual

/-- A type without what its spelling does not say: what sort of type a name stands for, and what a
typedef stands for. -/
def skeleton : CType → CType
  | named _ name quals => named .elaborated name quals
  | synonym name _ => named .elaborated name .none
  | pointer quals pointee => pointer quals pointee.skeleton
  | reference form pointee => reference form pointee.skeleton
  | array size? element => array size? element.skeleton
  | function result parameters => function result.skeleton (skeletons parameters)

/-- The skeletons of several types. -/
def skeletons : List CType → List CType
  | [] => []
  | type :: rest => type.skeleton :: skeletons rest

end

/-- The skeleton binds as the type does. -/
theorem bindsBehind_skeleton (type : CType) : type.skeleton.bindsBehind = type.bindsBehind := by
  cases type <;> rfl

mutual

/-- A skeleton is spelled as the type around any declarator. -/
theorem render_skeleton : ∀ (type : CType) (declarator : String),
    type.skeleton.render declarator = type.render declarator
  | named _ _ _, _ | synonym _ _, _ => rfl
  | pointer _ pointee, _ | reference .lvalue pointee, _ | reference .rvalue pointee, _ => by
    rw [skeleton, render, render, guarded, guarded, bindsBehind_skeleton, render_skeleton]
  | array _ element, _ => by rw [skeleton, render, render, render_skeleton]
  | function result parameters, _ => by
    rw [skeleton, render, render, render_skeleton, spellings_skeletons]

/-- Skeletons are spelled as the types. -/
theorem spellings_skeletons : ∀ types : List CType, spellings (skeletons types) = spellings types
  | [] => rfl
  | type :: types => by
    rw [skeletons, spellings, spellings, render_skeleton, spellings_skeletons]

end

/-- The name in which a type ends, with its qualifiers. -/
def leaf : CType → String × Qualifiers
  | named _ name quals => (name, quals)
  | synonym name _ => (name, .none)
  | pointer _ inner | reference _ inner | array _ inner | function inner _ => inner.leaf

/-- The words in front of the declarator. -/
def leafText (type : CType) : String :=
  " ".intercalate (type.leaf.2.keywords ++ [type.leaf.1])

mutual

/-- The wrappers of a type, from the one next to the named type to the outermost. -/
def wrappers : CType → List Wrapper
  | named _ _ _ | synonym _ _ => []
  | pointer quals pointee => pointee.wrappers ++ [.pointer quals]
  | reference form pointee => pointee.wrappers ++ [.reference form]
  | array size? element => element.wrappers ++ [.array size?]
  | function result parameters => result.wrappers ++ [.function (marksAll parameters)]

/-- The marks of the spellings of several types. -/
def marksAll : List CType → List (List Mark)
  | [] => []
  | type :: rest => Mark.before type.leafText (declaratorMarks type.wrappers) :: marksAll rest

end

/-- The marks of the spelling of a type. -/
def marks (type : CType) : List Mark :=
  Mark.before type.leafText (declaratorMarks type.wrappers)

/-- Marks in parentheses, if they begin with a sign and the type binds behind it. -/
def guardedMarks (type : CType) (marks : List Mark) : List Mark :=
  if type.bindsBehind then Mark.grouped marks else marks

/-- Several types are spelled each by itself. -/
theorem spellings_eq_map (types : List CType) : spellings types = types.map spelling := by
  induction types with
  | nil => rfl
  | cons type types inductionHypothesis => rw [spellings, inductionHypothesis]; rfl

/-- The marks of several types are those of each. -/
theorem marksAll_eq_map (types : List CType) : marksAll types = types.map marks := by
  induction types with
  | nil => rfl
  | cons type types inductionHypothesis => rw [marksAll, inductionHypothesis]; rfl

/-- There are no parentheses around nothing. -/
theorem guardedMarks_nil (type : CType) : type.guardedMarks [] = [] := ite_self []

/-- Parentheses around a declarator with a sign are parentheses around its marks. -/
theorem toList_guarded (type : CType) {declarator : String} {marks : List Mark}
    (agree : declarator.toList = Mark.textAll marks) (signed : Mark.signed marks = true) :
    (type.guarded declarator).toList = Mark.textAll (type.guardedMarks marks) := by
  unfold guarded guardedMarks Mark.grouped
  rw [if_pos signed]
  split
  · simp [agree, Mark.textAll, Mark.text]
  · exact agree

/-- A declarator with a mark behind it gets no parentheses around both. -/
theorem toList_behind (type : CType) {declarator text : String} {marks : List Mark} {mark : Mark}
    (unsigned : mark.isSign = false)
    (agree : declarator.toList = Mark.textAll (Mark.grouped marks))
    (isText : text.toList = mark.text) :
    (declarator ++ text).toList =
      Mark.textAll (type.guardedMarks (Mark.grouped marks ++ [mark])) := by
  have bare : type.guardedMarks (Mark.grouped marks ++ [mark]) = Mark.grouped marks ++ [mark] := by
    rw [guardedMarks, Mark.grouped, Mark.signed_grouped_append unsigned]
    exact ite_self _
  rw [bare, Mark.textAll_append, String.toList_append, agree, isText, Mark.textAll, Mark.textAll,
    List.append_nil]

/-- A declarator is empty if it has no marks. -/
theorem eq_empty_iff {declarator : String} {marks : List Mark}
    (agree : declarator.toList = Mark.textAll marks) : declarator = "" ↔ marks = [] := by
  rw [← Mark.textAll_eq_nil_iff, ← agree, String.toList_eq_nil_iff]

/-- The spelling of a named type before a declarator. -/
theorem toList_namedSpelling {name : String} {quals : Qualifiers} {declarator : String}
    {marks : List Mark} (nonempty : " ".intercalate (quals.keywords ++ [name]) ≠ "")
    (agree : declarator.toList = Mark.textAll marks) :
    (namedSpelling name quals declarator).toList =
      Mark.textAll (Mark.before (" ".intercalate (quals.keywords ++ [name])) marks) := by
  rw [Mark.textAll_before, namedSpelling, ← agree]
  simp only [← eq_empty_iff agree, nonempty, false_or]
  by_cases none : declarator = "" <;> simp [none]

/-- The qualifiers of a pointer before a declarator. -/
theorem toList_pointerQualifiers (quals : Qualifiers) {declarator : String} {marks : List Mark}
    (agree : declarator.toList = Mark.textAll marks) :
    (pointerQualifiers quals declarator).toList =
      Mark.textAll (Mark.before (" ".intercalate quals.keywords) marks) := by
  rw [Mark.textAll_before, pointerQualifiers_eq, ← agree]
  simp only [quals.intercalate_keywords_eq_iff, ← eq_empty_iff agree, String.toList_append]
  split <;> rfl

/-- The words in front of the declarator of a readable type. -/
theorem Spellable.leaf_words {type : CType} (spellable : type.Spellable) :
    ∃ words, words ≠ [] ∧ (∀ word ∈ words, Text.IsWord word) ∧
      type.leaf.1 = " ".intercalate words := by
  induction spellable with
  | named nonempty areWords | synonym nonempty areWords => exact ⟨_, nonempty, areWords, rfl⟩
  | pointer _ inner | reference _ _ inner | array _ _ inner | function _ _ inner _ => exact inner

/-- The text in front of the declarator is that of the qualifiers and the words. -/
theorem leafText_eq {type : CType} {words : List String} (nonempty : words ≠ [])
    (isName : type.leaf.1 = " ".intercalate words) :
    type.leafText = " ".intercalate (type.leaf.2.keywords ++ words) := by
  rw [leafText, isName]
  by_cases bare : type.leaf.2.keywords = []
  · rw [bare, List.nil_append, List.nil_append, String.intercalate_singleton]
  · rw [String.intercalate_append_of_ne_nil bare nonempty,
      String.intercalate_append_of_ne_nil bare (List.cons_ne_nil _ _),
      String.intercalate_singleton]

/-- A type has words in front of its declarator. -/
theorem Spellable.leafText_ne {type : CType} (spellable : type.Spellable) :
    type.leafText ≠ "" := by
  obtain ⟨words, nonempty, areWords, isName⟩ := spellable.leaf_words
  rw [leafText_eq nonempty isName]
  intro empty
  have none : type.leaf.2.keywords ++ words = [] :=
    Text.join_inj (Text.apart_of_words areWords) (by simp) empty
  exact nonempty (List.append_eq_nil_iff.mp none).2

/-- The spelling of a type around a declarator is the text of its marks around those of the
declarator.

By induction on the type, for every declarator that stands around it. -/
theorem Spellable.toList_render {type : CType} (spellable : type.Spellable)
    (outer : List Wrapper) (declarator : String)
    (agree : declarator.toList = Mark.textAll (type.guardedMarks (declaratorMarks outer))) :
    (type.render declarator).toList =
      Mark.textAll (Mark.before type.leafText (declaratorMarks (type.wrappers ++ outer))) := by
  induction spellable generalizing outer declarator with
  | @named kind words quals nonempty areWords =>
    have leaf : leafText (.named kind (" ".intercalate words) quals) ≠ "" :=
      (Spellable.named nonempty areWords).leafText_ne
    exact toList_namedSpelling leaf agree
  | @synonym words target nonempty areWords =>
    have leaf : leafText (.synonym (" ".intercalate words) target) ≠ "" :=
      (Spellable.synonym nonempty areWords).leafText_ne
    exact toList_namedSpelling leaf agree
  | @pointer quals pointee inner inductionHypothesis =>
    rw [render, wrappers, List.append_assoc]
    apply inductionHypothesis (.pointer quals :: outer)
    apply toList_guarded
    · rw [String.toList_append, toList_pointerQualifiers quals agree]
      rfl
    · rfl
  | @reference form pointee single inner inductionHypothesis =>
    rw [wrappers, List.append_assoc]
    have sign : (CType.reference form pointee).render declarator =
        pointee.render (pointee.guarded (form.sign ++ declarator)) := by
      cases form <;> rw [render] <;> rfl
    rw [sign]
    apply inductionHypothesis (.reference form :: outer)
    apply toList_guarded
    · rw [declaratorMarks, Mark.textAll_append, Mark.textAll_letters, String.toList_append, agree]
      rfl
    · exact signed_reference form _
  | @array size? element sizes inner inductionHypothesis =>
    rw [render, wrappers, List.append_assoc, String.append_assoc, String.append_assoc]
    apply inductionHypothesis (.array size? :: outer)
    apply toList_behind element rfl agree
    simp [Mark.text]
  | @function result parameters inner taken inductionHypothesis eachTaken =>
    rw [render, wrappers, List.append_assoc, String.append_assoc, String.append_assoc]
    apply inductionHypothesis (.function (marksAll parameters) :: outer)
    apply toList_behind result rfl agree
    have spelled : (spellings parameters).map String.toList =
        (marksAll parameters).map Mark.textAll := by
      rw [spellings_eq_map, marksAll_eq_map, List.map_map, List.map_map]
      refine List.map_congr_left fun parameter listed => ?_
      have nothing : "".toList = Mark.textAll (parameter.guardedMarks (declaratorMarks [])) := by
        rw [declaratorMarks, guardedMarks_nil]
        rfl
      have alone := eachTaken parameter listed [] "" nothing
      rwa [List.append_nil] at alone
    rw [String.toList_append, String.toList_append, String.toList_intercalate, spelled, Mark.text,
      Mark.textAll_intercalate, Mark.textAll_letters]
    rfl

/-- The spelling of a type is the text of its marks. -/
theorem Spellable.toList_spelling {type : CType} (spellable : type.Spellable) :
    type.spelling.toList = Mark.textAll type.marks := by
  have rendered := spellable.toList_render [] "" (by rw [declaratorMarks, guardedMarks_nil]; rfl)
  rwa [List.append_nil] at rendered

/-- The outermost wrapper of a reference, and of no other type, is that of a reference. -/
theorem isReference_of_getLast? {type : CType} :
    ∀ wrapper ∈ type.wrappers.getLast?, wrapper.isReference = type.isReference := by
  cases type <;> simp [wrappers, Wrapper.isReference, isReference]

/-- The text in front of the declarator is plain. -/
theorem Spellable.isPlain_leafText {type : CType} (spellable : type.Spellable) :
    Text.IsPlain type.leafText := by
  obtain ⟨words, nonempty, areWords, isName⟩ := spellable.leaf_words
  rw [leafText_eq nonempty isName]
  exact Text.isPlain_join areWords

/-- The spelling of a type begins with a word. -/
theorem Spellable.starts_plain {type : CType} (spellable : type.Spellable) :
    type.marks.head?.any Mark.isPlain = true := by
  have nonempty : Mark.letters type.leafText ≠ [] := by
    rw [Mark.letters, ne_eq, List.map_eq_nil_iff, String.toList_eq_nil_iff]
    exact spellable.leafText_ne
  obtain ⟨first, rest, isLetters⟩ := List.exists_cons_of_ne_nil nonempty
  rw [marks, Mark.before, isLetters]
  apply Mark.isPlain_of_mem_letters spellable.isPlain_leafText
  rw [isLetters]
  exact List.mem_cons_self

/-- The wrappers of a type can be read. -/
theorem Spellable.regular {type : CType} (spellable : type.Spellable) :
    ∀ wrapper ∈ type.wrappers, wrapper.Regular := by
  induction spellable with
  | named | synonym => simp [wrappers]
  | pointer _ inductionHypothesis | reference _ _ inductionHypothesis =>
    rw [wrappers, List.forall_mem_append]
    exact ⟨inductionHypothesis, by simp [Wrapper.Regular]⟩
  | array sizes _ inductionHypothesis =>
    rw [wrappers, List.forall_mem_append]
    refine ⟨inductionHypothesis, List.forall_mem_singleton.mpr ?_⟩
    intro size isSize
    obtain ⟨nonempty, -, closes⟩ := sizes size isSize
    exact ⟨nonempty, closes⟩
  | @function result parameters _ taken inductionHypothesis eachTaken =>
    rw [wrappers, List.forall_mem_append]
    refine ⟨inductionHypothesis, List.forall_mem_singleton.mpr ?_⟩
    rw [marksAll_eq_map]
    intro marks listed
    obtain ⟨parameter, isParameter, rfl⟩ := List.mem_map.mp listed
    have spellable : parameter.Spellable := taken parameter isParameter
    exact ⟨spellable.starts_plain, Mark.sound_before spellable.isPlain_leafText
      (sound_declaratorMarks (eachTaken parameter isParameter))⟩

/-- No reference is wrapped in another. -/
theorem Spellable.apart {type : CType} (spellable : type.Spellable) :
    type.wrappers.IsChain Wrapper.Apart := by
  induction spellable with
  | named | synonym => exact .nil
  | pointer _ inductionHypothesis | array _ _ inductionHypothesis
  | function _ _ inductionHypothesis _ =>
    refine inductionHypothesis.append (.singleton _) ?_
    simp [Wrapper.Apart, Wrapper.isReference]
  | reference single _ inductionHypothesis =>
    refine inductionHypothesis.append (.singleton _) ?_
    intro inner isLast outer _ both
    rw [isReference_of_getLast? inner isLast, single] at both
    cases both.1

/-- The marks of a spelling can be read. -/
theorem Spellable.readable_marks {type : CType} (spellable : type.Spellable) :
    Mark.ReadableAll type.marks := by
  have sound : ∀ mark ∈ type.marks, mark.Sound :=
    Mark.sound_before spellable.isPlain_leafText (sound_declaratorMarks spellable.regular)
  exact Mark.readableAll_iff.mpr fun mark listed => (sound mark listed).2

/-- The marks of a spelling are determined by it. -/
theorem marks_of_spelling_eq {type other : CType} (spellable : type.Spellable)
    (spellableOther : other.Spellable) (same : type.spelling = other.spelling) :
    type.marks = other.marks := by
  have sameText : Mark.textAll type.marks ++ [] = Mark.textAll other.marks ++ [] := by
    rw [← spellable.toList_spelling, ← spellableOther.toList_spelling, same]
  exact (Mark.textAll_inj spellable.readable_marks spellableOther.readable_marks (by simp) (by simp)
    sameText).1

/-- A name and its qualifiers are determined by their text, since no word of a name is a
qualifier. -/
theorem leaf_of_leafText_eq {type other : CType} (spellable : type.Spellable)
    (spellableOther : other.Spellable) (same : type.leafText = other.leafText) :
    type.leaf = other.leaf := by
  obtain ⟨words, nonempty, areWords, isName⟩ := spellable.leaf_words
  obtain ⟨others, nonemptyOther, areOthers, isOther⟩ := spellableOther.leaf_words
  rw [leafText_eq nonempty isName, leafText_eq nonemptyOther isOther] at same
  have sameParts : type.leaf.2.keywords ++ words = other.leaf.2.keywords ++ others :=
    Text.join_inj (Text.apart_of_words areWords) (Text.apart_of_words areOthers) same
  have ends {words : List String} (areWords : ∀ word ∈ words, Text.IsWord word) :
      ∀ word ∈ words.head?, word ∉ ["const", "volatile", "restrict"] := fun word first =>
    (areWords word (List.mem_of_mem_head? first)).2.2
  obtain ⟨sameKeywords, sameWords⟩ := append_inj_of_boundary
    (· ∈ ["const", "volatile", "restrict"]) (fun _ => Qualifiers.mem_of_mem_keywords)
    (fun _ => Qualifiers.mem_of_mem_keywords) (ends areWords) (ends areOthers) sameParts
  apply Prod.ext
  · rw [isName, isOther, sameWords]
  · exact Qualifiers.keywords_inj sameKeywords

/-- The name and the wrappers of a type are determined by the marks of its spelling. -/
theorem parts_of_marks_eq {type other : CType} (spellable : type.Spellable)
    (spellableOther : other.Spellable) (same : type.marks = other.marks) :
    type.leaf = other.leaf ∧ type.wrappers = other.wrappers := by
  obtain ⟨sameText, sameMarks⟩ := Mark.before_inj spellable.isPlain_leafText
    spellableOther.isPlain_leafText (head?_declaratorMarks _) (head?_declaratorMarks _) same
  exact ⟨leaf_of_leafText_eq spellable spellableOther sameText,
    declaratorMarks_inj spellable.regular spellable.apart spellableOther.regular
      spellableOther.apart sameMarks⟩

/-- A type without wrappers is a name. -/
theorem skeleton_of_wrappers_eq_nil {type : CType} (bare : type.wrappers = []) :
    type.skeleton = .named .elaborated type.leaf.1 type.leaf.2 := by
  cases type with
  | named | synonym => rfl
  | pointer | reference | array | function =>
    exact absurd bare (List.append_ne_nil_of_right_ne_nil _ (List.cons_ne_nil _ _))

/-- What the last wrapper says of a type. -/
theorem exists_of_wrappers_eq_concat {type : CType} {front : List Wrapper} {wrapper : Wrapper}
    (isLast : type.wrappers = front ++ [wrapper]) :
    ∃ inner, inner.wrappers = front ∧
      match wrapper with
      | .pointer quals => type = .pointer quals inner
      | .reference form => type = .reference form inner
      | .array size? => type = .array size? inner
      | .function spelled => ∃ parameters,
          marksAll parameters = spelled ∧ type = .function inner parameters := by
  cases type with
  | named | synonym =>
    exact absurd isLast.symm (List.append_ne_nil_of_right_ne_nil _ (List.cons_ne_nil _ _))
  | pointer quals inner | reference form inner | array size? inner =>
    obtain ⟨rfl, rfl⟩ := concat_inj isLast
    exact ⟨inner, rfl, rfl⟩
  | function inner parameters =>
    obtain ⟨rfl, rfl⟩ := concat_inj isLast
    exact ⟨inner, rfl, parameters, rfl, rfl⟩

/-- Parameters that are spelled alike have the same skeletons if this is so for each of them. -/
theorem skeletons_of_marksAll_eq {types others : List CType}
    (each : ∀ type ∈ types, ∀ other : CType, other.Spellable → type.marks = other.marks →
      type.skeleton = other.skeleton)
    (areSpellable : ∀ other ∈ others, other.Spellable)
    (same : marksAll types = marksAll others) : skeletons types = skeletons others := by
  induction types generalizing others with
  | nil =>
    cases others with
    | nil => rfl
    | cons other others => cases same
  | cons type types inductionHypothesis =>
    rw [List.forall_mem_cons] at each
    cases others with
    | nil => cases same
    | cons other others =>
      rw [List.forall_mem_cons] at areSpellable
      obtain ⟨sameFirst, sameRest⟩ := List.cons_eq_cons.mp same
      rw [skeletons, skeletons, each.1 other areSpellable.1 sameFirst,
        inductionHypothesis each.2 areSpellable.2 sameRest]

/-- Types with the same name and the same wrappers have the same skeleton.

By induction on the first type.  The last wrapper says what the second type is, and the parameters
of a function, which a wrapper holds as they are spelled, are read again. -/
theorem skeleton_of_parts_eq {type other : CType} (spellable : type.Spellable)
    (spellableOther : other.Spellable) (sameLeaf : type.leaf = other.leaf)
    (sameWrappers : type.wrappers = other.wrappers) : type.skeleton = other.skeleton := by
  induction spellable generalizing other with
  | named | synonym =>
    rw [skeleton_of_wrappers_eq_nil sameWrappers.symm, ← sameLeaf]
    rfl
  | pointer _ inductionHypothesis =>
    obtain ⟨inner, wraps, rfl⟩ := exists_of_wrappers_eq_concat sameWrappers.symm
    cases spellableOther with
    | pointer spellableInner =>
      rw [skeleton, skeleton, inductionHypothesis spellableInner sameLeaf wraps.symm]
  | reference _ _ inductionHypothesis =>
    obtain ⟨inner, wraps, rfl⟩ := exists_of_wrappers_eq_concat sameWrappers.symm
    cases spellableOther with
    | reference _ spellableInner =>
      rw [skeleton, skeleton, inductionHypothesis spellableInner sameLeaf wraps.symm]
  | array _ _ inductionHypothesis =>
    obtain ⟨inner, wraps, rfl⟩ := exists_of_wrappers_eq_concat sameWrappers.symm
    cases spellableOther with
    | array _ spellableInner =>
      rw [skeleton, skeleton, inductionHypothesis spellableInner sameLeaf wraps.symm]
  | function _ taken inductionHypothesis eachTaken =>
    obtain ⟨inner, wraps, others, spelled, rfl⟩ :=
      exists_of_wrappers_eq_concat sameWrappers.symm
    cases spellableOther with
    | function spellableInner takenOther =>
      rw [skeleton, skeleton, inductionHypothesis spellableInner sameLeaf wraps.symm,
        skeletons_of_marksAll_eq ?_ takenOther spelled.symm]
      intro parameter listed second spellableSecond sameMarks
      obtain ⟨leaves, wrapped⟩ :=
        parts_of_marks_eq (taken parameter listed) spellableSecond sameMarks
      exact eachTaken parameter listed spellableSecond leaves wrapped

/-- Two types have the same spelling exactly if they have the same skeleton. -/
theorem spelling_eq_iff {type other : CType} (spellable : type.Spellable)
    (spellableOther : other.Spellable) :
    type.spelling = other.spelling ↔ type.skeleton = other.skeleton := by
  constructor
  · intro same
    obtain ⟨sameLeaf, sameWrappers⟩ := parts_of_marks_eq spellable spellableOther
      (marks_of_spelling_eq spellable spellableOther same)
    exact skeleton_of_parts_eq spellable spellableOther sameLeaf sameWrappers
  · intro same
    have skeletons (type : CType) : type.skeleton.spelling = type.spelling :=
      render_skeleton type ""
    rw [← skeletons type, same, skeletons other]

/-- An array of constant pointers to functions that take a pointer and a reference and return a
pointer, whose names are given in one sort or another. -/
def table (kind : TypeKind) : CType :=
  .array (some "N + 1") <| .pointer ⟨true, false, false⟩ <| .function
    (.pointer .none (.named kind "unsigned int" .none))
    [.pointer .none (.named kind "T" ⟨true, false, false⟩),
      .reference .rvalue (.array none (.named kind "T" .none))]

/-- The names in the table are read off its spelling, their sort is not. -/
theorem spelling_eq_iff_table :
    (table .elaborated).Spellable ∧ (table .unsignedInt).Spellable ∧
      (table .elaborated).spelling = "unsigned int *(*const [N + 1])(const T *, T (&&)[])" ∧
      (table .elaborated).spelling = (table .unsignedInt).spelling ∧
      (table .elaborated).skeleton = (table .unsignedInt).skeleton := by
  have spellable (kind : TypeKind) : (table kind).Spellable := by
    have words : "unsigned int" = " ".intercalate ["unsigned", "int"] := by decide +kernel
    have word : "T" = " ".intercalate ["T"] := by decide +kernel
    unfold table
    rw [words, word]
    refine .array (by simp) (.pointer (.function (.pointer ?_) ?_))
    · exact .named (by decide) (by simp [Text.IsWord, Text.signs])
    · rw [List.forall_mem_cons, List.forall_mem_singleton]
      refine ⟨.pointer ?_, .reference rfl (.array (by simp) ?_)⟩
      · exact .named (by decide) (by simp [Text.IsWord, Text.signs])
      · exact .named (by decide) (by simp [Text.IsWord, Text.signs])
  have same : (table .elaborated).spelling = (table .unsignedInt).spelling := by decide +kernel
  exact ⟨spellable .elaborated, spellable .unsignedInt, by decide +kernel, same,
    (spelling_eq_iff (spellable .elaborated) (spellable .unsignedInt)).mp same⟩

end DeclScope.CType
