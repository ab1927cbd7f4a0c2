import DeclScope.Proofs.Cursor.Usr
import Mathlib.Data.List.TakeWhile

/-!
# Namespaces written together are namespaces written one inside the other

A namespace may be written with several names at once, as `a :: b`.  Its segment is cut at the
double colons and freed from blanks, so it consists of the segments of the single names, which are
those of the namespaces written one inside the other.  A USR is made of the segments of all scopes
around a declaration, and therefore does not tell the two ways of writing apart.

A scope without a name is told by the offset at which it starts, and this is the one thing in a USR
that does depend on how the namespaces before it are written.
-/

namespace DeclScope

/-- The unit of a namespace with two names, which holds a variable and an unnamed namespace. -/
def TranslationUnit.namesJoined : TranslationUnit where
  filename := "joined.cpp"
  language := .cpp
  source := .ofString "namespace a :: b \x7b int x; namespace \x7b int y; \x7d \x7d"
  arguments := []
  tree := .named .translationUnit none 0 48 [
    .named .namespaceDefinition none 0 48 [
      .token "namespace" 0,
      .named (.other "nested_namespace_specifier") (some .name) 10 16 [
        .named (.name .scope) none 10 11 [],
        .token "::" 12,
        .named (.name .scope) none 15 16 []],
      .named .declarationList (some .body) 17 48 [
        .token "\x7b" 17,
        .named .declaration none 19 25 [
          .named .primitiveType (some .type) 19 22 [],
          .named (.name .plain) (some .declarator) 23 24 [],
          .token ";" 24],
        .named .namespaceDefinition none 26 46 [
          .token "namespace" 26,
          .named .declarationList (some .body) 36 46 [
            .token "\x7b" 36,
            .named .declaration none 38 44 [
              .named .primitiveType (some .type) 38 41 [],
              .named (.name .plain) (some .declarator) 42 43 [],
              .token ";" 43],
            .token "\x7d" 45]],
        .token "\x7d" 47]]]

/-- The unit with the same declarations, where the two names are written one inside the other. -/
def TranslationUnit.namesNested : TranslationUnit where
  filename := "nested.cpp"
  language := .cpp
  source := .ofString
    "namespace a \x7b namespace b \x7b int x; namespace \x7b int y; \x7d \x7d \x7d"
  arguments := []
  tree := .named .translationUnit none 0 59 [
    .named .namespaceDefinition none 0 59 [
      .token "namespace" 0,
      .named (.name .scope) (some .name) 10 11 [],
      .named .declarationList (some .body) 12 59 [
        .token "\x7b" 12,
        .named .namespaceDefinition none 14 57 [
          .token "namespace" 14,
          .named (.name .scope) (some .name) 24 25 [],
          .named .declarationList (some .body) 26 57 [
            .token "\x7b" 26,
            .named .declaration none 28 34 [
              .named .primitiveType (some .type) 28 31 [],
              .named (.name .plain) (some .declarator) 32 33 [],
              .token ";" 33],
            .named .namespaceDefinition none 35 55 [
              .token "namespace" 35,
              .named .declarationList (some .body) 45 55 [
                .token "\x7b" 45,
                .named .declaration none 47 53 [
                  .named .primitiveType (some .type) 47 50 [],
                  .named (.name .plain) (some .declarator) 51 52 [],
                  .token ";" 52],
                .token "\x7d" 54]],
            .token "\x7d" 56]],
        .token "\x7d" 58]]]

namespace Text

/-- Blanks around a text without blanks are trimmed. -/
theorem trimmed_append {before word behind : List Char}
    (blankBefore : ∀ char ∈ before, isBlank char = true)
    (noBlank : ∀ char ∈ word, isBlank char = false)
    (blankBehind : ∀ char ∈ behind, isBlank char = true) :
    trimmed (before ++ word ++ behind) = word := by
  have front : (before ++ word ++ behind).dropWhile isBlank =
      (word ++ behind).dropWhile isBlank := by
    rw [List.append_assoc, List.dropWhile_append_of_pos blankBefore]
  cases word with
  | nil =>
    have empty : behind.dropWhile isBlank = [] := List.dropWhile_eq_nil_iff.mpr blankBehind
    rw [trimmed, front, List.nil_append, empty]
    rfl
  | cons first others =>
    have stays : (first :: others ++ behind).dropWhile isBlank = first :: others ++ behind :=
      List.dropWhile_cons_of_neg (by simp [noBlank first List.mem_cons_self])
    have back : (first :: others).reverse.dropWhile isBlank = (first :: others).reverse := by
      rw [List.dropWhile_eq_self_iff]
      intro inhabited blank
      have listed : (first :: others).reverse[0] ∈ first :: others :=
        List.mem_reverse.mp (List.getElem_mem inhabited)
      rw [noBlank _ listed] at blank
      cases blank
    have blankBack : ∀ char ∈ behind.reverse, isBlank char = true := by
      intro char listed
      exact blankBehind char (List.mem_reverse.mp listed)
    rw [trimmed, front, stays, List.reverse_append, List.dropWhile_append_of_pos blankBack, back,
      List.reverse_reverse]

end Text

namespace Usr

open Text

/-- A name without colons and without blanks. -/
structure IsName (name : List Char) : Prop where
  nonempty : name ≠ []
  noColon : ':' ∉ name
  noBlank : ∀ char ∈ name, isBlank char = false

/-- The text consists of the names in their order, with a double colon between each two of them and
any blanks around it. -/
inductive Joins : List (List Char) → List Char → Prop where
  | single {name : List Char} (isName : IsName name) : Joins [name] name
  | cons {name before behind text : List Char} {names : List (List Char)} (isName : IsName name)
      (blankBefore : ∀ char ∈ before, isBlank char = true)
      (blankBehind : ∀ char ∈ behind, isBlank char = true) (rest : Joins names text) :
      Joins (name :: names) (name ++ before ++ ':' :: ':' :: (behind ++ text))

/-- Two names are joined with a blank on both sides of the double colon. -/
theorem joins_two : Joins [['a'], ['b']] "a :: b".toList := by
  have first : IsName ['a'] := ⟨by decide, by decide, List.forall_mem_singleton.mpr rfl⟩
  have second : IsName ['b'] := ⟨by decide, by decide, List.forall_mem_singleton.mpr rfl⟩
  have blank : ∀ char ∈ [' '], isBlank char = true := List.forall_mem_singleton.mpr rfl
  exact .cons first blank blank (.single second)

/-- A character other than a colon belongs to the first part. -/
theorem scopeParts_cons {char : Char} {rest part : List Char} {others : List (List Char)}
    (noColon : char ≠ ':') (parts : scopeParts rest = part :: others) :
    scopeParts (char :: rest) = (char :: part) :: others := by
  rw [scopeParts, parts]
  rintro _ rfl
  exact absurd rfl noColon

/-- A text without colons is one part. -/
theorem scopeParts_of_not_mem {part : List Char} (noColon : ':' ∉ part) :
    scopeParts part = [part] := by
  induction part with
  | nil => rfl
  | cons char rest inductionHypothesis =>
    have other : char ≠ ':' := (List.ne_of_not_mem_cons noColon).symm
    have later := List.not_mem_of_not_mem_cons noColon
    exact scopeParts_cons other (inductionHypothesis later)

/-- What is before the first double colon is the first part. -/
theorem scopeParts_append {part : List Char} (noColon : ':' ∉ part) (rest : List Char) :
    scopeParts (part ++ ':' :: ':' :: rest) = part :: scopeParts rest := by
  induction part with
  | nil => rw [List.nil_append, scopeParts]
  | cons char others inductionHypothesis =>
    have other : char ≠ ':' := (List.ne_of_not_mem_cons noColon).symm
    have later := List.not_mem_of_not_mem_cons noColon
    exact scopeParts_cons other (inductionHypothesis later)

/-- There is no colon among blanks. -/
theorem colon_not_mem {blanks : List Char} (blank : ∀ char ∈ blanks, isBlank char = true) :
    ':' ∉ blanks := by
  intro mem
  exact absurd (blank ':' mem) (by decide)

/-- The trimmed parts of a text that joins names are the names.

By induction along the names; the blanks in front of a name are those behind the last colons. -/
theorem Joins.trimmed_scopeParts {names : List (List Char)} {text blanks : List Char}
    (joins : Joins names text) (blank : ∀ char ∈ blanks, isBlank char = true) :
    (scopeParts (blanks ++ text)).map trimmed = names := by
  induction joins generalizing blanks with
  | @single name isName =>
    have noColon : ':' ∉ blanks ++ name := by simp [colon_not_mem blank, isName.noColon]
    have alone := trimmed_append blank isName.noBlank (List.forall_mem_nil _)
    rw [List.append_nil] at alone
    rw [scopeParts_of_not_mem noColon, List.map_singleton, alone]
  | @cons name before behind text names isName blankBefore blankBehind rest inductionHypothesis =>
    have noColon : ':' ∉ blanks ++ name ++ before := by
      simp [colon_not_mem blank, isName.noColon, colon_not_mem blankBefore]
    rw [← List.append_assoc, ← List.append_assoc, scopeParts_append noColon, List.map_cons,
      trimmed_append blank isName.noBlank blankBefore, inductionHypothesis blankBehind]

/-- A text that joins names is not empty. -/
theorem Joins.ne_nil {names : List (List Char)} {text : List Char} (joins : Joins names text) :
    text ≠ [] := by
  cases joins with
  | single isName => exact isName.nonempty
  | cons => simp

/-- Every name of a joined text is a name. -/
theorem Joins.isName {names : List (List Char)} {text name : List Char} (joins : Joins names text)
    (listed : name ∈ names) : IsName name := by
  induction joins with
  | single isName => exact List.mem_singleton.mp listed ▸ isName
  | cons isName _ _ _ inductionHypothesis =>
    rcases List.mem_cons.mp listed with rfl | later
    · exact isName
    · exact inductionHypothesis later

/-- A namespace with several names has a segment for each of them. -/
theorem Joins.namespaceSegment_eq {names : List (List Char)} {text : List Char}
    (joins : Joins names text) (start : Nat) :
    namespaceSegment (String.ofList text) start =
      String.join (names.map fun name => "@N@" ++ String.ofList name) := by
  have named : String.ofList text ≠ "" := by simpa using joins.ne_nil
  have parts := joins.trimmed_scopeParts (List.forall_mem_nil _)
  rw [List.nil_append] at parts
  rw [namespaceSegment, if_neg named, String.toList_ofList, ← parts, List.map_map]
  rfl

/-- The segment of a namespace with several names consists of those of namespaces with the single
names, wherever they start. -/
theorem Joins.namespaceSegment_eq_join {names : List (List Char)} {text : List Char}
    (joins : Joins names text) (start : Nat) (starts : List Char → Nat) :
    namespaceSegment (String.ofList text) start =
      String.join (names.map fun name => namespaceSegment (String.ofList name) (starts name)) := by
  rw [joins.namespaceSegment_eq]
  congr 1
  apply List.map_congr_left
  intro name listed
  simp [(Joins.single (joins.isName listed)).namespaceSegment_eq]

/-- The segment of a namespace with a name does not depend on where it starts. -/
theorem namespaceSegment_named {name : String} (named : name ≠ "") (start other : Nat) :
    namespaceSegment name start = namespaceSegment name other := by
  rw [namespaceSegment, namespaceSegment, if_neg named, if_neg named]

/-- The segment of a record or an enumeration with a name does not depend on where it starts. -/
theorem recordSegment_named {name : String} (named : name ≠ "") (tag : String)
    (start other : Nat) : recordSegment tag name start = recordSegment tag name other := by
  rw [recordSegment, recordSegment, if_neg named, if_neg named]

end Usr

/-- Whether a cursor of this kind adds a segment to the USR of what it encloses. -/
def CursorKind.opensScope : CursorKind → Bool
  | namespaceScope | classDecl | structDecl | unionDecl | enumDecl => true
  | _ => false

/-- What tells a scope from the others beside it: its kind, its name and, if it has no name, where
it starts. -/
structure ScopeId where
  kind : CursorKind
  name : String
  start? : Option Nat
deriving DecidableEq, Inhabited

namespace ScopeId

/-- The kind and the name of a scope, wherever it starts. -/
def anywhere (id : ScopeId) : CursorKind × String := (id.kind, id.name)

/-- The segment of a scope. -/
def segment (id : ScopeId) : String :=
  let start := id.start?.getD 0
  match id.kind with
  | .namespaceScope => Usr.namespaceSegment id.name start
  | .unionDecl => Usr.recordSegment "U" id.name start
  | .enumDecl => Usr.recordSegment "E" id.name start
  | _ => Usr.recordSegment "S" id.name start

end ScopeId

namespace Cursor

/-- What tells a cursor that opens a scope from the others beside it. -/
def scopeId (cursor : Cursor) : ScopeId where
  kind := cursor.kind
  name := cursor.spelling
  start? := if cursor.spelling = "" then some cursor.node.start else none

/-- The cursors at the scopes around a cursor, from the outside in. -/
def enclosingScopes (cursor : Cursor) : List Cursor :=
  (cursor.node.ancestors.reverse.filter (·.kind.opensScope)).map
    fun scope => ⟨⟨scope, none⟩, cursor.unit⟩

/-- The scopes that a cursor stands for: itself, or the namespaces whose names it joins. -/
inductive Opens (scope : Cursor) : List ScopeId → Prop where
  | itself (opens : scope.kind.opensScope = true) : Opens scope [scope.scopeId]
  | joined {names : List (List Char)} (isNamespace : scope.kind = .namespaceScope)
      (joins : Usr.Joins names scope.spelling.toList) :
      Opens scope (names.map fun name => ⟨.namespaceScope, String.ofList name, none⟩)

/-- The scopes that several cursors stand for, in their order. -/
inductive Path : List Cursor → List ScopeId → Prop where
  | nil : Path [] []
  | cons {scope : Cursor} {scopes : List Cursor} {ids others : List ScopeId}
      (opens : Opens scope ids) (rest : Path scopes others) : Path (scope :: scopes) (ids ++ others)

/-- A cursor that opens a scope has the segment of the scope. -/
theorem segment?_eq_scopeId {cursor : Cursor} (opens : cursor.kind.opensScope = true) :
    cursor.segment? = some cursor.scopeId.segment := by
  have start : cursor.spelling ≠ "" ∨ cursor.node.start = cursor.scopeId.start?.getD 0 := by
    by_cases unnamed : cursor.spelling = ""
    · exact .inr (by simp [scopeId, unnamed])
    · exact .inl unnamed
  have sameNamespace : Usr.namespaceSegment cursor.spelling cursor.node.start =
      Usr.namespaceSegment cursor.spelling (cursor.scopeId.start?.getD 0) := by
    rcases start with named | same
    · exact Usr.namespaceSegment_named named _ _
    · rw [same]
  have sameRecord (tag : String) : Usr.recordSegment tag cursor.spelling cursor.node.start =
      Usr.recordSegment tag cursor.spelling (cursor.scopeId.start?.getD 0) := by
    rcases start with named | same
    · exact Usr.recordSegment_named named tag _ _
    · rw [same]
  have sameKind : cursor.scopeId.kind = cursor.kind := rfl
  have sameName : cursor.scopeId.name = cursor.spelling := rfl
  rw [segment?, ScopeId.segment, sameKind, sameName]
  cases isKind : cursor.kind with
  | namespaceScope => exact congrArg some sameNamespace
  | classDecl | structDecl => exact congrArg some (sameRecord "S")
  | unionDecl => exact congrArg some (sameRecord "U")
  | enumDecl => exact congrArg some (sameRecord "E")
  | _ => simp [isKind, CursorKind.opensScope] at opens

/-- A cursor has the segments of the scopes that it stands for. -/
theorem Opens.segment? {scope : Cursor} {ids : List ScopeId} (opens : Opens scope ids) :
    scope.segment? = some (String.join (ids.map ScopeId.segment)) := by
  cases opens with
  | itself opens => simp [segment?_eq_scopeId opens]
  | joined isNamespace joins =>
    have segments := joins.namespaceSegment_eq_join scope.node.start fun _ => 0
    rw [String.ofList_toList] at segments
    rw [Cursor.segment?, isNamespace, List.map_map]
    exact congrArg some segments

/-- Each cursor on a path stands for some scopes. -/
theorem Path.exists_opens {scopes : List Cursor} {ids : List ScopeId} {scope : Cursor}
    (path : Path scopes ids) (listed : scope ∈ scopes) : ∃ own, Opens scope own := by
  induction path with
  | nil => cases listed
  | cons opens rest inductionHypothesis =>
    rcases List.mem_cons.mp listed with rfl | later
    · exact ⟨_, opens⟩
    · exact inductionHypothesis later

/-- Cursors have the segments of the scopes that they stand for. -/
theorem Path.segments {scopes : List Cursor} {ids : List ScopeId} (path : Path scopes ids) :
    String.join (scopes.map fun scope => scope.segment?.getD "") =
      String.join (ids.map ScopeId.segment) := by
  induction path with
  | nil => rfl
  | cons opens rest inductionHypothesis =>
    simp [opens.segment?, inductionHypothesis]

/-- The segments before that of a cursor are those of the scopes around it. -/
theorem scopeSegments_eq_join (cursor : Cursor) :
    cursor.unit.scopeSegments cursor.node =
      String.join (cursor.enclosingScopes.map fun scope => scope.segment?.getD "") := by
  rw [TranslationUnit.scopeSegments, enclosingScopes]
  generalize cursor.node.ancestors.reverse = nodes
  induction nodes with
  | nil => rfl
  | cons node nodes inductionHypothesis =>
    cases opens : node.kind.opensScope with
    | true => simp [opens, segment?_of_opensScope, inductionHypothesis]
    | false => simp [opens, TranslationUnit.scopeSegment_of_closed, inductionHypothesis]

/-- The segment of a cursor is told by its kind, its name and, if it opens a scope without a name,
by where it starts. -/
theorem segment?_congr {first second : Cursor} (sameKind : first.kind = second.kind)
    (sameName : first.spelling = second.spelling)
    (sameStart : first.kind.opensScope = true → first.spelling = "" →
      first.node.start = second.node.start) : first.segment? = second.segment? := by
  by_cases opens : first.kind.opensScope = true
  · have sameId : first.scopeId = second.scopeId := by
      rw [scopeId, scopeId, ← sameKind, ← sameName]
      by_cases unnamed : first.spelling = ""
      · rw [sameStart opens unnamed]
      · rw [if_neg unnamed, if_neg unnamed]
    rw [segment?_eq_scopeId opens, segment?_eq_scopeId (sameKind ▸ opens), sameId]
  · rw [segment?, segment?, ← sameKind, ← sameName]
    cases isKind : first.kind with
    | namespaceScope | classDecl | structDecl | unionDecl | enumDecl =>
      exact absurd (by rw [isKind]; rfl) opens
    | _ => rfl

/-- The scopes around a cursor open scopes. -/
theorem opensScope_of_mem_enclosing {scope cursor : Cursor}
    (mem : scope ∈ cursor.enclosingScopes) : scope.kind.opensScope = true := by
  obtain ⟨node, listed, rfl⟩ := List.mem_map.mp mem
  have opens := (List.mem_filter.mp listed).2
  cases isKind : node.kind with
  | namespaceDefinition | enumSpecifier => simp [kind, Item.kind, Item.kindOfNode, isKind,
      CursorKind.opensScope]
  | record key =>
    cases key <;> simp [kind, Item.kind, Item.kindOfNode, isKind, RecordKey.cursorKind,
      CursorKind.opensScope]
  | _ => simp [isKind, Kind.opensScope] at opens

/-- Cursors that open scopes stand for these. -/
theorem path_of_scopeIds {scopes : List Cursor} {ids : List ScopeId}
    (opens : ∀ scope ∈ scopes, scope.kind.opensScope = true)
    (written : scopes.map scopeId = ids) : Path scopes ids := by
  subst written
  induction scopes with
  | nil => exact .nil
  | cons scope scopes inductionHypothesis =>
    obtain ⟨first, others⟩ := List.forall_mem_cons.mp opens
    exact .cons (.itself first) (inductionHypothesis others)

/-- Cursors that open scopes, the first a namespace with several names, stand for the namespaces
with the single names and for the other scopes. -/
theorem path_of_joins {scopes : List Cursor} {names : List (List Char)} {text : List Char}
    {others : List ScopeId} (opens : ∀ scope ∈ scopes, scope.kind.opensScope = true)
    (joins : Usr.Joins names text)
    (written : scopes.map scopeId = ⟨.namespaceScope, String.ofList text, none⟩ :: others) :
    Path scopes
      ((names.map fun name => ⟨.namespaceScope, String.ofList name, none⟩) ++ others) := by
  obtain ⟨first, rest, rfl, isFirst, rfl⟩ := List.map_eq_cons_iff.mp written
  have isNamespace : first.kind = .namespaceScope := congrArg ScopeId.kind isFirst
  have isName : first.spelling = String.ofList text := congrArg ScopeId.name isFirst
  refine .cons (.joined isNamespace ?_) (path_of_scopeIds (List.forall_mem_cons.mp opens).2 rfl)
  rwa [isName, String.toList_ofList]

/-- The USR of a cursor that opens a scope consists of the segments of the scopes around it and of
those for which it stands. -/
theorem usr_of_path {cursor : Cursor} {ids : List ScopeId}
    (path : Path (cursor.enclosingScopes ++ [cursor]) ids) :
    cursor.usr = "c:" ++ String.join (ids.map ScopeId.segment) := by
  obtain ⟨own, opens⟩ := path.exists_opens (List.mem_concat_self)
  rw [← path.segments, usr, opens.segment?, scopeSegments_eq_join]
  simp [opens.segment?, String.append_assoc]

/-- Namespaces written together give the USRs of namespaces written one inside the other.  The
segment of a text that joins names consists of those of the names, and a namespace with a name has
the same segment wherever it starts.  So a declaration has the same USR in the same scopes,
whichever way they are written, and a namespace with several names has that of the innermost of
them.  Scopes without a name are the same only if they start at the same offset. -/
theorem usr_of_joined_names :
    (∀ (names : List (List Char)) (text : List Char), Usr.Joins names text →
      ∀ (start : Nat) (starts : List Char → Nat),
        Usr.namespaceSegment (String.ofList text) start = String.join (names.map fun name =>
          Usr.namespaceSegment (String.ofList name) (starts name))) ∧
    (∀ name : String, name ≠ "" → ∀ start other : Nat,
      Usr.namespaceSegment name start = Usr.namespaceSegment name other) ∧
    (∀ (first second : Cursor) (ids : List ScopeId),
      Path first.enclosingScopes ids → Path second.enclosingScopes ids →
      first.kind = second.kind → first.spelling = second.spelling →
      (first.kind.opensScope = true → first.spelling = "" →
        first.node.start = second.node.start) →
      first.usr = second.usr) ∧
    (∀ (first second : Cursor) (ids : List ScopeId),
      Path (first.enclosingScopes ++ [first]) ids → Path (second.enclosingScopes ++ [second]) ids →
      first.usr = second.usr) := by
  refine ⟨?_, ?_, ?_, ?_⟩
  · intro names text joins
    exact joins.namespaceSegment_eq_join
  · intro name named
    exact Usr.namespaceSegment_named named
  · intro first second ids path otherPath sameKind sameName sameStart
    rw [usr, usr, segment?_congr sameKind sameName sameStart, scopeSegments_eq_join,
      scopeSegments_eq_join, path.segments, otherPath.segments]
  · intro first second ids path otherPath
    rw [usr_of_path path, usr_of_path otherPath]

/-- What is in the namespace without a name is in the same scopes in both units, and has another
USR, since the namespace starts elsewhere. -/
theorem usr_in_unnamed_moves :
    let root := TranslationUnit.namesJoined.cursor
    let other := TranslationUnit.namesNested.cursor
    let first := (root.descend? [0, 1, 0]).getD root
    let second := (other.descend? [0, 0, 1, 0]).getD other
    (∃ ids moved, Path first.enclosingScopes ids ∧ Path second.enclosingScopes moved ∧
      ids.map ScopeId.anywhere = moved.map ScopeId.anywhere) ∧
    first.kind = second.kind ∧ first.spelling = second.spelling ∧
    first.usr = "c:@N@a@N@b@aN@26@y" ∧ second.usr = "c:@N@a@N@b@aN@35@y" ∧
    first.usr ≠ second.usr := by
  intro root other first second
  have written : first.enclosingScopes.map scopeId =
      [⟨.namespaceScope, "a :: b", none⟩, ⟨.namespaceScope, "", some 26⟩] := by decide +kernel
  have moved : second.enclosingScopes.map scopeId = [⟨.namespaceScope, "a", none⟩,
      ⟨.namespaceScope, "b", none⟩, ⟨.namespaceScope, "", some 35⟩] := by decide +kernel
  have joined := path_of_joins (fun _ => opensScope_of_mem_enclosing) Usr.joins_two written
  have nested := path_of_scopeIds (fun _ => opensScope_of_mem_enclosing) moved
  have isFirst : first.usr = "c:@N@a@N@b@aN@26@y" := by decide +kernel
  have isSecond : second.usr = "c:@N@a@N@b@aN@35@y" := by decide +kernel
  refine ⟨⟨_, _, joined, nested, rfl⟩, by decide +kernel, by decide +kernel, isFirst, isSecond, ?_⟩
  rw [isFirst, isSecond]
  decide

/-- The variable beside that namespace has the same USR in both units, and so have the namespace
with two names and the inner one of the two namespaces. -/
theorem usr_of_joined_and_nested :
    let root := TranslationUnit.namesJoined.cursor
    let other := TranslationUnit.namesNested.cursor
    let first := (root.descend? [0, 0]).getD root
    let second := (other.descend? [0, 0, 0]).getD other
    let outer := (root.descend? [0]).getD root
    let inner := (other.descend? [0, 0]).getD other
    (Usr.namespaceSegment "a :: b" 0 = String.join
      [Usr.namespaceSegment "a" 0, Usr.namespaceSegment "b" 14]) ∧
    (first.usr = second.usr ∧ first.usr = "c:@N@a@N@b@x") ∧
    outer.usr = inner.usr ∧ outer.spelling = "a :: b" ∧ inner.spelling = "b" := by
  intro root other first second outer inner
  obtain ⟨segments, anywhere, entities, namespaces⟩ := usr_of_joined_names
  have apart : Usr.namespaceSegment "b" 0 = Usr.namespaceSegment "b" 14 :=
    anywhere "b" (by decide) 0 14
  have isVariable : first.kind = .varDecl := by decide +kernel
  refine ⟨?_, ⟨?_, by decide +kernel⟩, ?_, by decide +kernel, by decide +kernel⟩
  · rw [← apart]
    exact segments _ _ Usr.joins_two 0 fun _ => 0
  · have written : first.enclosingScopes.map scopeId = [⟨.namespaceScope, "a :: b", none⟩] := by
      decide +kernel
    have nested : second.enclosingScopes.map scopeId =
        [⟨.namespaceScope, "a", none⟩, ⟨.namespaceScope, "b", none⟩] := by decide +kernel
    have path : Path first.enclosingScopes
        [⟨.namespaceScope, "a", none⟩, ⟨.namespaceScope, "b", none⟩] :=
      path_of_joins (fun _ => opensScope_of_mem_enclosing) Usr.joins_two written
    have otherPath := path_of_scopeIds (fun _ => opensScope_of_mem_enclosing) nested
    apply entities first second _ path otherPath (by decide +kernel) (by decide +kernel)
    rw [isVariable]
    intro opens
    cases opens
  · have written : (outer.enclosingScopes ++ [outer]).map scopeId =
        [⟨.namespaceScope, "a :: b", none⟩] := by decide +kernel
    have nested : (inner.enclosingScopes ++ [inner]).map scopeId =
        [⟨.namespaceScope, "a", none⟩, ⟨.namespaceScope, "b", none⟩] := by decide +kernel
    have opens : ∀ scope ∈ outer.enclosingScopes ++ [outer], scope.kind.opensScope = true := by
      decide +kernel
    have otherOpens : ∀ scope ∈ inner.enclosingScopes ++ [inner], scope.kind.opensScope = true := by
      decide +kernel
    have path : Path (outer.enclosingScopes ++ [outer])
        [⟨.namespaceScope, "a", none⟩, ⟨.namespaceScope, "b", none⟩] :=
      path_of_joins opens Usr.joins_two written
    have otherPath := path_of_scopeIds otherOpens nested
    exact namespaces outer inner _ path otherPath

end Cursor

end DeclScope
