import DeclScope.CommandLine.Basic
import DeclScope.Proofs.CommandLine.Line
import DeclScope.Proofs.Cursor.Facts
import DeclScope.Proofs.Declaration.Fields
import DeclScope.Proofs.Json.Text
import DeclScope.Proofs.Observer.Recorders
import DeclScope.Proofs.Refusal
import DeclScope.Proofs.Walk.ClassOrder

/-!
# All or nothing on the command line

The command subscribes a collector and, on request, a dumper with room without end.  Neither of them
can fail, so a parse that gets as far as the first cursor gets to the last: it fails only for a
cause against the input, and then nobody has been called.  Either all classes are reported and all
cursors are described, or none.

What is printed for a class is the JSON text of its document, with the fields under their names, and
a line feed.  The documents come in the order in which the classes stand in the source.  What is
printed for a cursor is a heading and a line for each of its facts.

Of the toolkit it is assumed that well-formed command lines are understood as they are written and
that values are written by the rules for JSON text.  Any environment file and any form of a report
will do.  Log records, which the command can write to standard error as well, are left out.
-/

namespace DeclScope

/-- The unit of `class A { int x; };`. -/
def TranslationUnit.single : TranslationUnit where
  filename := "a.cpp"
  language := .cpp
  source := .ofString "class A \x7b int x; \x7d;"
  arguments := []
  tree := .named .translationUnit none 0 19 [
    .named (.record .classKey) none 0 18 [
      .token "class" 0,
      .named (.name .type) (some .name) 6 7 [],
      .named .memberList (some .body) 8 18 [
        .token "\x7b" 8,
        .named .memberDeclaration none 10 16 [
          .named .primitiveType (some .type) 10 13 [],
          .named (.name .field) (some .declarator) 14 15 [],
          .token ";" 15],
        .token "\x7d" 17]],
    .token ";" 18]

/-- A location is written with whole numbers. -/
theorem Location.whole_toJson (location : Location) : location.toJson.Whole := by
  refine .obj ?_
  simp only [List.forall_mem_cons, List.not_mem_nil, false_imp_iff, implies_true, and_true]
  exact ⟨.str _, .int _, .int _, .int _⟩

/-- The members of a declaration are written with whole numbers. -/
theorem Declaration.whole_members (declaration : Declaration) :
    ∀ member ∈ declaration.members, member.2.Whole := by
  simp only [members, List.forall_mem_cons, List.not_mem_nil, false_imp_iff, implies_true, and_true]
  exact ⟨.str _, .str _, .str _, declaration.start.whole_toJson, declaration.stop.whole_toJson⟩

/-- A class definition is written with whole numbers. -/
theorem ClassDefinition.whole_toJson (definition : ClassDefinition) : definition.toJson.Whole := by
  refine .obj ?_
  intro member listed
  rcases List.mem_cons.mp listed with rfl | listed
  · exact .str _
  rcases List.mem_append.mp listed with ofClass | listed
  · exact definition.declaration.whole_members member ofClass
  · cases List.mem_singleton.mp listed
    refine .obj ?_
    rintro _ isField
    obtain ⟨field, -, rfl⟩ := List.mem_map.mp isField
    exact .obj field.whole_members

namespace CommandLine

/-- What the command relies on in its toolkit. -/
structure Toolkit.Documented (toolkit : Toolkit) : Prop where
  understands {words arguments line : List String} :
    WellFormed words → Written words arguments line →
      toolkit.understand line = .run (.ofWords words arguments)
  writes {layout : Json.Layout} {value : Json} :
    value.Whole → Json.Shows layout 0 value (toolkit.write layout value)

/-- The toolkit of this library has what the command relies on. -/
theorem documented_standard : Toolkit.standard.Documented where
  understands := Request.ofArguments_of_wellFormed
  writes whole := Json.shows_textAt _ 0 _ whole

/-- The subscribers come about by additions. -/
theorem built_registry (dump : Bool) : (registry dump).Built := by
  have collects : Registry.initial.add collectorId false false true = .ok (registry false) := rfl
  have dumps : (registry false).add dumperId false true false = .ok (registry true) := rfl
  cases dump with
  | false => exact .add .initial collects
  | true => exact .add (.add .initial collects) dumps

/-- The subscribers never fail, and leave announcements to the expander. -/
theorem harmless_registry (dump : Bool) :
    (registry dump).Harmless Instrument.behaviour initialStore := by
  have collects : Instrument.behaviour.Always Instrument.behaviour.Steady
      (initialStore.get collectorId) := Instrument.always_steady rfl
  have dumps : Instrument.behaviour.Always Instrument.behaviour.Steady
      (initialStore.get dumperId) := Instrument.always_steady_dumperAfter []
  constructor
  · intro id listed
    obtain rfl : id = dumperId := by cases dump <;> simp_all [registry]
    exact Instrument.always_silent rfl
  · intro id listed state reached
    apply Behaviour.Steady.sound
    have either : id = dumperId ∨ id = collectorId := by cases dump <;> simp_all [registry]
    rcases either with rfl | rfl
    · exact dumps state reached
    · exact collects state reached

/-- The analyzer that the command sets up. -/
def analyzerOf (toolkit : Toolkit) (world : World) (options : Options) : Analyzer :=
  ⟨settings toolkit world, registry options.dump⟩

/-- What a well-formed command line parses: the file that it names, or else standard input. -/
theorem inputOf_ofWords {words : List String} (wellFormed : WellFormed words)
    (arguments : List String) (world : World) :
    inputOf world (.ofWords words arguments) =
      { path? := words.find? namesFile
        stream? := if "--stdin" ∈ words then some world.stdin else none
        arguments } := by
  have either := Options.file_iff_ofWords wellFormed arguments
  simp only [Options.ofWords, ne_eq, List.contains_iff_mem] at either
  simp only [inputOf, Options.ofWords, either, ite_not]

section Unit

variable {unit : TranslationUnit} {analyzer : Analyzer} {dump : Bool}

/-- The collector is left with all classes that the walk announces. -/
theorem collected_of_unit (isUnit : unit.root.kind = .translationUnit)
    (subscribed : analyzer.registry = registry dump) :
    collected (analyzer.parseUnit Instrument.behaviour [] unit initialStore).store =
      ((unit.cursor.toplevelWalk.map (·.1)).filter Expander.announces).map
        (fun cursor => (ClassDefinition.expand cursor).1) := by
  have starts : initialStore.get collectorId = .collector [] := rfl
  have onClasses : (registry dump).classList.count collectorId = 1 := rfl
  have onCursors : (registry dump).cursorList.count (.observer collectorId) = 0 := by
    cases dump <;> rfl
  obtain ⟨-, state⟩ := Analyzer.received_of_harmless isUnit (subscribed ▸ built_registry dump)
    (subscribed ▸ harmless_registry dump) collectorId
  rw [subscribed, onClasses, onCursors, Instrument.afterTurns_collector starts] at state
  rw [collected, state]
  rfl

/-- The dumper is left with the descriptions of all cursors of the walk, if it is subscribed. -/
theorem dumped_of_unit (isUnit : unit.root.kind = .translationUnit)
    (subscribed : analyzer.registry = registry dump) :
    dumped (analyzer.parseUnit Instrument.behaviour [] unit initialStore).store =
      if dump then
        "\n".intercalate ((unit.cursor.toplevelWalk.map (·.1)).map fun cursor =>
          "CURSOR DUMP\n" ++ String.join (cursor.facts.map Fact.line)) else "" := by
  simp only [← Cursor.dump_eq]
  have starts : initialStore.get dumperId = Instrument.dumperAfter [] := rfl
  have onClasses : (registry dump).classList.count dumperId = 0 := rfl
  obtain ⟨-, state⟩ := Analyzer.received_of_harmless isUnit (subscribed ▸ built_registry dump)
    (subscribed ▸ harmless_registry dump) dumperId
  rw [subscribed, onClasses] at state
  cases dump with
  | false =>
    have onCursors : (registry false).cursorList.count (.observer dumperId) = 0 := rfl
    have unturned : ∀ cursors, Turn.allOf dumperId 0 0 cursors = [] := by simp [Turn.allOf]
    rw [onCursors, unturned] at state
    rw [dumped, state]
    rfl
  | true =>
    have onCursors : (registry true).cursorList.count (.observer dumperId) = 1 := rfl
    rw [onCursors, Instrument.afterTurns_dumper starts] at state
    rw [dumped, state]
    rfl

end Unit

section Run

variable {toolkit : Toolkit} {world : World} {options : Options}

/-- A well-formed command line is run with what its words say. -/
theorem Toolkit.Documented.runUsing_eq (documented : toolkit.Documented)
    {words arguments : List String} (wellFormed : WellFormed words)
    (written : Written words arguments world.arguments) :
    runUsing toolkit world = runWith toolkit world (.ofWords words arguments) := by
  rw [runUsing, documented.understands wellFormed written]

/-- The command that refuses its input reports the cause, and nothing else. -/
theorem runWith_of_refused {error : Error}
    (refused : (analyzerOf toolkit world options).refusal? world.frontEnd world.files
      (inputOf world options) = some error) :
    runWith toolkit world options = ⟨1, "", some (toolkit.report "parse failed" error.causes)⟩ := by
  have agrees : (runOf toolkit world options).Agrees (.fail initialStore error) :=
    Analyzer.parse_of_refused refused
  have undumped : dumped initialStore = "" := rfl
  rw [runWith, agrees.outcome, agrees.store]
  simp [Run.fail, undumped]

/-- The command that accepts its input reports every class, and describes every cursor if it is
asked to. -/
theorem runWith_of_accepted
    (accepted : (analyzerOf toolkit world options).refusal? world.frontEnd world.files
      (inputOf world options) = none) :
    ∃ unit, (analyzerOf toolkit world options).unit? world.frontEnd world.files
        (inputOf world options) = some unit ∧ unit.root.kind = .translationUnit ∧
      let cursors := unit.cursor.toplevelWalk.map (·.1)
      let layout := if options.compact then Json.Layout.compact else .indented
      runWith toolkit world options =
        ⟨0,
          String.join (((cursors.filter Expander.announces).map fun cursor =>
            toolkit.write layout (ClassDefinition.expand cursor).1.toJson).map (· ++ "\n")),
          some (if options.dump then
            "\n".intercalate (cursors.map fun cursor =>
              "CURSOR DUMP\n" ++ String.join (cursor.facts.map Fact.line)) else "")⟩ := by
  obtain ⟨unit, leads, unitAccepted, dispatched⟩ := Analyzer.parse_of_accepted accepted
  have isUnit := TranslationUnit.kind_root_of_accepted unitAccepted
  have agrees : (runOf toolkit world options).Agrees
      ((analyzerOf toolkit world options).parseUnit Instrument.behaviour [] unit initialStore) :=
    dispatched.trans (Analyzer.parseUnit_agrees isUnit).symm
  have harmless : (analyzerOf toolkit world options).registry.Harmless Instrument.behaviour
      initialStore := harmless_registry options.dump
  obtain ⟨succeeded, -⟩ := Analyzer.parseUnit_of_harmless isUnit harmless
  have subscribed : (analyzerOf toolkit world options).registry = registry options.dump := rfl
  refine ⟨unit, leads, isUnit, ?_⟩
  dsimp only
  rw [runWith, agrees.outcome, succeeded, agrees.store, collected_of_unit isUnit subscribed,
    dumped_of_unit isUnit subscribed]
  simp only [List.map_map]
  rfl

end Run

/-- What the command leaves behind, for every well-formed command line.

If a cause holds against the input, the code is 1, standard output is empty, and standard error
holds the report on the first cause and no description.  Otherwise the code is 0.  Standard output
holds the documents of the classes that the walk of the unit announces, in document order, each
followed by a line feed.  A document is the JSON text of what identifies the class, its extent, and
its fields, under the names of the data members in the order in which these came up first, none of
them twice.  Standard error holds the descriptions of all cursors of the walk, with blank lines
between them, if it was asked for them. -/
theorem run_reports_all_or_nothing (toolkit : Toolkit) (documented : toolkit.Documented)
    (world : World) (words arguments : List String) (wellFormed : WellFormed words)
    (written : Written words arguments world.arguments) :
    let options := Options.ofWords words arguments
    let analyzer := analyzerOf toolkit world options
    let input : Input :=
      { path? := words.find? namesFile
        stream? := if "--stdin" ∈ words then some world.stdin else none
        arguments }
    (∀ error, analyzer.refusal? world.frontEnd world.files input = some error →
      runUsing toolkit world =
        ⟨1, "", some (toolkit.report "parse failed" error.causes)⟩) ∧
    (analyzer.refusal? world.frontEnd world.files input = none →
      ∃ unit texts, analyzer.unit? world.frontEnd world.files input = some unit ∧
        let cursors := unit.cursor.toplevelWalk.map (·.1)
        let classes := cursors.filter Expander.announces
        runUsing toolkit world =
          ⟨0,
            String.join (texts.map (· ++ "\n")),
            some (if options.dump then
              "\n".intercalate (cursors.map fun cursor =>
                "CURSOR DUMP\n" ++ String.join (cursor.facts.map Fact.line)) else "")⟩ ∧
        (classes.map (·.node)).Pairwise Node.Precedes ∧
        List.Forall₂
          (fun cursor text =>
            let fields := (ClassDefinition.expand cursor).1.fields.toList
            Json.Shows (if options.compact then .compact else .indented) 0
              (ClassDefinition.documentOf cursor fields) text ∧
            fields.map (·.name) = ((ClassDefinition.fieldCursors cursor.childWalk).map
              (·.displayName)).eraseDups ∧
            (fields.map (·.name)).Nodup)
          classes texts) := by
  intro options analyzer input
  have parsed : input = inputOf world options := (inputOf_ofWords wellFormed arguments world).symm
  rw [documented.runUsing_eq wellFormed written, parsed]
  constructor
  · intro error refused
    exact runWith_of_refused refused
  · intro accepted
    obtain ⟨unit, leads, isUnit, reported⟩ := runWith_of_accepted accepted
    refine ⟨unit, _, leads, reported, Cursor.pairwise_announced isUnit, ?_⟩
    rw [List.forall₂_map_right_iff, List.forall₂_same]
    intro cursor _
    have gathered := ClassDefinition.gathers_expand cursor
    refine ⟨?_, ?_, gathered.indexed.nodup_names⟩
    · rw [← ClassDefinition.toJson_expand cursor]
      exact documented.writes (ClassDefinition.whole_toJson _)
    · have names := gathered.names
      rwa [List.map_map] at names

/-- The command on a file, with both flags and with arguments for the front end, and on standard
input that cannot be read to its end. -/
theorem run_reports_single :
    let words := ["--dump", "a.cpp", "--compact"]
    let arguments := ["-x", "c++"]
    let bytes := TranslationUnit.single.source.chars.map fun c => c.toNat.toUInt8
    let found : World := {
      arguments := words ++ "--" :: arguments
      environment := ([] : DotEnv.Variables)
      files := fun path => if path = "a.cpp" then .file bytes else .missing
      stdin := bytes
      frontEnd := fun _ _ => TranslationUnit.single.tree }
    let torn : World := { found with
      arguments := ["--stdin", "--dump"]
      stdin := ⟨bytes, some "Input/output error (os error 5)"⟩ }
    let unit := { TranslationUnit.single with arguments }
    let classes := (unit.cursor.toplevelWalk.map (·.1)).filter Expander.announces
    let document :=
      "\x7b\"kind\":\"class\",\"name\":\"A\",\"spelling\":\"A\",\"usr\":\"c:@S@A\"," ++
      "\"start_location\":\x7b\"file\":\"a.cpp\",\"line\":1,\"column\":1,\"offset\":0\x7d," ++
      "\"end_location\":\x7b\"file\":\"a.cpp\",\"line\":1,\"column\":19,\"offset\":18\x7d," ++
      "\"fields\":\x7b\"x\":\x7b\"name\":\"x\",\"spelling\":\"x\",\"usr\":\"c:@S@A@FI@x\"," ++
      "\"start_location\":\x7b\"file\":\"a.cpp\",\"line\":1,\"column\":11,\"offset\":10\x7d," ++
      "\"end_location\":\x7b\"file\":\"a.cpp\",\"line\":1,\"column\":16,\"offset\":15\x7d" ++
      "\x7d\x7d\x7d"
    let descriptions :=
      ["CURSOR DUMP", "  Kind:          TRANSLATION_UNIT", "    Declaration: false",
        "    Reference:   false", "    Expression:  false", "    Statement:   false",
        "    Attribute:   false", "    Invalid:     false", "  Definition:    false",
        "  USR:           ", "  Spelling:      a.cpp", "  Display Name:  a.cpp",
        "  Location:      a.cpp:1[1] (0)", "  Access Level:  none", "  Type:",
        "    Kind:          INVALID", "    Spelling:      ", "    Canonical:     INVALID",
        "    Const:         false", "    Volatile:      false", "    Restrict:      false",
        "    Pointee:       INVALID", "    Result:        INVALID", "    Array element: INVALID",
        "    Array size:    -1", "  # Children:    1", "", "CURSOR DUMP",
        "  Kind:          CLASS_DECL", "    Declaration: true", "    Reference:   false",
        "    Expression:  false", "    Statement:   false", "    Attribute:   false",
        "    Invalid:     false", "  Definition:    true", "  USR:           c:@S@A",
        "  Spelling:      A", "  Display Name:  A", "  Location:      a.cpp:1[7] (6)",
        "  Access Level:  none", "  Type:", "    Kind:          RECORD",
        "    Spelling:      class A", "    Canonical:     RECORD", "    Const:         false",
        "    Volatile:      false", "    Restrict:      false", "    Pointee:       INVALID",
        "    Result:        INVALID", "    Array element: INVALID", "    Array size:    -1",
        "  # Children:    1"]
    List.Forall₂ (fun cursor text =>
        Json.Shows .compact 0 (ClassDefinition.expand cursor).1.toJson text) classes [document] ∧
      run found =
        ⟨0, document ++ "\n", some (String.join (descriptions.map (· ++ "\n")))⟩ ∧
      run torn = ⟨1, "", some ("Error: parse failed\n\nCaused by:\n" ++
        "    0: IO error: Input/output error (os error 5)\n" ++
        "    1: Input/output error (os error 5)\n")⟩ := by
  intro words arguments bytes found torn unit classes document descriptions
  have wellFormed : WellFormed words := by
    refine ⟨by decide, by decide, "a.cpp", by decide, ?_⟩
    rintro word ⟨listed, tells⟩
    revert word
    decide
  have tornWellFormed : WellFormed torn.arguments := by
    refine ⟨by decide, by decide, "--stdin", by decide, ?_⟩
    rintro word ⟨listed, tells⟩
    revert word
    decide
  have accepted : (analyzerOf .standard found (.ofWords words arguments)).refusal? found.frontEnd
      found.files (inputOf found (.ofWords words arguments)) = none := by
    decide +kernel
  have printed : run found =
      ⟨0, document ++ "\n", some (String.join (descriptions.map (· ++ "\n")))⟩ := by
    obtain ⟨loaded, leads, -, reported⟩ := runWith_of_accepted accepted
    obtain rfl : loaded = unit := Option.some.inj (leads.symm.trans (by rfl))
    have distinct : ∀ cursor ∈ classes,
        ((ClassDefinition.fieldCursors cursor.childWalk).map (·.displayName)).Nodup := by
      decide +kernel
    -- The index of the fields cannot be computed here, so that it is kept out of the text.
    have documents : classes.map (fun cursor =>
          Json.write .compact (ClassDefinition.expand cursor).1.toJson) =
        classes.map fun cursor => Json.write .compact (ClassDefinition.documentOf cursor
          ((ClassDefinition.fieldCursors cursor.childWalk).map .ofCursor)) := by
      apply List.map_congr_left
      intro cursor listed
      rw [ClassDefinition.toJson_expand_of_nodup (distinct cursor listed)]
    rw [run, documented_standard.runUsing_eq wellFormed (.inr rfl), reported]
    change Outcome.mk 0 (String.join ((classes.map fun cursor => Json.write .compact
      (ClassDefinition.expand cursor).1.toJson).map (· ++ "\n"))) _ = _
    rw [documents]
    decide +kernel
  refine ⟨?_, printed, ?_⟩
  · obtain ⟨loaded, texts, leads, reported, -, shown⟩ :=
      (run_reports_all_or_nothing .standard documented_standard found words arguments wellFormed
        (.inr rfl)).2 accepted
    obtain rfl : loaded = unit := Option.some.inj (leads.symm.trans (by rfl))
    have shows : List.Forall₂ (fun cursor text =>
        Json.Shows .compact 0 (ClassDefinition.expand cursor).1.toJson text) classes texts := by
      refine shown.imp fun cursor text matched => ?_
      rw [ClassDefinition.toJson_expand]
      exact matched.1
    have stdout := congrArg Outcome.stdout (reported.symm.trans printed)
    have single : classes.length = 1 := by decide +kernel
    obtain ⟨text, rfl⟩ := List.length_eq_one_iff.mp (shows.length_eq.symm.trans single)
    have written : text = document := by
      simpa using stdout
    rwa [written] at shows
  · refine ((run_reports_all_or_nothing .standard documented_standard torn torn.arguments []
      tornWellFormed (.inl ⟨rfl, rfl⟩)).1 (.io "Input/output error (os error 5)") ?_).trans ?_
    · decide +kernel
    · decide +kernel

end CommandLine

end DeclScope
