import DeclScope.Proofs.Analyzer

/-!
# Why an input is refused

An input can be refused for seven causes, and several of them can hold at once.  Here each cause is
stated by itself, as what is wrong and the error that says so, and the causes are listed in the order
in which they are looked for.  The first that holds decides how a parse ends.  Nobody has been called
by then, and every observer is in the state that it was in.

If none of them holds, the input leads to a unit, built from the decoded bytes, and the parse is the
dispatch of the top-level walk of that unit: whatever goes wrong from there on is the failure of an
observer.

What the files hold and which trees the grammars build is left open.
-/

namespace DeclScope

namespace Input

/-- Why the source of an input cannot be read to its end. -/
def readFailure? (files : Files) (input : Input) : Option String :=
  match input.path? with
  | some path =>
    match files path with
    | .unreadable reason => some reason
    | _ => none
  | none => input.stream?.bind (·.failure?)

/-- The name and the bytes that an input leads to. -/
def material? (files : Files) (config : Config) (input : Input) : Option (String × List UInt8) :=
  match input.path? with
  | some path =>
    match files path with
    | .file bytes => some (path, bytes)
    | _ => none
  | none => input.stream?.map fun stream => (config.streamFilename, stream.bytes)

/-- The number of sources of an input that has too many. -/
def excess? (input : Input) : Option Nat :=
  match input.path?, input.stream?, input.text? with
  | some _, some _, some _ => some 3
  | some _, some _, none | some _, none, some _ | none, some _, some _ => some 2
  | _, _, _ => none

/-- The causes for which an input has no source that can be read, in the order in which they are
looked for. -/
def refusals (files : Files) (input : Input) : List (Option Error) :=
  [if input.path? = none ∧ input.stream? = none ∧ input.text? = none then some .noSource else none,
    input.excess?.map .multipleSources,
    input.text?.map fun _ => .unsupportedInput "Parsing from strings",
    (input.path?.filter (files · = .missing)).map .pathNotFound,
    (input.readFailure? files).map .io]

/-- An input has no source if none of the three is given. -/
theorem sourceCount_eq_zero_iff {input : Input} :
    input.sourceCount = 0 ↔ input.path? = none ∧ input.stream? = none ∧ input.text? = none := by
  simp [sourceCount, List.count_eq_zero]

/-- An input has too many sources if these are at least two. -/
theorem excess?_eq (input : Input) :
    input.excess? = if 2 ≤ input.sourceCount then some input.sourceCount else none := by
  obtain ⟨path?, stream?, text?, arguments⟩ := input
  cases path? <;> cases stream? <;> cases text? <;> rfl

/-- The first two causes are about the number of sources. -/
theorem refusals_eq (files : Files) (input : Input) :
    input.refusals files =
      [if input.sourceCount = 0 then some .noSource else none,
        if 2 ≤ input.sourceCount then some (.multipleSources input.sourceCount) else none,
        input.text?.map fun _ => .unsupportedInput "Parsing from strings",
        (input.path?.filter (files · = .missing)).map .pathNotFound,
        (input.readFailure? files).map .io] := by
  simp only [refusals, sourceCount_eq_zero_iff, excess?_eq, apply_ite, Option.map_some,
    Option.map_none]

/-- With exactly one source, one of the three is given and the other two are not. -/
theorem sourceCount_eq_one {input : Input} (single : input.sourceCount = 1) :
    (∃ path, input.path? = some path ∧ input.stream? = none ∧ input.text? = none) ∨
    (∃ stream, input.path? = none ∧ input.stream? = some stream ∧ input.text? = none) ∨
    ∃ text, input.path? = none ∧ input.stream? = none ∧ input.text? = some text := by
  obtain ⟨path?, stream?, text?, arguments⟩ := input
  cases path? <;> cases stream? <;> cases text? <;> simp_all [sourceCount]

/-- Loading looks at the number of sources before it looks at any of them. -/
theorem load_eq (files : Files) (config : Config) (input : Input) :
    (input.load files config).2 =
      if input.sourceCount = 0 then .error .noSource
      else if 2 ≤ input.sourceCount then .error (.multipleSources input.sourceCount)
      else (input.read files config).map fun (filename, bytes) =>
        (filename, ⟨Utf8.decode bytes⟩) := by
  unfold load
  split
  · rename_i absent
    simp [absent]
  · rename_i single
    cases outcome : input.read files config <;> simp [single, Except.map, decode]
  · rename_i notNone notSingle
    have present : input.sourceCount ≠ 0 := notNone
    have notOne : input.sourceCount ≠ 1 := notSingle
    rw [if_neg present, if_pos (by omega)]

/-- The reading of exactly one source fails for the first cause that holds against it, and otherwise
gives what the input leads to. -/
theorem read_of_single {input : Input} (single : input.sourceCount = 1) (files : Files)
    (config : Config) :
    (∃ error, (input.refusals files).findSome? id = some error ∧ error ≠ .noSource ∧
      input.read files config = .error error) ∨
    ∃ material, (input.refusals files).findSome? id = none ∧
      input.material? files config = some material ∧
      input.read files config = .ok material := by
  rcases sourceCount_eq_one single with
    ⟨path, isPath, noStream, noText⟩ | ⟨stream, noPath, isStream, noText⟩ |
    ⟨text, noPath, noStream, isText⟩
  · cases found : files path <;>
      simp [read, refusals_eq, readFailure?, material?, Option.filter_some, single, isPath,
        noStream, noText, found]
  · cases failed : stream.failure? <;>
      simp [read, refusals_eq, readFailure?, material?, single, noPath, isStream, noText, failed]
  · simp [read, refusals_eq, single, isText]

/-- An input is refused for the first cause that holds against it. -/
theorem load_of_refused {input : Input} {files : Files} {error : Error}
    (refused : (input.refusals files).findSome? id = some error) (config : Config) :
    (input.load files config).2 = .error error := by
  rw [load_eq]
  by_cases absent : input.sourceCount = 0
  · rw [if_pos absent]
    simpa [refusals_eq, absent] using refused
  · rw [if_neg absent]
    by_cases several : 2 ≤ input.sourceCount
    · rw [if_pos several]
      simpa [refusals_eq, absent, several] using refused
    · rw [if_neg several]
      have single : input.sourceCount = 1 := by omega
      rcases read_of_single single files config with ⟨cause, first, -, failed⟩ | ⟨_, accepted, _⟩
      · cases refused.symm.trans first
        rw [failed]
        rfl
      · cases refused.symm.trans accepted

/-- An input against which no cause holds leads to a name and bytes, and is loaded as these. -/
theorem load_of_accepted {input : Input} {files : Files}
    (accepted : (input.refusals files).findSome? id = none) (config : Config) :
    ∃ filename bytes, input.material? files config = some (filename, bytes) ∧
      (input.load files config).2 = .ok (filename, ⟨Utf8.decode bytes⟩) := by
  have present : input.sourceCount ≠ 0 := by
    intro absent
    simp [refusals_eq, absent] at accepted
  have few : ¬ 2 ≤ input.sourceCount := by
    intro several
    simp [refusals_eq, several] at accepted
  have single : input.sourceCount = 1 := by omega
  rcases read_of_single single files config with
    ⟨error, first, _⟩ | ⟨⟨filename, bytes⟩, -, leads, given⟩
  · cases accepted.symm.trans first
  · refine ⟨filename, bytes, leads, ?_⟩
    rw [load_eq, if_neg present, if_neg few, given]
    rfl

end Input

namespace TranslationUnit

/-- The unit that the front end makes of a source. -/
def ofSource (frontEnd : FrontEnd) (config : Config) (filename : String) (source : Source)
    (arguments : List String) : TranslationUnit :=
  let language := Language.detect filename arguments config.defaultLanguage
  ⟨filename, language, source, arguments, frontEnd language source⟩

/-- The first syntax error of a unit, where these are not accepted. -/
def rejected? (config : Config) (unit : TranslationUnit) : Option String :=
  if config.rejectSyntaxErrors then unit.syntaxErrors.head? else none

/-- The causes for which a unit is not walked, in the order in which they are looked for. -/
def refusals (config : Config) (unit : TranslationUnit) : List (Option Error) :=
  [(unit.rejected? config).map fun first => .frontEnd unit.filename
      (unit.syntaxErrors.length.repr ++ " syntax errors, first: " ++ first),
    if unit.root.kind = .translationUnit then none
    else some (.frontEnd unit.filename ("root node is " ++ unit.root.kind.text))]

/-- A source becomes its unit, unless syntax errors are not accepted and there are any. -/
theorem parse_eq (frontEnd : FrontEnd) (filename : String) (source : Source)
    (arguments : List String) (config : Config) :
    let unit := ofSource frontEnd config filename source arguments
    (parse frontEnd filename source arguments config).2 =
      match unit.rejected? config with
      | some first => .error (.frontEnd unit.filename
          (unit.syntaxErrors.length.repr ++ " syntax errors, first: " ++ first))
      | none => .ok unit := by
  intro unit
  have sameUnit : unit = ⟨filename, Language.detect filename arguments config.defaultLanguage,
    source, arguments, frontEnd (Language.detect filename arguments config.defaultLanguage)
      source⟩ := rfl
  have sameName : unit.filename = filename := rfl
  unfold parse
  dsimp only
  rw [← sameUnit]
  split
  · rename_i clean
    cases accepts : config.rejectSyntaxErrors <;> simp [rejected?, accepts, clean]
  · rename_i first rest faulty
    cases accepts : config.rejectSyntaxErrors <;> simp [rejected?, accepts, faulty, sameName]

/-- A unit against which no cause holds starts with a translation unit. -/
theorem kind_root_of_accepted {config : Config} {unit : TranslationUnit}
    (accepted : (unit.refusals config).findSome? id = none) :
    unit.root.kind = .translationUnit := by
  by_cases isUnit : unit.root.kind = .translationUnit
  · exact isUnit
  · simp [refusals, isUnit] at accepted

end TranslationUnit

namespace Run

variable {σ : Type}

/-- Two runs that end alike, make the same calls and leave the same states.  They may differ in what
they log. -/
structure Agrees (run other : Run σ) : Prop where
  outcome : run.outcome = other.outcome
  calls : run.calls = other.calls
  store : run.store = other.store

/-- A run agrees with itself. -/
theorem Agrees.refl (run : Run σ) : run.Agrees run := ⟨rfl, rfl, rfl⟩

/-- Agreement goes both ways. -/
theorem Agrees.symm {run other : Run σ} (agrees : run.Agrees other) : other.Agrees run where
  outcome := agrees.outcome.symm
  calls := agrees.calls.symm
  store := agrees.store.symm

/-- Agreement goes on through a third run. -/
theorem Agrees.trans {run other third : Run σ} (first : run.Agrees other)
    (second : other.Agrees third) : run.Agrees third where
  outcome := first.outcome.trans second.outcome
  calls := first.calls.trans second.calls
  store := first.store.trans second.store

/-- Log records in front of a run do not matter. -/
theorem agrees_after (run : Run σ) (logs : List LogRecord) :
    (run.after (logs.map .log)).Agrees run where
  outcome := rfl
  calls := by rw [calls_after, filter_isCall_log, List.nil_append]
  store := rfl

/-- A log record behind a run does not matter, whether or not the run gets that far. -/
theorem agrees_andThen_log (run : Run σ) (record : LogRecord) :
    (run.andThen fun store => (idle store).after [.log record]).Agrees run := by
  obtain ⟨store, events, outcome⟩ := run
  cases outcome with
  | error error => exact ⟨rfl, rfl, rfl⟩
  | ok => exact ⟨rfl, by simp [andThen, after, idle, calls, Event.isCall], rfl⟩

end Run

namespace Analyzer

variable {σ : Type}

/-- The unit that an input leads to, built from the decoded bytes. -/
def unit? (analyzer : Analyzer) (frontEnd : FrontEnd) (files : Files) (input : Input) :
    Option TranslationUnit :=
  (input.material? files analyzer.config).map fun (filename, bytes) =>
    .ofSource frontEnd analyzer.config filename ⟨Utf8.decode bytes⟩ input.arguments

/-- The causes for which an input is refused, in the order in which they are looked for: first those
against its source, then those against its unit. -/
def refusals (analyzer : Analyzer) (frontEnd : FrontEnd) (files : Files) (input : Input) :
    List (Option Error) :=
  input.refusals files ++
    ((analyzer.unit? frontEnd files input).map (·.refusals analyzer.config)).getD []

/-- The first cause that holds against an input. -/
def refusal? (analyzer : Analyzer) (frontEnd : FrontEnd) (files : Files) (input : Input) :
    Option Error :=
  (analyzer.refusals frontEnd files input).findSome? id

/-- The dispatch of the cursors that the top-level walk of a unit visits. -/
def dispatchUnit (analyzer : Analyzer) (behaviour : Behaviour σ) (busy : List ObserverId)
    (unit : TranslationUnit) (store : Store σ) : Run σ :=
  behaviour.dispatchAll busy analyzer.registry (unit.cursor.toplevelWalk.map (·.1)) store

variable {analyzer : Analyzer} {behaviour : Behaviour σ} {busy : List ObserverId}
  {frontEnd : FrontEnd} {store : Store σ}

/-- A translation unit is dispatched. -/
theorem parseUnit_agrees {unit : TranslationUnit} (isUnit : unit.root.kind = .translationUnit) :
    (analyzer.parseUnit behaviour busy unit store).Agrees
      (analyzer.dispatchUnit behaviour busy unit store) := by
  rw [parseUnit, if_pos ((kind_cursor_iff unit).mpr isUnit)]
  exact (Run.agrees_after _ [_]).trans (Run.agrees_andThen_log _ _)

/-- A source that does not become a unit ends the parse. -/
theorem parseSource_of_error {filename : String} {source : Source} {arguments : List String}
    {error : Error}
    (failed : (TranslationUnit.parse frontEnd filename source arguments analyzer.config).2 =
      .error error) :
    (analyzer.parseSource behaviour frontEnd busy filename source arguments store).Agrees
      (.fail store error) := by
  unfold parseSource
  dsimp only
  rw [failed]
  exact Run.agrees_after _ _

/-- A source that becomes a unit is parsed as that unit. -/
theorem parseSource_of_ok {filename : String} {source : Source} {arguments : List String}
    {unit : TranslationUnit}
    (built : (TranslationUnit.parse frontEnd filename source arguments analyzer.config).2 =
      .ok unit) :
    (analyzer.parseSource behaviour frontEnd busy filename source arguments store).Agrees
      (analyzer.parseUnit behaviour busy unit store) := by
  unfold parseSource
  dsimp only
  rw [built]
  exact Run.agrees_after _ _

/-- A source ends the parse with the first cause that holds against its unit, and is dispatched if
there is none. -/
theorem parseSource_agrees (filename : String) (source : Source) (arguments : List String) :
    let unit := TranslationUnit.ofSource frontEnd analyzer.config filename source arguments
    (analyzer.parseSource behaviour frontEnd busy filename source arguments store).Agrees
      (match (unit.refusals analyzer.config).findSome? id with
        | some error => .fail store error
        | none => analyzer.dispatchUnit behaviour busy unit store) := by
  intro unit
  have parsed := TranslationUnit.parse_eq frontEnd filename source arguments analyzer.config
  cases faulty : unit.rejected? analyzer.config with
  | some first =>
    simp only [TranslationUnit.refusals, faulty, Option.map_some, List.findSome?_cons, id_eq]
    apply parseSource_of_error
    rw [parsed, faulty]
  | none =>
    have built : (TranslationUnit.parse frontEnd filename source arguments analyzer.config).2 =
        .ok unit := by
      rw [parsed, faulty]
    apply (parseSource_of_ok built).trans
    by_cases isUnit : unit.root.kind = .translationUnit
    · simpa [TranslationUnit.refusals, faulty, isUnit] using parseUnit_agrees isUnit
    · rw [parseUnit_of_other_root isUnit]
      simpa [TranslationUnit.refusals, faulty, isUnit] using Run.Agrees.refl _

/-- An input whose source can be read leads to a unit.  What holds against the input is what holds
against the unit, and the parse goes on with this one. -/
theorem parse_of_readable {files : Files} {input : Input}
    (readable : (input.refusals files).findSome? id = none) :
    ∃ unit, analyzer.unit? frontEnd files input = some unit ∧
      analyzer.refusal? frontEnd files input = (unit.refusals analyzer.config).findSome? id ∧
      (analyzer.parse behaviour frontEnd files busy input store).Agrees
        (match (unit.refusals analyzer.config).findSome? id with
          | some error => .fail store error
          | none => analyzer.dispatchUnit behaviour busy unit store) := by
  obtain ⟨filename, bytes, leads, loaded⟩ := Input.load_of_accepted readable analyzer.config
  refine ⟨.ofSource frontEnd analyzer.config filename ⟨Utf8.decode bytes⟩ input.arguments,
    by simp [unit?, leads],
    by simp [refusal?, refusals, List.findSome?_append, readable, unit?, leads], ?_⟩
  unfold parse
  dsimp only
  rw [loaded]
  exact (Run.agrees_after _ _).trans (parseSource_agrees filename _ input.arguments)

/-- The parse of an input that is refused fails with the first cause, and does nothing else. -/
theorem parse_of_refused {files : Files} {input : Input} {error : Error}
    (refused : analyzer.refusal? frontEnd files input = some error) :
    (analyzer.parse behaviour frontEnd files busy input store).Agrees (.fail store error) := by
  cases atSource : (input.refusals files).findSome? id with
  | some first =>
    have same : first = error := by
      simpa [refusal?, refusals, List.findSome?_append, atSource] using refused
    unfold parse
    dsimp only
    rw [Input.load_of_refused atSource, same]
    exact Run.agrees_after _ _
  | none =>
    obtain ⟨unit, -, sameCauses, agrees⟩ := parse_of_readable atSource
    rwa [← sameCauses, refused] at agrees

/-- The parse of an input that is not refused is the dispatch of the unit that it leads to. -/
theorem parse_of_accepted {files : Files} {input : Input}
    (accepted : analyzer.refusal? frontEnd files input = none) :
    ∃ unit, analyzer.unit? frontEnd files input = some unit ∧
      (unit.refusals analyzer.config).findSome? id = none ∧
      (analyzer.parse behaviour frontEnd files busy input store).Agrees
        (analyzer.dispatchUnit behaviour busy unit store) := by
  have readable : (input.refusals files).findSome? id = none := by
    rw [refusal?, refusals, List.findSome?_append, Option.or_eq_none_iff] at accepted
    exact accepted.1
  obtain ⟨unit, leads, sameCauses, agrees⟩ := parse_of_readable readable
  rw [← sameCauses, accepted] at agrees
  exact ⟨unit, leads, sameCauses.symm.trans accepted, agrees⟩

/-- How a parse ends, whoever observes it and whoever of them is in use.

If a cause holds against the input, the first one decides: the parse fails with its error, nobody is
called, and every state is the one from before.  If none holds, the input leads to a unit, and how
the parse ends, the calls that it makes and the states that it leaves are those of the dispatch of
this unit.  An input with exactly one source is never taken to have none. -/
theorem parse_decides (analyzer : Analyzer) (behaviour : Behaviour σ) (frontEnd : FrontEnd)
    (files : Files) (busy : List ObserverId) (input : Input) (store : Store σ) :
    let run := analyzer.parse behaviour frontEnd files busy input store
    (∀ error, analyzer.refusal? frontEnd files input = some error →
      run.outcome = .error error ∧ run.calls = [] ∧ run.store = store) ∧
    (analyzer.refusal? frontEnd files input = none →
      ∃ unit, analyzer.unit? frontEnd files input = some unit ∧
        let dispatch := behaviour.dispatchAll busy analyzer.registry
          (unit.cursor.toplevelWalk.map (·.1)) store
        run.outcome = dispatch.outcome ∧ run.calls = dispatch.calls ∧
          run.store = dispatch.store) ∧
    (input.sourceCount = 1 → input.read files analyzer.config ≠ .error .noSource) := by
  refine ⟨?_, ?_, ?_⟩
  · intro error refused
    obtain ⟨ended, made, left⟩ := parse_of_refused refused
    exact ⟨ended, made, left⟩
  · intro accepted
    obtain ⟨unit, leads, -, ended, made, left⟩ := parse_of_accepted accepted
    exact ⟨unit, leads, ended, made, left⟩
  · intro single taken
    rcases Input.read_of_single single files analyzer.config with
      ⟨error, -, other, failed⟩ | ⟨material, -, -, given⟩
    · cases failed.symm.trans taken
      exact other rfl
    · cases given.symm.trans taken

/-- A file is dispatched to one who counts cursors.  The same file together with text is refused,
and nothing has been counted. -/
theorem parse_decides_nested :
    let bytes := TranslationUnit.nested.source.chars.map fun c => c.toNat.toUInt8
    let files : Files := fun path => if path = "nested.cpp" then .file bytes else .missing
    let analyzer : Analyzer := ⟨{}, ⟨[.expander, .observer "counter"], []⟩⟩
    let store : Store Instrument := ⟨.inert, [("counter", .tally true 0)]⟩
    let parse (input : Input) := analyzer.parse Instrument.behaviour
      (fun _ _ => TranslationUnit.nested.tree) files [] input store
    let file : Input := { path? := some "nested.cpp", arguments := ["-x", "c++"] }
    let both : Input := { file with text? := some "int x;" }
    ((parse file).outcome.isOk ∧ (parse file).calls.length = 10 ∧
        (parse file).store.get "counter" matches .tally true 8) ∧
      (parse both).outcome = .error (.multipleSources 2) ∧ (parse both).calls = [] ∧
      (parse both).store = store := by
  intro bytes files analyzer store parse file both
  have decides (input : Input) := parse_decides analyzer Instrument.behaviour
    (fun _ _ => TranslationUnit.nested.tree) files [] input store
  constructor
  · obtain ⟨unit, leads, ended, made, left⟩ := (decides file).2.1 (by decide +kernel)
    have same : unit = { TranslationUnit.nested with arguments := ["-x", "c++"] } :=
      Option.some.inj (leads.symm.trans (by rfl))
    subst same
    dsimp only [parse]
    rw [ended, made, left]
    decide +kernel
  · exact (decides both).1 _ (by decide +kernel)

/-- Three causes hold against a missing file that is given together with text: the number of sources
decides. -/
example (analyzer : Analyzer) (frontEnd : FrontEnd) :
    let input : Input := { path? := some "gone.c", text? := some "int x;" }
    input.refusals (fun _ => .missing) =
        [none, some (.multipleSources 2), some (.unsupportedInput "Parsing from strings"),
          some (.pathNotFound "gone.c"), none] ∧
      analyzer.refusal? frontEnd (fun _ => .missing) input = some (.multipleSources 2) :=
  ⟨by decide, rfl⟩

end Analyzer

end DeclScope
