import DeclScope.Proofs.Observer.Dispatch
import DeclScope.Proofs.Observer.Instrument
import DeclScope.Proofs.Scope.Containment

/-!
# The calls of a parse

A parse looks at the root of the tree first.  If that is a translation unit, the parse follows the
schedule of the top-level walk: it ends well exactly if no intended call fails, and has then made
all of them, in order; otherwise it has made those up to and including the first that fails, and
ends with the error of that one.  If the root is anything else, nobody is called and the parse ends
with an error of the front end, whatever the observers would have done.

The result is about observers that nobody else is using and that leave announcements to the
expander.  What a parse does when observers announce classes of their own is not covered.
-/

namespace DeclScope

/-- The unit of `long long`, a source that the grammar cannot read as a translation unit. -/
def TranslationUnit.fragment : TranslationUnit where
  filename := "r.cpp"
  language := .cpp
  source := .ofString "long long"
  arguments := []
  tree := .node ⟨.error, none, 0, 9, true, false, true⟩
    [.named .sizedType none 0 9 [.token "long" 0, .token "long" 5]]

namespace Behaviour

variable {σ : Type} {behaviour : Behaviour σ} {turns : List Turn} {store : Store σ} {run : Run σ}

/-- A run that follows turns ends well exactly if none of their calls fails. -/
theorem Follows.outcome_eq_ok_iff (follows : behaviour.Follows turns store run) :
    run.outcome = .ok () ↔ ∀ call ∈ behaviour.intended turns store, call.failure? = none := by
  cases follows with
  | completed calm made ended left => exact ⟨fun _ => calm, fun _ => ended⟩
  | aborted earlier later call failure split calm failed made ended =>
    constructor
    · intro succeeded
      cases ended.symm.trans succeeded
    · intro allCalm
      have among : call ∈ behaviour.intended turns store := by
        rw [split]
        exact List.mem_append_right earlier List.mem_cons_self
      cases failed.symm.trans (allCalm call among)

/-- A run that follows turns and ends well has made all their calls. -/
theorem Follows.calls_eq_of_ok (follows : behaviour.Follows turns store run)
    (succeeded : run.outcome = .ok ()) :
    run.calls = (behaviour.intended turns store).map (·.event) := by
  cases follows with
  | completed calm made ended left => exact made
  | aborted earlier later call failure split calm failed made ended =>
    cases ended.symm.trans succeeded

end Behaviour

namespace Analyzer

variable {σ : Type}

/-- A unit that can be walked starts with a translation unit. -/
theorem kind_cursor_iff (unit : TranslationUnit) :
    unit.cursor.kind = .translationUnit ↔ unit.root.kind = .translationUnit := by
  refine (Item.kind_scope unit.cursor.toItem).1.trans ⟨?_, ?_⟩
  · intro isUnit
    exact isUnit.2
  · intro isUnit
    exact ⟨rfl, isUnit⟩

/-- A unit with any other root is refused before anybody is called. -/
theorem parseUnit_of_other_root {analyzer : Analyzer} {behaviour : Behaviour σ}
    {unit : TranslationUnit} {store : Store σ} (other : unit.root.kind ≠ .translationUnit)
    (busy : List ObserverId) :
    analyzer.parseUnit behaviour busy unit store =
      .fail store (.frontEnd unit.filename ("root node is " ++ unit.root.kind.text)) :=
  if_neg fun isUnit => other ((kind_cursor_iff unit).mp isUnit)

/-- The parse of a translation unit follows the schedule of the top-level walk. -/
theorem parseUnit_follows {analyzer : Analyzer} {behaviour : Behaviour σ} {unit : TranslationUnit}
    {store : Store σ} (isUnit : unit.root.kind = .translationUnit)
    (silent : ∀ id, .observer id ∈ analyzer.registry.cursorList →
      behaviour.Always behaviour.Silent (store.get id)) :
    behaviour.Follows (analyzer.registry.schedule (unit.cursor.toplevelWalk.map (·.1))) store
      (analyzer.parseUnit behaviour [] unit store) := by
  rw [parseUnit, if_pos ((kind_cursor_iff unit).mpr isUnit)]
  apply Behaviour.Follows.after ?_ rfl
  -- The closing log record is a run of its own, on no turns.
  rw [← List.append_nil (analyzer.registry.schedule _)]
  apply Behaviour.Follows.andThen
  · exact Behaviour.dispatchAll_follows analyzer.registry _ silent
  · exact (Behaviour.follows_idle _).after rfl

/-- The calls of a parse, and how it ends.

On a translation unit it ends well exactly if no intended call fails, and then all intended calls
were made.  Otherwise the calls up to and including the first that fails were made.  An error of
this library comes out of that call as it is, whatever contexts were put around it, and anything
else comes out as an observer's report.  On any other root no call is made. -/
theorem parseUnit_calls (analyzer : Analyzer) (behaviour : Behaviour σ) (unit : TranslationUnit)
    (store : Store σ)
    (silent : ∀ id, .observer id ∈ analyzer.registry.cursorList →
      behaviour.Always behaviour.Silent (store.get id)) :
    let run := analyzer.parseUnit behaviour [] unit store
    let intended := behaviour.intended
      (analyzer.registry.schedule (unit.cursor.toplevelWalk.map (·.1))) store
    (unit.root.kind = .translationUnit →
      (run.outcome = .ok () ↔ ∀ call ∈ intended, call.failure? = none) ∧
      (run.outcome = .ok () → run.calls = intended.map (·.event)) ∧
      (run.outcome ≠ .ok () → ∃ earlier call later failure,
        intended = earlier ++ call :: later ∧
        (∀ other ∈ earlier, other.failure? = none) ∧
        call.failure? = some failure ∧
        run.calls = (earlier ++ [call]).map (·.event) ∧
        (∀ error contexts, failure = .known error contexts → run.outcome = .error error) ∧
        (∀ report, failure = .foreign report → run.outcome = .error (.observer report)))) ∧
    (unit.root.kind ≠ .translationUnit →
      run.calls = [] ∧
      run.outcome = .error (.frontEnd unit.filename ("root node is " ++ unit.root.kind.text))) := by
  intro run intended
  refine ⟨?_, ?_⟩
  · intro isUnit
    have follows := parseUnit_follows isUnit silent
    refine ⟨follows.outcome_eq_ok_iff, follows.calls_eq_of_ok, ?_⟩
    intro stopped
    cases follows with
    | completed calm made ended left => exact absurd ended stopped
    | aborted earlier later call failure split calm failed made ended =>
      refine ⟨earlier, call, later, failure, split, calm, failed, made, ?_, ?_⟩
      · rintro error contexts rfl
        exact ended
      · rintro report rfl
        exact ended
  · intro other
    have refused : run =
        .fail store (.frontEnd unit.filename ("root node is " ++ unit.root.kind.text)) :=
      if_neg fun isUnit => other ((kind_cursor_iff unit).mp isUnit)
    rw [refused]
    exact ⟨rfl, rfl⟩

/-- A probe gets every cursor of the nested unit until the first class is delivered, to another that
fails on it.  The error that this one wrapped comes out as it is. -/
theorem parseUnit_calls_nested :
    let analyzer : Analyzer := { registry := ⟨[.expander, .observer "p"], ["q"]⟩ }
    let failing : ProbeScript := {
      takesClasses := true
      failsAt? := some 1
      failure := .known (.io "disk full") ["writing"] }
    let store : Store Instrument :=
      ⟨.inert, [("p", .probe { takesCursors := true } 0), ("q", .probe failing 0)]⟩
    let run := analyzer.parseUnit Instrument.behaviour [] .nested store
    let intended := Instrument.behaviour.intended
      (analyzer.registry.schedule (TranslationUnit.nested.cursor.toplevelWalk.map (·.1))) store
    (∀ id, .observer id ∈ analyzer.registry.cursorList →
      Instrument.behaviour.Always Instrument.behaviour.Silent (store.get id)) ∧
    (run.calls.length, intended.length) = (5, 11) ∧
    (match run.outcome with
      | .ok () => none
      | .error error => some error) = some (.io "disk full") ∧
    (run.outcome = .ok () ↔ ∀ call ∈ intended, call.failure? = none) := by
  intro analyzer failing store run intended
  have silent : ∀ id, .observer id ∈ analyzer.registry.cursorList →
      Instrument.behaviour.Always Instrument.behaviour.Silent (store.get id) := by
    intro id listed
    have same : id = "p" := by simpa [analyzer] using listed
    subst same
    exact Instrument.always_silent rfl
  refine ⟨silent, by decide +kernel, by decide +kernel, ?_⟩
  exact ((parseUnit_calls analyzer Instrument.behaviour .nested store silent).1 rfl).1

/-- On a source that is no translation unit a parse fails although no intended call does. -/
theorem parseUnit_fragment_fails :
    let analyzer : Analyzer := { registry := ⟨[.expander, .observer "p"], []⟩ }
    let store : Store Instrument := ⟨.inert, [("p", .probe { takesCursors := true } 0)]⟩
    let run := analyzer.parseUnit Instrument.behaviour [] .fragment store
    let intended := Instrument.behaviour.intended
      (analyzer.registry.schedule (TranslationUnit.fragment.cursor.toplevelWalk.map (·.1))) store
    (∀ id, .observer id ∈ analyzer.registry.cursorList →
      Instrument.behaviour.Always Instrument.behaviour.Silent (store.get id)) ∧
    ¬ (run.outcome = .ok () ↔ ∀ call ∈ intended, call.failure? = none) := by
  intro analyzer store run intended
  refine ⟨?_, ?_⟩
  · intro id listed
    have same : id = "p" := by simpa [analyzer] using listed
    subst same
    exact Instrument.always_silent rfl
  · intro equivalent
    have calm : ∀ call ∈ intended, call.failure? = none := by decide +kernel
    cases equivalent.mpr calm

end Analyzer

end DeclScope
