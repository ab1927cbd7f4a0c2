import DeclScope.Observer.Instrument
import DeclScope.Proofs.Observer.Schedule

/-!
# What the ready-made observers never do

Of the ready-made observers only an expander and a probe that echoes announce classes of their own.
Only a dumper, whose sink may be full, and a probe that is told to fail do fail.  Who takes class
definitions keeps doing so.  None of this changes with the calls that an observer has handled, so
it holds in whatever state the observer comes to.
-/

namespace DeclScope.Instrument

/-- Whether an instrument announces nothing of its own. -/
def isSilent : Instrument → Bool
  | expander => false
  | probe script _ => !script.echoes
  | _ => true

/-- Whether an instrument has nothing to fail on.  A dumper is left out, although it does not fail
while its sink has room. -/
def isSteady : Instrument → Bool
  | dumper .. => false
  | probe script _ => script.failsAt?.isNone
  | _ => true

/-- Two states of which the same can be said. -/
def Alike (first second : Instrument) : Prop :=
  first.isSilent = second.isSilent ∧ first.isSteady = second.isSteady ∧
    first.takesClasses = second.takesClasses

/-- After a cursor the same can be said of an instrument. -/
theorem alike_onCursor (instrument : Instrument) (cursor : Cursor) :
    Alike (instrument.onCursor cursor).state instrument := by
  cases instrument with
  | dumper filter sink dumped =>
    unfold onCursor
    dsimp only
    split <;> exact ⟨rfl, rfl, rfl⟩
  | _ => exact ⟨rfl, rfl, rfl⟩

/-- After a class definition the same can be said of an instrument. -/
theorem alike_onClass (instrument : Instrument) (definition : ClassDefinition) :
    Alike (instrument.onClass definition).1 instrument := by
  cases instrument <;> exact ⟨rfl, rfl, rfl⟩

/-- A silent instrument announces nothing of its own on the next cursor. -/
theorem silent_of_isSilent {instrument : Instrument} (silent : instrument.isSilent = true) :
    behaviour.Silent instrument := by
  intro cursor definition
  show (instrument.onCursor cursor).conclusion ≠ _
  cases instrument with
  | dumper filter sink dumped =>
    unfold onCursor
    dsimp only
    split <;> exact Conclusion.noConfusion
  | expander => cases silent
  | probe script calls =>
    have quiet : script.echoes = false := by simpa [isSilent] using silent
    simp only [onCursor, quiet]
    split <;> exact Conclusion.noConfusion
  | _ => exact Conclusion.noConfusion

/-- A steady instrument does not fail on the next call. -/
theorem steady_of_isSteady {instrument : Instrument} (steady : instrument.isSteady = true) :
    behaviour.Steady instrument := by
  refine ⟨?_, ?_⟩
  · intro cursor
    show (instrument.onCursor cursor).conclusion.failure? = none
    cases instrument with
    | dumper filter sink dumped => cases steady
    | expander =>
      by_cases defines : cursor.isDefinition = true
      · simp [onCursor, Expander.react, defines, Conclusion.failure?]
      · simp [onCursor, Expander.react, defines, Conclusion.failure?]
    | probe script calls =>
      have never : script.failsAt? = none := Option.isNone_iff_eq_none.mp steady
      by_cases echoes : script.echoes = true
      · simp [onCursor, never, echoes, Conclusion.failure?]
      · simp [onCursor, never, echoes, Conclusion.failure?]
    | _ => rfl
  · intro definition
    show (instrument.onClass definition).2 = none
    cases instrument with
    | probe script calls =>
      have never : script.failsAt? = none := Option.isNone_iff_eq_none.mp steady
      simp [onClass, never]
    | _ => rfl

/-- What follows from a quality that like states share always holds. -/
theorem always_of_alike {property : Instrument → Prop} (quality : Instrument → Bool)
    (shared : ∀ {first second : Instrument}, Alike first second → quality first = quality second)
    (enough : ∀ {instrument : Instrument}, quality instrument = true → property instrument)
    {instrument : Instrument} (holds : quality instrument = true) :
    behaviour.Always property instrument := by
  refine Behaviour.Always.of_invariant (quality · = true) holds ?_ ?_ fun _ => enough
  · intro state cursor kept
    exact (shared (alike_onCursor state cursor)).trans kept
  · intro state definition kept
    exact (shared (alike_onClass state definition)).trans kept

/-- In whatever state it comes to, a silent instrument announces nothing of its own. -/
theorem always_silent {instrument : Instrument} (silent : instrument.isSilent = true) :
    behaviour.Always behaviour.Silent instrument :=
  always_of_alike isSilent (fun alike => alike.1) silent_of_isSilent silent

/-- In whatever state it comes to, a steady instrument does not fail. -/
theorem always_steady {instrument : Instrument} (steady : instrument.isSteady = true) :
    behaviour.Always behaviour.Steady instrument :=
  always_of_alike isSteady (fun alike => alike.2.1) steady_of_isSteady steady

/-- In whatever state it comes to, an instrument that takes class definitions takes them. -/
theorem always_takesClasses {instrument : Instrument} (takes : instrument.takesClasses = true) :
    behaviour.Always (behaviour.takesClasses · = true) instrument :=
  always_of_alike takesClasses (fun alike => alike.2.2) id takes

end DeclScope.Instrument
