import DeclScope.Proofs.Observer.Busy
import Mathlib.Data.List.Count

/-!
# What one observer sees of a parse

A dispatch interleaves the calls of all observers.  Seen from one of them it is a run of its own: a
turn of somebody else changes neither its state nor what it is called for, and what comes of its own
turns depends on its own state only.  So the turns of one observer can be taken out of the schedule
and followed alone.

Those turns are fixed by the cursors of the walk and by how often the observer stands in each list.
Since the expander comes first, the class that a cursor defines reaches an observer before the
cursor does, wherever the observer stands in either list.  Two parses of one unit are therefore the
same to an observer that starts in the same state, whoever else is subscribed, and in whatever order.

The other observers are taken not to fail, for the first failure ends a parse for everybody, and to
leave announcements to the expander, for what one of them announces reaches the others.
-/

namespace DeclScope

/-- What a run hands to an observer, in order. -/
def Run.received {σ : Type} (run : Run σ) (id : ObserverId) : List Event :=
  run.events.filter (·.observer? == some id)

/-- What an observer is handed are calls. -/
theorem Run.received_eq {σ : Type} (run : Run σ) (id : ObserverId) :
    run.received id = run.calls.filter (·.observer? == some id) := by
  rw [received, calls, List.filter_filter]
  apply List.filter_congr
  intro event _
  cases event <;> simp [Event.isCall, Event.observer?]

namespace Turn

/-- The turns of an observer that stands so many times among those who take definitions and so many
times among those who get cursors: for each cursor the class that it defines, and then the cursor. -/
def allOf (id : ObserverId) (onClasses onCursors : Nat) (cursors : List Cursor) : List Turn :=
  cursors.flatMap fun cursor =>
    (if Expander.announces cursor then
      List.replicate onClasses (.definition id (ClassDefinition.expand cursor).1)
    else []) ++ List.replicate onCursors (.cursor (.observer id) cursor)

/-- All of them are turns of that observer. -/
theorem observer?_of_mem_allOf {id : ObserverId} {onClasses onCursors : Nat}
    {cursors : List Cursor} {turn : Turn} (mem : turn ∈ allOf id onClasses onCursors cursors) :
    turn.observer? = some id := by
  obtain ⟨cursor, -, here⟩ := List.mem_flatMap.mp mem
  rcases List.mem_append.mp here with delivery | visit
  · split at delivery
    · rw [List.eq_of_mem_replicate delivery]
      rfl
    · cases delivery
  · rw [List.eq_of_mem_replicate visit]
    rfl

end Turn

namespace Registry

/-- The turns of one observer when definitions go out: as many as it stands in the list. -/
theorem filter_deliveries (ids : List ObserverId) (id : ObserverId)
    (definition : ClassDefinition) :
    (ids.map (Turn.definition · definition)).filter (·.observer? == some id) =
      List.replicate (ids.count id) (.definition id definition) := by
  have own : (fun turn : Turn => turn.observer? == some id) ∘ (Turn.definition · definition) =
      (· == id) := by
    funext other
    simp [Turn.observer?]
  rw [List.filter_map, own, List.filter_beq, List.map_replicate]

/-- The turns of one observer among those who get a cursor: as many as it stands in the list. -/
theorem filter_turnsOf_observers (classList observers : List ObserverId) (id : ObserverId)
    (cursor : Cursor) :
    ((observers.map Subscriber.observer).flatMap (turnsOf classList cursor)).filter
        (·.observer? == some id) =
      List.replicate (observers.count id) (.cursor (.observer id) cursor) := by
  induction observers with
  | nil => rfl
  | cons other rest inductionHypothesis =>
    rw [List.map_cons, List.flatMap_cons, List.filter_append, inductionHypothesis]
    by_cases same : other = id
    · subst same
      simp [turnsOf, Turn.observer?, List.replicate_succ]
    · simp [turnsOf, Turn.observer?, same]

/-- An observer stands among the subscribers as often as among the observers behind the
expander. -/
theorem count_expanderFirst (observers : List ObserverId) (id : ObserverId) :
    (expanderFirst observers).count (.observer id) = observers.count id := by
  have distinct : Function.Injective Subscriber.observer := fun _ _ => Subscriber.observer.inj
  rw [expanderFirst, List.count_cons_of_ne Subscriber.noConfusion,
    List.count_map_of_injective _ _ distinct]

/-- The turns of one observer in a schedule, when the expander is in front of all observers. -/
theorem filter_schedule {registry : Registry} (built : registry.Built) (cursors : List Cursor)
    (id : ObserverId) :
    (registry.schedule cursors).filter (·.observer? == some id) =
      Turn.allOf id (registry.classList.count id) (registry.cursorList.count (.observer id))
        cursors := by
  obtain ⟨observers, first⟩ := built.cursorList_eq
  rw [schedule, first, count_expanderFirst, Turn.allOf, List.filter_flatMap]
  apply List.flatMap_congr
  intro cursor _
  rw [expanderFirst, List.flatMap_cons, List.filter_append, filter_turnsOf_observers, turnsOf,
    List.filter_cons_of_neg (by simp [Turn.observer?])]
  split
  · rw [filter_deliveries]
  · rfl

end Registry

namespace Behaviour

variable {σ : Type} (behaviour : Behaviour σ) {id : ObserverId}

/-- A turn of somebody else leaves the state of an observer alone, and does not call it. -/
theorem take_of_other {turn : Turn} (other : turn.observer? ≠ some id) (store : Store σ) :
    (behaviour.take store turn).2.get id = store.get id ∧
      ∀ call ∈ (behaviour.take store turn).1, call.event.observer? ≠ some id := by
  constructor
  · match turn with
    | .cursor .expander cursor => rfl
    | .cursor (.observer owner) cursor | .definition owner definition =>
      have differs : owner ≠ id := by simpa [Turn.observer?] using other
      unfold Behaviour.take
      dsimp only
      split <;> simp [differs]
  · intro call made
    rw [(event_of_take made).2]
    exact other

/-- What comes of the turn of an observer depends on its own state only. -/
theorem take_of_own {first second : Store σ} {turn : Turn} (own : turn.observer? = some id)
    (same : first.get id = second.get id) :
    (behaviour.take first turn).1 = (behaviour.take second turn).1 ∧
      (behaviour.take first turn).2.get id = (behaviour.take second turn).2.get id := by
  match turn with
  | .cursor .expander cursor => cases own
  | .cursor (.observer owner) cursor | .definition owner definition =>
    obtain rfl : owner = id := Option.some.inj own
    simp only [Behaviour.take, same]
    split <;> simp [same]

/-- What comes of all turns of an observer depends on its own state only. -/
theorem intended_of_own {turns : List Turn} (own : ∀ turn ∈ turns, turn.observer? = some id)
    {first second : Store σ} (same : first.get id = second.get id) :
    behaviour.intended turns first = behaviour.intended turns second ∧
      (behaviour.afterTurns turns first).get id = (behaviour.afterTurns turns second).get id := by
  induction turns generalizing first second with
  | nil => exact ⟨rfl, same⟩
  | cons turn rest inductionHypothesis =>
    obtain ⟨sameCall, sameNext⟩ := take_of_own behaviour (own turn List.mem_cons_self) same
    obtain ⟨sameCalls, sameEnd⟩ := inductionHypothesis
      (fun later listed => own later (List.mem_cons_of_mem turn listed)) sameNext
    exact ⟨by rw [intended, intended, sameCall, sameCalls], sameEnd⟩

/-- An observer is called as if its own turns were the only ones, and comes to the same state.

A turn of somebody else can be left out: it changes the store, but not the state that the own turns
depend on. -/
theorem intended_filter (turns : List Turn) (store : Store σ) (id : ObserverId) :
    let own := turns.filter (·.observer? == some id)
    (behaviour.intended turns store).filter (·.event.observer? == some id) =
        behaviour.intended own store ∧
      (behaviour.afterTurns turns store).get id = (behaviour.afterTurns own store).get id := by
  induction turns generalizing store with
  | nil => exact ⟨rfl, rfl⟩
  | cons turn rest inductionHypothesis =>
    obtain ⟨calls, left⟩ := inductionHypothesis (behaviour.take store turn).2
    rw [intended, List.filter_append, calls]
    by_cases own : turn.observer? = some id
    · have kept : (behaviour.take store turn).1.toList.filter (·.event.observer? == some id) =
          (behaviour.take store turn).1.toList := by
        rw [List.filter_eq_self]
        intro call mem
        rw [(event_of_take (Option.mem_toList.mp mem)).2, own]
        exact beq_self_eq_true _
      rw [kept, List.filter_cons_of_pos (by simp [own])]
      exact ⟨rfl, left⟩
    · obtain ⟨unchanged, uncalled⟩ := take_of_other behaviour own store
      have dropped :
          (behaviour.take store turn).1.toList.filter (·.event.observer? == some id) = [] := by
        rw [List.filter_eq_nil_iff]
        intro call mem
        simpa using uncalled call (Option.mem_toList.mp mem)
      have owned : ∀ later ∈ rest.filter (·.observer? == some id), later.observer? = some id := by
        intro later listed
        simpa using (List.mem_filter.mp listed).2
      obtain ⟨sameCalls, sameEnd⟩ := intended_of_own behaviour owned unchanged
      rw [dropped, List.filter_cons_of_neg (by simp [own]), List.nil_append]
      exact ⟨sameCalls, left.trans sameEnd⟩

variable {behaviour}

/-- The turn of an observer that does not fail leads to no failing call. -/
theorem calm_of_take {store : Store σ} {turn : Turn} {call : Call}
    (sound : ∀ id ∈ turn.observer?, behaviour.Sound (store.get id))
    (made : (behaviour.take store turn).1 = some call) : call.failure? = none := by
  match turn, sound, made with
  | .cursor .expander cursor, _, made =>
    unfold Behaviour.take at made
    dsimp only at made
    split at made
    · cases made
      rfl
    · cases made
  | .cursor (.observer id) cursor, sound, made =>
    unfold Behaviour.take at made
    dsimp only at made
    split at made
    · rename_i asked
      cases made
      exact (sound id rfl).1 cursor asked
    · cases made
  | .definition id definition, sound, made =>
    unfold Behaviour.take at made
    dsimp only at made
    split at made
    · rename_i takes
      cases made
      exact (sound id rfl).2 takes definition
    · cases made

/-- No intended call of observers that never fail is a failing one. -/
theorem calm_of_sound {turns : List Turn} {store : Store σ}
    (sound : ∀ turn ∈ turns, ∀ id ∈ turn.observer?,
      behaviour.Always behaviour.Sound (store.get id)) :
    ∀ call ∈ behaviour.intended turns store, call.failure? = none := by
  induction turns generalizing store with
  | nil => simp [intended]
  | cons turn rest inductionHypothesis =>
    intro call mem
    rcases List.mem_append.mp mem with here | later
    · refine calm_of_take ?_ (Option.mem_toList.mp here)
      intro id itsTurn
      exact (sound turn List.mem_cons_self id itsTurn).now
    · refine inductionHypothesis ?_ call later
      intro other listed id itsTurn
      exact (sound other (List.mem_cons_of_mem turn listed) id itsTurn).take turn

end Behaviour

namespace Registry

variable {σ : Type}

/-- The subscribed observers never fail and leave announcements to the expander, in whatever states
they come to. -/
structure Harmless (registry : Registry) (behaviour : Behaviour σ) (store : Store σ) : Prop where
  silent : ∀ id, .observer id ∈ registry.cursorList →
    behaviour.Always behaviour.Silent (store.get id)
  sound : ∀ id, .observer id ∈ registry.cursorList ∨ id ∈ registry.classList →
    behaviour.Always behaviour.Sound (store.get id)

/-- A turn of a schedule is one of the expander or of a subscribed observer. -/
theorem subscribed_of_mem_schedule {registry : Registry} {cursors : List Cursor} {turn : Turn}
    (mem : turn ∈ registry.schedule cursors) {id : ObserverId} (itsTurn : id ∈ turn.observer?) :
    .observer id ∈ registry.cursorList ∨ id ∈ registry.classList := by
  obtain ⟨cursor, -, among⟩ := List.mem_flatMap.mp mem
  obtain ⟨subscriber, subscribed, here⟩ := List.mem_flatMap.mp among
  cases subscriber with
  | observer owner =>
    cases List.mem_singleton.mp here
    cases itsTurn
    exact .inl subscribed
  | expander =>
    rcases List.mem_cons.mp here with rfl | behind
    · cases itsTurn
    · split at behind
      · obtain ⟨owner, takes, rfl⟩ := List.mem_map.mp behind
        cases itsTurn
        exact .inr takes
      · cases behind

end Registry

namespace Analyzer

variable {σ : Type} {analyzer : Analyzer} {behaviour : Behaviour σ} {unit : TranslationUnit}
  {store : Store σ}

/-- With harmless observers the parse of a translation unit ends well, and has then gone through the
whole schedule. -/
theorem parseUnit_of_harmless (isUnit : unit.root.kind = .translationUnit)
    (harmless : analyzer.registry.Harmless behaviour store) :
    let turns := analyzer.registry.schedule (unit.cursor.toplevelWalk.map (·.1))
    let run := analyzer.parseUnit behaviour [] unit store
    run.outcome = .ok () ∧ run.calls = (behaviour.intended turns store).map (·.event) ∧
      run.store = behaviour.afterTurns turns store := by
  intro turns run
  have follows : behaviour.Follows turns store run := parseUnit_follows isUnit harmless.silent
  have calm : ∀ call ∈ behaviour.intended turns store, call.failure? = none :=
    Behaviour.calm_of_sound fun turn mem id itsTurn =>
      harmless.sound id (Registry.subscribed_of_mem_schedule mem itsTurn)
  cases follows with
  | completed _ made ended left => exact ⟨ended, made, left⟩
  | aborted earlier later call failure split _ failed _ _ =>
    have among : call ∈ behaviour.intended turns store := by simp [split]
    cases failed.symm.trans (calm call among)

/-- Among harmless observers, an observer is called for its own turns alone, and comes to the state
that these lead to. -/
theorem received_of_harmless (isUnit : unit.root.kind = .translationUnit)
    (built : analyzer.registry.Built) (harmless : analyzer.registry.Harmless behaviour store)
    (id : ObserverId) :
    let run := analyzer.parseUnit behaviour [] unit store
    let own := Turn.allOf id (analyzer.registry.classList.count id)
      (analyzer.registry.cursorList.count (.observer id)) (unit.cursor.toplevelWalk.map (·.1))
    run.received id = (behaviour.intended own store).map (·.event) ∧
      run.store.get id = (behaviour.afterTurns own store).get id := by
  intro run own
  obtain ⟨-, made, left⟩ := parseUnit_of_harmless isUnit harmless
  obtain ⟨calls, state⟩ := Behaviour.intended_filter behaviour
    (analyzer.registry.schedule (unit.cursor.toplevelWalk.map (·.1))) store id
  rw [Registry.filter_schedule built] at calls state
  constructor
  · rw [Run.received_eq, made, List.filter_map, ← calls]
    rfl
  · exact (congrArg (·.get id) left).trans state

/-- Two parses of one unit are the same to an observer that starts both in the same state and stands
in the lists of both as often: it is handed the same cursors and class definitions in the same
order, and ends in the same state.  The other observers, and the order in which all of them were
added, do not matter; what the observer is handed is what its own turns call for. -/
theorem parseUnit_same_for_observer (first second : Analyzer) (behaviour : Behaviour σ)
    (unit : TranslationUnit) (firstStore secondStore : Store σ) (id : ObserverId)
    (firstBuilt : first.registry.Built) (secondBuilt : second.registry.Built)
    (firstHarmless : first.registry.Harmless behaviour firstStore)
    (secondHarmless : second.registry.Harmless behaviour secondStore)
    (onCursors : first.registry.cursorList.count (.observer id) =
      second.registry.cursorList.count (.observer id))
    (onClasses : first.registry.classList.count id = second.registry.classList.count id)
    (sameState : firstStore.get id = secondStore.get id) :
    let firstRun := first.parseUnit behaviour [] unit firstStore
    let secondRun := second.parseUnit behaviour [] unit secondStore
    firstRun.received id = secondRun.received id ∧
      firstRun.store.get id = secondRun.store.get id ∧
      (unit.root.kind = .translationUnit →
        firstRun.received id = (behaviour.intended
          (Turn.allOf id (first.registry.classList.count id)
            (first.registry.cursorList.count (.observer id)) (unit.cursor.toplevelWalk.map (·.1)))
          firstStore).map (·.event)) := by
  intro firstRun secondRun
  by_cases isUnit : unit.root.kind = .translationUnit
  · obtain ⟨firstCalls, firstState⟩ := received_of_harmless isUnit firstBuilt firstHarmless id
    obtain ⟨secondCalls, secondState⟩ := received_of_harmless isUnit secondBuilt secondHarmless id
    rw [← onCursors, ← onClasses] at secondCalls secondState
    obtain ⟨sameCalls, sameEnd⟩ := Behaviour.intended_of_own behaviour
      (fun _ mem => Turn.observer?_of_mem_allOf mem) sameState
    refine ⟨?_, ?_, fun _ => firstCalls⟩
    · exact firstCalls.trans ((congrArg (List.map _) sameCalls).trans secondCalls.symm)
    · exact firstState.trans (sameEnd.trans secondState.symm)
  · have firstRefused : firstRun = _ := parseUnit_of_other_root isUnit []
    have secondRefused : secondRun = _ := parseUnit_of_other_root isUnit []
    rw [firstRefused, secondRefused]
    exact ⟨rfl, sameState, fun isUnit' => absurd isUnit' isUnit⟩

/-- A probe that takes everything is handed the eight cursors and the one class of the nested unit,
alone as well as behind a tally and a collector. -/
theorem parseUnit_same_for_probe :
    let alone : Analyzer := { registry := ⟨[.expander, .observer "x"], ["x"]⟩ }
    let crowd : Analyzer :=
      { registry := ⟨[.expander, .observer "t", .observer "x"], ["c", "t", "x"]⟩ }
    let probe : Instrument := .probe { takesCursors := true, takesClasses := true } 0
    let aloneStore : Store Instrument := ⟨.inert, [("x", probe)]⟩
    let crowdStore : Store Instrument :=
      ⟨.inert, [("c", .collector []), ("t", .tally true 3), ("x", probe)]⟩
    let aloneRun := alone.parseUnit Instrument.behaviour [] .nested aloneStore
    let crowdRun := crowd.parseUnit Instrument.behaviour [] .nested crowdStore
    alone.registry.Built ∧ crowd.registry.Built ∧
      alone.registry.Harmless Instrument.behaviour aloneStore ∧
      crowd.registry.Harmless Instrument.behaviour crowdStore ∧
      (aloneRun.received "x").length = 9 ∧ crowdRun.calls.length = 21 ∧
      aloneRun.received "x" = crowdRun.received "x" ∧
      aloneRun.store.get "x" = crowdRun.store.get "x" := by
  intro alone crowd probe aloneStore crowdStore aloneRun crowdRun
  have aloneBuilt : alone.registry.Built :=
    .add .initial (show Registry.initial.add "x" false true true = .ok _ from rfl)
  have collectorAdded : Registry.Built ⟨[.expander], ["c"]⟩ :=
    .add .initial (show Registry.initial.add "c" false false true = .ok _ from rfl)
  have tallyAdded : Registry.Built ⟨[.expander, .observer "t"], ["c", "t"]⟩ :=
    .add collectorAdded (show Registry.add _ "t" false true true = .ok _ from rfl)
  have crowdBuilt : crowd.registry.Built :=
    .add tallyAdded (show Registry.add _ "x" false true true = .ok _ from rfl)
  have sound {instrument : Instrument} (steady : instrument.isSteady = true) :
      Instrument.behaviour.Always Instrument.behaviour.Sound instrument :=
    fun state reached => (Instrument.always_steady steady state reached).sound
  have aloneHarmless : alone.registry.Harmless Instrument.behaviour aloneStore := by
    constructor
    · intro id listed
      obtain rfl : id = "x" := by simpa [alone] using listed
      exact Instrument.always_silent rfl
    · intro id listed
      obtain rfl : id = "x" := by simpa [alone] using listed
      exact sound rfl
  have crowdHarmless : crowd.registry.Harmless Instrument.behaviour crowdStore := by
    constructor
    · intro id listed
      have known : id = "t" ∨ id = "x" := by simpa [crowd] using listed
      rcases known with rfl | rfl
      · exact Instrument.always_silent rfl
      · exact Instrument.always_silent rfl
    · intro id listed
      have known : (id = "t" ∨ id = "x") ∨ id = "c" ∨ id = "t" ∨ id = "x" := by
        simpa [crowd] using listed
      rcases known with (rfl | rfl) | rfl | rfl | rfl <;> exact sound rfl
  obtain ⟨received, ended, -⟩ := parseUnit_same_for_observer alone crowd Instrument.behaviour .nested
    aloneStore crowdStore "x" aloneBuilt crowdBuilt aloneHarmless crowdHarmless (by decide)
    (by decide) rfl
  exact ⟨aloneBuilt, crowdBuilt, aloneHarmless, crowdHarmless, by decide +kernel,
    by decide +kernel, received, ended⟩

end Analyzer

end DeclScope
