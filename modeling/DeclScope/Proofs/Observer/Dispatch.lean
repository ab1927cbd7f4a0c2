import DeclScope.Proofs.Observer.Schedule

/-!
# A dispatch follows its schedule

A run follows turns if it makes their intended calls and ends well, or makes them up to and
including the first that fails and ends with that failure.  Runs that follow turns compose: one
after the other they follow the turns of both, unless the first fails.  Each loop of the dispatch is
such a composition, and so is the delivery of an announced class.

A failure inside an announcement crosses two borders on its way out.  At the inner one it becomes an
error, at the outer one that error is a failure of the announcer and is recognised as what it is, so
the second border changes nothing.
-/

namespace DeclScope

namespace Run

variable {σ : Type}

/-- The calls of a run, without its log records. -/
def calls (run : Run σ) : List Event := run.events.filter Event.isCall

/-- Events in front of a run add their calls in front. -/
theorem calls_after (events : List Event) (run : Run σ) :
    (run.after events).calls = events.filter Event.isCall ++ run.calls :=
  List.filter_append events run.events

/-- Log records are no calls. -/
theorem filter_isCall_log (logs : List LogRecord) :
    (logs.map Event.log).filter Event.isCall = [] := by
  rw [List.filter_eq_nil_iff]
  intro event listed
  obtain ⟨record, -, rfl⟩ := List.mem_map.mp listed
  exact Bool.false_ne_true

/-- Events in front of a run can be put there in two steps. -/
theorem after_cons (event : Event) (events : List Event) (run : Run σ) :
    run.after (event :: events) = (run.after events).after [event] := rfl

/-- An error that comes out of an announcement is recognised, and stays as it is. -/
theorem relayed_eq (run : Run σ) : run.relayed = run := by
  obtain ⟨store, events, outcome⟩ := run
  cases outcome <;> rfl

end Run

namespace Expander

/-- On a class with a body an expander announces the class with its fields. -/
theorem react_of_definition {cursor : Cursor} (defines : cursor.isDefinition = true) :
    ∃ logs, react cursor = (logs, .announces (ClassDefinition.expand cursor).1) := by
  rw [react, if_pos defines]
  exact ⟨_, rfl⟩

/-- On a class without a body an expander does nothing but log. -/
theorem react_of_declaration {cursor : Cursor} (declares : ¬ cursor.isDefinition = true) :
    ∃ logs, react cursor = (logs, .done) := by
  rw [react, if_neg declares]
  exact ⟨_, rfl⟩

end Expander

namespace Behaviour

variable {σ : Type} {behaviour : Behaviour σ}

/-- A run makes the intended calls of turns, as far as it gets. -/
inductive Follows (behaviour : Behaviour σ) (turns : List Turn) (store : Store σ) (run : Run σ) :
    Prop where
  /-- No call fails: all calls are made, and the run ends well. -/
  | completed
      (calm : ∀ call ∈ behaviour.intended turns store, call.failure? = none)
      (made : run.calls = (behaviour.intended turns store).map (·.event))
      (ended : run.outcome = .ok ())
      (left : run.store = behaviour.afterTurns turns store)
  /-- A call fails: the calls up to it are made, and the run ends with its failure. -/
  | aborted (earlier later : List Call) (call : Call) (failure : Failure)
      (split : behaviour.intended turns store = earlier ++ call :: later)
      (calm : ∀ call ∈ earlier, call.failure? = none)
      (failed : call.failure? = some failure)
      (made : run.calls = (earlier ++ [call]).map (·.event))
      (ended : run.outcome = .error failure.toError)

/-- Nothing happens on no turns. -/
theorem follows_idle (store : Store σ) : behaviour.Follows [] store (.idle store) :=
  .completed (fun _ among => nomatch among) rfl rfl rfl

/-- Log records in front of a run do not matter. -/
theorem Follows.after {turns : List Turn} {store : Store σ} {run : Run σ}
    (follows : behaviour.Follows turns store run) {events : List Event}
    (quiet : events.filter Event.isCall = []) :
    behaviour.Follows turns store (run.after events) := by
  have same : (run.after events).calls = run.calls := by
    rw [Run.calls_after, quiet, List.nil_append]
  cases follows with
  | completed calm made ended left => exact .completed calm (same.trans made) ended left
  | aborted earlier later call failure split calm failed made ended =>
    exact .aborted earlier later call failure split calm failed (same.trans made) ended

/-- A turn that leads to no call can be left out. -/
theorem Follows.skip {turn : Turn} {turns : List Turn} {store : Store σ} {run : Run σ}
    (passed : behaviour.take store turn = (none, store))
    (follows : behaviour.Follows turns store run) :
    behaviour.Follows (turn :: turns) store run := by
  have same : behaviour.intended (turn :: turns) store = behaviour.intended turns store := by
    rw [intended, passed]
    rfl
  cases follows with
  | completed calm made ended left =>
    refine .completed (same ▸ calm) (same ▸ made) ended ?_
    rw [left, Behaviour.afterTurns, Behaviour.afterTurns, List.foldl_cons, passed]
  | aborted earlier later call failure split calm failed made ended =>
    exact .aborted earlier later call failure (same.trans split) calm failed made ended

/-- A call that does not fail, and a run behind it. -/
theorem Follows.called {turn : Turn} {turns : List Turn} {store next : Store σ} {event : Event}
    {run : Run σ} (taken : behaviour.take store turn = (some ⟨event, none⟩, next))
    (isCall : event.isCall = true) (follows : behaviour.Follows turns next run) :
    behaviour.Follows (turn :: turns) store (run.after [event]) := by
  have more : behaviour.intended (turn :: turns) store =
      ⟨event, none⟩ :: behaviour.intended turns next := by
    rw [intended, taken]
    rfl
  have front : (run.after [event]).calls = event :: run.calls := by
    rw [Run.calls_after, List.filter_cons_of_pos isCall]
    rfl
  cases follows with
  | completed calm made ended left =>
    refine .completed ?_ ?_ ended ?_
    · rw [more]
      intro call among
      rcases List.mem_cons.mp among with rfl | later
      · rfl
      · exact calm call later
    · rw [front, made, more, List.map_cons]
    · show run.store = _
      rw [left, Behaviour.afterTurns, Behaviour.afterTurns, List.foldl_cons, taken]
  | aborted earlier later call failure split calm failed made ended =>
    refine .aborted (⟨event, none⟩ :: earlier) later call failure ?_ ?_ failed ?_ ended
    · rw [more, split, List.cons_append]
    · intro other among
      rcases List.mem_cons.mp among with rfl | later
      · rfl
      · exact calm other later
    · rw [front, made, List.cons_append, List.map_cons]

/-- A call that fails, with nothing behind it. -/
theorem follows_failed {turn : Turn} {turns : List Turn} {store next : Store σ} {event : Event}
    {failure : Failure} {run : Run σ}
    (taken : behaviour.take store turn = (some ⟨event, some failure⟩, next))
    (made : run.calls = [event]) (ended : run.outcome = .error failure.toError) :
    behaviour.Follows (turn :: turns) store run := by
  refine .aborted [] (behaviour.intended turns next) ⟨event, some failure⟩ failure ?_ ?_ rfl made
    ended
  · rw [intended, taken]
    rfl
  · intro call among
    cases among

/-- One run and another from where it ends follow the turns of both.  If the first fails, the turns
of the second only add calls behind the failing one. -/
theorem Follows.andThen {turns more : List Turn} {store : Store σ} {run : Run σ}
    {next : Store σ → Run σ} (first : behaviour.Follows turns store run)
    (second : behaviour.Follows more (behaviour.afterTurns turns store)
      (next (behaviour.afterTurns turns store))) :
    behaviour.Follows (turns ++ more) store (run.andThen next) := by
  cases first with
  | completed calm made ended left =>
    have continued : run.andThen next =
        (next (behaviour.afterTurns turns store)).after run.events := by
      rw [Run.andThen, ended, left]
    have front : (run.andThen next).calls = (behaviour.intended turns store).map (·.event) ++
        (next (behaviour.afterTurns turns store)).calls := by
      rw [continued, Run.calls_after, ← made]
      rfl
    cases second with
    | completed laterCalm laterMade laterEnded laterLeft =>
      refine .completed ?_ ?_ ?_ ?_
      · rw [intended_append]
        intro call among
        rcases List.mem_append.mp among with early | late
        · exact calm call early
        · exact laterCalm call late
      · rw [front, laterMade, intended_append, List.map_append]
      · rw [continued]
        exact laterEnded
      · rw [continued, afterTurns_append]
        exact laterLeft
    | aborted earlier later call failure split laterCalm failed laterMade laterEnded =>
      refine .aborted (behaviour.intended turns store ++ earlier) later call failure ?_ ?_ failed
        ?_ ?_
      · rw [intended_append, split, List.append_assoc]
      · intro other among
        rcases List.mem_append.mp among with early | late
        · exact calm other early
        · exact laterCalm other late
      · simp only [front, laterMade, List.map_append, List.append_assoc]
      · rw [continued]
        exact laterEnded
  | aborted earlier later call failure split calm failed made ended =>
    have stopped : run.andThen next = run := by
      rw [Run.andThen, ended]
    rw [stopped]
    refine .aborted earlier
      (later ++ behaviour.intended more (behaviour.afterTurns turns store)) call failure ?_ calm
      failed made ended
    rw [intended_append, split, List.append_assoc, List.cons_append]

/-- The delivery of a class definition follows the turns of those who get it. -/
theorem notify_follows (definition : ClassDefinition) (ids : List ObserverId) (store : Store σ) :
    behaviour.Follows (ids.map (.definition · definition)) store
      (behaviour.notify [] definition ids store) := by
  induction ids generalizing store with
  | nil => exact follows_idle store
  | cons id rest inductionHypothesis =>
    rw [List.map_cons, notify, if_neg List.not_mem_nil]
    split
    · rename_i takes
      cases result : behaviour.onClass (store.get id) definition with
      | mk state failure? =>
        have taken : behaviour.take store (.definition id definition) =
            (some ⟨.classCall id definition, failure?⟩, store.set id state) := by
          simp [take, takes, result]
        cases failure? with
        | none => exact (inductionHypothesis (store.set id state)).called taken rfl
        | some failure => exact follows_failed taken rfl rfl
    · rename_i passed
      have skipped : behaviour.take store (.definition id definition) = (none, store) := by
        simp [take, passed]
      exact (inductionHypothesis store).skip skipped

/-- The expander's part of a dispatch follows its own turn and, behind that, the turns of those who
get the class that it announces. -/
theorem handTo_expander_follows (classList : List ObserverId) (cursor : Cursor)
    (store : Store σ) :
    behaviour.Follows (Registry.turnsOf classList cursor .expander) store
      (behaviour.handTo [] classList cursor .expander store) := by
  rw [Registry.turnsOf, handTo]
  by_cases admitted : Expander.filter.admits cursor.kind = true
  · rw [if_pos admitted]
    have taken : behaviour.take store (.cursor .expander cursor) =
        (some ⟨.cursorCall .expander cursor, none⟩, store) := by
      rw [take, if_pos admitted]
    by_cases defines : cursor.isDefinition = true
    · obtain ⟨logs, reacts⟩ := Expander.react_of_definition defines
      have announced : Expander.announces cursor = true := by
        rw [Expander.announces, admitted, defines, Bool.and_self]
      rw [if_pos announced, reacts]
      dsimp only
      rw [Run.after_cons, conclude, Run.relayed_eq]
      exact ((notify_follows _ classList store).after (Run.filter_isCall_log logs)).called taken rfl
    · obtain ⟨logs, reacts⟩ := Expander.react_of_declaration defines
      have unannounced : ¬ Expander.announces cursor = true := by
        simp [Expander.announces, defines]
      rw [if_neg unannounced, reacts]
      dsimp only
      rw [Run.after_cons, conclude]
      exact ((follows_idle store).after (Run.filter_isCall_log logs)).called taken rfl
  · have unannounced : ¬ Expander.announces cursor = true := by
      simp [Expander.announces, admitted]
    have skipped : behaviour.take store (.cursor .expander cursor) = (none, store) := by
      rw [take, if_neg admitted]
    rw [if_neg admitted, if_neg unannounced]
    exact (follows_idle store).skip skipped

/-- The part of an observer that announces nothing follows its own turn. -/
theorem handTo_observer_follows (classList : List ObserverId) (cursor : Cursor) {id : ObserverId}
    {store : Store σ} (silent : behaviour.Silent (store.get id)) :
    behaviour.Follows (Registry.turnsOf classList cursor (.observer id)) store
      (behaviour.handTo [] classList cursor (.observer id) store) := by
  rw [Registry.turnsOf, handTo]
  dsimp only
  rw [if_neg List.not_mem_nil]
  split
  · rename_i asked
    have taken : behaviour.take store (.cursor (.observer id) cursor) =
        (some ⟨.cursorCall (.observer id) cursor,
            (behaviour.onCursor (store.get id) cursor).conclusion.failure?⟩,
          store.set id (behaviour.onCursor (store.get id) cursor).state) := by
      simp only [take, asked, if_true]
    have quiet := Run.filter_isCall_log (behaviour.onCursor (store.get id) cursor).logs
    rw [Run.after_cons]
    cases concluded : (behaviour.onCursor (store.get id) cursor).conclusion with
    | done =>
      rw [concluded] at taken
      exact ((follows_idle _).after quiet).called taken rfl
    | failed failure =>
      rw [concluded] at taken
      refine follows_failed taken ?_ rfl
      rw [Run.calls_after, Run.calls_after, quiet]
      rfl
    | announces definition => exact absurd concluded (silent cursor definition)
  · rename_i unasked
    have skipped : behaviour.take store (.cursor (.observer id) cursor) = (none, store) := by
      simp only [take, unasked]
      rfl
    exact (follows_idle store).skip skipped

/-- The dispatch of one cursor follows the turns of all subscribers in order. -/
theorem dispatch_follows (classList : List ObserverId) (cursor : Cursor)
    (subscribers : List Subscriber) {store : Store σ}
    (silent : ∀ id, .observer id ∈ subscribers → behaviour.Always behaviour.Silent (store.get id)) :
    behaviour.Follows (subscribers.flatMap (Registry.turnsOf classList cursor)) store
      (behaviour.dispatch [] classList cursor subscribers store) := by
  induction subscribers generalizing store with
  | nil => exact follows_idle store
  | cons subscriber rest inductionHypothesis =>
    rw [List.flatMap_cons, dispatch]
    apply Follows.andThen
    · cases subscriber with
      | expander => exact handTo_expander_follows classList cursor store
      | observer id =>
        exact handTo_observer_follows classList cursor (silent id List.mem_cons_self).now
    · apply inductionHypothesis
      intro id listed
      exact (silent id (List.mem_cons_of_mem _ listed)).afterTurns _

/-- The dispatch of all cursors follows the schedule of the registry. -/
theorem dispatchAll_follows (registry : Registry) (cursors : List Cursor) {store : Store σ}
    (silent : ∀ id, .observer id ∈ registry.cursorList →
      behaviour.Always behaviour.Silent (store.get id)) :
    behaviour.Follows (registry.schedule cursors) store
      (behaviour.dispatchAll [] registry cursors store) := by
  induction cursors generalizing store with
  | nil => exact follows_idle store
  | cons cursor rest inductionHypothesis =>
    rw [Registry.schedule, List.flatMap_cons, dispatchAll]
    apply Follows.andThen
    · exact dispatch_follows registry.classList cursor registry.cursorList silent
    · apply inductionHypothesis
      intro id listed
      exact (silent id listed).afterTurns _

end Behaviour

end DeclScope
