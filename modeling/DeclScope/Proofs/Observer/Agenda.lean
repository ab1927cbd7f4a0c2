import DeclScope.Proofs.Observer.Dispatch

/-!
# Dispatch while observers are in use

An observer in use cannot be called: its turn, whether or not it asked for that kind of cursor, ends
the dispatch with `observerBusy`.  In use are those that the caller keeps for the duration, and an
observer that announces a class, until the announcement is delivered.

With observers that announce, the turns of a dispatch are not fixed before it runs: behind the turn
of one that announces come those of everyone who takes definitions.  The *agenda* is worked out
along the way, from the states of the time, and says of each turn who is in use when it comes.  A
run proceeds through an agenda if it makes the calls of all turns and ends well, or makes the calls
before the first turn that is held and ends there.

This is about observers that do not fail by themselves.  One that announces fails with its
announcement, and this is the only way.
-/

namespace DeclScope

/-- The observer whose turn it is. -/
def Turn.observer? : Turn → Option ObserverId
  | .cursor .expander _ => none
  | .cursor (.observer id) _ => some id
  | .definition id _ => some id

/-- The observer that an event calls. -/
def Event.observer? : Event → Option ObserverId
  | .cursorCall (.observer id) _ => some id
  | .classCall id _ => some id
  | _ => none

/-- The class that a reaction announces. -/
def Conclusion.announced? : Conclusion → Option ClassDefinition
  | .announces definition => some definition
  | _ => none

/-- An expander does not fail by itself, and announces the classes that have a body. -/
theorem Expander.react_conclusion (cursor : Cursor) :
    (react cursor).2.failure? = none ∧ (react cursor).2.announced? =
      if cursor.isDefinition then some (ClassDefinition.expand cursor).1 else none := by
  unfold react
  split <;> exact ⟨rfl, rfl⟩

/-- Who is in use while a subscriber announces a class. -/
def Subscriber.inUse (busy : List ObserverId) : Subscriber → List ObserverId
  | .expander => busy
  | .observer id => id :: busy

/-- A turn, and who is in use when it comes. -/
structure Slot where
  inUse : List ObserverId
  turn : Turn

namespace Slot

/-- A turn of somebody in use. -/
def Held (slot : Slot) : Prop := ∃ id ∈ slot.turn.observer?, id ∈ slot.inUse

instance (slot : Slot) : Decidable slot.Held :=
  inferInstanceAs (Decidable (∃ id ∈ slot.turn.observer?, id ∈ slot.inUse))

/-- The turns of those who take definitions, when a class is announced. -/
def deliveries (inUse classList : List ObserverId) (announced? : Option ClassDefinition) :
    List Slot :=
  announced?.toList.flatMap fun definition =>
    classList.map fun id => ⟨inUse, .definition id definition⟩

/-- Each delivery of a class is a turn of somebody who takes definitions. -/
theorem mem_deliveries {inUse classList : List ObserverId} {announced? : Option ClassDefinition}
    {slot : Slot} :
    slot ∈ deliveries inUse classList announced? ↔ ∃ definition, announced? = some definition ∧
      ∃ id ∈ classList, ⟨inUse, .definition id definition⟩ = slot := by
  simp only [deliveries, List.mem_flatMap, Option.mem_toList, List.mem_map]

/-- There is one way to cut slots before the first that is held. -/
theorem first_held_unique {earlier later before behind : List Slot} {slot other : Slot}
    (same : earlier ++ slot :: later = before ++ other :: behind)
    (free : ∀ slot ∈ earlier, ¬ slot.Held) (held : slot.Held)
    (alsoFree : ∀ slot ∈ before, ¬ slot.Held) (alsoHeld : other.Held) :
    earlier = before ∧ slot = other := by
  induction earlier generalizing before with
  | nil =>
    cases before with
    | nil => exact ⟨rfl, (List.cons.inj same).1⟩
    | cons head rest =>
      have first : slot = head := (List.cons.inj same).1
      exact absurd (first ▸ held) (alsoFree head List.mem_cons_self)
  | cons head rest inductionHypothesis =>
    cases before with
    | nil =>
      have first : head = other := (List.cons.inj same).1
      exact absurd (first ▸ alsoHeld) (free head List.mem_cons_self)
    | cons alsoHead alsoRest =>
      obtain ⟨rfl, rests⟩ := List.cons.inj same
      obtain ⟨rfl, sameSlot⟩ := inductionHypothesis rests
        (fun slot listed => free slot (List.mem_cons_of_mem _ listed))
        (fun slot listed => alsoFree slot (List.mem_cons_of_mem _ listed))
      exact ⟨rfl, sameSlot⟩

end Slot

/-- What is handed to whom when the subscribers of a registry get cursors, in order. -/
def Registry.handovers (registry : Registry) (cursors : List Cursor) :
    List (Cursor × Subscriber) :=
  cursors.flatMap fun cursor => registry.cursorList.map fun subscriber => (cursor, subscriber)

namespace Behaviour

variable {σ : Type} (behaviour : Behaviour σ)

/-- Whether an observer asks for a cursor. -/
def asks (state : σ) (cursor : Cursor) : Bool :=
  behaviour.takesCursors state && (behaviour.filter state).admits cursor.kind

/-- The class that a subscriber announces when it is handed a cursor. -/
def announced? (store : Store σ) (cursor : Cursor) : Subscriber → Option ClassDefinition
  | .expander =>
    if Expander.announces cursor then some (ClassDefinition.expand cursor).1 else none
  | .observer id =>
    if behaviour.asks (store.get id) cursor then
      (behaviour.onCursor (store.get id) cursor).conclusion.announced?
    else none

/-- The turns that come of handing a cursor to a subscriber: its own and, if it announces a class,
those of everyone who takes definitions. -/
def slotsOn (busy classList : List ObserverId) (store : Store σ) (cursor : Cursor)
    (subscriber : Subscriber) : List Slot :=
  ⟨busy, .cursor subscriber cursor⟩ ::
    Slot.deliveries (subscriber.inUse busy) classList (behaviour.announced? store cursor subscriber)

/-- The states after the turns of slots, whatever fails on the way. -/
def afterSlots (slots : List Slot) (store : Store σ) : Store σ :=
  behaviour.afterTurns (slots.map (·.turn)) store

/-- The calls of slots, whether or not they are held. -/
def callsOf (slots : List Slot) (store : Store σ) : List Event :=
  (behaviour.intended (slots.map (·.turn)) store).map (·.event)

/-- The turns that come of handing out cursors one by one, each in the states that the earlier ones
leave. -/
def agenda (busy classList : List ObserverId) :
    List (Cursor × Subscriber) → Store σ → List Slot
  | [], _ => []
  | (cursor, subscriber) :: rest, store =>
    let slots := behaviour.slotsOn busy classList store cursor subscriber
    slots ++ agenda busy classList rest (behaviour.afterSlots slots store)

/-- In this state an observer does not fail by itself: not on a cursor, if it asks for it, and not
on a class definition, if it takes them. -/
def Sound (state : σ) : Prop :=
  (∀ cursor, behaviour.asks state cursor = true →
    (behaviour.onCursor state cursor).conclusion.failure? = none) ∧
  (behaviour.takesClasses state = true →
    ∀ definition, (behaviour.onClass state definition).2 = none)

/-- A run makes the calls of slots, up to the first that is held. -/
inductive Proceeds (slots : List Slot) (store : Store σ) (run : Run σ) : Prop where
  /-- No turn is held: all calls are made, and the run ends well. -/
  | completed
      (free : ∀ slot ∈ slots, ¬ slot.Held)
      (made : run.calls = behaviour.callsOf slots store)
      (ended : run.outcome = .ok ())
      (left : run.store = behaviour.afterSlots slots store)
  /-- A turn is held: the calls before it are made, and the run ends there. -/
  | halted (earlier later : List Slot) (slot : Slot)
      (split : slots = earlier ++ slot :: later)
      (free : ∀ slot ∈ earlier, ¬ slot.Held)
      (held : slot.Held)
      (made : run.calls = behaviour.callsOf earlier store)
      (ended : run.outcome = .error .observerBusy)

variable {behaviour}

/-- The states after slots one after the other. -/
theorem afterSlots_append (slots more : List Slot) (store : Store σ) :
    behaviour.afterSlots (slots ++ more) store =
      behaviour.afterSlots more (behaviour.afterSlots slots store) := by
  rw [afterSlots, List.map_append, afterTurns_append]
  rfl

/-- The calls of slots one after the other. -/
theorem callsOf_append (slots more : List Slot) (store : Store σ) :
    behaviour.callsOf (slots ++ more) store =
      behaviour.callsOf slots store ++
        behaviour.callsOf more (behaviour.afterSlots slots store) := by
  rw [callsOf, List.map_append, intended_append, List.map_append]
  rfl

/-- The agenda of handovers one after the other. -/
theorem agenda_append (busy classList : List ObserverId)
    (first second : List (Cursor × Subscriber)) (store : Store σ) :
    behaviour.agenda busy classList (first ++ second) store =
      behaviour.agenda busy classList first store ++ behaviour.agenda busy classList second
        (behaviour.afterSlots (behaviour.agenda busy classList first store) store) := by
  induction first generalizing store with
  | nil => rfl
  | cons handover rest inductionHypothesis =>
    rw [List.cons_append, agenda, agenda, inductionHypothesis, afterSlots_append,
      List.append_assoc]

/-- The turns of an agenda are those of its handovers, each in the states that the handovers before
it leave. -/
theorem mem_agenda_iff {busy classList : List ObserverId}
    {handovers : List (Cursor × Subscriber)} {store : Store σ} {slot : Slot} :
    slot ∈ behaviour.agenda busy classList handovers store ↔
      ∃ before cursor subscriber behind, handovers = before ++ (cursor, subscriber) :: behind ∧
        slot ∈ behaviour.slotsOn busy classList
          (behaviour.afterSlots (behaviour.agenda busy classList before store) store) cursor
          subscriber := by
  constructor
  · intro mem
    induction handovers generalizing store with
    | nil => cases mem
    | cons handover rest inductionHypothesis =>
      rcases List.mem_append.mp mem with here | later
      · exact ⟨[], handover.1, handover.2, rest, rfl, here⟩
      · obtain ⟨before, cursor, subscriber, behind, rfl, below⟩ := inductionHypothesis later
        refine ⟨handover :: before, cursor, subscriber, behind, rfl, ?_⟩
        rw [agenda, afterSlots_append]
        exact below
  · rintro ⟨before, cursor, subscriber, behind, rfl, here⟩
    rw [agenda_append, agenda]
    exact List.mem_append_right _ (List.mem_append_left _ here)

/-- A turn calls nobody but the observer whose turn it is. -/
theorem event_of_take {store : Store σ} {turn : Turn} {call : Call}
    (made : (behaviour.take store turn).1 = some call) :
    call.event.isCall = true ∧ call.event.observer? = turn.observer? := by
  match turn with
  | .cursor .expander cursor | .cursor (.observer id) cursor | .definition id definition =>
    unfold Behaviour.take at made
    dsimp only at made
    split at made
    · cases made
      exact ⟨rfl, rfl⟩
    · cases made

/-- The calls of slots call nobody but the observers whose turns they are. -/
theorem observer?_of_mem_callsOf {slots : List Slot} {store : Store σ} {event : Event}
    (mem : event ∈ behaviour.callsOf slots store) :
    ∃ slot ∈ slots, event.observer? = slot.turn.observer? := by
  induction slots generalizing store with
  | nil => cases mem
  | cons slot rest inductionHypothesis =>
    obtain ⟨call, among, rfl⟩ := List.mem_map.mp mem
    rcases List.mem_append.mp among with here | later
    · have made := Option.mem_toList.mp here
      exact ⟨slot, List.mem_cons_self, (event_of_take made).2⟩
    · obtain ⟨other, listed, same⟩ := inductionHypothesis (List.mem_map_of_mem later)
      exact ⟨other, List.mem_cons_of_mem slot listed, same⟩

/-- Nothing happens on no turns. -/
theorem proceeds_idle (store : Store σ) : behaviour.Proceeds [] store (.idle store) :=
  .completed (fun _ among => nomatch among) rfl rfl rfl

/-- At the turn of somebody in use a run ends at once. -/
theorem proceeds_held {slot : Slot} (held : slot.Held) (slots : List Slot) (store : Store σ) :
    behaviour.Proceeds (slot :: slots) store (.fail store .observerBusy) :=
  .halted [] slots slot rfl (fun _ among => nomatch among) held rfl rfl

/-- Log records in front of a run do not matter. -/
theorem Proceeds.after {slots : List Slot} {store : Store σ} {run : Run σ}
    (proceeds : behaviour.Proceeds slots store run) {events : List Event}
    (quiet : events.filter Event.isCall = []) :
    behaviour.Proceeds slots store (run.after events) := by
  have same : (run.after events).calls = run.calls := by
    rw [Run.calls_after, quiet, List.nil_append]
  cases proceeds with
  | completed free made ended left => exact .completed free (same.trans made) ended left
  | halted earlier later slot split free held made ended =>
    exact .halted earlier later slot split free held (same.trans made) ended

/-- A turn of somebody who is not in use, and a run behind it. -/
theorem Proceeds.cons {slot : Slot} {slots : List Slot} {store next : Store σ}
    {call? : Option Call} {run : Run σ} (free : ¬ slot.Held)
    (taken : behaviour.take store slot.turn = (call?, next))
    (proceeds : behaviour.Proceeds slots next run) :
    behaviour.Proceeds (slot :: slots) store (run.after (call?.toList.map (·.event))) := by
  have more (others : List Slot) : behaviour.callsOf (slot :: others) store =
      call?.toList.map (·.event) ++ behaviour.callsOf others next := by
    rw [callsOf, List.map_cons, intended, taken, List.map_append]
    rfl
  have allCalls : (call?.toList.map (·.event)).filter Event.isCall =
      call?.toList.map (·.event) := by
    rw [List.filter_eq_self]
    intro event listed
    obtain ⟨call, mem, rfl⟩ := List.mem_map.mp listed
    have made : (behaviour.take store slot.turn).1 = some call := by
      rw [taken]
      exact Option.mem_toList.mp mem
    exact (event_of_take made).1
  have front : (run.after (call?.toList.map (·.event))).calls =
      call?.toList.map (·.event) ++ run.calls := by
    rw [Run.calls_after, allCalls]
  cases proceeds with
  | completed laterFree made ended left =>
    refine .completed ?_ ?_ ended ?_
    · exact List.forall_mem_cons.mpr ⟨free, laterFree⟩
    · rw [front, made, more]
    · show run.store = _
      rw [left, afterSlots, afterSlots, List.map_cons, afterTurns, afterTurns, List.foldl_cons,
        taken]
  | halted earlier later other split laterFree held made ended =>
    refine .halted (slot :: earlier) later other ?_ ?_ held ?_ ended
    · rw [split, List.cons_append]
    · exact List.forall_mem_cons.mpr ⟨free, laterFree⟩
    · rw [front, made, more]

/-- One run and another from where it ends proceed through the slots of both. -/
theorem Proceeds.andThen {slots more : List Slot} {store : Store σ} {run : Run σ}
    {next : Store σ → Run σ} (first : behaviour.Proceeds slots store run)
    (second : behaviour.Proceeds more (behaviour.afterSlots slots store)
      (next (behaviour.afterSlots slots store))) :
    behaviour.Proceeds (slots ++ more) store (run.andThen next) := by
  cases first with
  | completed free made ended left =>
    have continued : run.andThen next =
        (next (behaviour.afterSlots slots store)).after run.events := by
      rw [Run.andThen, ended, left]
    have front : (run.andThen next).calls =
        behaviour.callsOf slots store ++ (next (behaviour.afterSlots slots store)).calls := by
      rw [continued, Run.calls_after, ← made]
      rfl
    cases second with
    | completed laterFree laterMade laterEnded laterLeft =>
      refine .completed ?_ ?_ ?_ ?_
      · exact List.forall_mem_append.mpr ⟨free, laterFree⟩
      · rw [front, laterMade, callsOf_append]
      · rw [continued]
        exact laterEnded
      · rw [continued, afterSlots_append]
        exact laterLeft
    | halted earlier later slot split laterFree held laterMade laterEnded =>
      refine .halted (slots ++ earlier) later slot ?_ ?_ held ?_ ?_
      · rw [split, List.append_assoc]
      · exact List.forall_mem_append.mpr ⟨free, laterFree⟩
      · rw [front, laterMade, callsOf_append]
      · rw [continued]
        exact laterEnded
  | halted earlier later slot split free held made ended =>
    have stopped : run.andThen next = run := by
      rw [Run.andThen, ended]
    rw [stopped]
    refine .halted earlier (later ++ more) slot ?_ free held made ended
    rw [split, List.append_assoc, List.cons_append]

/-- The delivery of a class definition proceeds through the turns of those who get it. -/
theorem notify_proceeds {inUse : List ObserverId} (definition : ClassDefinition)
    {ids : List ObserverId} {store : Store σ}
    (sound : ∀ id ∈ ids, id ∉ inUse → behaviour.Always behaviour.Sound (store.get id)) :
    behaviour.Proceeds (ids.map fun id => ⟨inUse, .definition id definition⟩) store
      (behaviour.notify inUse definition ids store) := by
  induction ids generalizing store with
  | nil => exact proceeds_idle store
  | cons id rest inductionHypothesis =>
    rw [List.map_cons, notify]
    split
    · rename_i held
      exact proceeds_held ⟨id, rfl, held⟩ _ store
    · rename_i idle
      have free : ¬ (Slot.mk inUse (.definition id definition)).Held := by
        rintro ⟨_, ⟨⟩, used⟩
        exact idle used
      have later {call? : Option Call} {next : Store σ}
          (taken : behaviour.take store (.definition id definition) = (call?, next)) :
          behaviour.Proceeds (rest.map fun id => ⟨inUse, .definition id definition⟩) next
            (behaviour.notify inUse definition rest next) := by
        apply inductionHypothesis
        intro other listed unused
        have kept := (sound other (List.mem_cons_of_mem id listed) unused).take
          (.definition id definition)
        rwa [taken] at kept
      split
      · rename_i takes
        have calm := (sound id List.mem_cons_self idle).now.2 takes definition
        have taken : behaviour.take store (.definition id definition) =
            (some ⟨.classCall id definition, none⟩,
              store.set id (behaviour.onClass (store.get id) definition).1) := by
          simp [take, takes, calm]
        dsimp only
        rw [calm]
        exact (later taken).cons free taken
      · rename_i passed
        have skipped : behaviour.take store (.definition id definition) = (none, store) := by
          simp [take, passed]
        exact (later skipped).cons free skipped

/-- What a reaction without a failure ends with proceeds through the turns of those who get the
class that it announces. -/
theorem conclude_proceeds {inUse classList : List ObserverId} {conclusion : Conclusion}
    {store : Store σ} (calm : conclusion.failure? = none)
    (sound : ∀ id ∈ classList, id ∉ inUse → behaviour.Always behaviour.Sound (store.get id)) :
    behaviour.Proceeds (Slot.deliveries inUse classList conclusion.announced?) store
      (behaviour.conclude inUse classList store conclusion) := by
  cases conclusion with
  | done => exact proceeds_idle store
  | failed failure => cases calm
  | announces definition =>
    rw [conclude, Run.relayed_eq, Conclusion.announced?, Slot.deliveries, Option.toList_some,
      List.flatMap_singleton]
    exact notify_proceeds definition sound

/-- The expander's part of a dispatch proceeds through its own turn and, behind that, the turns of
those who get the class that it announces. -/
theorem handTo_expander_proceeds {busy classList : List ObserverId} (cursor : Cursor)
    {store : Store σ}
    (sound : ∀ id ∈ classList, id ∉ busy → behaviour.Always behaviour.Sound (store.get id)) :
    behaviour.Proceeds (behaviour.slotsOn busy classList store cursor .expander) store
      (behaviour.handTo busy classList cursor .expander store) := by
  have free : ¬ (Slot.mk busy (.cursor .expander cursor)).Held := by
    rintro ⟨_, ⟨⟩, _⟩
  rw [slotsOn]
  by_cases admitted : Expander.filter.admits cursor.kind = true
  · have taken : behaviour.take store (.cursor .expander cursor) =
        (some ⟨.cursorCall .expander cursor, none⟩, store) := by
      rw [take, if_pos admitted]
    obtain ⟨calm, announced⟩ := Expander.react_conclusion cursor
    have same : behaviour.announced? store cursor .expander =
        (Expander.react cursor).2.announced? := by
      rw [announced, announced?, Expander.announces, admitted, Bool.true_and]
    have handed : behaviour.handTo busy classList cursor .expander store =
        (behaviour.conclude busy classList store (Expander.react cursor).2).after
          (.cursorCall .expander cursor :: (Expander.react cursor).1.map .log) :=
      if_pos admitted
    rw [same, handed, Run.after_cons]
    exact ((conclude_proceeds calm sound).after (Run.filter_isCall_log _)).cons free taken
  · have skipped : behaviour.take store (.cursor .expander cursor) = (none, store) := by
      rw [take, if_neg admitted]
    have unannounced : behaviour.announced? store cursor .expander = none := by
      simp [announced?, Expander.announces, admitted]
    have passed : behaviour.handTo busy classList cursor .expander store = .idle store :=
      if_neg admitted
    rw [unannounced, passed]
    exact (proceeds_idle store).cons free skipped

/-- The part of an observer proceeds through its own turn and, behind that, the turns of those who
get the class that it announces.  During these it is in use itself. -/
theorem handTo_observer_proceeds {busy classList : List ObserverId} (cursor : Cursor)
    {id : ObserverId} {store : Store σ} (sound : id ∉ busy → behaviour.Sound (store.get id))
    (others : ∀ other ∈ classList, other ∉ busy →
      behaviour.Always behaviour.Sound (store.get other)) :
    behaviour.Proceeds (behaviour.slotsOn busy classList store cursor (.observer id)) store
      (behaviour.handTo busy classList cursor (.observer id) store) := by
  rw [slotsOn, announced?]
  by_cases held : id ∈ busy
  · have refused : behaviour.handTo busy classList cursor (.observer id) store =
        .fail store .observerBusy := if_pos held
    rw [refused]
    exact proceeds_held ⟨id, rfl, held⟩ _ store
  · have free : ¬ (Slot.mk busy (.cursor (.observer id) cursor)).Held := by
      rintro ⟨_, ⟨⟩, used⟩
      exact held used
    by_cases asked : behaviour.asks (store.get id) cursor = true
    · have calm := (sound held).1 cursor asked
      have taken : behaviour.take store (.cursor (.observer id) cursor) =
          (some ⟨.cursorCall (.observer id) cursor, none⟩,
            store.set id (behaviour.onCursor (store.get id) cursor).state) := by
        rw [← calm]
        exact if_pos asked
      have handed : behaviour.handTo busy classList cursor (.observer id) store =
          (behaviour.conclude (id :: busy) classList
            (store.set id (behaviour.onCursor (store.get id) cursor).state)
            (behaviour.onCursor (store.get id) cursor).conclusion).after
            (.cursorCall (.observer id) cursor ::
              (behaviour.onCursor (store.get id) cursor).logs.map .log) :=
        (if_neg held).trans (if_pos asked)
      rw [if_pos asked, handed, Run.after_cons]
      apply Proceeds.cons free taken
      apply Proceeds.after ?_ (Run.filter_isCall_log _)
      apply conclude_proceeds calm
      intro other listed unused
      have differs : id ≠ other := fun same => unused (same ▸ List.mem_cons_self)
      rw [Store.get_set, if_neg differs]
      exact others other listed fun used => unused (List.mem_cons_of_mem id used)
    · have skipped : behaviour.take store (.cursor (.observer id) cursor) = (none, store) :=
        if_neg asked
      have passed : behaviour.handTo busy classList cursor (.observer id) store = .idle store :=
        (if_neg held).trans (if_neg asked)
      rw [if_neg asked, passed]
      exact (proceeds_idle store).cons free skipped

/-- The dispatch of one cursor proceeds through the agenda of all subscribers in order. -/
theorem dispatch_proceeds {busy classList : List ObserverId} (cursor : Cursor)
    (subscribers : List Subscriber) {store : Store σ}
    (sound : ∀ id, id ∉ busy → .observer id ∈ subscribers ∨ id ∈ classList →
      behaviour.Always behaviour.Sound (store.get id)) :
    behaviour.Proceeds
      (behaviour.agenda busy classList (subscribers.map fun subscriber => (cursor, subscriber))
        store) store
      (behaviour.dispatch busy classList cursor subscribers store) := by
  induction subscribers generalizing store with
  | nil => exact proceeds_idle store
  | cons subscriber rest inductionHypothesis =>
    have onClasses : ∀ id ∈ classList, id ∉ busy →
        behaviour.Always behaviour.Sound (store.get id) :=
      fun id listed idle => sound id idle (.inr listed)
    rw [List.map_cons, agenda, dispatch]
    apply Proceeds.andThen
    · cases subscriber with
      | expander => exact handTo_expander_proceeds cursor onClasses
      | observer id =>
        apply handTo_observer_proceeds cursor ?_ onClasses
        intro idle
        exact (sound id idle (.inl List.mem_cons_self)).now
    · apply inductionHypothesis
      intro id idle listed
      refine (sound id idle ?_).afterTurns _
      exact listed.imp_left (List.mem_cons_of_mem _)

/-- The dispatch of all cursors proceeds through the agenda of the registry. -/
theorem dispatchAll_proceeds {busy : List ObserverId} {registry : Registry}
    (cursors : List Cursor) {store : Store σ}
    (sound : ∀ id, id ∉ busy → .observer id ∈ registry.cursorList ∨ id ∈ registry.classList →
      behaviour.Always behaviour.Sound (store.get id)) :
    behaviour.Proceeds
      (behaviour.agenda busy registry.classList (registry.handovers cursors) store) store
      (behaviour.dispatchAll busy registry cursors store) := by
  induction cursors generalizing store with
  | nil => exact proceeds_idle store
  | cons cursor rest inductionHypothesis =>
    rw [Registry.handovers, List.flatMap_cons, agenda_append, dispatchAll]
    apply Proceeds.andThen
    · exact dispatch_proceeds cursor registry.cursorList sound
    · apply inductionHypothesis
      intro id idle listed
      exact (sound id idle listed).afterTurns _

end Behaviour

end DeclScope
