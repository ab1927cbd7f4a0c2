import DeclScope.Proofs.Analyzer
import DeclScope.Proofs.Observer.Agenda
import DeclScope.Proofs.Observer.Registry
import DeclScope.Proofs.Walk.Toplevel

/-!
# A parse while an observer is in use

When the caller keeps an observer for the duration of a parse, the parse ends with `observerBusy`
at the first turn of that observer.  If the observer gets cursors, that is when the first cursor
comes, whatever kinds it asks for; if it only takes class definitions, that is when the first class
is announced.  If there is no such turn, the parse does not notice.  The observer is never called.

The others are taken not to fail.  This includes that what they announce reaches nobody in use, for
an observer fails with its announcement.  An observer that takes definitions and announces one
itself is in use at its own turn: the announcement reaches those before it, and no further.
-/

namespace DeclScope

namespace Registry

/-- The subscribers get each cursor, and nothing else is handed out. -/
theorem mem_handovers {registry : Registry} {cursors : List Cursor} {cursor : Cursor}
    {subscriber : Subscriber} :
    (cursor, subscriber) ∈ registry.handovers cursors ↔
      cursor ∈ cursors ∧ subscriber ∈ registry.cursorList := by
  simp [handovers]

/-- In a registry that comes about, the expander gets cursors. -/
theorem Built.expander_mem {registry : Registry} (built : registry.Built) :
    .expander ∈ registry.cursorList := by
  obtain ⟨observers, first⟩ := built.cursorList_eq
  rw [first]
  exact List.mem_cons_self

end Registry

namespace Behaviour

variable {σ : Type} (behaviour : Behaviour σ)

/-- In this state, what an observer announces reaches nobody in use. -/
def Delivers (inUse classList : List ObserverId) (state : σ) : Prop :=
  ∀ cursor, behaviour.asks state cursor = true → ∀ definition,
    (behaviour.onCursor state cursor).conclusion.announced? = some definition →
      ∀ id ∈ classList, id ∉ inUse

/-- The observers of a registry that are not in use never fail, in whatever states they come to:
neither by themselves nor with an announcement, during which they are in use too. -/
structure Unfailing (busy : List ObserverId) (registry : Registry) (store : Store σ) : Prop where
  sound : ∀ id, id ∉ busy → .observer id ∈ registry.cursorList ∨ id ∈ registry.classList →
    behaviour.Always behaviour.Sound (store.get id)
  delivers : ∀ id, id ∉ busy → .observer id ∈ registry.cursorList →
    behaviour.Always (behaviour.Delivers (id :: busy) registry.classList) (store.get id)

variable {behaviour} {slots : List Slot} {store : Store σ} {run : Run σ}

/-- An observer that fails on nothing is sound. -/
theorem Steady.sound {state : σ} (steady : behaviour.Steady state) : behaviour.Sound state :=
  ⟨fun cursor _ => steady.1 cursor, fun _ => steady.2⟩

/-- An observer that announces nothing delivers everything. -/
theorem Silent.delivers {state : σ} (silent : behaviour.Silent state)
    (inUse classList : List ObserverId) : behaviour.Delivers inUse classList state := by
  intro cursor _ definition announced
  cases concluded : (behaviour.onCursor state cursor).conclusion with
  | announces other => exact absurd concluded (silent cursor other)
  | done | failed =>
    rw [concluded] at announced
    cases announced

/-- A run through slots is ended by somebody in use exactly if a turn is held. -/
theorem Proceeds.outcome_eq_busy_iff (proceeds : behaviour.Proceeds slots store run) :
    run.outcome = .error .observerBusy ↔ ∃ slot ∈ slots, slot.Held := by
  cases proceeds with
  | completed free made ended left =>
    constructor
    · intro stopped
      cases ended.symm.trans stopped
    · rintro ⟨slot, listed, held⟩
      exact absurd held (free slot listed)
  | halted earlier later slot split free held made ended =>
    refine ⟨fun _ => ⟨slot, ?_, held⟩, fun _ => ended⟩
    rw [split]
    exact List.mem_append_right earlier List.mem_cons_self

/-- A run stops at the first turn that is held, wherever the slots are cut there. -/
theorem Proceeds.halted_at {earlier later : List Slot} {slot : Slot}
    (proceeds : behaviour.Proceeds (earlier ++ slot :: later) store run)
    (free : ∀ slot ∈ earlier, ¬ slot.Held) (held : slot.Held) :
    run.outcome = .error .observerBusy ∧ run.calls = behaviour.callsOf earlier store := by
  cases proceeds with
  | completed allFree made ended left =>
    exact absurd held (allFree slot (List.mem_append_right earlier List.mem_cons_self))
  | halted before behind other split alsoFree alsoHeld made ended =>
    obtain ⟨rfl, -⟩ := Slot.first_held_unique split free held alsoFree alsoHeld
    exact ⟨ended, made⟩

/-- A run through slots makes calls of turns that are not held, and no others. -/
theorem Proceeds.free_of_mem_calls (proceeds : behaviour.Proceeds slots store run) {event : Event}
    (mem : event ∈ run.calls) :
    ∃ slot ∈ slots, ¬ slot.Held ∧ event.observer? = slot.turn.observer? := by
  cases proceeds with
  | completed free made ended left =>
    rw [made] at mem
    obtain ⟨slot, listed, same⟩ := observer?_of_mem_callsOf mem
    exact ⟨slot, listed, free slot listed, same⟩
  | halted earlier later slot split free held made ended =>
    rw [made] at mem
    obtain ⟨other, listed, same⟩ := observer?_of_mem_callsOf mem
    refine ⟨other, ?_, free other listed, same⟩
    rw [split]
    exact List.mem_append_left _ listed

/-- When the held turns are those of one observer, a run ends at the first of them, having made the
calls before it, or there is none and the run makes all calls.  That observer is never called. -/
theorem Proceeds.until_turn_of {borrowed : ObserverId}
    (proceeds : behaviour.Proceeds slots store run)
    (held : ∀ slot ∈ slots, slot.Held ↔ slot.turn.observer? = some borrowed) :
    (run.outcome = .error .observerBusy → ∃ earlier slot later,
      slots = earlier ++ slot :: later ∧ slot.turn.observer? = some borrowed ∧
      (∀ other ∈ earlier, other.turn.observer? ≠ some borrowed) ∧
      run.calls = behaviour.callsOf earlier store) ∧
    (run.outcome ≠ .error .observerBusy →
      run.outcome = .ok () ∧ run.calls = behaviour.callsOf slots store) ∧
    ∀ event ∈ run.calls, event.observer? ≠ some borrowed := by
  refine ⟨?_, ?_, ?_⟩
  · intro stopped
    cases proceeds with
    | completed free made ended left => cases ended.symm.trans stopped
    | halted earlier later slot split free itsTurn made ended =>
      rw [split] at held
      refine ⟨earlier, slot, later, split, ?_, ?_, made⟩
      · exact (held slot (List.mem_append_right earlier List.mem_cons_self)).mp itsTurn
      · intro other mem
        exact (held other (List.mem_append_left _ mem)).not.mp (free other mem)
  · intro unstopped
    cases proceeds with
    | completed free made ended left => exact ⟨ended, made⟩
    | halted earlier later slot split free itsTurn made ended => exact absurd ended unstopped
  · intro event mem
    obtain ⟨slot, listed, free, same⟩ := proceeds.free_of_mem_calls mem
    rw [same]
    exact (held slot listed).not.mp free

section Agenda

variable {busy : List ObserverId} {borrowed : ObserverId} {registry : Registry}
  {cursors : List Cursor}

/-- A turn of an agenda is a cursor for a subscriber, a class that the expander announces, or a
class that an observer announces, itself in use then.  One that never fails reaches nobody in
use. -/
theorem slot_cases (unfailing : behaviour.Unfailing busy registry store) {slot : Slot}
    (mem : slot ∈ behaviour.agenda busy registry.classList (registry.handovers cursors) store) :
    (∃ cursor, ∃ subscriber ∈ registry.cursorList, slot = ⟨busy, .cursor subscriber cursor⟩) ∨
    (∃ cursor ∈ cursors, Expander.announces cursor = true ∧ ∃ id ∈ registry.classList,
      slot = ⟨busy, .definition id (ClassDefinition.expand cursor).1⟩) ∨
    ∃ announcer id definition, .observer announcer ∈ registry.cursorList ∧
      slot = ⟨announcer :: busy, .definition id definition⟩ ∧
      (announcer ∈ busy ∨ id ∉ announcer :: busy) := by
  obtain ⟨before, cursor, subscriber, behind, split, here⟩ := mem_agenda_iff.mp mem
  have handed : (cursor, subscriber) ∈ registry.handovers cursors := by
    rw [split]
    exact List.mem_append_right before List.mem_cons_self
  obtain ⟨visited, subscribed⟩ := Registry.mem_handovers.mp handed
  rcases List.mem_cons.mp here with rfl | delivery
  · exact .inl ⟨cursor, subscriber, subscribed, rfl⟩
  · obtain ⟨definition, announced, id, takes, rfl⟩ := Slot.mem_deliveries.mp delivery
    cases subscriber with
    | expander =>
      rw [announced?] at announced
      split at announced
      · rename_i announces
        cases announced
        exact .inr (.inl ⟨cursor, visited, announces, id, takes, rfl⟩)
      · cases announced
    | observer announcer =>
      refine .inr (.inr ⟨announcer, id, definition, subscribed, rfl, ?_⟩)
      by_cases used : announcer ∈ busy
      · exact .inl used
      · have delivers := unfailing.delivers announcer used subscribed
        rw [announced?] at announced
        split at announced
        · rename_i asked
          exact .inr ((delivers.afterTurns _).now cursor asked definition announced id takes)
        · cases announced

/-- While one observer is in use, the held turns are those of that observer. -/
theorem held_iff_of_mem_agenda (unfailing : behaviour.Unfailing [borrowed] registry store)
    {slot : Slot} (mem : slot ∈ behaviour.agenda [borrowed] registry.classList
      (registry.handovers cursors) store) :
    slot.Held ↔ slot.turn.observer? = some borrowed := by
  have only (turn : Turn) :
      (Slot.mk [borrowed] turn).Held ↔ turn.observer? = some borrowed := by
    simp [Slot.Held]
  rcases slot_cases unfailing mem with ⟨cursor, subscriber, _, rfl⟩ |
    ⟨cursor, _, _, id, _, rfl⟩ | ⟨announcer, id, definition, _, rfl, itself | unheld⟩
  · exact only _
  · exact only _
  · cases List.mem_singleton.mp itself
    simp [Slot.Held, Turn.observer?]
  · simp_all [Slot.Held, Turn.observer?]

/-- The observer in use has a turn exactly if it gets cursors, or takes definitions and the expander
announces one. -/
theorem exists_turn_iff (unfailing : behaviour.Unfailing [borrowed] registry store)
    (built : registry.Built) (visited : cursors ≠ []) :
    (∃ slot ∈ behaviour.agenda [borrowed] registry.classList (registry.handovers cursors) store,
      slot.turn.observer? = some borrowed) ↔
      .observer borrowed ∈ registry.cursorList ∨
        borrowed ∈ registry.classList ∧ ∃ cursor ∈ cursors, Expander.announces cursor = true := by
  constructor
  · rintro ⟨slot, mem, itsTurn⟩
    rcases slot_cases unfailing mem with ⟨cursor, subscriber, subscribed, rfl⟩ |
      ⟨cursor, reached, announces, id, takes, rfl⟩ |
      ⟨announcer, id, definition, subscribed, rfl, itself | unheld⟩
    · cases subscriber with
      | expander => cases itsTurn
      | observer id =>
        cases itsTurn
        exact .inl subscribed
    · cases itsTurn
      exact .inr ⟨takes, cursor, reached, announces⟩
    · cases List.mem_singleton.mp itself
      exact .inl subscribed
    · cases itsTurn
      exact absurd (List.mem_cons_of_mem announcer List.mem_cons_self) unheld
  · rintro (subscribed | ⟨takes, cursor, reached, announces⟩)
    · obtain ⟨cursor, reached⟩ := List.exists_mem_of_ne_nil cursors visited
      obtain ⟨before, behind, split⟩ :=
        List.append_of_mem (Registry.mem_handovers.mpr ⟨reached, subscribed⟩)
      refine ⟨⟨[borrowed], .cursor (.observer borrowed) cursor⟩, ?_, rfl⟩
      exact mem_agenda_iff.mpr ⟨before, cursor, _, behind, split, List.mem_cons_self⟩
    · obtain ⟨before, behind, split⟩ :=
        List.append_of_mem (Registry.mem_handovers.mpr ⟨reached, built.expander_mem⟩)
      refine ⟨⟨[borrowed], .definition borrowed (ClassDefinition.expand cursor).1⟩, ?_, rfl⟩
      refine mem_agenda_iff.mpr ⟨before, cursor, _, behind, split, List.mem_cons_of_mem _ ?_⟩
      exact Slot.mem_deliveries.mpr ⟨_, if_pos announces, borrowed, takes, rfl⟩

/-- An observer that takes definitions and announces one itself has its turn while it is in use.
Up to there the slots of its announcement are those of everyone before it. -/
theorem slotsOn_own_announcement {classList : List ObserverId} {id : ObserverId} {cursor : Cursor}
    {definition : ClassDefinition} (takes : id ∈ classList)
    (announced : behaviour.announced? store cursor (.observer id) = some definition) :
    ∃ before behind rest, classList = before ++ id :: behind ∧ id ∉ before ∧
      let front : List Slot := ⟨[], .cursor (.observer id) cursor⟩ ::
        before.map fun other => ⟨[id], .definition other definition⟩
      (∀ slot ∈ front, ¬ slot.Held) ∧
      behaviour.slotsOn [] classList store cursor (.observer id) =
        front ++ ⟨[id], .definition id definition⟩ :: rest := by
  obtain ⟨before, behind, split, first⟩ := List.eq_append_cons_of_mem takes
  refine ⟨before, behind, behind.map fun other => ⟨[id], .definition other definition⟩, split,
    first, ?_, ?_⟩
  · refine List.forall_mem_cons.mpr ⟨?_, ?_⟩
    · rintro ⟨_, _, ⟨⟩⟩
    · intro slot mem
      obtain ⟨other, ahead, rfl⟩ := List.mem_map.mp mem
      rintro ⟨_, ⟨⟩, itself⟩
      exact first (List.mem_singleton.mp itself ▸ ahead)
  · rw [slotsOn, announced, Slot.deliveries, Option.toList_some, List.flatMap_singleton, split,
      List.map_append, List.map_cons, List.cons_append]
    rfl

end Agenda

end Behaviour

namespace Analyzer

variable {σ : Type}

/-- The parse of a translation unit proceeds through the agenda of the top-level walk. -/
theorem parseUnit_proceeds {analyzer : Analyzer} {behaviour : Behaviour σ}
    {busy : List ObserverId} {unit : TranslationUnit} {store : Store σ}
    (isUnit : unit.root.kind = .translationUnit)
    (sound : ∀ id, id ∉ busy →
      .observer id ∈ analyzer.registry.cursorList ∨ id ∈ analyzer.registry.classList →
      behaviour.Always behaviour.Sound (store.get id)) :
    behaviour.Proceeds
      (behaviour.agenda busy analyzer.registry.classList
        (analyzer.registry.handovers (unit.cursor.toplevelWalk.map (·.1))) store) store
      (analyzer.parseUnit behaviour busy unit store) := by
  rw [parseUnit, if_pos ((kind_cursor_iff unit).mpr isUnit)]
  apply Behaviour.Proceeds.after ?_ rfl
  -- The closing log record is a run of its own, on no turns.
  rw [← List.append_nil (behaviour.agenda _ _ _ _)]
  apply Behaviour.Proceeds.andThen
  · exact Behaviour.dispatchAll_proceeds _ sound
  · exact (Behaviour.proceeds_idle _).after rfl

/-- An observer that takes definitions and announces one itself, when the parse gets that far, ends
the parse once those before it have got the definition. -/
theorem parseUnit_own_announcement {analyzer : Analyzer} {behaviour : Behaviour σ}
    {unit : TranslationUnit} {store : Store σ} (isUnit : unit.root.kind = .translationUnit)
    (sound : ∀ id,
      .observer id ∈ analyzer.registry.cursorList ∨ id ∈ analyzer.registry.classList →
      behaviour.Always behaviour.Sound (store.get id))
    {earlier later : List (Cursor × Subscriber)} {cursor : Cursor} {id : ObserverId}
    {definition : ClassDefinition}
    (split : analyzer.registry.handovers (unit.cursor.toplevelWalk.map (·.1)) =
      earlier ++ (cursor, .observer id) :: later)
    (reached : ∀ slot ∈ behaviour.agenda [] analyzer.registry.classList earlier store, ¬ slot.Held)
    (takes : id ∈ analyzer.registry.classList)
    (announced : behaviour.announced? (behaviour.afterSlots
      (behaviour.agenda [] analyzer.registry.classList earlier store) store) cursor
      (.observer id) = some definition) :
    let run := analyzer.parseUnit behaviour [] unit store
    run.outcome = .error .observerBusy ∧ ∃ before behind,
      analyzer.registry.classList = before ++ id :: behind ∧ id ∉ before ∧
      run.calls = behaviour.callsOf
        (behaviour.agenda [] analyzer.registry.classList earlier store ++
          ⟨[], .cursor (.observer id) cursor⟩ ::
          before.map fun other => ⟨[id], .definition other definition⟩) store := by
  intro run
  have proceeds : behaviour.Proceeds _ store run :=
    parseUnit_proceeds isUnit fun id _ subscribed => sound id subscribed
  obtain ⟨before, behind, rest, listed, first, free, slots⟩ :=
    Behaviour.slotsOn_own_announcement takes announced
  rw [split, Behaviour.agenda_append, Behaviour.agenda, slots, List.append_assoc,
    ← List.append_assoc] at proceeds
  obtain ⟨ended, made⟩ := proceeds.halted_at (List.forall_mem_append.mpr ⟨reached, free⟩)
    ⟨id, rfl, List.mem_cons_self⟩
  exact ⟨ended, before, behind, listed, first, made⟩

/-- A parse while an observer is in use, and others never fail.

It ends with `observerBusy` exactly if that observer gets cursors, or takes definitions and the walk
comes to a class definition.  The calls before are those of the turns before its first, asked for or
not.  Otherwise the parse ends well with all calls.  The observer is never called.

An observer in both lists that announces a class is in use as well: the announcement comes back with
`observerBusy` after everyone before it has got the class. -/
theorem parseUnit_while_busy (analyzer : Analyzer) (behaviour : Behaviour σ)
    (unit : TranslationUnit) (store : Store σ) (borrowed : ObserverId)
    (isUnit : unit.root.kind = .translationUnit) (built : analyzer.registry.Built) :
    let classList := analyzer.registry.classList
    let cursors := unit.cursor.toplevelWalk.map (·.1)
    let handovers := analyzer.registry.handovers cursors
    (behaviour.Unfailing [borrowed] analyzer.registry store →
      let run := analyzer.parseUnit behaviour [borrowed] unit store
      let slots := behaviour.agenda [borrowed] classList handovers store
      (run.outcome = .error .observerBusy ↔ .observer borrowed ∈ analyzer.registry.cursorList ∨
        borrowed ∈ classList ∧ ∃ cursor ∈ cursors, Expander.announces cursor = true) ∧
      (run.outcome = .error .observerBusy → ∃ earlier slot later,
        slots = earlier ++ slot :: later ∧ slot.turn.observer? = some borrowed ∧
        (∀ other ∈ earlier, other.turn.observer? ≠ some borrowed) ∧
        run.calls = behaviour.callsOf earlier store) ∧
      (run.outcome ≠ .error .observerBusy →
        run.outcome = .ok () ∧ run.calls = behaviour.callsOf slots store) ∧
      ∀ event ∈ run.calls, event.observer? ≠ some borrowed) ∧
    ((∀ id, .observer id ∈ analyzer.registry.cursorList ∨ id ∈ classList →
        behaviour.Always behaviour.Sound (store.get id)) →
      let run := analyzer.parseUnit behaviour [] unit store
      ∀ earlier cursor id later definition,
        let slots := behaviour.agenda [] classList earlier store
        handovers = earlier ++ (cursor, .observer id) :: later → (∀ slot ∈ slots, ¬ slot.Held) →
        id ∈ classList →
        behaviour.announced? (behaviour.afterSlots slots store) cursor (.observer id) =
          some definition →
        run.outcome = .error .observerBusy ∧ ∃ before behind,
          classList = before ++ id :: behind ∧ id ∉ before ∧
          run.calls = behaviour.callsOf (slots ++ ⟨[], .cursor (.observer id) cursor⟩ ::
            before.map fun other => ⟨[id], .definition other definition⟩) store) := by
  intro classList cursors handovers
  refine ⟨?_, ?_⟩
  · intro unfailing run slots
    have proceeds : behaviour.Proceeds slots store run := parseUnit_proceeds isUnit unfailing.sound
    have visited : cursors ≠ [] := by
      simp [cursors, Cursor.toplevelWalk_eq]
    have held : ∀ slot ∈ slots, slot.Held ↔ slot.turn.observer? = some borrowed :=
      fun slot mem => Behaviour.held_iff_of_mem_agenda unfailing mem
    refine ⟨?_, proceeds.until_turn_of held⟩
    rw [proceeds.outcome_eq_busy_iff, ← Behaviour.exists_turn_iff unfailing built visited]
    exact exists_congr fun slot => and_congr_right (held slot)
  · intro sound run earlier cursor id later definition slots split reached takes announced
    exact parseUnit_own_announcement isUnit sound split reached takes announced

/-- An observer that asks for classes and echoes each of them to itself.  While the caller keeps it,
the parse ends at the root, for which it did not ask, after the one call before its turn.  When it
is free, the class of the nested unit is delivered to it once, and its echo is not. -/
theorem parseUnit_while_busy_echo :
    let registry : Registry := ⟨[.expander, .observer "p", .observer "e"], ["t", "e"]⟩
    let echo : ProbeScript := {
      takesCursors := true
      takesClasses := true
      filter := .only [.classDecl]
      echoes := true }
    let store : Store Instrument := ⟨.inert,
      [("p", .probe { takesCursors := true } 0), ("e", .probe echo 0), ("t", .tally false 0)]⟩
    let handovers := registry.handovers (TranslationUnit.nested.cursor.toplevelWalk.map (·.1))
    let kept := parseUnit { registry } Instrument.behaviour ["e"] .nested store
    let free := parseUnit { registry } Instrument.behaviour [] .nested store
    TranslationUnit.nested.root.kind = .translationUnit ∧ registry.Built ∧
      Instrument.behaviour.Unfailing ["e"] registry store ∧
      (∀ id, .observer id ∈ registry.cursorList ∨ id ∈ registry.classList →
        Instrument.behaviour.Always Instrument.behaviour.Sound (store.get id)) ∧
      kept.outcome = .error .observerBusy ∧ kept.calls.map Event.observer? = [some "p"] ∧
      (∃ earlier cursor later definition,
        let slots := Instrument.behaviour.agenda [] registry.classList earlier store
        handovers = earlier ++ (cursor, .observer "e") :: later ∧ (∀ slot ∈ slots, ¬ slot.Held) ∧
        Instrument.behaviour.announced? (Instrument.behaviour.afterSlots slots store) cursor
          (.observer "e") = some definition) ∧
      free.outcome = .error .observerBusy ∧ free.calls.map Event.observer? =
        [some "p", some "p", some "p", none, some "t", some "e", some "p", some "e", some "t"] := by
  intro registry echo store handovers kept free
  have isUnit : TranslationUnit.nested.root.kind = .translationUnit := rfl
  have first : Registry.Built ⟨[.expander], ["t"]⟩ :=
    .add .initial (show Registry.initial.add "t" false false true = .ok _ from rfl)
  have second : Registry.Built ⟨[.expander, .observer "p"], ["t"]⟩ :=
    .add first (show Registry.add _ "p" false true false = _ from rfl)
  have built : registry.Built := .add second (show Registry.add _ "e" false true true = _ from rfl)
  have sound : ∀ id, .observer id ∈ registry.cursorList ∨ id ∈ registry.classList →
      Instrument.behaviour.Always Instrument.behaviour.Sound (store.get id) := by
    intro id subscribed
    have steady : (store.get id).isSteady = true := by
      have known : (id = "p" ∨ id = "e") ∨ id = "t" ∨ id = "e" := by
        simpa [registry] using subscribed
      rcases known with (rfl | rfl) | rfl | rfl <;> rfl
    intro state reached
    exact (Instrument.always_steady steady state reached).sound
  have unfailing : Instrument.behaviour.Unfailing ["e"] registry store := by
    refine ⟨fun id _ => sound id, ?_⟩
    intro id unused subscribed state reached
    have known : id = "p" ∨ id = "e" := by simpa [registry] using subscribed
    have differs : id ≠ "e" := by simpa using unused
    cases known.resolve_right differs
    exact (Instrument.always_silent rfl state reached).delivers _ _
  have slotsFree : ∀ slot ∈ Instrument.behaviour.agenda [] registry.classList (handovers.take 11)
      store, ¬ slot.Held := by decide +kernel
  -- The twelfth handover gives the class to the echo.
  have isEcho : (handovers.drop 11).head?.map (·.2) = some (.observer "e") := by decide +kernel
  have announces : ((handovers.drop 11).head?.bind fun handover =>
      Instrument.behaviour.announced? (Instrument.behaviour.afterSlots
        (Instrument.behaviour.agenda [] registry.classList (handovers.take 11) store) store)
        handover.1 handover.2).isSome = true := by decide +kernel
  obtain ⟨⟨cursor, _⟩, headed, rfl⟩ := Option.map_eq_some_iff.mp isEcho
  rw [headed, Option.bind_some] at announces
  obtain ⟨definition, announced⟩ := Option.isSome_iff_exists.mp announces
  obtain ⟨later, rest⟩ := List.head?_eq_some_iff.mp headed
  have split : handovers = handovers.take 11 ++ (cursor, .observer "e") :: later := by
    rw [← rest, List.take_append_drop]
  obtain ⟨whileKept, whileFree⟩ :=
    parseUnit_while_busy { registry } Instrument.behaviour .nested store "e" isUnit built
  refine ⟨isUnit, built, unfailing, sound, ?_, by decide +kernel, ?_, ?_, by decide +kernel⟩
  · exact (whileKept unfailing).1.mpr (.inl (by decide))
  · exact ⟨handovers.take 11, cursor, later, definition, split, slotsFree, announced⟩
  · exact (whileFree sound _ cursor "e" later definition split slotsFree (by decide) announced).1

end Analyzer

end DeclScope
