import DeclScope.Proofs.Analyzer
import DeclScope.Proofs.Observer.Registry
import DeclScope.Proofs.Walk.Announced

/-!
# Which classes a parse reports

A parse hands out the classes that the top-level walk announces.  Together with what is known of
that walk this is exact: each class definition in the outermost scopes goes once to everyone who
takes definitions, in preorder, and nothing else does.

This needs observers that never fail, that nobody else is using, and that leave announcements to the
expander.  A second expander among the observers announces every class once more.
-/

namespace DeclScope

/-- Whom an event gives a class definition. -/
def Event.delivery? : Event → Option (ObserverId × ClassDefinition)
  | .classCall id definition => some (id, definition)
  | _ => none

/-- Whom a turn is to give a class definition. -/
def Turn.delivery? : Turn → Option (ObserverId × ClassDefinition)
  | .definition id given => some (id, given)
  | .cursor _ _ => none

/-- The class definitions that a run gives to observers, in order. -/
def Run.deliveries {σ : Type} (run : Run σ) : List (ObserverId × ClassDefinition) :=
  run.events.filterMap Event.delivery?

/-- The deliveries of a run are among its calls. -/
theorem Run.deliveries_eq {σ : Type} (run : Run σ) :
    run.deliveries = run.calls.filterMap Event.delivery? := by
  rw [calls, List.filterMap_filter]
  apply List.filterMap_congr
  intro event _
  cases event <;> rfl

namespace Registry

variable {σ : Type}

/-- The subscribed observers never fail and leave announcements to the expander, and those who get
class definitions take them, in whatever states they come to. -/
structure Dependable (registry : Registry) (behaviour : Behaviour σ) (store : Store σ) : Prop where
  silent : ∀ id, .observer id ∈ registry.cursorList →
    behaviour.Always behaviour.Silent (store.get id)
  steadyOnCursors : ∀ id, .observer id ∈ registry.cursorList →
    behaviour.Always behaviour.Steady (store.get id)
  steadyOnClasses : ∀ id ∈ registry.classList, behaviour.Always behaviour.Steady (store.get id)
  takesClasses : ∀ id ∈ registry.classList,
    behaviour.Always (behaviour.takesClasses · = true) (store.get id)

/-- The deliveries that one cursor leads to, when the expander is in front of all observers. -/
theorem deliveries_of_cursor (classList observers : List ObserverId) (cursor : Cursor) :
    ((expanderFirst observers).flatMap (turnsOf classList cursor)).filterMap Turn.delivery? =
      if Expander.announces cursor then
        classList.map fun id => (id, (ClassDefinition.expand cursor).1)
      else [] := by
  have behind : ((observers.map Subscriber.observer).flatMap
      (turnsOf classList cursor)).filterMap Turn.delivery? = [] := by
    rw [List.flatMap_map, List.filterMap_flatMap, List.flatMap_eq_nil_iff]
    intro id _
    rfl
  rw [expanderFirst, List.flatMap_cons, List.filterMap_append, behind, List.append_nil, turnsOf]
  split
  · rw [List.filterMap_cons_none rfl, List.filterMap_map]
    exact congrFun List.filterMap_eq_map classList
  · rfl

/-- The deliveries that the cursors of a schedule lead to: each class that is announced goes to
everyone who takes definitions. -/
theorem deliveries_schedule {registry : Registry} (built : registry.Built)
    (cursors : List Cursor) :
    (registry.schedule cursors).filterMap Turn.delivery? =
      (cursors.filter Expander.announces).flatMap fun cursor =>
        registry.classList.map fun id => (id, (ClassDefinition.expand cursor).1) := by
  obtain ⟨observers, first⟩ := built.cursorList_eq
  rw [schedule, first, List.filterMap_flatMap]
  induction cursors with
  | nil => rfl
  | cons cursor rest inductionHypothesis =>
    rw [List.flatMap_cons, inductionHypothesis, deliveries_of_cursor]
    by_cases announces : Expander.announces cursor = true
    · rw [if_pos announces, List.filter_cons_of_pos announces, List.flatMap_cons]
    · rw [if_neg announces, List.filter_cons_of_neg announces, List.nil_append]

end Registry

namespace Behaviour

variable {σ : Type} {behaviour : Behaviour σ}

/-- The turn of an observer that never fails, and that takes the definition if it is to get one. -/
def Safe (behaviour : Behaviour σ) (store : Store σ) : Turn → Prop
  | .cursor .expander _ => True
  | .cursor (.observer id) _ => behaviour.Always behaviour.Steady (store.get id)
  | .definition id _ =>
    behaviour.Always behaviour.Steady (store.get id) ∧
      behaviour.Always (behaviour.takesClasses · = true) (store.get id)

/-- A safe turn is still safe after any other. -/
theorem Safe.take {store : Store σ} {turn : Turn} (safe : behaviour.Safe store turn)
    (other : Turn) : behaviour.Safe (behaviour.take store other).2 turn := by
  match turn, safe with
  | .cursor .expander _, _ => exact trivial
  | .cursor (.observer id) _, steady => exact Always.take steady other
  | .definition id _, ⟨steady, takes⟩ => exact ⟨steady.take other, takes.take other⟩

/-- The call of a safe turn does not fail, and makes the delivery of the turn. -/
theorem take_of_safe {store : Store σ} {turn : Turn} (safe : behaviour.Safe store turn) :
    (∀ call ∈ (behaviour.take store turn).1.toList, call.failure? = none) ∧
      ((behaviour.take store turn).1.toList.map (·.event)).filterMap Event.delivery? =
        turn.delivery?.toList := by
  match turn, safe with
  | .cursor .expander cursor, _ =>
    unfold Behaviour.take
    dsimp only
    split <;> simp [Event.delivery?, Turn.delivery?]
  | .cursor (.observer id) cursor, steady =>
    have calm := steady.now.1 cursor
    unfold Behaviour.take
    dsimp only
    split <;> simp [Event.delivery?, Turn.delivery?, calm]
  | .definition id definition, ⟨steady, takes⟩ =>
    have calm := steady.now.2 definition
    unfold Behaviour.take
    dsimp only
    rw [if_pos takes.now]
    simp [Event.delivery?, Turn.delivery?, calm]

/-- No intended call of safe turns fails, and together they make the deliveries of the turns. -/
theorem intended_of_safe {turns : List Turn} {store : Store σ}
    (safe : ∀ turn ∈ turns, behaviour.Safe store turn) :
    (∀ call ∈ behaviour.intended turns store, call.failure? = none) ∧
      ((behaviour.intended turns store).map (·.event)).filterMap Event.delivery? =
        turns.filterMap Turn.delivery? := by
  induction turns generalizing store with
  | nil => exact ⟨fun _ among => (nomatch among), rfl⟩
  | cons turn rest inductionHypothesis =>
    obtain ⟨calm, delivered⟩ := take_of_safe (safe turn List.mem_cons_self)
    obtain ⟨laterCalm, laterDelivered⟩ := inductionHypothesis
      fun other listed => (safe other (List.mem_cons_of_mem turn listed)).take turn
    rw [intended]
    refine ⟨?_, ?_⟩
    · intro call among
      rcases List.mem_append.mp among with here | later
      · exact calm call here
      · exact laterCalm call later
    · rw [List.map_append, List.filterMap_append, delivered, laterDelivered]
      cases given : turn.delivery? with
      | none => rw [List.filterMap_cons_none given]; rfl
      | some delivery => rw [List.filterMap_cons_some given]; rfl

/-- The turns of a dependable registry are safe. -/
theorem safe_of_mem_schedule {registry : Registry} {store : Store σ}
    (dependable : registry.Dependable behaviour store) {cursors : List Cursor} {turn : Turn}
    (listed : turn ∈ registry.schedule cursors) : behaviour.Safe store turn := by
  obtain ⟨cursor, -, among⟩ := List.mem_flatMap.mp listed
  obtain ⟨subscriber, subscribed, here⟩ := List.mem_flatMap.mp among
  cases subscriber with
  | observer id =>
    cases List.mem_singleton.mp here
    exact dependable.steadyOnCursors id subscribed
  | expander =>
    rcases List.mem_cons.mp here with rfl | behind
    · exact trivial
    · split at behind
      · obtain ⟨id, takes, rfl⟩ := List.mem_map.mp behind
        exact ⟨dependable.steadyOnClasses id takes, dependable.takesClasses id takes⟩
      · cases behind

end Behaviour

namespace Analyzer

variable {σ : Type}

/-- A parse of a unit with dependable observers ends well and reports the class definitions in the
outermost scopes: in preorder, each once to everyone who takes definitions, and nothing else. -/
theorem parseUnit_reports_classes (analyzer : Analyzer) (behaviour : Behaviour σ)
    (unit : TranslationUnit) (store : Store σ) (sole : unit.tree.HasSoleUnit)
    (built : analyzer.registry.Built) (dependable : analyzer.registry.Dependable behaviour store) :
    let run := analyzer.parseUnit behaviour [] unit store
    run.outcome = .ok () ∧ ∃ nodes : List Node,
      (∀ node, node ∈ nodes ↔ unit.root.IsOuterClass node) ∧
      nodes.Pairwise Node.Precedes ∧
      run.deliveries = nodes.flatMap fun node => analyzer.registry.classList.map fun id =>
        (id, (ClassDefinition.expand (unit.cursorAt node)).1) := by
  intro run
  have follows : behaviour.Follows _ store run := parseUnit_follows sole.1 dependable.silent
  obtain ⟨calm, delivered⟩ := Behaviour.intended_of_safe fun _ listed =>
    Behaviour.safe_of_mem_schedule dependable listed
  have succeeded : run.outcome = .ok () := follows.outcome_eq_ok_iff.mpr calm
  refine ⟨succeeded, unit.root.classesIn, fun node => Node.mem_classesIn_iff, ?_, ?_⟩
  · exact Node.pairwise_classesIn fun child _ => Node.pairwise_outerClasses child
  · calc run.deliveries
        = run.calls.filterMap Event.delivery? := run.deliveries_eq
      _ = (analyzer.registry.schedule (unit.cursor.toplevelWalk.map (·.1))).filterMap
            Turn.delivery? := by
          rw [follows.calls_eq_of_ok succeeded, delivered]
      _ = (unit.root.classesIn.map unit.cursorAt).flatMap fun cursor =>
            analyzer.registry.classList.map fun id => (id, (ClassDefinition.expand cursor).1) := by
          rw [Registry.deliveries_schedule built, Cursor.filter_toplevelWalk sole]
      _ = _ := List.flatMap_map unit.cursorAt _ _

/-- The nested unit has one class definition.  It goes to a tally and to a collector, in the order
in which they were added. -/
theorem parseUnit_reports_nested :
    let registry : Registry := ⟨[.expander, .observer "t"], ["t", "c"]⟩
    let store : Store Instrument := ⟨.inert, [("t", .tally true 0), ("c", .collector [])]⟩
    let run := parseUnit { registry } Instrument.behaviour [] .nested store
    TranslationUnit.nested.tree.HasSoleUnit ∧ registry.Built ∧
      registry.Dependable Instrument.behaviour store ∧
      run.deliveries.map (fun delivery => (delivery.1, delivery.2.declaration.usr)) =
        [("t", "c:@N@a@S@X"), ("c", "c:@N@a@S@X")] ∧
      ∃ nodes : List Node,
        (∀ node, node ∈ nodes ↔ TranslationUnit.nested.root.IsOuterClass node) ∧
        nodes.Pairwise Node.Precedes ∧
        run.deliveries = nodes.flatMap fun node => registry.classList.map fun id =>
          (id, (ClassDefinition.expand (TranslationUnit.nested.cursorAt node)).1) := by
  intro registry store run
  have sole : TranslationUnit.nested.tree.HasSoleUnit := by decide
  have first : Registry.Built ⟨[.expander, .observer "t"], ["t"]⟩ :=
    .add .initial (show Registry.initial.add "t" false true true = .ok _ from rfl)
  have built : registry.Built := .add first (show Registry.add _ "c" false false true = _ from rfl)
  have onCursors {property : Instrument → Prop} (holds : property (.tally true 0)) :
      ∀ id, .observer id ∈ registry.cursorList → property (store.get id) := by
    intro id listed
    have same : id = "t" := by simpa [registry] using listed
    subst same
    exact holds
  have onClasses {property : Instrument → Prop} (holds : property (.tally true 0))
      (alsoHolds : property (.collector [])) :
      ∀ id ∈ registry.classList, property (store.get id) := by
    intro id listed
    have same : id = "t" ∨ id = "c" := by simpa [registry] using listed
    rcases same with rfl | rfl
    · exact holds
    · exact alsoHolds
  have dependable : registry.Dependable Instrument.behaviour store := by
    refine ⟨onCursors ?_, onCursors ?_, onClasses ?_ ?_, onClasses ?_ ?_⟩
    · exact Instrument.always_silent rfl
    · exact Instrument.always_steady rfl
    · exact Instrument.always_steady rfl
    · exact Instrument.always_steady rfl
    · exact Instrument.always_takesClasses rfl
    · exact Instrument.always_takesClasses rfl
  refine ⟨sole, built, dependable, by decide +kernel, ?_⟩
  exact (parseUnit_reports_classes { registry } Instrument.behaviour .nested store sole built
    dependable).2

/-- With a second expander among the observers a class is reported twice, although no observer
fails. -/
theorem parseUnit_reports_twice :
    let registry : Registry := ⟨[.expander, .observer "e"], ["c"]⟩
    let store : Store Instrument := ⟨.inert, [("e", .expander), ("c", .collector [])]⟩
    let run := parseUnit { registry } Instrument.behaviour [] .nested store
    TranslationUnit.nested.tree.HasSoleUnit ∧ registry.Built ∧
      Instrument.behaviour.Always Instrument.behaviour.Steady (store.get "e") ∧
      Instrument.behaviour.Always Instrument.behaviour.Steady (store.get "c") ∧
      Instrument.behaviour.Always (Instrument.behaviour.takesClasses · = true) (store.get "c") ∧
      ¬ ∃ nodes : List Node,
        (∀ node, node ∈ nodes ↔ TranslationUnit.nested.root.IsOuterClass node) ∧
        nodes.Pairwise Node.Precedes ∧
        run.deliveries = nodes.flatMap fun node => registry.classList.map fun id =>
          (id, (ClassDefinition.expand (TranslationUnit.nested.cursorAt node)).1) := by
  intro registry store run
  have first : Registry.Built ⟨[.expander, .observer "e"], []⟩ :=
    .add .initial (show Registry.initial.add "e" false true false = .ok _ from rfl)
  have built : registry.Built := .add first (show Registry.add _ "c" false false true = _ from rfl)
  refine ⟨by decide, built, Instrument.always_steady rfl, Instrument.always_steady rfl,
    Instrument.always_takesClasses rfl, ?_⟩
  rintro ⟨nodes, members, ordered, delivered⟩
  have twice : run.deliveries.length = 2 := by decide +kernel
  have once : TranslationUnit.nested.root.classesIn.length = 1 := by decide +kernel
  obtain ⟨only, listed⟩ := List.length_eq_one_iff.mp once
  have same : ∀ node ∈ nodes, node = only := by
    intro node mem
    have among := Node.mem_classesIn_iff.mpr ((members node).mp mem)
    rw [listed] at among
    exact List.mem_singleton.mp among
  rw [delivered] at twice
  -- Nodes in preorder are distinct, so there is one of them, and one delivery.
  match nodes with
  | [] => cases twice
  | [_] => cases twice
  | left :: right :: _ =>
    have before : left.Precedes right := List.rel_of_pairwise_cons ordered List.mem_cons_self
    rw [same left List.mem_cons_self, same right (List.mem_cons_of_mem _ List.mem_cons_self)]
      at before
    exact Node.not_precedes_self only before

end Analyzer

end DeclScope
