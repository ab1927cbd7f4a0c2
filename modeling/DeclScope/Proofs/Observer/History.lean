import DeclScope.Analyzer
import DeclScope.Observer.Instrument
import DeclScope.Proofs.Observer.Registry

/-!
# Who is subscribed after any history

An analyzer starts with nobody added and changes by additions and removals.  Its lists are kept
step by step, but can be read off the history as a whole: a list holds those who were added to it
and have not been removed since, in the order of the additions and as often as they were added.
Both lists follow this rule, each for those who take what it is about.  What an observer takes is
asked when it is added, and later changes of its state do not matter.

An addition that fails leaves no trace, and neither does the removal of somebody who was not there.
-/

namespace DeclScope

/-- A change of who is subscribed. -/
inductive Registration (σ : Type) where
  /-- An observer is added, in the states of the time.  It may be in use. -/
  | add (id : ObserverId) (isBusy : Bool) (store : Store σ)
  /-- An observer is removed. -/
  | remove (id : ObserverId)

namespace Registration

variable {σ : Type}

/-- The observer that a change adds to a list: one that is not in use, and takes what the list is
about. -/
def added? (takes : σ → Bool) : Registration σ → Option ObserverId
  | .add id isBusy store => if !isBusy && takes (store.get id) then some id else none
  | .remove _ => none

/-- Whether a change removes an observer. -/
def removes (id : ObserverId) : Registration σ → Bool
  | .add _ _ _ => false
  | .remove other => id == other

/-- Who was added and has not been removed since, in the order of the additions. -/
def standing (takes : σ → Bool) : List (Registration σ) → List ObserverId
  | [] => []
  | registration :: later =>
    (registration.added? takes).toList.filter (fun id => !later.any (removes id)) ++
      standing takes later

/-- What one change does to a list. -/
def update (takes : σ → Bool) (ids : List ObserverId) (registration : Registration σ) :
    List ObserverId :=
  ids.filter (fun id => !registration.removes id) ++ (registration.added? takes).toList

/-- An addition puts the observer behind all others, if it is not in use and takes what the list is
about. -/
theorem update_add (takes : σ → Bool) (ids : List ObserverId) (id : ObserverId) (isBusy : Bool)
    (store : Store σ) :
    (add id isBusy store).update takes ids =
      ids ++ if !isBusy && takes (store.get id) then [id] else [] := by
  have kept : ids.filter (fun other => !(add id isBusy store).removes other) = ids :=
    List.filter_eq_self.mpr fun _ _ => rfl
  rw [update, kept, added?]
  split <;> rfl

/-- A removal takes the observer out. -/
theorem update_remove (takes : σ → Bool) (ids : List ObserverId) (id : ObserverId) :
    (remove id).update takes ids = ids.filter (· != id) :=
  List.append_nil _

/-- Changes one after the other leave those of a list whom none of them removes, and behind them
those who were added and have not been removed since. -/
theorem foldl_update (takes : σ → Bool) (ids : List ObserverId)
    (history : List (Registration σ)) :
    history.foldl (update takes) ids =
      ids.filter (fun id => !history.any (removes id)) ++ standing takes history := by
  induction history generalizing ids with
  | nil =>
    rw [standing, List.append_nil]
    exact (List.filter_eq_self.mpr fun _ _ => rfl).symm
  | cons registration later inductionHypothesis =>
    have kept : (fun id => !(registration :: later).any (removes id)) =
        fun id => !later.any (removes id) && !registration.removes id := by
      funext id
      rw [List.any_cons, Bool.not_or, Bool.and_comm]
    rw [List.foldl_cons, inductionHypothesis, update, List.filter_append, List.filter_filter, kept,
      standing, List.append_assoc]

end Registration

namespace Analyzer

variable {σ : Type}

/-- The analyzer after a change.  A failed addition leaves it as it was. -/
def register (behaviour : Behaviour σ) (analyzer : Analyzer) : Registration σ → Analyzer
  | .add id isBusy store =>
    match (analyzer.addObserver behaviour isBusy id store).2 with
    | .ok next => next
    | .error _ => analyzer
  | .remove id => analyzer.removeObserver id

variable {behaviour : Behaviour σ}

/-- How an addition ends. -/
theorem addObserver_eq (analyzer : Analyzer) (isBusy : Bool) (id : ObserverId) (store : Store σ) :
    (analyzer.addObserver behaviour isBusy id store).2 =
      if isBusy then .error .observerBusy
      else if behaviour.takesCursors (store.get id) || behaviour.takesClasses (store.get id) then
        .ok { analyzer with registry :=
          ⟨analyzer.registry.cursorList ++
              if behaviour.takesCursors (store.get id) then [.observer id] else [],
            analyzer.registry.classList ++
              if behaviour.takesClasses (store.get id) then [id] else []⟩ }
      else .error .unrecognizedObserver := by
  unfold addObserver Registry.add
  cases isBusy <;> cases behaviour.takesCursors (store.get id) <;>
    cases behaviour.takesClasses (store.get id) <;> rfl

/-- An addition fails exactly if the observer is in use or takes nothing. -/
theorem addObserver_eq_error_iff {analyzer : Analyzer} {isBusy : Bool} {id : ObserverId}
    {store : Store σ} {error : Error} :
    (analyzer.addObserver behaviour isBusy id store).2 = .error error ↔
      isBusy = true ∧ error = .observerBusy ∨
        isBusy = false ∧ behaviour.takesCursors (store.get id) = false ∧
          behaviour.takesClasses (store.get id) = false ∧ error = .unrecognizedObserver := by
  rw [addObserver_eq]
  cases isBusy <;> cases behaviour.takesCursors (store.get id) <;>
    cases behaviour.takesClasses (store.get id) <;> simp [eq_comm]

/-- A failed addition changes nothing. -/
theorem register_of_error {analyzer : Analyzer} {isBusy : Bool} {id : ObserverId}
    {store : Store σ} {error : Error}
    (failed : (analyzer.addObserver behaviour isBusy id store).2 = .error error) :
    analyzer.register behaviour (.add id isBusy store) = analyzer := by
  rw [register, failed]

/-- A change keeps the settings, and does to each list what it does to any. -/
theorem register_eq {analyzer : Analyzer} {observers : List ObserverId}
    (first : analyzer.registry.cursorList = Registry.expanderFirst observers)
    (registration : Registration σ) :
    analyzer.register behaviour registration =
      ⟨analyzer.config,
        Registry.expanderFirst (registration.update behaviour.takesCursors observers),
        registration.update behaviour.takesClasses analyzer.registry.classList⟩ := by
  obtain ⟨config, cursorList, classList⟩ := analyzer
  cases first
  cases registration with
  | add id isBusy store =>
    rw [register, addObserver_eq, Registration.update_add, Registration.update_add]
    cases isBusy <;> cases behaviour.takesCursors (store.get id) <;>
      cases behaviour.takesClasses (store.get id) <;> simp [Registry.expanderFirst]
  | remove id =>
    rw [Registration.update_remove, Registration.update_remove, ← Registry.filter_expanderFirst]
    rfl

/-- A history keeps the settings, and does to each list what it does to any. -/
theorem foldl_register {analyzer : Analyzer} {observers : List ObserverId}
    (first : analyzer.registry.cursorList = Registry.expanderFirst observers)
    (history : List (Registration σ)) :
    history.foldl (register behaviour) analyzer =
      ⟨analyzer.config,
        Registry.expanderFirst
          (history.foldl (Registration.update behaviour.takesCursors) observers),
        history.foldl (Registration.update behaviour.takesClasses)
          analyzer.registry.classList⟩ := by
  induction history generalizing analyzer observers with
  | nil =>
    obtain ⟨config, cursorList, classList⟩ := analyzer
    cases first
    rfl
  | cons registration later inductionHypothesis =>
    rw [List.foldl_cons, register_eq first, inductionHypothesis rfl]
    rfl

/-- What is left of a list when a member is taken out wherever it stands: the others, as often and
in the same order. -/
theorem filter_bne_spec {α : Type} [DecidableEq α] (members : List α) (one : α) :
    one ∉ members.filter (· != one) ∧ (members.filter (· != one)).Sublist members ∧
      ∀ other ≠ one, (members.filter (· != one)).count other = members.count other := by
  refine ⟨?_, List.filter_sublist, ?_⟩
  · intro mem
    exact bne_iff_ne.mp (List.mem_filter.mp mem).2 rfl
  · intro other differs
    exact List.count_filter (bne_iff_ne.mpr differs)

/-- Nothing is taken out of a list in which it does not stand. -/
theorem filter_bne_of_not_mem {α : Type} [DecidableEq α] {members : List α} {one : α}
    (absent : one ∉ members) : members.filter (· != one) = members := by
  rw [List.filter_eq_self]
  intro other mem
  exact bne_iff_ne.mpr fun same => absent (same ▸ mem)

/-- The subscribers after any history of additions and removals, from nobody added.

Behind the expander stand the observers that take cursors, in the other list those that take
classes: added, not in use then, and not removed since, in the order of the additions and as often.
An addition fails exactly if the observer is in use or takes nothing, and then changes nothing.
Removing somebody who is not subscribed changes nothing; removing anybody takes out all occurrences
from both lists and keeps the others, as often and in the same order. -/
theorem subscribers_of_history (behaviour : Behaviour σ) (config : Config)
    (history : List (Registration σ)) :
    let analyzer := history.foldl (register behaviour) { config }
    let registry := analyzer.registry
    registry.cursorList =
        .expander :: (Registration.standing behaviour.takesCursors history).map .observer ∧
      registry.classList = Registration.standing behaviour.takesClasses history ∧
      (∀ id isBusy store,
        let added := (analyzer.addObserver behaviour isBusy id store).2
        ∀ error,
          (added = .error error ↔ isBusy = true ∧ error = .observerBusy ∨
            isBusy = false ∧ behaviour.takesCursors (store.get id) = false ∧
              behaviour.takesClasses (store.get id) = false ∧ error = .unrecognizedObserver) ∧
          (added = .error error →
            analyzer.register behaviour (.add id isBusy store) = analyzer)) ∧
      (∀ id, .observer id ∉ registry.cursorList → id ∉ registry.classList →
        analyzer.removeObserver id = analyzer) ∧
      ∀ id,
        let left := (analyzer.removeObserver id).registry
        .observer id ∉ left.cursorList ∧ id ∉ left.classList ∧
        left.cursorList.Sublist registry.cursorList ∧
        left.classList.Sublist registry.classList ∧
        (∀ other ≠ .observer id, left.cursorList.count other = registry.cursorList.count other) ∧
        ∀ other ≠ id, left.classList.count other = registry.classList.count other := by
  intro analyzer registry
  have lists : analyzer = ⟨config,
      Registry.expanderFirst (Registration.standing behaviour.takesCursors history),
      Registration.standing behaviour.takesClasses history⟩ := by
    have start : ({ config } : Analyzer).registry.cursorList = Registry.expanderFirst [] := rfl
    have folded : analyzer = _ := foldl_register start history
    rw [folded, Registration.foldl_update, Registration.foldl_update]
    rfl
  refine ⟨?_, ?_, ?_, ?_, ?_⟩
  · exact congrArg (·.registry.cursorList) lists
  · exact congrArg (·.registry.classList) lists
  · intro id isBusy store added error
    exact ⟨addObserver_eq_error_iff, register_of_error⟩
  · intro id notCursors notClasses
    have sameCursors : registry.cursorList.filter (· != .observer id) = registry.cursorList :=
      filter_bne_of_not_mem notCursors
    have sameClasses : registry.classList.filter (· != id) = registry.classList :=
      filter_bne_of_not_mem notClasses
    rw [removeObserver, Registry.remove, sameCursors, sameClasses]
  · intro id left
    obtain ⟨cursorsOut, cursorsKept, cursorsCount⟩ :=
      filter_bne_spec registry.cursorList (.observer id)
    obtain ⟨classesOut, classesKept, classesCount⟩ := filter_bne_spec registry.classList id
    exact ⟨cursorsOut, classesOut, cursorsKept, classesKept, cursorsCount, classesCount⟩

/-- A tally that is added twice, and a collector that is added, removed and added again.  In between
come additions of the collector in use and of an observer that takes nothing. -/
theorem subscribers_of_mixed_history :
    let store : Store Instrument := ⟨.inert, [("t", .tally true 0), ("c", .collector [])]⟩
    let history : List (Registration Instrument) :=
      [.add "t" false store, .add "c" false store, .add "c" true store, .remove "c",
        .add "z" false store, .add "t" false store, .add "c" false store]
    let analyzer := history.foldl (register Instrument.behaviour) { config := .standard }
    analyzer.registry.cursorList = [.expander, .observer "t", .observer "t"] ∧
      analyzer.registry.classList = ["t", "t", "c"] ∧
      (analyzer.addObserver Instrument.behaviour true "c" store).2 = .error .observerBusy ∧
      (analyzer.addObserver Instrument.behaviour false "z" store).2 =
        .error .unrecognizedObserver ∧
      analyzer.register Instrument.behaviour (.add "z" false store) = analyzer ∧
      .observer "z" ∉ analyzer.registry.cursorList ∧ "z" ∉ analyzer.registry.classList ∧
      analyzer.removeObserver "z" = analyzer ∧
      (analyzer.removeObserver "t").registry.classList.count "c" = 1 := by
  intro store history analyzer
  obtain ⟨onCursors, onClasses, additions, absent, removals⟩ :=
    subscribers_of_history Instrument.behaviour .standard history
  have busy := (additions "c" true store .observerBusy).1.mpr (.inl ⟨rfl, rfl⟩)
  have refused := (additions "z" false store .unrecognizedObserver).1.mpr
    (.inr ⟨rfl, rfl, rfl, rfl⟩)
  have notCursors : .observer "z" ∉ analyzer.registry.cursorList := by decide +kernel
  have notClasses : "z" ∉ analyzer.registry.classList := by decide +kernel
  refine ⟨onCursors, onClasses, busy, refused, (additions "z" false store _).2 refused, notCursors,
    notClasses, absent "z" notCursors notClasses, ?_⟩
  exact (removals "t").2.2.2.2.2 "c" (by decide)

end Analyzer

end DeclScope
