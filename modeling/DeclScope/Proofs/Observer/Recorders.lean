import DeclScope.Proofs.Observer.Isolation

/-!
# What collectors and dumpers keep

A collector has no way to fail, and a dumper fails only when its sink is full.  With room without
end neither of the two can stop a parse, so each goes through all its turns.  A collector is left
with the class definitions in the order in which they were announced.  A dumper is left with the
descriptions of all cursors that it asked for, in the order of the walk, and with one blank line
between each two of them.
-/

namespace DeclScope

/-- A sink with room without end takes all fragments. -/
theorem Sink.write_unlimited (text : String) (fragments : List String) :
    Sink.write ⟨none, text⟩ fragments = (true, ⟨none, text ++ String.join fragments⟩) := by
  induction fragments generalizing text with
  | nil => simp [write]
  | cons fragment rest inductionHypothesis =>
    have fits : Sink.admits ⟨none, text⟩ fragment = true := rfl
    rw [write, if_pos fits, inductionHypothesis, String.join_cons, String.append_assoc]

/-- The turns of an observer go on cursor by cursor. -/
theorem Turn.allOf_cons (id : ObserverId) (onClasses onCursors : Nat) (cursor : Cursor)
    (rest : List Cursor) :
    allOf id onClasses onCursors (cursor :: rest) =
      allOf id onClasses onCursors [cursor] ++ allOf id onClasses onCursors rest := by
  simp [allOf]

namespace Instrument

/-- The dumper of all cursors after those that it has described. -/
def dumperAfter (described : List Cursor) : Instrument :=
  .dumper .all ⟨none, "\n".intercalate (described.map Cursor.dump)⟩ described.length

/-- One more cursor is described behind the others, and a blank line before it if there are any. -/
theorem onCursor_dumperAfter (described : List Cursor) (cursor : Cursor) :
    (dumperAfter described).onCursor cursor =
      ⟨dumperAfter (described ++ [cursor]), [], .done⟩ := by
  have text : "\n".intercalate ((described ++ [cursor]).map Cursor.dump) =
      "\n".intercalate (described.map Cursor.dump) ++
        String.join ((if described.length = 0 then [] else ["\n"]) ++ cursor.dumpFragments) := by
    by_cases first : described = []
    · subst first
      simp [Cursor.dump]
    · rw [List.map_append, String.intercalate_append_of_ne_nil (by simpa using first) (by simp)]
      simp [first, Cursor.dump, String.append_assoc]
  simp only [dumperAfter, onCursor, Sink.write_unlimited, text, List.length_append,
    List.length_singleton]

/-- A dumper with room without end fails on nothing, in whatever state it comes to. -/
theorem always_steady_dumperAfter (described : List Cursor) :
    behaviour.Always behaviour.Steady (dumperAfter described) := by
  refine Behaviour.Always.of_invariant (fun state => ∃ described, state = dumperAfter described)
    ⟨described, rfl⟩ ?_ ?_ ?_
  · rintro _ cursor ⟨described, rfl⟩
    exact ⟨described ++ [cursor], congrArg Reaction.state (onCursor_dumperAfter described cursor)⟩
  · rintro _ definition ⟨described, rfl⟩
    exact ⟨described, rfl⟩
  · rintro _ ⟨described, rfl⟩
    refine ⟨?_, fun definition => rfl⟩
    intro cursor
    show ((dumperAfter described).onCursor cursor).conclusion.failure? = none
    rw [onCursor_dumperAfter]
    rfl

/-- A class definition goes to the end of what a collector has. -/
theorem take_collector {id : ObserverId} {store : Store Instrument}
    {collected : List ClassDefinition} (starts : store.get id = .collector collected)
    (definition : ClassDefinition) :
    (behaviour.take store (.definition id definition)).2.get id =
      .collector (collected ++ [definition]) := by
  simp [Behaviour.take, behaviour, starts, takesClasses, onClass]

/-- A cursor is described by a dumper of all cursors. -/
theorem take_dumper {id : ObserverId} {store : Store Instrument} {described : List Cursor}
    (starts : store.get id = dumperAfter described) (cursor : Cursor) :
    (behaviour.take store (.cursor (.observer id) cursor)).2.get id =
      dumperAfter (described ++ [cursor]) := by
  have asks : (behaviour.takesCursors (dumperAfter described) &&
      (behaviour.filter (dumperAfter described)).admits cursor.kind) = true := rfl
  rw [Behaviour.take]
  dsimp only
  rw [starts, if_pos asks]
  simp [behaviour, onCursor_dumperAfter]

/-- A collector that takes definitions only ends with all that were announced, in order. -/
theorem afterTurns_collector {id : ObserverId} {store : Store Instrument}
    {collected : List ClassDefinition} (starts : store.get id = .collector collected)
    (cursors : List Cursor) :
    (behaviour.afterTurns (Turn.allOf id 1 0 cursors) store).get id = .collector (collected ++
      (cursors.filter Expander.announces).map fun cursor => (ClassDefinition.expand cursor).1) := by
  induction cursors generalizing store collected with
  | nil => simpa [Turn.allOf, Behaviour.afterTurns] using starts
  | cons cursor rest inductionHypothesis =>
    rw [Turn.allOf_cons, Behaviour.afterTurns_append]
    by_cases announces : Expander.announces cursor = true
    · have own : Turn.allOf id 1 0 [cursor] =
          [.definition id (ClassDefinition.expand cursor).1] := by
        simp [Turn.allOf, announces]
      rw [own, List.filter_cons_of_pos announces]
      refine (inductionHypothesis (take_collector starts _)).trans ?_
      simp
    · have own : Turn.allOf id 1 0 [cursor] = [] := by simp [Turn.allOf, announces]
      rw [own, List.filter_cons_of_neg announces]
      exact inductionHypothesis starts

/-- A dumper that takes cursors only ends with all of them described, in order. -/
theorem afterTurns_dumper {id : ObserverId} {store : Store Instrument} {described : List Cursor}
    (starts : store.get id = dumperAfter described) (cursors : List Cursor) :
    (behaviour.afterTurns (Turn.allOf id 0 1 cursors) store).get id =
      dumperAfter (described ++ cursors) := by
  induction cursors generalizing store described with
  | nil => simpa [Turn.allOf, Behaviour.afterTurns] using starts
  | cons cursor rest inductionHypothesis =>
    have own : Turn.allOf id 0 1 [cursor] = [.cursor (.observer id) cursor] := by
      simp [Turn.allOf]
    rw [Turn.allOf_cons, Behaviour.afterTurns_append, own]
    refine (inductionHypothesis (take_dumper starts cursor)).trans ?_
    rw [List.append_assoc, List.singleton_append]

end Instrument

end DeclScope
