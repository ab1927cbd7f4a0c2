import DeclScope.Text.Source
import Mathlib.Tactic.Common

/-!
# Offsets that fall between characters

An offset is a boundary of a text if the text divides there into whole characters.  Between two
boundaries lies a part of the text, and cutting by offsets gives that part; offsets that are no
boundaries cut nothing.

A part has its own offsets, counted from its start.  A boundary of the text that falls into a part
is a boundary of the part once its start is subtracted, so the two ways of counting cut alike.
-/

namespace DeclScope.Text

/-- The text divides at the offset into whole characters. -/
def IsBoundary (chars : List Char) (offset : Nat) : Prop :=
  ∃ front back, chars = front ++ back ∧ byteSize front = offset

/-- The bytes of two texts together are those of both. -/
@[simp] theorem byteSize_append (front back : List Char) :
    byteSize (front ++ back) = byteSize front + byteSize back := by
  induction front with
  | nil => simp [byteSize]
  | cons char rest inductionHypothesis =>
    simp only [List.cons_append, byteSize, inductionHypothesis]
    omega

/-- Only the empty text has no bytes. -/
theorem eq_nil_of_byteSize {chars : List Char} (empty : byteSize chars = 0) : chars = [] := by
  cases chars with
  | nil => rfl
  | cons char rest =>
    have positive := char.utf8Size_pos
    rw [byteSize] at empty
    omega

/-- The bytes of a text that is not empty are at least one; those of the first character are among
them, and the others are left. -/
theorem exists_byteSize_cons (char : Char) (rest : List Char) :
    ∃ size, byteSize (char :: rest) = size + 1 ∧ char.utf8Size ≤ size + 1 ∧
      size + 1 - char.utf8Size = byteSize rest := by
  have positive := char.utf8Size_pos
  refine ⟨char.utf8Size + byteSize rest - 1, ?_, ?_, ?_⟩
  · rw [byteSize]
    omega
  · omega
  · omega

/-- The bytes of the front part cut off the front part. -/
theorem takeBytes?_append (front back : List Char) :
    takeBytes? (byteSize front) (front ++ back) = some front := by
  induction front with
  | nil => cases back <;> rfl
  | cons char rest inductionHypothesis =>
    obtain ⟨size, isSize, fits, left⟩ := exists_byteSize_cons char rest
    rw [isSize, List.cons_append, takeBytes?, if_pos fits, left, inductionHypothesis,
      Option.map_some]

/-- The bytes of the front part leave the back part. -/
theorem dropBytes?_append (front back : List Char) :
    dropBytes? (byteSize front) (front ++ back) = some back := by
  induction front with
  | nil => cases back <;> rfl
  | cons char rest inductionHypothesis =>
    obtain ⟨size, isSize, fits, left⟩ := exists_byteSize_cons char rest
    rw [isSize, List.cons_append, dropBytes?, if_pos fits, left, inductionHypothesis]

/-- What is cut off the front has the wanted bytes. -/
theorem exists_of_takeBytes? {offset : Nat} {chars front : List Char}
    (cut : takeBytes? offset chars = some front) :
    ∃ back, chars = front ++ back ∧ byteSize front = offset := by
  fun_induction takeBytes? offset chars generalizing front with
  | case1 chars =>
    cases cut
    exact ⟨chars, rfl, rfl⟩
  | case2 => cases cut
  | case3 offset char rest fits inductionHypothesis =>
    obtain ⟨others, cutRest, rfl⟩ := Option.map_eq_some_iff.mp cut
    obtain ⟨back, rfl, size⟩ := inductionHypothesis cutRest
    refine ⟨back, rfl, ?_⟩
    rw [byteSize, size]
    omega
  | case4 => cases cut

/-- An offset is a boundary exactly if it cuts off a front part. -/
theorem isBoundary_iff {chars : List Char} {offset : Nat} :
    IsBoundary chars offset ↔ (takeBytes? offset chars).isSome = true := by
  constructor
  · rintro ⟨front, back, rfl, rfl⟩
    rw [takeBytes?_append]
    rfl
  · intro cuts
    obtain ⟨front, cut⟩ := Option.isSome_iff_exists.mp cuts
    obtain ⟨back, divided, size⟩ := exists_of_takeBytes? cut
    exact ⟨front, back, divided, size⟩

instance (chars : List Char) (offset : Nat) : Decidable (IsBoundary chars offset) :=
  decidable_of_iff _ isBoundary_iff.symm

/-- A boundary behind a front part divides what is left. -/
theorem IsBoundary.exists_part {front rest : List Char} {stop : Nat}
    (boundary : IsBoundary (front ++ rest) stop) (behind : byteSize front ≤ stop) :
    ∃ part back, rest = part ++ back ∧ byteSize front + byteSize part = stop := by
  obtain ⟨whole, back, divided, rfl⟩ := boundary
  rcases List.append_eq_append_iff.mp divided with ⟨part, rfl, rfl⟩ | ⟨excess, rfl, rfl⟩
  · exact ⟨part, back, rfl, (byteSize_append front part).symm⟩
  · -- The boundary is not behind the front part, unless nothing lies between them.
    rw [byteSize_append] at behind
    have none : excess = [] := eq_nil_of_byteSize (by omega)
    subst none
    exact ⟨[], rest, rfl, by simp [byteSize]⟩

/-- The offsets of a part cut that part. -/
theorem slice?_append (front part back : List Char) :
    slice? (front ++ (part ++ back)) (byteSize front) (byteSize front + byteSize part) =
      some part := by
  rw [slice?, if_pos (Nat.le_add_right _ _), dropBytes?_append, Nat.add_sub_cancel_left,
    Option.bind_some, takeBytes?_append]

/-- Four boundaries in order divide a text into five parts, and every two of them cut what lies
between. -/
theorem exists_parts {chars : List Char} {start first last stop : Nat}
    (starts : IsBoundary chars start) (begins : IsBoundary chars first)
    (ends : IsBoundary chars last) (stops : IsBoundary chars stop)
    (inOrder : start ≤ first ∧ first ≤ last ∧ last ≤ stop) :
    ∃ before middle behind,
      slice? chars start first = some before ∧ slice? chars first last = some middle ∧
        slice? chars last stop = some behind ∧
        slice? chars start stop = some (before ++ middle ++ behind) ∧
        start + byteSize before = first ∧ first + byteSize middle = last := by
  obtain ⟨front, rest, rfl, rfl⟩ := starts
  obtain ⟨before, rest, rfl, rfl⟩ := begins.exists_part inOrder.1
  rw [← List.append_assoc] at ends stops
  obtain ⟨middle, rest, rfl, isLast⟩ := ends.exists_part (by simp; omega)
  rw [← List.append_assoc] at stops
  obtain ⟨behind, back, rfl, isStop⟩ := stops.exists_part (by simp at isLast ⊢; omega)
  simp only [byteSize_append] at isLast isStop
  subst isLast isStop
  refine ⟨before, middle, behind, slice?_append front before _, ?_, ?_, ?_, rfl, rfl⟩
  · simpa using slice?_append (front ++ before) middle (behind ++ back)
  · simpa [Nat.add_assoc] using slice?_append (front ++ before ++ middle) behind back
  · simpa [Nat.add_assoc] using slice?_append front (before ++ middle ++ behind) back

end DeclScope.Text
