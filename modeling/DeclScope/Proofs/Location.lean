import DeclScope.Location

/-!
# Places ascend with their offsets

The row and the column of an offset are found by following the source character by character, and
locations compare by row and column before they compare by offset.  A later offset has a later
position all the same: it is in a later row, or further on in the same row.  This holds inside of
characters, at line ends and past the end of the source, so nothing is asked of the offsets.

Only places in one file and one source are compared.
-/

namespace DeclScope

namespace Text

/-- Following an offset leads to a later row, or no further back in the same row. -/
theorem le_advance (here : Position) (offset : Nat) (chars : List Char) :
    here.row < (advance here offset chars).row ∨
      here.row = (advance here offset chars).row ∧
        here.column ≤ (advance here offset chars).column := by
  fun_induction advance here offset chars with
  | case1 here offset => exact .inr ⟨rfl, Nat.le_add_right here.column offset⟩
  | case2 here offset char rest inside => exact .inr ⟨rfl, Nat.le_add_right here.column offset⟩
  | case3 here offset rest outside inductionHypothesis =>
    dsimp only at inductionHypothesis
    omega
  | case4 here offset char rest outside other inductionHypothesis =>
    dsimp only at inductionHypothesis
    omega

/-- A later offset leads to a later row, or further on in the same row.

Both offsets are followed together.  Where the first one ends inside a character that the second one
passes, the second one goes on from behind that character. -/
theorem advance_lt {first second : Nat} (before : first < second) (here : Position)
    (chars : List Char) :
    (advance here first chars).row < (advance here second chars).row ∨
      (advance here first chars).row = (advance here second chars).row ∧
        (advance here first chars).column < (advance here second chars).column := by
  induction chars generalizing first second here with
  | nil => exact .inr ⟨rfl, Nat.add_lt_add_left before here.column⟩
  | cons char rest inductionHypothesis =>
    by_cases firstInside : first < char.utf8Size
    · by_cases secondInside : second < char.utf8Size
      · simp [advance, firstInside, secondInside, before]
      · simp only [advance, if_pos firstInside, if_neg secondInside]
        by_cases lineEnd : char = '\n'
        · have behind := le_advance ⟨here.row + 1, 0⟩ (second - char.utf8Size) rest
          simp only [if_pos lineEnd]
          dsimp only at behind
          omega
        · have behind :=
            le_advance ⟨here.row, here.column + char.utf8Size⟩ (second - char.utf8Size) rest
          simp only [if_neg lineEnd]
          dsimp only at behind
          omega
    · have secondOutside : ¬ second < char.utf8Size := by omega
      have still : first - char.utf8Size < second - char.utf8Size := by omega
      simp only [advance, if_neg firstInside, if_neg secondOutside]
      by_cases lineEnd : char = '\n'
      · simp only [if_pos lineEnd]
        exact inductionHypothesis still ⟨here.row + 1, 0⟩
      · simp only [if_neg lineEnd]
        exact inductionHypothesis still ⟨here.row, here.column + char.utf8Size⟩

end Text

namespace Location

/-- The place of an earlier offset comes first. -/
theorem order_ofOffset_of_lt (file : String) (source : Source) {first second : Nat}
    (before : first < second) :
    order (ofOffset file source first) (ofOffset file source second) = .lt := by
  rcases Text.advance_lt before ⟨0, 0⟩ source.chars with earlier | ⟨sameRow, further⟩
  · have lines : compare ((source.position first).row + 1) ((source.position second).row + 1) =
        .lt := Nat.compare_eq_lt.mpr (Nat.succ_lt_succ earlier)
    simp [order, ofOffset, lines]
  · have lines : compare ((source.position first).row + 1) ((source.position second).row + 1) =
        .eq := Nat.compare_eq_eq.mpr (congrArg (· + 1) sameRow)
    have columns :
        compare ((source.position first).column + 1) ((source.position second).column + 1) =
          .lt := Nat.compare_eq_lt.mpr (Nat.succ_lt_succ further)
    simp [order, ofOffset, lines, columns]

/-- The place of an offset comes no later than that of an offset at least as great. -/
theorem isBefore_ofOffset (file : String) (source : Source) {first second : Nat}
    (ascending : first ≤ second) :
    isBefore (ofOffset file source first) (ofOffset file source second) = true := by
  rcases Nat.lt_or_eq_of_le ascending with before | rfl
  · rw [isBefore, order_ofOffset_of_lt file source before]
    rfl
  · simp [isBefore, order, Std.ReflCmp.compare_self]

end Location

end DeclScope
