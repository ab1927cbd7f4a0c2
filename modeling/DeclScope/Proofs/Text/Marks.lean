/-!
# Taking texts apart

A text that is put together from parts can be taken apart again if one can see where each part ends.
There are two reasons here why one can.  Parts that are free of some characters end where the first
of these stands.  And a part in brackets ends at the bracket that closes it: a *mark* is one
character, a text in square brackets, or marks in parentheses, and the marks of a text are
determined by it.

Square brackets do not nest, and nothing inside them is read, so that what stands there may have
parentheses without partners.
-/

namespace DeclScope

/-- If all elements of a front are inside and what follows begins with one that is not, then the
list tells where the front ends. -/
theorem append_inj_of_boundary {α : Type} (inside : α → Prop) {front other rest following : List α}
    (inFront : ∀ element ∈ front, inside element) (inOther : ∀ element ∈ other, inside element)
    (ends : ∀ element ∈ rest.head?, ¬ inside element)
    (endsOther : ∀ element ∈ following.head?, ¬ inside element)
    (same : front ++ rest = other ++ following) : front = other ∧ rest = following := by
  induction front generalizing other with
  | nil =>
    cases other with
    | nil => exact ⟨rfl, same⟩
    | cons first others =>
      have starts : first ∈ rest.head? := by rw [← List.nil_append rest, same]; rfl
      exact absurd (inOther first List.mem_cons_self) (ends first starts)
  | cons first others inductionHypothesis =>
    rw [List.forall_mem_cons] at inFront
    cases other with
    | nil =>
      have starts : first ∈ following.head? := by rw [← List.nil_append following, ← same]; rfl
      exact absurd inFront.1 (endsOther first starts)
    | cons second more =>
      rw [List.forall_mem_cons] at inOther
      obtain ⟨sameFirst, sameRest⟩ := List.cons_eq_cons.mp same
      obtain ⟨sameOthers, sameFollowing⟩ := inductionHypothesis inFront.2 inOther.2 sameRest
      exact ⟨by rw [sameFirst, sameOthers], sameFollowing⟩

/-- The last element of a list and what is before it are determined. -/
theorem concat_inj {α : Type} {front other : List α} {last otherLast : α}
    (same : front ++ [last] = other ++ [otherLast]) : front = other ∧ last = otherLast := by
  obtain ⟨sameFront, sameLast⟩ := List.append_inj' same rfl
  exact ⟨sameFront, List.singleton_inj.mp sameLast⟩

/-- What stands behind the first part of a list of parts begins with the separator. -/
theorem intercalate_cons {α : Type} (separator part : List α) (parts : List (List α)) :
    separator.intercalate (part :: parts) =
      part ++ if parts = [] then [] else separator ++ separator.intercalate parts := by
  cases parts with
  | nil => simp
  | cons second others => simp

/-- What is joined comes from the separator or from one of the parts. -/
theorem mem_of_mem_intercalate {α : Type} {separator : List α} {parts : List (List α)} {element : α}
    (mem : element ∈ separator.intercalate parts) :
    element ∈ separator ∨ ∃ part ∈ parts, element ∈ part := by
  induction parts with
  | nil => cases mem
  | cons part parts inductionHypothesis =>
    rw [intercalate_cons, List.mem_append] at mem
    rcases mem with inPart | behind
    · exact .inr ⟨part, List.mem_cons_self, inPart⟩
    · split at behind
      · cases behind
      · rcases List.mem_append.mp behind with inSeparator | inRest
        · exact .inl inSeparator
        · refine (inductionHypothesis inRest).imp_right ?_
          rintro ⟨other, listed, present⟩
          exact ⟨other, List.mem_cons_of_mem part listed, present⟩

/-- Parts that are not empty and free of the first element of the separator are determined by the
list that is joined from them. -/
theorem intercalate_inj {α : Type} {first : α} {more : List α} {parts others : List (List α)}
    (areParts : ∀ part ∈ parts, part ≠ [] ∧ first ∉ part)
    (areOthers : ∀ part ∈ others, part ≠ [] ∧ first ∉ part)
    (same : (first :: more).intercalate parts = (first :: more).intercalate others) :
    parts = others := by
  induction parts generalizing others with
  | nil =>
    cases others with
    | nil => rfl
    | cons part others =>
      rw [intercalate_cons] at same
      exact absurd (List.append_eq_nil_iff.mp same.symm).1 (areOthers part List.mem_cons_self).1
  | cons part parts inductionHypothesis =>
    rw [List.forall_mem_cons] at areParts
    cases others with
    | nil =>
      rw [intercalate_cons] at same
      exact absurd (List.append_eq_nil_iff.mp same).1 areParts.1.1
    | cons other others =>
      rw [List.forall_mem_cons] at areOthers
      rw [intercalate_cons, intercalate_cons] at same
      have boundary (parts : List (List α)) : ∀ element ∈ (if parts = [] then []
          else (first :: more) ++ (first :: more).intercalate parts).head?, ¬ element ≠ first := by
        split <;> simp
      have free {part : List α} (absent : first ∉ part) : ∀ element ∈ part, element ≠ first := by
        rintro element present rfl
        exact absent present
      obtain ⟨samePart, sameRest⟩ := append_inj_of_boundary (· ≠ first) (free areParts.1.2)
        (free areOthers.1.2) (boundary parts) (boundary others) same
      have sameParts : parts = others := by
        by_cases last : parts = [] <;> by_cases lastOther : others = []
        · rw [last, lastOther]
        · rw [if_pos last, if_neg lastOther] at sameRest
          cases sameRest
        · rw [if_neg last, if_pos lastOther] at sameRest
          cases sameRest
        · rw [if_neg last, if_neg lastOther] at sameRest
          exact inductionHypothesis areParts.2 areOthers.2 (List.append_cancel_left sameRest)
      rw [samePart, sameParts]

/-- A character, a text in square brackets, or marks in parentheses. -/
inductive Mark where
  | letter (char : Char)
  | size (text : List Char)
  | group (marks : List Mark)

namespace Mark

mutual

/-- The text of a mark. -/
def text : Mark → List Char
  | letter char => [char]
  | size text => '[' :: (text ++ [']'])
  | group marks => '(' :: (textAll marks ++ [')'])

/-- The text of several marks, one after the other. -/
def textAll : List Mark → List Char
  | [] => []
  | mark :: rest => mark.text ++ textAll rest

end

mutual

/-- No character outside of brackets is a bracket, and no text in square brackets closes them. -/
def Readable : Mark → Prop
  | letter char => char ∉ ['(', ')', '[', ']']
  | size text => ']' ∉ text
  | group marks => ReadableAll marks

/-- All marks are readable. -/
def ReadableAll : List Mark → Prop
  | [] => True
  | mark :: rest => mark.Readable ∧ ReadableAll rest

end

/-- Several marks are readable if each of them is. -/
theorem readableAll_iff {marks : List Mark} :
    ReadableAll marks ↔ ∀ mark ∈ marks, mark.Readable := by
  induction marks with
  | nil => simp [ReadableAll]
  | cons mark marks inductionHypothesis => simp [ReadableAll, inductionHypothesis]

/-- The text of several marks joins the texts of each. -/
theorem textAll_eq (marks : List Mark) : textAll marks = marks.flatMap text := by
  induction marks with
  | nil => rfl
  | cons mark marks inductionHypothesis => rw [textAll, inductionHypothesis, List.flatMap_cons]

/-- The text of marks one after the other. -/
theorem textAll_append (marks others : List Mark) :
    textAll (marks ++ others) = textAll marks ++ textAll others := by
  simp only [textAll_eq, List.flatMap_append]

/-- The text of marks that are joined is joined from their texts. -/
theorem textAll_intercalate (separator : List Mark) (parts : List (List Mark)) :
    textAll (separator.intercalate parts) =
      (textAll separator).intercalate (parts.map textAll) := by
  induction parts with
  | nil => rfl
  | cons part parts inductionHypothesis =>
    rw [List.map_cons, intercalate_cons, intercalate_cons, textAll_append, ← inductionHypothesis]
    by_cases last : parts = [] <;> simp [last, textAll_append, textAll]

/-- No mark has an empty text. -/
theorem text_ne_nil (mark : Mark) : mark.text ≠ [] := by
  cases mark <;> simp [text]

/-- Only no marks have an empty text. -/
theorem textAll_eq_nil_iff {marks : List Mark} : textAll marks = [] ↔ marks = [] := by
  cases marks with
  | nil => simp [textAll]
  | cons mark marks => simp [textAll, text_ne_nil]

/-- A text that begins with a readable mark is neither empty nor begins with a closing
parenthesis. -/
theorem not_closed {mark : Mark} (readable : mark.Readable) (rest : List Char) :
    ¬ ∀ char ∈ (mark.text ++ rest).head?, char = ')' := by
  cases mark <;> simp_all [Readable, text]

mutual

/-- The first mark of a text is determined by it. -/
theorem text_inj : ∀ {mark other : Mark} {rest following : List Char} (_ : mark.Readable)
    (_ : other.Readable) (_ : mark.text ++ rest = other.text ++ following),
    mark = other ∧ rest = following
  | letter char, letter other, _, _, _, _, same => by
    simpa [text] using same
  | size text, size other, rest, following, closes, closesOther, same => by
    have inner : text ++ (']' :: rest) = other ++ (']' :: following) := by
      simpa [Mark.text] using same
    have free {text : List Char} (absent : ']' ∉ text) : ∀ char ∈ text, char ≠ ']' := by
      rintro char present rfl
      exact absent present
    obtain ⟨sameText, sameRest⟩ := append_inj_of_boundary (· ≠ ']') (free closes)
      (free closesOther) (by simp) (by simp) inner
    rw [sameText, (List.cons_eq_cons.mp sameRest).2]
    exact ⟨rfl, rfl⟩
  | group marks, group others, rest, following, readable, readableOther, same => by
    have inner : textAll marks ++ (')' :: rest) = textAll others ++ (')' :: following) := by
      simpa [text] using same
    obtain ⟨sameMarks, sameRest⟩ := textAll_inj readable readableOther (by simp) (by simp) inner
    rw [sameMarks, (List.cons_eq_cons.mp sameRest).2]
    exact ⟨rfl, rfl⟩
  -- Marks of different sorts begin with different characters.
  | letter _, size _, _, _, readable, _, same | letter _, group _, _, _, readable, _, same => by
    obtain ⟨first, -⟩ := List.cons_eq_cons.mp same
    simp [Readable, first] at readable
  | size _, letter _, _, _, _, readable, same | group _, letter _, _, _, _, readable, same => by
    obtain ⟨first, -⟩ := List.cons_eq_cons.mp same
    simp [Readable, ← first] at readable
  | size _, group _, _, _, _, _, same | group _, size _, _, _, _, _, same => by
    simp [text] at same

/-- The marks of a text are determined by it, up to a closing parenthesis that has no partner. -/
theorem textAll_inj : ∀ {marks others : List Mark} {rest following : List Char}
    (_ : ReadableAll marks) (_ : ReadableAll others) (_ : ∀ char ∈ rest.head?, char = ')')
    (_ : ∀ char ∈ following.head?, char = ')')
    (_ : textAll marks ++ rest = textAll others ++ following),
    marks = others ∧ rest = following
  | [], [], _, _, _, _, _, _, same => ⟨rfl, same⟩
  | [], mark :: others, _, following, _, readable, closed, _, same => by
    rw [textAll, textAll, List.nil_append, List.append_assoc] at same
    rw [same] at closed
    exact absurd closed (not_closed readable.1 _)
  | mark :: marks, [], rest, _, readable, _, _, closed, same => by
    rw [textAll, textAll, List.nil_append, List.append_assoc] at same
    rw [← same] at closed
    exact absurd closed (not_closed readable.1 _)
  | mark :: marks, other :: others, rest, following, readable, readableOther, closed, closedOther,
      same => by
    rw [textAll, textAll, List.append_assoc, List.append_assoc] at same
    obtain ⟨sameMark, sameRest⟩ := text_inj readable.1 readableOther.1 same
    obtain ⟨sameMarks, sameFollowing⟩ :=
      textAll_inj readable.2 readableOther.2 closed closedOther sameRest
    rw [sameMark, sameMarks]
    exact ⟨rfl, sameFollowing⟩

end

end Mark

end DeclScope
