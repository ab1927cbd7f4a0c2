import DeclScope.Text.Blank
import Mathlib.Tactic.Common

/-!
# The words of a text, and the text joined from them

The words of a text are its longest parts without blanks.  Here this is said of the whole text at
once: blanks, then a word up to the next blank or the end, and so on.  A text divides in one way
only, into the words that the scan from its end gives.

A text is normalized by joining its words with single spaces.  So nothing is left of the blanks but
one space between two words.
-/

namespace DeclScope.Text

/-- Characters, at least one, and none of them blank. -/
structure Unbroken (word : List Char) : Prop where
  ne_nil : word ≠ []
  noBlank : ∀ char ∈ word, isBlank char = false

/-- The characters are the words in this order, with blanks around them.  Behind each word the
characters stop, or a blank follows. -/
inductive Divides : List Char → List (List Char) → Prop where
  | nil {blanks : List Char} (blank : ∀ char ∈ blanks, isBlank char = true) : Divides blanks []
  | cons {blanks word rest : List Char} {words : List (List Char)}
      (blank : ∀ char ∈ blanks, isBlank char = true) (unbroken : Unbroken word)
      (apart : ∀ char ∈ rest.head?, isBlank char = true) (divides : Divides rest words) :
      Divides (blanks ++ word ++ rest) (word :: words)

/-- The result is the words of the text, joined by single spaces. -/
def Normalizes (text result : String) : Prop :=
  ∃ words, Divides text.toList words ∧ result.toList = [' '].intercalate words

/-- Blanks in front belong to no word. -/
theorem wordsOf_append_of_blank {blanks : List Char}
    (blank : ∀ char ∈ blanks, isBlank char = true) (rest : List Char) :
    wordsOf (blanks ++ rest) = wordsOf rest := by
  induction blanks with
  | nil => rfl
  | cons first others inductionHypothesis =>
    obtain ⟨isFirst, areOthers⟩ := List.forall_mem_cons.mp blank
    rw [List.cons_append, wordsOf_blank isFirst, inductionHypothesis areOthers]

/-- Before a blank or the end there is no begun word. -/
theorem headWord_of_apart {rest : List Char} (apart : ∀ char ∈ rest.head?, isBlank char = true) :
    headWord rest = ([], wordsOf rest) := by
  cases rest with
  | nil => rfl
  | cons first others =>
    have blank : isBlank first = true := apart first rfl
    simp [wordsOf, headWord, blank, consWord]

/-- Characters that are not blank are put before the begun word. -/
theorem headWord_append {word : List Char} (noBlank : ∀ char ∈ word, isBlank char = false)
    (rest : List Char) :
    headWord (word ++ rest) = (word ++ (headWord rest).1, (headWord rest).2) := by
  induction word with
  | nil => rfl
  | cons first others inductionHypothesis =>
    obtain ⟨isFirst, areOthers⟩ := List.forall_mem_cons.mp noBlank
    simp [headWord, inductionHypothesis areOthers, isFirst]

/-- A word before a blank or the end is the first one. -/
theorem wordsOf_append_of_unbroken {word rest : List Char} (unbroken : Unbroken word)
    (apart : ∀ char ∈ rest.head?, isBlank char = true) :
    wordsOf (word ++ rest) = word :: wordsOf rest := by
  rw [wordsOf, headWord_append unbroken.noBlank, headWord_of_apart apart, List.append_nil]
  cases word with
  | nil => exact absurd rfl unbroken.ne_nil
  | cons first others => rfl

/-- The words that a text divides into are those that are found in it. -/
theorem Divides.wordsOf_eq {chars : List Char} {words : List (List Char)}
    (divides : Divides chars words) : wordsOf chars = words := by
  induction divides with
  | @nil blanks blank =>
    have alone := wordsOf_append_of_blank blank []
    rwa [List.append_nil] at alone
  | cons blank unbroken apart _ inductionHypothesis =>
    rw [List.append_assoc, wordsOf_append_of_blank blank, wordsOf_append_of_unbroken unbroken apart,
      inductionHypothesis]

/-- A blank in front changes no word. -/
theorem Divides.cons_blank {char : Char} {chars : List Char} {words : List (List Char)}
    (blank : isBlank char = true) (divides : Divides chars words) :
    Divides (char :: chars) words := by
  cases divides with
  | nil others => exact .nil (List.forall_mem_cons.mpr ⟨blank, others⟩)
  | cons others unbroken apart rest =>
    exact .cons (List.forall_mem_cons.mpr ⟨blank, others⟩) unbroken apart rest

/-- A begun word is put before the words behind it, unless it is empty. -/
theorem Divides.consWord {word rest : List Char} {words : List (List Char)}
    (noBlank : ∀ char ∈ word, isBlank char = false)
    (apart : ∀ char ∈ rest.head?, isBlank char = true) (divides : Divides rest words) :
    Divides (word ++ rest) (consWord word words) := by
  cases word with
  | nil => exact divides
  | cons first others =>
    exact .cons (List.forall_mem_nil _) ⟨List.cons_ne_nil first others, noBlank⟩ apart divides

/-- The scan from the end keeps a begun word without blanks, and has divided what is behind it. -/
theorem exists_headWord (chars : List Char) :
    ∃ rest, chars = (headWord chars).1 ++ rest ∧
      (∀ char ∈ (headWord chars).1, isBlank char = false) ∧
      (∀ char ∈ rest.head?, isBlank char = true) ∧ Divides rest (headWord chars).2 := by
  induction chars with
  | nil => exact ⟨[], rfl, by nofun, by nofun, .nil (by nofun)⟩
  | cons first chars inductionHypothesis =>
    obtain ⟨rest, parts, noBlank, apart, divides⟩ := inductionHypothesis
    by_cases blank : isBlank first = true
    · have found := divides.consWord noBlank apart
      rw [← parts] at found
      refine ⟨first :: chars, ?_⟩
      simp [headWord, blank, found.cons_blank blank]
    · rw [Bool.not_eq_true] at blank
      refine ⟨rest, ?_, ?_, apart, ?_⟩
      · simp [headWord, blank, ← parts]
      · simpa [headWord, blank] using noBlank
      · simpa [headWord, blank] using divides

/-- A text divides into its words, and in no other way. -/
theorem divides_iff {chars : List Char} {words : List (List Char)} :
    Divides chars words ↔ wordsOf chars = words := by
  constructor
  · exact Divides.wordsOf_eq
  · rintro rfl
    obtain ⟨rest, parts, noBlank, apart, divides⟩ := exists_headWord chars
    have found := divides.consWord noBlank apart
    rwa [← parts] at found

/-- Squeezing a text normalizes it, and nothing else does. -/
theorem squeeze_eq_iff {text result : String} :
    squeeze text = result ↔ Normalizes text result := by
  have joined : (squeeze text).toList = [' '].intercalate (wordsOf text.toList) := by
    simp [squeeze, words, String.toList_intercalate, Function.comp_def]
  constructor
  · rintro rfl
    exact ⟨_, divides_iff.mpr rfl, joined⟩
  · rintro ⟨found, divides, isResult⟩
    rw [← divides.wordsOf_eq, ← joined] at isResult
    exact (String.toList_inj.mp isResult).symm

end DeclScope.Text
