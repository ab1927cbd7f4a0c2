import DeclScope.CType.Kind
import DeclScope.Text.Blank

/-!
# Built-in types by their words

A built-in type is told by its words through a cascade of questions: which keywords occur, how often
`long` does, and whether there are only words for plain integers.  No question is about the order of
the words.  About `int` and `signed` there is only one, whether `signed` occurs next to `char`;
besides, they count where it is asked whether there are words at all.

So the kind depends on how often each word other than `int` and `signed` occurs.  This is the one
law that looks at the whole cascade; that the order, `int` and `signed` do not matter are cases of
it, and what is left is what `signed` does to a character.
-/

namespace DeclScope

namespace Text

/-- The longer text has the words of the other, and one word more somewhere among them. -/
def AddsWord (word text longer : String) : Prop :=
  ∃ front behind, words text = front ++ behind ∧ words longer = front ++ word :: behind

/-- An added word may as well stand in front. -/
theorem AddsWord.perm {word text longer : String} (adds : AddsWord word text longer) :
    (words longer).Perm (word :: words text) := by
  obtain ⟨front, behind, before, after⟩ := adds
  rw [before, after]
  exact List.perm_middle

end Text

namespace TypeKind

/-- The words that can be left out where there are others. -/
def redundant : List String := ["int", "signed"]

/-- Two lists of words are alike: apart from redundant words each word occurs equally often in both,
and one of them has words if the other has. -/
structure Alike (words others : List String) : Prop where
  count_eq : ∀ word, word ∉ redundant → words.count word = others.count word
  nil_iff : words = [] ↔ others = []

namespace Alike

variable {words others : List String}

/-- Words in another order are alike. -/
theorem of_perm (reordered : words.Perm others) : Alike words others where
  count_eq word _ := reordered.count_eq word
  nil_iff := by
    rw [← List.length_eq_zero_iff, ← List.length_eq_zero_iff, reordered.length_eq]

/-- A redundant word more makes words that are alike. -/
theorem cons {word : String} (isRedundant : word ∈ redundant) (present : words ≠ []) :
    Alike (word :: words) words where
  count_eq other notRedundant := by
    apply List.count_cons_of_ne
    rintro rfl
    exact notRedundant isRedundant
  nil_iff := by simp [present]

/-- Being alike is symmetric. -/
theorem symm (alike : Alike words others) : Alike others words where
  count_eq word notRedundant := (alike.count_eq word notRedundant).symm
  nil_iff := alike.nil_iff.symm

/-- A word that is not redundant occurs in both or in neither. -/
theorem mem_iff (alike : Alike words others) {word : String} (notRedundant : word ∉ redundant) :
    word ∈ words ↔ word ∈ others := by
  rw [← List.count_pos_iff, alike.count_eq word notRedundant, List.count_pos_iff]

/-- The question whether a word occurs has one answer for both, if the word is not redundant. -/
theorem contains_eq (alike : Alike words others) {word : String}
    (notRedundant : word ∉ redundant) : words.contains word = others.contains word := by
  rw [Bool.eq_iff_iff, List.contains_iff_mem, List.contains_iff_mem]
  exact alike.mem_iff notRedundant

/-- The question whether there are words at all has one answer for both. -/
theorem isEmpty_eq (alike : Alike words others) : words.isEmpty = others.isEmpty := by
  rw [Bool.eq_iff_iff, List.isEmpty_iff, List.isEmpty_iff]
  exact alike.nil_iff

/-- If all words of one list are from a list that has the redundant ones, so are those of the
other. -/
theorem forall_mem (alike : Alike words others) {known : List String}
    (knowsRedundant : ∀ word ∈ redundant, word ∈ known) (inside : ∀ word ∈ words, word ∈ known) :
    ∀ word ∈ others, word ∈ known := by
  intro word listed
  by_cases isRedundant : word ∈ redundant
  · exact knowsRedundant word isRedundant
  · exact inside word ((alike.mem_iff isRedundant).mpr listed)

/-- The question whether all words are from a list that has the redundant ones has one answer for
both. -/
theorem all_eq (alike : Alike words others) {known : List String}
    (knowsRedundant : ∀ word ∈ redundant, word ∈ known) :
    words.all (known.contains ·) = others.all (known.contains ·) := by
  rw [Bool.eq_iff_iff]
  simp only [List.all_eq_true, List.contains_iff_mem]
  exact ⟨alike.forall_mem knowsRedundant, alike.symm.forall_mem knowsRedundant⟩

/-- Words that are alike spell the same kind, unless they spell a character and `signed` is in only
one of the lists. -/
theorem ofWords_eq (alike : Alike words others)
    (characters : "char" ∈ words → ("signed" ∈ words ↔ "signed" ∈ others)) :
    ofWords words = ofWords others := by
  have keywords : ∀ word ∈ ["char", "unsigned", "wchar_t", "bool", "_Bool", "void", "float",
      "double", "short"], words.contains word = others.contains word := by
    intro word isKeyword
    apply alike.contains_eq
    revert word
    decide
  have plainIntegers : words.all (["int", "signed", "unsigned"].contains ·) =
      others.all (["int", "signed", "unsigned"].contains ·) := alike.all_eq (by decide)
  simp only [List.forall_mem_cons] at keywords
  -- The question for `signed` is the only one with two answers, and is asked only of characters.
  by_cases isCharacter : "char" ∈ words
  · have signs : words.contains "signed" = others.contains "signed" := by
      rw [Bool.eq_iff_iff, List.contains_iff_mem, List.contains_iff_mem]
      exact characters isCharacter
    simp only [ofWords, keywords, signs, alike.count_eq "long" (by decide), alike.isEmpty_eq,
      plainIntegers]
  · have unasked : others.contains "char" = false := by
      rw [← keywords.1]
      simpa using isCharacter
    simp only [ofWords, keywords, unasked, alike.count_eq "long" (by decide), alike.isEmpty_eq,
      plainIntegers, Bool.false_eq_true, if_false]

end Alike

/-- The order of the words does not matter. -/
theorem ofWords_eq_of_perm {words others : List String} (reordered : words.Perm others) :
    ofWords words = ofWords others :=
  (Alike.of_perm reordered).ofWords_eq fun _ => reordered.mem_iff

/-- Among other words `int` says nothing. -/
theorem ofWords_int_cons {words : List String} (present : words ≠ []) :
    ofWords ("int" :: words) = ofWords words := by
  refine (Alike.cons (by decide) present).ofWords_eq fun _ => ?_
  simp

/-- The kind of a character is decided by the two words for signs. -/
theorem ofWords_of_char {words : List String} (isCharacter : "char" ∈ words) :
    ofWords words = if "unsigned" ∈ words then unsignedChar
      else if "signed" ∈ words then signedChar else plainChar := by
  simp [ofWords, isCharacter]

/-- Among other words `signed` says something only of characters that are not unsigned. -/
theorem ofWords_signed_cons {words : List String} (present : words ≠ []) :
    ofWords ("signed" :: words) =
      if "char" ∈ words ∧ "unsigned" ∉ words then signedChar else ofWords words := by
  by_cases isCharacter : "char" ∈ words
  · rw [ofWords_of_char isCharacter, ofWords_of_char (List.mem_cons_of_mem _ isCharacter)]
    by_cases isUnsigned : "unsigned" ∈ words <;> simp [isCharacter, isUnsigned]
  · rw [if_neg fun both => isCharacter both.1]
    apply (Alike.cons (by decide) present).ofWords_eq
    intro mentioned
    simp [isCharacter] at mentioned

/-- The kind of a built-in type does not depend on the order of its words.  Where there are words,
one more `int` anywhere does not change it, and one more `signed` changes it exactly for a `char`
without a sign, whose kind then goes from that of plain characters to that of signed ones. -/
theorem ofWords_ignores_redundant_words :
    (∀ text other : String, (Text.words text).Perm (Text.words other) →
      ofWords (Text.words text) = ofWords (Text.words other)) ∧
    (∀ text longer : String, Text.words text ≠ [] → Text.AddsWord "int" text longer →
      ofWords (Text.words longer) = ofWords (Text.words text)) ∧
    (∀ text longer : String, Text.words text ≠ [] → Text.AddsWord "signed" text longer →
      (ofWords (Text.words longer) ≠ ofWords (Text.words text) ↔
        "char" ∈ Text.words text ∧ "unsigned" ∉ Text.words text ∧
          "signed" ∉ Text.words text) ∧
      (ofWords (Text.words longer) ≠ ofWords (Text.words text) →
        ofWords (Text.words text) = plainChar ∧ ofWords (Text.words longer) = signedChar)) := by
  refine ⟨fun text other => ofWords_eq_of_perm, ?_, ?_⟩
  · intro text longer present adds
    rw [ofWords_eq_of_perm adds.perm, ofWords_int_cons present]
  · intro text longer present adds
    rw [ofWords_eq_of_perm adds.perm, ofWords_signed_cons present]
    by_cases isCharacter : "char" ∈ Text.words text
    · rw [ofWords_of_char isCharacter]
      by_cases isUnsigned : "unsigned" ∈ Text.words text <;>
        by_cases isSigned : "signed" ∈ Text.words text <;>
        simp [isCharacter, isUnsigned, isSigned]
    · simp [isCharacter]

/-- `long unsigned` in two orders, `int` between two `long`, and `signed` behind `char`. -/
theorem ofWords_ignores_redundant_words_between :
    (ofWords (Text.words "unsigned  long") = ofWords (Text.words "long unsigned") ∧
      ofWords (Text.words "long unsigned") = unsignedLong) ∧
    (Text.AddsWord "int" "long\tlong" "long int long" ∧
      ofWords (Text.words "long int long") = ofWords (Text.words "long\tlong")) ∧
    (Text.AddsWord "signed" "char" "char signed" ∧
      ofWords (Text.words "char signed") ≠ ofWords (Text.words "char") ∧
      ofWords (Text.words "char") = plainChar ∧
      ofWords (Text.words "char signed") = signedChar) := by
  obtain ⟨reordered, withInt, withSigned⟩ := ofWords_ignores_redundant_words
  have between : Text.AddsWord "int" "long\tlong" "long int long" :=
    ⟨["long"], ["long"], by decide +kernel, by decide +kernel⟩
  have behind : Text.AddsWord "signed" "char" "char signed" :=
    ⟨["char"], [], by decide +kernel, by decide +kernel⟩
  obtain ⟨changes, change⟩ := withSigned _ _ (by decide +kernel) behind
  have changed := changes.mpr (by decide +kernel)
  refine ⟨⟨reordered _ _ (by decide +kernel), by decide +kernel⟩,
    ⟨between, withInt _ _ (by decide +kernel) between⟩, behind, changed, change changed⟩

/-- Without other words `int` and `signed` do say something. -/
example : ofWords [] = synonym ∧ ofWords ["int"] = int ∧ ofWords ["signed"] = int := by decide

end TypeKind

end DeclScope
