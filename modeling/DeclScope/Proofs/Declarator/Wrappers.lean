import DeclScope.Proofs.CType.Spelling
import DeclScope.Proofs.Text.Marks
import Mathlib.Data.List.Chain

/-!
# Declarators are unambiguous

The declarator in the spelling of a type is built of wrappers: pointers and references put a sign in
front of what was there before, arrays and functions put a size or parameters behind it.  Here the
wrappers are found again.  The first wrapper stands next to the named type.  If the declarator
begins with a sign, that is the sign of a pointer or a reference; if not, its last mark is the size
of an array or the parameters of a function.  What is left is the declarator of the other wrappers,
possibly in parentheses.

Parentheses that group begin with a sign and parameters begin with a word, so the two are not
confused.  The signs of two references one inside the other could be read in two ways, and such
wrappers are not allowed.
-/

namespace DeclScope

/-- Qualifiers are spelled by three keywords. -/
theorem Qualifiers.mem_of_mem_keywords {quals : Qualifiers} {keyword : String}
    (mem : keyword ∈ quals.keywords) : keyword ∈ ["const", "volatile", "restrict"] := by
  unfold keywords at mem
  grind

/-- Qualifiers are determined by their keywords. -/
theorem Qualifiers.keywords_inj {quals other : Qualifiers}
    (same : quals.keywords = other.keywords) : quals = other := by
  obtain ⟨isConst, isVolatile, isRestrict⟩ := quals
  obtain ⟨otherConst, otherVolatile, otherRestrict⟩ := other
  revert same
  cases isConst <;> cases isVolatile <;> cases isRestrict <;> cases otherConst <;>
    cases otherVolatile <;> cases otherRestrict <;> decide

/-- No qualifiers are the only ones that have no text. -/
theorem Qualifiers.intercalate_keywords_eq_iff (quals : Qualifiers) :
    " ".intercalate quals.keywords = "" ↔ quals.keywords = [] := by
  obtain ⟨isConst, isVolatile, isRestrict⟩ := quals
  cases isConst <;> cases isVolatile <;> cases isRestrict <;> decide

namespace Text

/-- The characters that stand between the words of a declaration. -/
def signs : List Char := [' ', '*', '&', '(', ')', '[', ']', ',']

/-- A word that can be part of a name: it has no signs and is no qualifier. -/
def IsWord (word : String) : Prop :=
  word ≠ "" ∧ (∀ char ∈ word.toList, char ∉ signs) ∧ word ∉ ["const", "volatile", "restrict"]

/-- A text of words and spaces. -/
def IsPlain (text : String) : Prop := ∀ char ∈ text.toList, char = ' ' ∨ char ∉ signs

/-- Words that are joined by spaces are determined by the text that is joined from them. -/
theorem join_inj {words others : List String}
    (areWords : ∀ word ∈ words, word ≠ "" ∧ ' ' ∉ word.toList)
    (areOthers : ∀ word ∈ others, word ≠ "" ∧ ' ' ∉ word.toList)
    (same : " ".intercalate words = " ".intercalate others) : words = others := by
  have parts {words : List String} (areWords : ∀ word ∈ words, word ≠ "" ∧ ' ' ∉ word.toList) :
      ∀ part ∈ words.map String.toList, part ≠ [] ∧ ' ' ∉ part := by
    simpa using areWords
  have sameChars := congrArg String.toList same
  rw [String.toList_intercalate, String.toList_intercalate] at sameChars
  have sameParts := intercalate_inj (parts areWords) (parts areOthers) sameChars
  exact List.map_injective_iff.mpr (fun _ _ => String.toList_injective) sameParts

/-- Qualifiers and words are not empty and have no spaces. -/
theorem apart_of_words {quals : Qualifiers} {words : List String}
    (areWords : ∀ word ∈ words, IsWord word) :
    ∀ word ∈ quals.keywords ++ words, word ≠ "" ∧ ' ' ∉ word.toList := by
  intro word listed
  rcases List.mem_append.mp listed with isKeyword | isPart
  · have keywords : ∀ word ∈ ["const", "volatile", "restrict"], word ≠ "" ∧ ' ' ∉ word.toList := by
      decide
    exact keywords word (Qualifiers.mem_of_mem_keywords isKeyword)
  · obtain ⟨nonempty, free, -⟩ := areWords word isPart
    exact ⟨nonempty, fun space => free ' ' space (by decide)⟩

/-- Qualifiers and words have no signs. -/
theorem isPlain_join {quals : Qualifiers} {words : List String}
    (areWords : ∀ word ∈ words, IsWord word) :
    IsPlain (" ".intercalate (quals.keywords ++ words)) := by
  intro char present
  rw [String.toList_intercalate] at present
  rcases mem_of_mem_intercalate present with isSpace | ⟨part, listed, inPart⟩
  · exact .inl (List.mem_singleton.mp isSpace)
  · obtain ⟨word, isWord, rfl⟩ := List.mem_map.mp listed
    refine .inr ?_
    rcases List.mem_append.mp isWord with isKeyword | isPart
    · have keywords : ∀ word ∈ ["const", "volatile", "restrict"],
          ∀ char ∈ word.toList, char ∉ signs := by
        simp [signs]
      exact keywords word (Qualifiers.mem_of_mem_keywords isKeyword) char inPart
    · exact (areWords word isPart).2.1 char inPart

end Text

/-- Qualifiers are determined by their text. -/
theorem Qualifiers.join_inj {quals other : Qualifiers}
    (same : " ".intercalate quals.keywords = " ".intercalate other.keywords) : quals = other := by
  have apart (quals : Qualifiers) : ∀ word ∈ quals.keywords, word ≠ "" ∧ ' ' ∉ word.toList := by
    have words : ∀ word ∈ quals.keywords ++ [], word ≠ "" ∧ ' ' ∉ word.toList :=
      Text.apart_of_words (by simp)
    rwa [List.append_nil] at words
  exact keywords_inj (Text.join_inj (apart quals) (apart other) same)

/-- Qualifiers have no signs. -/
theorem Qualifiers.isPlain_keywords (quals : Qualifiers) :
    Text.IsPlain (" ".intercalate quals.keywords) := by
  have plain : Text.IsPlain (" ".intercalate (quals.keywords ++ [])) :=
    Text.isPlain_join (by simp)
  rwa [List.append_nil] at plain

namespace Mark

/-- Whether a mark can be part of the words of a type: a letter that is no sign, or a space. -/
def isPlain : Mark → Bool
  | letter char => char = ' ' ∨ char ∉ Text.signs
  | _ => false

/-- Whether a mark is the sign of a pointer or a reference. -/
def isSign : Mark → Bool
  | letter char => char ∈ ['*', '&']
  | _ => false

/-- The marks of a text without brackets. -/
def letters (text : String) : List Mark := text.toList.map letter

/-- A text in front of marks, with a space between if there are both. -/
def before (text : String) (marks : List Mark) : List Mark :=
  letters text ++ (if text = "" ∨ marks = [] then [] else [letter ' ']) ++ marks

/-- Whether marks begin with a sign. -/
def signed (marks : List Mark) : Bool := marks.head?.any isSign

/-- Marks in parentheses, if they begin with a sign. -/
def grouped (marks : List Mark) : List Mark := if signed marks then [group marks] else marks

/-- A mark that does not end a parameter, with brackets that match. -/
def Sound (mark : Mark) : Prop := mark ≠ letter ',' ∧ mark.Readable

/-- Letters are what they say. -/
theorem textAll_letters (text : String) : textAll (letters text) = text.toList := by
  rw [letters, textAll_eq, List.flatMap_map]
  exact List.flatMap_singleton' text.toList

/-- The text of letters in front of marks. -/
theorem textAll_before (text : String) (marks : List Mark) :
    textAll (before text marks) =
      text.toList ++ (if text = "" ∨ marks = [] then [] else [' ']) ++ textAll marks := by
  rw [before, textAll_append, textAll_append, textAll_letters]
  split <;> rfl

/-- Letters say what text they are. -/
theorem letters_inj {text other : String} (same : letters text = letters other) : text = other := by
  apply String.toList_injective
  exact List.map_injective_iff.mpr (fun _ _ => Mark.letter.inj) same

/-- Letters of a plain text are plain. -/
theorem isPlain_of_mem_letters {text : String} (plain : Text.IsPlain text) :
    ∀ mark ∈ letters text, mark.isPlain = true := by
  intro mark listed
  obtain ⟨char, present, rfl⟩ := List.mem_map.mp listed
  exact decide_eq_true (plain char present)

/-- Plain marks are sound. -/
theorem sound_of_isPlain {mark : Mark} (plain : mark.isPlain = true) : mark.Sound := by
  cases mark with
  | letter char =>
    have isPlain : char = ' ' ∨ char ∉ Text.signs := of_decide_eq_true plain
    simp only [Text.signs] at isPlain
    grind [Sound, Readable]
  | _ => cases plain

/-- Plain marks are no signs. -/
theorem isSign_of_isPlain {mark : Mark} (plain : mark.isPlain = true) : mark.isSign = false := by
  cases mark with
  | letter char =>
    have isPlain : char = ' ' ∨ char ∉ Text.signs := of_decide_eq_true plain
    simp only [Text.signs] at isPlain
    exact decide_eq_false (by grind)
  | _ => rfl

/-- A plain text is plain with the space behind it. -/
theorem isPlain_of_mem_front {text : String} (plain : Text.IsPlain text) (marks : List Mark) :
    ∀ mark ∈ letters text ++ (if text = "" ∨ marks = [] then [] else [letter ' ']),
      mark.isPlain = true := by
  intro mark listed
  rcases List.mem_append.mp listed with inText | isSpace
  · exact isPlain_of_mem_letters plain mark inText
  · split at isSpace
    · cases isSpace
    · cases List.mem_singleton.mp isSpace
      decide

/-- Marks with plain letters in front of them are sound if they are. -/
theorem sound_before {text : String} {marks : List Mark} (plain : Text.IsPlain text)
    (sound : ∀ mark ∈ marks, mark.Sound) : ∀ mark ∈ before text marks, mark.Sound := by
  intro mark listed
  rcases List.mem_append.mp listed with inFront | inMarks
  · exact sound_of_isPlain (isPlain_of_mem_front plain marks mark inFront)
  · exact sound mark inMarks

/-- A text in front of marks and the marks are determined if only the text is plain. -/
theorem before_inj {text other : String} {marks others : List Mark} (plain : Text.IsPlain text)
    (plainOther : Text.IsPlain other) (starts : ∀ mark ∈ marks.head?, mark.isPlain = false)
    (startsOther : ∀ mark ∈ others.head?, mark.isPlain = false)
    (same : before text marks = before other others) : text = other ∧ marks = others := by
  obtain ⟨sameFront, sameMarks⟩ := append_inj_of_boundary (·.isPlain = true)
    (isPlain_of_mem_front plain marks) (isPlain_of_mem_front plainOther others)
    (by simpa using starts) (by simpa using startsOther) same
  refine ⟨?_, sameMarks⟩
  subst sameMarks
  by_cases none : marks = []
  · simp only [none, or_true, if_true, List.append_nil] at sameFront
    exact letters_inj sameFront
  · simp only [none, or_false] at sameFront
    by_cases empty : text = "" <;> by_cases emptyOther : other = ""
    · rw [empty, emptyOther]
    · rw [if_pos empty, if_neg emptyOther, empty] at sameFront
      exact absurd sameFront.symm (List.append_ne_nil_of_right_ne_nil _ (List.cons_ne_nil _ _))
    · rw [if_neg empty, if_pos emptyOther, emptyOther] at sameFront
      exact absurd sameFront (List.append_ne_nil_of_right_ne_nil _ (List.cons_ne_nil _ _))
    · rw [if_neg empty, if_neg emptyOther] at sameFront
      exact letters_inj (List.append_cancel_right sameFront)

/-- What has a mark behind it that is no sign does not begin with a sign once it is grouped. -/
theorem signed_grouped_append {mark : Mark} (unsigned : mark.isSign = false) (marks : List Mark) :
    signed (grouped marks ++ [mark]) = false := by
  unfold grouped
  split
  · rfl
  · rename_i notSigned
    cases marks with
    | nil => simpa [signed] using unsigned
    | cons first others => simpa [signed] using notSigned

/-- Marks that may be grouped and have a sound mark behind them are sound if they are. -/
theorem sound_grouped_append {last : Mark} {marks : List Mark} (soundLast : last.Sound)
    (sound : ∀ mark ∈ marks, mark.Sound) : ∀ mark ∈ grouped marks ++ [last], mark.Sound := by
  intro mark listed
  rcases List.mem_append.mp listed with inFront | isLast
  · unfold grouped at inFront
    split at inFront
    · cases List.mem_singleton.mp inFront
      have readable : ReadableAll marks :=
        readableAll_iff.mpr fun mark inside => (sound mark inside).2
      exact ⟨by simp, readable⟩
    · exact sound mark inFront
  · cases List.mem_singleton.mp isLast
    exact soundLast

/-- Marks that may be grouped and have no plain mark behind them begin with no plain mark if they
do not. -/
theorem head?_grouped_append {last : Mark} {marks : List Mark} (notPlain : last.isPlain = false)
    (starts : ∀ mark ∈ marks.head?, mark.isPlain = false) :
    ∀ mark ∈ (grouped marks ++ [last]).head?, mark.isPlain = false := by
  unfold grouped
  split
  · rintro mark ⟨⟩
    rfl
  · cases marks with
    | nil => simpa using notPlain
    | cons first others => simpa using starts

/-- Parameters that begin with words do not begin with a sign. -/
theorem signed_parameters {parameters : List (List Mark)}
    (starts : ∀ marks ∈ parameters, marks.head?.any isPlain = true) (separator : List Mark) :
    signed (separator.intercalate parameters) = false := by
  cases parameters with
  | nil => rfl
  | cons marks others =>
    have plain : marks.head?.any isPlain = true := starts marks List.mem_cons_self
    rw [intercalate_cons]
    cases marks with
    | nil => cases plain
    | cons first rest => exact isSign_of_isPlain plain

end Mark

/-- What one derived type adds to the spelling.  The parameters of a function are given as they are
spelled. -/
inductive Wrapper where
  | pointer (quals : Qualifiers)
  | reference (form : ReferenceForm)
  | array (size? : Option String)
  | function (parameters : List (List Mark))

namespace Wrapper

/-- Whether a wrapper has a sign in front. -/
def isSigned : Wrapper → Bool
  | pointer _ | reference _ => true
  | _ => false

/-- Whether a wrapper is that of a reference. -/
def isReference : Wrapper → Bool
  | reference _ => true
  | _ => false

/-- Two neighbours are not both references. -/
def Apart (inner outer : Wrapper) : Prop := ¬ (inner.isReference = true ∧ outer.isReference = true)

/-- A wrapper that can be read: sizes are not empty and have no closing bracket, and parameters
begin with words and are sound. -/
def Regular : Wrapper → Prop
  | pointer _ | reference _ => True
  | array size? => ∀ size ∈ size?, size ≠ "" ∧ ']' ∉ size.toList
  | function parameters => ∀ marks ∈ parameters,
      marks.head?.any Mark.isPlain = true ∧ ∀ mark ∈ marks, mark.Sound

end Wrapper

/-- The declarator of wrappers, of which the first stands next to the named type. -/
def declaratorMarks : List Wrapper → List Mark
  | [] => []
  | .pointer quals :: outer =>
    .letter '*' :: Mark.before (" ".intercalate quals.keywords) (declaratorMarks outer)
  | .reference form :: outer => Mark.letters form.sign ++ declaratorMarks outer
  | .array size? :: outer =>
    Mark.grouped (declaratorMarks outer) ++ [.size (size?.getD "").toList]
  | .function parameters :: outer =>
    Mark.grouped (declaratorMarks outer) ++
      [.group ((Mark.letters ", ").intercalate parameters)]

/-- A reference begins with a sign. -/
theorem signed_reference (form : ReferenceForm) (marks : List Mark) :
    Mark.signed (Mark.letters form.sign ++ marks) = true := by
  cases form <;> rfl

/-- No declarator begins with a word. -/
theorem head?_declaratorMarks (wrappers : List Wrapper) :
    ∀ mark ∈ (declaratorMarks wrappers).head?, mark.isPlain = false := by
  induction wrappers with
  | nil => simp [declaratorMarks]
  | cons wrapper outer inductionHypothesis =>
    cases wrapper with
    | pointer quals =>
      rintro mark ⟨⟩
      decide
    | reference form =>
      rintro mark first
      cases form <;> cases first <;> decide
    | array size? => exact Mark.head?_grouped_append rfl inductionHypothesis
    | function parameters => exact Mark.head?_grouped_append rfl inductionHypothesis

/-- The marks of a declarator are sound. -/
theorem sound_declaratorMarks {wrappers : List Wrapper}
    (regular : ∀ wrapper ∈ wrappers, wrapper.Regular) :
    ∀ mark ∈ declaratorMarks wrappers, mark.Sound := by
  induction wrappers with
  | nil => simp [declaratorMarks]
  | cons wrapper outer inductionHypothesis =>
    rw [List.forall_mem_cons] at regular
    have soundOuter := inductionHypothesis regular.2
    cases wrapper with
    | pointer quals =>
      rw [declaratorMarks, List.forall_mem_cons]
      refine ⟨⟨by simp, by simp [Mark.Readable]⟩, ?_⟩
      exact Mark.sound_before quals.isPlain_keywords soundOuter
    | reference form =>
      rw [declaratorMarks, List.forall_mem_append]
      refine ⟨?_, soundOuter⟩
      cases form <;> simp [ReferenceForm.sign, Mark.letters, Mark.Sound, Mark.Readable]
    | array size? =>
      refine Mark.sound_grouped_append ⟨by simp, ?_⟩ soundOuter
      cases size? with
      | none => simp [Mark.Readable]
      | some size => exact (regular.1 size rfl).2
    | function parameters =>
      refine Mark.sound_grouped_append ⟨by simp, ?_⟩ soundOuter
      have separator : ∀ mark ∈ Mark.letters ", ", mark.Readable := by
        simp [Mark.letters, Mark.Readable]
      refine Mark.readableAll_iff.mpr fun mark inside => ?_
      rcases mem_of_mem_intercalate inside with inSeparator | ⟨marks, listed, present⟩
      · exact separator mark inSeparator
      · exact ((regular.1 marks listed).2 mark present).2

/-- A declarator begins with a sign if its first wrapper does. -/
theorem signed_declaratorMarks (wrapper : Wrapper) (outer : List Wrapper) :
    Mark.signed (declaratorMarks (wrapper :: outer)) = wrapper.isSigned := by
  cases wrapper with
  | pointer quals => rfl
  | reference form => exact signed_reference form _
  | array size? => exact Mark.signed_grouped_append rfl _
  | function parameters => exact Mark.signed_grouped_append rfl _

/-- Wrappers have marks. -/
theorem declaratorMarks_ne_nil (wrapper : Wrapper) (outer : List Wrapper) :
    declaratorMarks (wrapper :: outer) ≠ [] := by
  cases wrapper with
  | pointer quals => exact List.cons_ne_nil _ _
  | reference form => cases form <;> exact List.cons_ne_nil _ _
  | array size? => exact List.append_ne_nil_of_right_ne_nil _ (List.cons_ne_nil _ _)
  | function parameters => exact List.append_ne_nil_of_right_ne_nil _ (List.cons_ne_nil _ _)

/-- A group that begins with a sign is no declarator by itself: it would be the parameters of a
function. -/
theorem declaratorMarks_ne_group {wrappers : List Wrapper} {marks : List Mark}
    (regular : ∀ wrapper ∈ wrappers, wrapper.Regular) (signed : Mark.signed marks = true) :
    declaratorMarks wrappers ≠ [.group marks] := by
  intro isGroup
  cases wrappers with
  | nil => cases isGroup
  | cons wrapper outer =>
    have unsigned : wrapper.isSigned = false := by
      rw [← signed_declaratorMarks wrapper outer, isGroup]
      rfl
    cases wrapper with
    | pointer quals => cases unsigned
    | reference form => cases unsigned
    | array size? =>
      obtain ⟨-, ⟨⟩⟩ := concat_inj (isGroup.trans (List.nil_append _).symm)
    | function parameters =>
      obtain ⟨-, ⟨⟩⟩ := concat_inj (isGroup.trans (List.nil_append _).symm)
      have plain : ∀ marks ∈ parameters, marks.head?.any Mark.isPlain = true := fun marks listed =>
        ((List.forall_mem_cons.mp regular).1 marks listed).1
      rw [Mark.signed_parameters plain] at signed
      cases signed

/-- Parentheses that group say what is inside them. -/
theorem grouped_inj {wrappers others : List Wrapper}
    (regular : ∀ wrapper ∈ wrappers, wrapper.Regular)
    (regularOthers : ∀ wrapper ∈ others, wrapper.Regular)
    (same : Mark.grouped (declaratorMarks wrappers) = Mark.grouped (declaratorMarks others)) :
    declaratorMarks wrappers = declaratorMarks others := by
  unfold Mark.grouped at same
  split at same <;> split at same
  · exact Mark.group.inj (List.singleton_inj.mp same)
  · rename_i signed _
    exact absurd same.symm (declaratorMarks_ne_group regularOthers signed)
  · rename_i _ signed
    exact absurd same (declaratorMarks_ne_group regular signed)
  · exact same

/-- A pointer does not look like a reference. -/
theorem pointer_ne_reference (quals : Qualifiers) (form : ReferenceForm)
    (outer others : List Wrapper) :
    declaratorMarks (.pointer quals :: outer) ≠ declaratorMarks (.reference form :: others) := by
  cases form <;> simp [declaratorMarks, Mark.letters, ReferenceForm.sign]

/-- A reference shows as such only if it is not inside another. -/
theorem not_ampersand {form : ReferenceForm} {outer : List Wrapper}
    (apart : (Wrapper.reference form :: outer).IsChain Wrapper.Apart) :
    .letter '&' ∉ (declaratorMarks outer).head? := by
  intro first
  cases outer with
  | nil => cases first
  | cons wrapper outer =>
    have signed : Mark.signed (declaratorMarks (wrapper :: outer)) = true := by
      rw [Mark.signed, first]
      rfl
    rw [signed_declaratorMarks] at signed
    cases wrapper with
    | pointer quals => simp [declaratorMarks] at first
    | reference form => exact (List.isChain_cons_cons.mp apart).1 ⟨rfl, rfl⟩
    | array size? => cases signed
    | function parameters => cases signed

/-- The signs of a reference end where the rest of the declarator begins. -/
theorem reference_inj {form other : ReferenceForm} {outer others : List Wrapper}
    (apart : (Wrapper.reference form :: outer).IsChain Wrapper.Apart)
    (apartOther : (Wrapper.reference other :: others).IsChain Wrapper.Apart)
    (same : declaratorMarks (.reference form :: outer) =
      declaratorMarks (.reference other :: others)) :
    form = other ∧ declaratorMarks outer = declaratorMarks others := by
  have signs (form : ReferenceForm) : ∀ mark ∈ Mark.letters form.sign, mark = .letter '&' := by
    cases form <;> simp [Mark.letters, ReferenceForm.sign]
  have ends {form : ReferenceForm} {outer : List Wrapper}
      (apart : (Wrapper.reference form :: outer).IsChain Wrapper.Apart) :
      ∀ mark ∈ (declaratorMarks outer).head?, mark ≠ .letter '&' := by
    rintro mark first rfl
    exact not_ampersand apart first
  obtain ⟨sameSigns, sameOuter⟩ := append_inj_of_boundary (· = Mark.letter '&') (signs form)
    (signs other) (ends apart) (ends apartOther) same
  refine ⟨?_, sameOuter⟩
  have sameSign : form.sign = other.sign := Mark.letters_inj sameSigns
  revert sameSign
  cases form <;> cases other <;> decide

/-- A size is determined by its text, since only an array without a size has none. -/
theorem size_inj {size? other? : Option String} (regular : (Wrapper.array size?).Regular)
    (regularOther : (Wrapper.array other?).Regular)
    (same : size?.getD "" = other?.getD "") : size? = other? := by
  cases size? with
  | none =>
    cases other? with
    | none => rfl
    | some other => exact absurd same.symm (regularOther other rfl).1
  | some size =>
    cases other? with
    | none => exact absurd same (regular size rfl).1
    | some other => exact congrArg some same

/-- Parameters are determined by the list of them: none of them has a comma outside brackets. -/
theorem parameters_inj {parameters others : List (List Mark)}
    (regular : (Wrapper.function parameters).Regular)
    (regularOther : (Wrapper.function others).Regular)
    (same : (Mark.letters ", ").intercalate parameters = (Mark.letters ", ").intercalate others) :
    parameters = others := by
  have parts {parameters : List (List Mark)} (regular : (Wrapper.function parameters).Regular) :
      ∀ marks ∈ parameters, marks ≠ [] ∧ .letter ',' ∉ marks := by
    intro marks listed
    obtain ⟨starts, sound⟩ := regular marks listed
    refine ⟨?_, fun comma => (sound _ comma).1 rfl⟩
    rintro rfl
    cases starts
  exact intercalate_inj (parts regular) (parts regularOther) same

/-- The wrapper next to the named type is determined by the marks, and so is the declarator around
it.  If there is a sign in front, it says what the wrapper is; otherwise the last mark does. -/
theorem declaratorMarks_cons_inj {wrapper other : Wrapper} {outer others : List Wrapper}
    (regular : ∀ inner ∈ wrapper :: outer, inner.Regular)
    (apart : (wrapper :: outer).IsChain Wrapper.Apart)
    (regularOther : ∀ inner ∈ other :: others, inner.Regular)
    (apartOther : (other :: others).IsChain Wrapper.Apart)
    (same : declaratorMarks (wrapper :: outer) = declaratorMarks (other :: others)) :
    wrapper = other ∧ declaratorMarks outer = declaratorMarks others := by
  have sameSign := congrArg Mark.signed same
  rw [signed_declaratorMarks, signed_declaratorMarks] at sameSign
  rw [List.forall_mem_cons] at regular regularOther
  cases wrapper with
  | pointer quals =>
    cases other with
    | pointer otherQuals =>
      obtain ⟨sameQuals, sameOuter⟩ := Mark.before_inj quals.isPlain_keywords
        otherQuals.isPlain_keywords (head?_declaratorMarks outer) (head?_declaratorMarks others)
        (List.cons_eq_cons.mp same).2
      exact ⟨by rw [Qualifiers.join_inj sameQuals], sameOuter⟩
    | reference form => exact absurd same (pointer_ne_reference quals form outer others)
    | array _ | function _ => cases sameSign
  | reference form =>
    cases other with
    | pointer quals => exact absurd same.symm (pointer_ne_reference quals form others outer)
    | reference otherForm =>
      obtain ⟨rfl, sameOuter⟩ := reference_inj apart apartOther same
      exact ⟨rfl, sameOuter⟩
    | array _ | function _ => cases sameSign
  | array size? =>
    cases other with
    | pointer _ | reference _ => cases sameSign
    | array otherSize? =>
      obtain ⟨sameOuter, sameLast⟩ := concat_inj same
      refine ⟨?_, grouped_inj regular.2 regularOther.2 sameOuter⟩
      have sameSize : size?.getD "" = otherSize?.getD "" :=
        String.toList_injective (Mark.size.inj sameLast)
      rw [size_inj regular.1 regularOther.1 sameSize]
    | function parameters =>
      obtain ⟨-, ⟨⟩⟩ := concat_inj same
  | function parameters =>
    cases other with
    | pointer _ | reference _ => cases sameSign
    | array size? => obtain ⟨-, ⟨⟩⟩ := concat_inj same
    | function otherParameters =>
      obtain ⟨sameOuter, sameLast⟩ := concat_inj same
      refine ⟨?_, grouped_inj regular.2 regularOther.2 sameOuter⟩
      rw [parameters_inj regular.1 regularOther.1 (Mark.group.inj sameLast)]

/-- The wrappers of a declarator are determined by its marks. -/
theorem declaratorMarks_inj {wrappers others : List Wrapper}
    (regular : ∀ wrapper ∈ wrappers, wrapper.Regular) (apart : wrappers.IsChain Wrapper.Apart)
    (regularOthers : ∀ wrapper ∈ others, wrapper.Regular)
    (apartOthers : others.IsChain Wrapper.Apart)
    (same : declaratorMarks wrappers = declaratorMarks others) : wrappers = others := by
  induction wrappers generalizing others with
  | nil =>
    cases others with
    | nil => rfl
    | cons other others => exact absurd same.symm (declaratorMarks_ne_nil other others)
  | cons wrapper outer inductionHypothesis =>
    cases others with
    | nil => exact absurd same (declaratorMarks_ne_nil wrapper outer)
    | cons other others =>
      obtain ⟨sameWrapper, sameOuter⟩ :=
        declaratorMarks_cons_inj regular apart regularOthers apartOthers same
      have sameOthers : outer = others :=
        inductionHypothesis (List.forall_mem_cons.mp regular).2 apart.tail
          (List.forall_mem_cons.mp regularOthers).2 apartOthers.tail sameOuter
      rw [sameWrapper, sameOthers]

end DeclScope
