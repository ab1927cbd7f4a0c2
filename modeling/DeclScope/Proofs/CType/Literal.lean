import DeclScope.CType.Size
import Mathlib.Data.List.Forall2
import Mathlib.Data.List.Induction
import Mathlib.Data.List.TakeWhile
import Mathlib.Data.Nat.Digits.Defs

/-!
# Integer literals as array sizes

An integer literal is written in base ten, in base eight with a leading zero, or in base sixteen
behind `0x` or `0X`.  Between two digits there may be a separator, and behind the last one any number
of suffix letters.  Each literal is read with its value if that fits in 64 bits, and is refused
otherwise.

A text is read in two steps.  First its suffix and all its separators go.  What is left is read as
digits, and there a plus sign is passed over.  Both steps are described here as they are, by the
texts that they tolerate; literals are among them.
-/

namespace DeclScope.Size

/-! ## Literals -/

/-- The digits by value, with small letters. -/
def lowerDigits : List Char := "0123456789abcdef".toList

/-- The digits by value, with capital letters. -/
def upperDigits : List Char := "0123456789ABCDEF".toList

/-- The character is a digit of the base and has the value. -/
def IsDigit (base : Nat) (c : Char) (value : Nat) : Prop :=
  value < base ∧ (lowerDigits[value]? = some c ∨ upperDigits[value]? = some c)

instance (base : Nat) (c : Char) (value : Nat) : Decidable (IsDigit base c value) :=
  inferInstanceAs (Decidable (_ ∧ _))

/-- One digit or more, the most significant first, possibly with separators between them. -/
inductive Numeral (base : Nat) : List Char → List Nat → Prop
  | last {c : Char} {digit : Nat} (isDigit : IsDigit base c digit) : Numeral base [c] [digit]
  | next {c : Char} {digit : Nat} {cs : List Char} {digits : List Nat}
      (isDigit : IsDigit base c digit) (rest : Numeral base cs digits) :
      Numeral base (c :: cs) (digit :: digits)
  | separated {c : Char} {digit : Nat} {cs : List Char} {digits : List Nat}
      (isDigit : IsDigit base c digit) (rest : Numeral base cs digits) :
      Numeral base (c :: '\'' :: cs) (digit :: digits)

/-- The character marks base sixteen. -/
def IsMark (mark : Char) : Prop := mark = 'x' ∨ mark = 'X'

/-- An integer literal without a suffix, and its value.  A leading zero makes it octal; the zero by
itself is one of these. -/
inductive Literal : List Char → Nat → Prop
  | decimal {cs : List Char} {digits : List Nat} (written : Numeral 10 cs digits)
      (leading : digits.head? ≠ some 0) : Literal cs (Nat.ofDigits 10 digits.reverse)
  | octal {cs : List Char} {digits : List Nat} (written : Numeral 8 cs digits)
      (leading : digits.head? = some 0) : Literal cs (Nat.ofDigits 8 digits.reverse)
  | hexadecimal {mark : Char} {cs : List Char} {digits : List Nat} (isMark : IsMark mark)
      (written : Numeral 16 cs digits) :
      Literal ('0' :: mark :: cs) (Nat.ofDigits 16 digits.reverse)

/-- The letters of a suffix. -/
def suffixLetters : List Char := ['u', 'U', 'l', 'L']

/-- The characters are all letters of a suffix. -/
def IsSuffix (suffix : List Char) : Prop := ∀ c ∈ suffix, c ∈ suffixLetters

instance (suffix : List Char) : Decidable (IsSuffix suffix) :=
  List.decidableBAll (· ∈ suffixLetters) suffix

/-- The text is an integer literal with the value: a literal and any number of suffix letters. -/
def IsLiteral (text : String) (value : Nat) : Prop :=
  ∃ literal suffix, text.toList = literal ++ suffix ∧ IsSuffix suffix ∧ Literal literal value

/-! ## What is read -/

/-- One digit or more without separators. -/
def Plain (base : Nat) (cs : List Char) (digits : List Nat) : Prop :=
  digits ≠ [] ∧ List.Forall₂ (IsDigit base) cs digits

/-- A plus sign, or nothing. -/
def IsSign (sign : List Char) : Prop := sign = [] ∨ sign = ['+']

/-- A text that is read once suffix and separators are gone, and the value it is read with.  There
may be a plus sign in front of the digits. -/
inductive Tolerated : List Char → Nat → Prop
  | decimal {sign cs : List Char} {digits : List Nat} (isSign : IsSign sign)
      (written : Plain 10 cs digits)
      (leading : sign = [] → digits.head? = some 0 → digits = [0]) :
      Tolerated (sign ++ cs) (Nat.ofDigits 10 digits.reverse)
  | octal {sign cs : List Char} {digits : List Nat} (isSign : IsSign sign)
      (written : Plain 8 cs digits) :
      Tolerated ('0' :: (sign ++ cs)) (Nat.ofDigits 8 digits.reverse)
  | hexadecimal {mark : Char} {sign cs : List Char} {digits : List Nat} (isMark : IsMark mark)
      (isSign : IsSign sign) (written : Plain 16 cs digits) :
      Tolerated ('0' :: mark :: (sign ++ cs)) (Nat.ofDigits 16 digits.reverse)

/-- A text without its separators. -/
def unseparated (cs : List Char) : List Char := cs.filter (· != '\'')

/-- The text is read with the value, if that fits: separators may stand anywhere in front of the
suffix. -/
def IsTolerated (text : String) (value : Nat) : Prop :=
  ∃ body suffix, text.toList = body ++ suffix ∧ IsSuffix suffix ∧
    Tolerated (unseparated body) value

/-! ## Digits and numbers -/

/-- A digit of a smaller base is one of base sixteen. -/
theorem IsDigit.sixteen {base : Nat} {c : Char} {value : Nat} (isDigit : IsDigit base c value)
    (small : base ≤ 16) : IsDigit 16 c value :=
  ⟨Nat.lt_of_lt_of_le isDigit.1 small, isDigit.2⟩

/-- No digit is one of the signs around digits. -/
theorem IsDigit.not_mem {base : Nat} {c : Char} {value : Nat} (isDigit : IsDigit base c value) :
    c ∉ ['\'', '+', 'x', 'X'] ++ suffixLetters := by
  have apart : (lowerDigits ++ upperDigits).all
      (· ∉ ['\'', '+', 'x', 'X'] ++ suffixLetters) = true := by decide
  apply of_decide_eq_true
  apply List.all_eq_true.mp apart
  rcases isDigit.2 with found | found
  · exact List.mem_append_left _ (List.mem_of_getElem? found)
  · exact List.mem_append_right _ (List.mem_of_getElem? found)

/-- A digit is no separator. -/
theorem IsDigit.ne_separator {base : Nat} {c : Char} {value : Nat}
    (isDigit : IsDigit base c value) : c ≠ '\'' := by
  rintro rfl
  exact isDigit.not_mem (by decide)

/-- A digit marks no base. -/
theorem IsDigit.not_isMark {base : Nat} {c : Char} {value : Nat}
    (isDigit : IsDigit base c value) : ¬ IsMark c := by
  rintro (rfl | rfl) <;> exact isDigit.not_mem (by decide)

/-- A digit is no letter of a suffix. -/
theorem IsDigit.not_letter {base : Nat} {c : Char} {value : Nat}
    (isDigit : IsDigit base c value) : c ∉ suffixLetters := by
  intro isLetter
  exact isDigit.not_mem (List.mem_append_right _ isLetter)

/-- A character of a range is found again by its distance from the first. -/
theorem eq_of_range {first last c : Char} (inside : (first ≤ c && c ≤ last) = true) :
    c.toNat - first.toNat ≤ last.toNat - first.toNat ∧
      Char.ofNat (c.toNat - first.toNat + first.toNat) = c := by
  rw [Bool.and_eq_true, decide_eq_true_eq, decide_eq_true_eq] at inside
  obtain ⟨above, below⟩ : first.toNat ≤ c.toNat ∧ c.toNat ≤ last.toNat := inside
  refine ⟨by omega, ?_⟩
  rw [Nat.sub_add_cancel above, Char.ofNat_toNat]

/-- Which digits are read, and as what. -/
theorem digit?_eq_some_iff {base : Nat} (small : base ≤ 16) {c : Char} {value : Nat} :
    digit? base c = some value ↔ IsDigit base c value := by
  have decimals : ∀ value < 10, lowerDigits[value]? = some (Char.ofNat (value + 48)) := by decide
  have letters : ∀ value < 6, lowerDigits[value + 10]? = some (Char.ofNat (value + 97)) ∧
      upperDigits[value + 10]? = some (Char.ofNat (value + 65)) := by decide
  have tables : ∀ value < 16, ∀ found ∈ [lowerDigits[value]?, upperDigits[value]?],
      found.all (fun c => digit? 16 c == some value) = true := by decide
  constructor
  · intro read
    obtain ⟨found, below⟩ := Option.filter_eq_some_iff.mp read
    rw [decide_eq_true_eq] at below
    refine ⟨below, ?_⟩
    split at found
    · rename_i inside
      obtain ⟨near, same⟩ := eq_of_range inside
      cases found
      rw [decimals _ (Nat.lt_succ_of_le near)]
      exact .inl (congrArg some same)
    · split at found
      · rename_i inside
        obtain ⟨-, same⟩ := eq_of_range inside
        cases found
        rw [(letters _ (by omega)).1]
        exact .inl (congrArg some same)
      · split at found
        · rename_i inside
          obtain ⟨-, same⟩ := eq_of_range inside
          cases found
          rw [(letters _ (by omega)).2]
          exact .inr (congrArg some same)
        · cases found
  · rintro ⟨below, found⟩
    have read : digit? 16 c = some value := by
      have inTable := tables value (Nat.lt_of_lt_of_le below small)
      rcases found with found | found
      · simpa [found] using inTable _ List.mem_cons_self
      · simpa [found] using inTable _ (List.mem_cons_of_mem _ List.mem_cons_self)
    obtain ⟨isValue, -⟩ := Option.filter_eq_some_iff.mp read
    exact Option.filter_eq_some_iff.mpr ⟨isValue, decide_eq_true below⟩

/-- The digit zero, and no other, has the value zero. -/
theorem IsDigit.eq_zero_iff {base : Nat} (small : base ≤ 16) {c : Char} {value : Nat}
    (isDigit : IsDigit base c value) : c = '0' ↔ value = 0 := by
  constructor
  · rintro rfl
    have read : digit? 16 '0' = some value :=
      (digit?_eq_some_iff (Nat.le_refl 16)).mpr (isDigit.sixteen small)
    have zero : digit? 16 '0' = some 0 := by decide
    exact Option.some.inj (read.symm.trans zero)
  · rintro rfl
    rcases isDigit.2 with found | found <;> exact (Option.some.inj found).symm

/-- Characters that are all read as digits. -/
theorem mapM_digit?_eq_some_iff {base : Nat} (small : base ≤ 16) {cs : List Char}
    {digits : List Nat} :
    cs.mapM (digit? base) = some digits ↔ List.Forall₂ (IsDigit base) cs digits := by
  induction cs generalizing digits with
  | nil => simp [eq_comm]
  | cons c cs inductionHypothesis =>
    simp only [List.mapM_cons, Option.bind_eq_bind, Option.bind_eq_some_iff, Option.pure_def,
      Option.some.injEq, inductionHypothesis, digit?_eq_some_iff small, List.forall₂_cons_left_iff]
    grind

/-- The value of a number is that of its digits. -/
theorem valueOf_eq (base : Nat) (digits : List Nat) :
    valueOf base digits = Nat.ofDigits base digits.reverse := by
  induction digits using List.reverseRecOn with
  | nil => rfl
  | append_singleton digits digit inductionHypothesis =>
    calc valueOf base (digits ++ [digit])
        = valueOf base digits * base + digit := by simp [valueOf]
      _ = digit + base * Nat.ofDigits base digits.reverse := by
          rw [inductionHypothesis, Nat.mul_comm, Nat.add_comm]
      _ = Nat.ofDigits base (digits ++ [digit]).reverse := by
          rw [List.reverse_concat, Nat.ofDigits_cons]

/-- A number starts with a digit. -/
theorem Plain.exists_cons {base : Nat} {cs : List Char} {digits : List Nat}
    (written : Plain base cs digits) : ∃ c rest digit, cs = c :: rest ∧ IsDigit base c digit := by
  obtain ⟨nonempty, each⟩ := written
  cases each with
  | nil => exact absurd rfl nonempty
  | cons isDigit _ => exact ⟨_, _, _, rfl, isDigit⟩

/-- A number consists of digits. -/
theorem Plain.isDigit_of_mem {base : Nat} {cs : List Char} {digits : List Nat}
    (written : Plain base cs digits) {c : Char} (mem : c ∈ cs) : ∃ digit, IsDigit base c digit := by
  obtain ⟨-, each⟩ := written
  induction each with
  | nil => cases mem
  | cons isDigit _ inductionHypothesis =>
    rcases List.mem_cons.mp mem with rfl | later
    · exact ⟨_, isDigit⟩
    · exact inductionHypothesis later

/-- A number is read with the value of its digits. -/
theorem Plain.digits?_eq {base : Nat} (small : base ≤ 16) {cs : List Char} {digits : List Nat}
    (written : Plain base cs digits) :
    digits? base cs = some (Nat.ofDigits base digits.reverse) := by
  obtain ⟨c, rest, -, rfl, -⟩ := written.exists_cons
  rw [digits?, (mapM_digit?_eq_some_iff small).mpr written.2, Option.map_some, valueOf_eq]
  exact List.cons_ne_nil c rest

/-- What is read as a number consists of digits. -/
theorem exists_plain_of_digits? {base : Nat} (small : base ≤ 16) {cs : List Char} {value : Nat}
    (read : digits? base cs = some value) :
    ∃ digits, Plain base cs digits ∧ value = Nat.ofDigits base digits.reverse := by
  cases cs with
  | nil => cases read
  | cons c cs =>
    obtain ⟨digits, each, rfl⟩ := Option.map_eq_some_iff.mp read
    have written := (mapM_digit?_eq_some_iff small).mp each
    refine ⟨digits, ⟨?_, written⟩, valueOf_eq base digits⟩
    rintro rfl
    cases written

/-- A plus sign in front of a number is passed over; the number itself starts with none. -/
theorem Plain.unsigned_eq {base : Nat} {sign cs : List Char} {digits : List Nat}
    (isSign : IsSign sign) (written : Plain base cs digits) : unsigned (sign ++ cs) = cs := by
  rcases isSign with rfl | rfl
  · obtain ⟨c, rest, digit, rfl, isDigit⟩ := written.exists_cons
    rw [List.nil_append, unsigned]
    intro others isPlus
    obtain ⟨rfl, -⟩ := List.cons.inj isPlus
    exact isDigit.not_mem (by decide)
  · rfl

/-- A text is what is left without a plus sign, behind that sign or behind nothing. -/
theorem exists_sign (cs : List Char) : ∃ sign, IsSign sign ∧ cs = sign ++ unsigned cs := by
  unfold unsigned
  split
  · exact ⟨['+'], .inr rfl, rfl⟩
  · exact ⟨[], .inl rfl, rfl⟩

/-- A number, possibly behind a plus sign, is read if it fits in 64 bits. -/
theorem Plain.word?_eq {base : Nat} (small : base ≤ 16) {sign cs : List Char} {digits : List Nat}
    (isSign : IsSign sign) (written : Plain base cs digits) :
    word? base (sign ++ cs) =
      (some (Nat.ofDigits base digits.reverse)).filter (· < UInt64.size) := by
  rw [word?, written.unsigned_eq isSign, written.digits?_eq small]

/-- What is read in a base is a number, possibly behind a plus sign. -/
theorem exists_plain_of_word? {base : Nat} (small : base ≤ 16) {cs : List Char} {value : Nat}
    (read : word? base cs = some value) :
    value < UInt64.size ∧ ∃ sign rest digits, IsSign sign ∧ cs = sign ++ rest ∧
      Plain base rest digits ∧ value = Nat.ofDigits base digits.reverse := by
  obtain ⟨isNumber, fits⟩ := Option.filter_eq_some_iff.mp read
  obtain ⟨digits, written, rfl⟩ := exists_plain_of_digits? small isNumber
  obtain ⟨sign, isSign, same⟩ := exists_sign cs
  exact ⟨of_decide_eq_true fits, sign, _, digits, isSign, same, written, rfl⟩

/-! ## Texts without suffix and separators -/

/-- Without a leading zero a text is read in base ten. -/
theorem ofBare?_of_decimal {cs : List Char} (other : ∀ c rest, cs ≠ '0' :: c :: rest) :
    ofBare? cs = word? 10 cs := by
  unfold ofBare?
  split
  · exact absurd rfl (other _ _)
  · exact absurd rfl (other _ _)
  · exact absurd rfl (other _ _)
  · rfl

/-- Behind a leading zero without a mark a text is read in base eight. -/
theorem ofBare?_of_octal {c : Char} {cs : List Char} (other : ¬ IsMark c) :
    ofBare? ('0' :: c :: cs) = word? 8 (c :: cs) := by
  rw [IsMark, not_or] at other
  rw [ofBare?]
  · exact other.1
  · exact other.2

/-- A tolerated text is read if its value fits in 64 bits. -/
theorem Tolerated.ofBare?_eq {cs : List Char} {value : Nat} (tolerated : Tolerated cs value) :
    ofBare? cs = (some value).filter (· < UInt64.size) := by
  cases tolerated with
  | @decimal sign cs digits isSign written leading =>
    rw [← written.word?_eq (by decide) isSign]
    apply ofBare?_of_decimal
    intro c rest isOctal
    have noSign : sign = [] := by
      rcases isSign with rfl | rfl
      · rfl
      · cases isOctal
    subst noSign
    obtain ⟨-, each⟩ := written
    rw [← List.nil_append cs, isOctal] at each
    cases each with
    | cons isDigit others =>
      -- The leading digit is a zero, so there are no others.
      cases (isDigit.eq_zero_iff (by decide)).mp rfl
      cases leading rfl rfl
      cases others
  | @octal sign cs digits isSign written =>
    rw [← written.word?_eq (by decide) isSign]
    rcases isSign with rfl | rfl
    · obtain ⟨c, rest, digit, rfl, isDigit⟩ := written.exists_cons
      exact ofBare?_of_octal isDigit.not_isMark
    · rfl
  | hexadecimal isMark isSign written =>
    rw [← written.word?_eq (by decide) isSign]
    rcases isMark with rfl | rfl <;> rfl

/-- What is read without suffix and separators is tolerated, and its value fits in 64 bits. -/
theorem tolerated_of_ofBare? {cs : List Char} {value : Nat} (read : ofBare? cs = some value) :
    value < UInt64.size ∧ Tolerated cs value := by
  unfold ofBare? at read
  split at read
  · obtain ⟨fits, sign, rest, digits, isSign, rfl, written, rfl⟩ :=
      exists_plain_of_word? (by decide) read
    exact ⟨fits, .hexadecimal (.inl rfl) isSign written⟩
  · obtain ⟨fits, sign, rest, digits, isSign, rfl, written, rfl⟩ :=
      exists_plain_of_word? (by decide) read
    exact ⟨fits, .hexadecimal (.inr rfl) isSign written⟩
  · obtain ⟨fits, sign, rest, digits, isSign, same, written, rfl⟩ :=
      exists_plain_of_word? (by decide) read
    rw [same]
    exact ⟨fits, .octal isSign written⟩
  · rename_i other
    obtain ⟨fits, sign, rest, digits, isSign, rfl, written, rfl⟩ :=
      exists_plain_of_word? (by decide) read
    refine ⟨fits, .decimal isSign written ?_⟩
    rintro rfl isZero
    obtain ⟨-, each⟩ := written
    cases each with
    | nil => cases isZero
    | cons isDigit others =>
      cases isZero
      cases others with
      | nil => rfl
      | cons next rest =>
        rw [(isDigit.eq_zero_iff (by decide)).mpr rfl] at other
        exact absurd rfl (other _ _)

/-! ## Suffix and separators -/

/-- The suffix letters are the four that may follow a literal. -/
theorem isSuffixLetter_iff {c : Char} : isSuffixLetter c = true ↔ c ∈ suffixLetters := by
  simp [isSuffixLetter, suffixLetters, or_assoc]

/-- The suffix is taken off and the separators are dropped, if no letter of the suffix stands in
front of it. -/
theorem bare_append {body suffix : List Char} (isSuffix : IsSuffix suffix)
    (others : ∀ c ∈ body, c ∉ suffixLetters) : bare (body ++ suffix) = unseparated body := by
  have dropped : suffix.reverse.dropWhile isSuffixLetter = [] := by
    rw [List.dropWhile_eq_nil_iff]
    intro c mem
    exact isSuffixLetter_iff.mpr (isSuffix c (List.mem_reverse.mp mem))
  have kept : body.reverse.dropWhile isSuffixLetter = body.reverse := by
    rw [List.dropWhile_eq_self_iff]
    intro nonempty isLetter
    refine others _ (List.mem_reverse.mp (List.getElem_mem nonempty)) ?_
    exact isSuffixLetter_iff.mp isLetter
  rw [bare, List.reverse_append, List.dropWhile_append, dropped, List.isEmpty_nil, if_pos rfl, kept,
    List.reverse_reverse]
  rfl

/-- Each text is a body and a suffix, and the body is left when the suffix is taken off. -/
theorem exists_suffix (text : List Char) : ∃ body suffix, text = body ++ suffix ∧
    IsSuffix suffix ∧ bare text = unseparated body := by
  refine ⟨(text.reverse.dropWhile isSuffixLetter).reverse,
    (text.reverse.takeWhile isSuffixLetter).reverse, ?_, ?_, rfl⟩
  · rw [← List.reverse_append, List.takeWhile_append_dropWhile, List.reverse_reverse]
  · intro c mem
    exact isSuffixLetter_iff.mp (List.mem_takeWhile_imp (List.mem_reverse.mp mem))

/-- In a tolerated text there are no letters of a suffix. -/
theorem Tolerated.not_letter {cs : List Char} {value : Nat} (tolerated : Tolerated cs value)
    {c : Char} (mem : c ∈ cs) : c ∉ suffixLetters := by
  have ofNumber {base : Nat} {sign rest : List Char} {digits : List Nat} (isSign : IsSign sign)
      (written : Plain base rest digits) (mem : c ∈ sign ++ rest) : c ∉ suffixLetters := by
    rcases List.mem_append.mp mem with inSign | inDigits
    · rcases isSign with rfl | rfl
      · cases inSign
      · rw [List.mem_singleton.mp inSign]
        decide
    · obtain ⟨digit, isDigit⟩ := written.isDigit_of_mem inDigits
      exact isDigit.not_letter
  cases tolerated with
  | decimal isSign written _ => exact ofNumber isSign written mem
  | octal isSign written =>
    rcases List.mem_cons.mp mem with rfl | later
    · decide
    · exact ofNumber isSign written later
  | hexadecimal isMark isSign written =>
    rcases List.mem_cons.mp mem with rfl | later
    · decide
    · rcases List.mem_cons.mp later with rfl | inNumber
      · rcases isMark with rfl | rfl <;> decide
      · exact ofNumber isSign written inNumber

/-- A tolerated text is read if its value fits in 64 bits, and is refused otherwise. -/
theorem IsTolerated.read?_eq {text : String} {value : Nat} (tolerated : IsTolerated text value) :
    read? text = if value < 2 ^ 64 then some value else none := by
  obtain ⟨body, suffix, isText, isSuffix, written⟩ := tolerated
  have others : ∀ c ∈ body, c ∉ suffixLetters := by
    intro c mem
    by_cases isSeparator : c = '\''
    · rw [isSeparator]
      decide
    · exact written.not_letter (List.mem_filter.mpr ⟨mem, by simpa using isSeparator⟩)
  rw [read?, isText, bare_append isSuffix others, written.ofBare?_eq, Option.filter_some]
  simp [UInt64.size]

/-- What is read is tolerated, and its value fits in 64 bits. -/
theorem isTolerated_of_read? {text : String} {value : Nat} (read : read? text = some value) :
    value < 2 ^ 64 ∧ IsTolerated text value := by
  obtain ⟨body, suffix, isText, isSuffix, isBare⟩ := exists_suffix text.toList
  rw [read?, isBare] at read
  obtain ⟨fits, written⟩ := tolerated_of_ofBare? read
  exact ⟨fits, body, suffix, isText, isSuffix, written⟩

/-! ## Literals are read with their value -/

/-- A separator is left out. -/
theorem unseparated_separator (cs : List Char) : unseparated ('\'' :: cs) = unseparated cs :=
  List.filter_cons_of_neg (by decide)

/-- Any other character is kept. -/
theorem unseparated_cons {c : Char} (other : c ≠ '\'') (cs : List Char) :
    unseparated (c :: cs) = c :: unseparated cs :=
  List.filter_cons_of_pos (by simpa using other)

/-- A numeral without its separators is a number with the same digits. -/
theorem Numeral.plain {base : Nat} {cs : List Char} {digits : List Nat}
    (written : Numeral base cs digits) : Plain base (unseparated cs) digits := by
  induction written with
  | last isDigit =>
    rw [unseparated_cons isDigit.ne_separator]
    exact ⟨List.cons_ne_nil _ _, .cons isDigit .nil⟩
  | next isDigit _ inductionHypothesis =>
    rw [unseparated_cons isDigit.ne_separator]
    exact ⟨List.cons_ne_nil _ _, .cons isDigit inductionHypothesis.2⟩
  | separated isDigit _ inductionHypothesis =>
    rw [unseparated_cons isDigit.ne_separator, unseparated_separator]
    exact ⟨List.cons_ne_nil _ _, .cons isDigit inductionHypothesis.2⟩

/-- A literal without its separators is a tolerated text with the same value. -/
theorem Literal.tolerated {cs : List Char} {value : Nat} (literal : Literal cs value) :
    Tolerated (unseparated cs) value := by
  cases literal with
  | decimal written leading =>
    rw [← List.nil_append (unseparated cs)]
    exact .decimal (.inl rfl) written.plain fun _ isZero => absurd isZero leading
  | octal written leading =>
    obtain ⟨-, each⟩ := written.plain
    generalize unseparated cs = bare at each
    cases each with
    | nil => cases leading
    | @cons c digit cs digits isDigit others =>
      cases leading
      rw [(isDigit.eq_zero_iff (by decide)).mpr rfl, Nat.ofDigits_reverse_zero_cons]
      by_cases alone : digits = []
      · -- The zero by itself is read in base ten.
        subst alone
        cases others
        exact @Tolerated.decimal [] ['0'] [0] (.inl rfl)
          ⟨by decide, .cons (by decide) .nil⟩ fun _ _ => rfl
      · rw [← List.nil_append cs]
        exact .octal (.inl rfl) ⟨alone, others⟩
  | @hexadecimal mark cs digits isMark written =>
    have other : mark ≠ '\'' := by rcases isMark with rfl | rfl <;> decide
    rw [unseparated_cons (by decide), unseparated_cons other, ← List.nil_append (unseparated cs)]
    exact .hexadecimal isMark (.inl rfl) written.plain

/-- An integer literal is read with its value if that fits in 64 bits, and is refused otherwise. -/
theorem reads_literals {text : String} {value : Nat} (literal : IsLiteral text value) :
    read? text = if value < 2 ^ 64 then some value else none := by
  obtain ⟨body, suffix, isText, isSuffix, written⟩ := literal
  have tolerated : IsTolerated text value := ⟨body, suffix, isText, isSuffix, written.tolerated⟩
  exact tolerated.read?_eq

/-- The greatest value that fits is read, in groups of hexadecimal digits of either case and with a
suffix; the next value, in groups of decimal digits, is refused. -/
theorem reads_literals_limit :
    IsLiteral "0xFFFF'ffff'FFFF'ffffuLL" (2 ^ 64 - 1) ∧
      read? "0xFFFF'ffff'FFFF'ffffuLL" = some (2 ^ 64 - 1) ∧
    IsLiteral "18'446'744'073'709'551'616" (2 ^ 64) ∧
      read? "18'446'744'073'709'551'616" = none := by
  have greatest : Numeral 16 "FFFF'ffff'FFFF'ffff".toList (List.replicate 16 15) := by
    iterate 3
      refine .next (by decide) (.next (by decide) (.next (by decide) (.separated (by decide) ?_)))
    exact .next (by decide) (.next (by decide) (.next (by decide) (.last (by decide))))
  have tooGreat : Numeral 10 "18'446'744'073'709'551'616".toList
      [1, 8, 4, 4, 6, 7, 4, 4, 0, 7, 3, 7, 0, 9, 5, 5, 1, 6, 1, 6] := by
    refine .next (by decide) (.separated (by decide) ?_)
    iterate 5
      refine .next (by decide) (.next (by decide) (.separated (by decide) ?_))
    exact .next (by decide) (.next (by decide) (.last (by decide)))
  have isGreatest : IsLiteral "0xFFFF'ffff'FFFF'ffffuLL" (2 ^ 64 - 1) :=
    ⟨_, ['u', 'L', 'L'], rfl, by decide, .hexadecimal (.inl rfl) greatest⟩
  have isTooGreat : IsLiteral "18'446'744'073'709'551'616" (2 ^ 64) :=
    ⟨_, [], rfl, by decide, .decimal tooGreat (by decide)⟩
  refine ⟨isGreatest, ?_, isTooGreat, ?_⟩
  · rw [reads_literals isGreatest, if_pos (by decide)]
  · rw [reads_literals isTooGreat, if_neg (by decide)]

end DeclScope.Size
