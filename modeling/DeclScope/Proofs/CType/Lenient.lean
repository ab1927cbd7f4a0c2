import DeclScope.Proofs.CType.Literal

/-!
# Array sizes that are no literals

Not only literals are read as sizes.  Separators are dropped wherever they stand, and a plus sign is
passed over in front of the digits, also behind the mark of the base.  So a character constant is
read as the digits between its quotes, and a sum that starts with a zero as an octal number.

These are the only exceptions: what is read is an integer literal of the value it is read with,
exactly when there is no plus sign in it and each separator stands between two digits.
-/

namespace DeclScope.Size

/-- Each separator stands between two digits. -/
def SeparatorsInside (cs : List Char) : Prop :=
  ∀ before after, cs = before ++ '\'' :: after →
    (∃ c digit, before.getLast? = some c ∧ IsDigit 16 c digit) ∧
      ∃ c digit, after.head? = some c ∧ IsDigit 16 c digit

/-! ## Literals have their separators between digits -/

/-- In front there may be any other character. -/
theorem SeparatorsInside.cons {cs : List Char} (inside : SeparatorsInside cs) {c : Char}
    (other : c ≠ '\'') : SeparatorsInside (c :: cs) := by
  intro before after split
  cases before with
  | nil => exact absurd (List.cons.inj split).1 other
  | cons first before =>
    obtain ⟨⟨last, digit, isLast, isDigit⟩, behind⟩ := inside before after (List.cons.inj split).2
    refine ⟨⟨last, digit, ?_, isDigit⟩, behind⟩
    rw [List.getLast?_cons, isLast]
    rfl

/-- Between two digits there may be a separator. -/
theorem SeparatorsInside.separated {cs : List Char} (inside : SeparatorsInside cs) {c : Char}
    {digit : Nat} (isDigit : IsDigit 16 c digit)
    (next : ∃ c digit, cs.head? = some c ∧ IsDigit 16 c digit) :
    SeparatorsInside (c :: '\'' :: cs) := by
  intro before after split
  match before with
  | [] => exact absurd (List.cons.inj split).1 isDigit.ne_separator
  | [first] =>
    obtain ⟨rfl, rest⟩ := List.cons.inj split
    obtain ⟨-, rfl⟩ := List.cons.inj rest
    exact ⟨⟨c, digit, rfl, isDigit⟩, next⟩
  | first :: second :: before =>
    obtain ⟨-, rest⟩ := List.cons.inj split
    obtain ⟨⟨last, digit, isLast, isDigit⟩, behind⟩ := inside before after (List.cons.inj rest).2
    refine ⟨⟨last, digit, ?_, isDigit⟩, behind⟩
    rw [List.getLast?_cons, List.getLast?_cons, isLast]
    rfl

/-- A suffix adds neither separators nor digits next to them. -/
theorem separatorsInside_append_iff {body suffix : List Char} (isSuffix : IsSuffix suffix) :
    SeparatorsInside (body ++ suffix) ↔ SeparatorsInside body := by
  constructor
  · intro inside before after split
    obtain ⟨front, c, digit, isNext, isDigit⟩ :=
      inside before (after ++ suffix) (by rw [split, List.append_assoc]; rfl)
    refine ⟨front, c, digit, ?_, isDigit⟩
    cases after with
    | nil => exact absurd (isSuffix c (List.mem_of_mem_head? isNext)) isDigit.not_letter
    | cons next after => exact isNext
  · intro inside before after split
    have noSeparator : '\'' ∉ suffix := fun mem => absurd (isSuffix _ mem) (by decide)
    obtain ⟨later, rfl, rfl⟩ : ∃ later, body = before ++ '\'' :: later ∧ after = later ++ suffix := by
      rcases List.append_eq_append_iff.mp split with ⟨later, -, rest⟩ | ⟨later, isBody, rest⟩
      · exact absurd (by simp [rest]) noSeparator
      · cases later with
        | nil =>
          rw [List.nil_append] at rest
          exact absurd (rest ▸ List.mem_cons_self) noSeparator
        | cons first later =>
          obtain ⟨rfl, rfl⟩ := List.cons.inj rest
          exact ⟨later, isBody, rfl⟩
    obtain ⟨front, c, digit, isNext, isDigit⟩ := inside before later rfl
    exact ⟨front, c, digit, by rw [List.head?_append, isNext, Option.some_or], isDigit⟩

/-- Without separators a text has the same other characters. -/
theorem mem_unseparated_iff {c : Char} (other : c ≠ '\'') {cs : List Char} :
    c ∈ unseparated cs ↔ c ∈ cs := by
  simp [unseparated, other]

/-- In a numeral there is no plus sign. -/
theorem Numeral.plus_not_mem {base : Nat} {cs : List Char} {digits : List Nat}
    (written : Numeral base cs digits) : '+' ∉ cs := by
  intro mem
  obtain ⟨digit, isDigit⟩ :=
    written.plain.isDigit_of_mem ((mem_unseparated_iff (by decide)).mpr mem)
  exact isDigit.not_mem (by decide)

/-- In a numeral each separator stands between two digits. -/
theorem Numeral.separatorsInside {base : Nat} (small : base ≤ 16) {cs : List Char}
    {digits : List Nat} (written : Numeral base cs digits) : SeparatorsInside cs := by
  have empty : SeparatorsInside [] := by
    intro before after split
    simp at split
  have head {cs : List Char} {digits : List Nat} (written : Numeral base cs digits) :
      ∃ c digit, cs.head? = some c ∧ IsDigit 16 c digit := by
    cases written with
    | last isDigit | next isDigit _ | separated isDigit _ =>
      exact ⟨_, _, rfl, isDigit.sixteen small⟩
  induction written with
  | last isDigit => exact empty.cons isDigit.ne_separator
  | next isDigit _ inductionHypothesis => exact inductionHypothesis.cons isDigit.ne_separator
  | separated isDigit rest inductionHypothesis =>
    exact inductionHypothesis.separated (isDigit.sixteen small) (head rest)

/-- In a literal there is no plus sign, and each separator stands between two digits. -/
theorem Literal.regular {cs : List Char} {value : Nat} (literal : Literal cs value) :
    '+' ∉ cs ∧ SeparatorsInside cs := by
  cases literal with
  | decimal written _ => exact ⟨written.plus_not_mem, written.separatorsInside (by decide)⟩
  | octal written _ => exact ⟨written.plus_not_mem, written.separatorsInside (by decide)⟩
  | hexadecimal isMark written =>
    refine ⟨?_, ((written.separatorsInside (by decide)).cons ?_).cons (by decide)⟩
    · rcases isMark with rfl | rfl <;> simp [written.plus_not_mem]
    · rcases isMark with rfl | rfl <;> decide

/-- A literal with a suffix has no plus sign, and each separator stands between two digits. -/
theorem IsLiteral.regular {text : String} {value : Nat} (literal : IsLiteral text value) :
    '+' ∉ text.toList ∧ SeparatorsInside text.toList := by
  obtain ⟨body, suffix, isText, isSuffix, written⟩ := literal
  obtain ⟨unsigned, inside⟩ := written.regular
  rw [isText, separatorsInside_append_iff isSuffix, List.mem_append, not_or]
  exact ⟨⟨unsigned, fun mem => absurd (isSuffix _ mem) (by decide)⟩, inside⟩

/-! ## Tolerated texts with their separators between digits are literals -/

/-- The rest of a text has its separators between digits, if it does not start with one. -/
theorem SeparatorsInside.of_append {front rest : List Char}
    (inside : SeparatorsInside (front ++ rest)) (other : rest.head? ≠ some '\'') :
    SeparatorsInside rest := by
  intro before after split
  obtain ⟨⟨last, digit, isLast, isDigit⟩, behind⟩ :=
    inside (front ++ before) after (by rw [split, List.append_assoc])
  refine ⟨⟨last, digit, ?_, isDigit⟩, behind⟩
  cases before with
  | nil => exact absurd (by rw [split]; rfl) other
  | cons first before => rwa [List.getLast?_append_cons] at isLast

/-- A text with its separators between digits starts with the character that it starts with
without them. -/
theorem SeparatorsInside.exists_cons {cs rest : List Char} {c : Char} (inside : SeparatorsInside cs)
    (same : unseparated cs = c :: rest) : ∃ tail, cs = c :: tail ∧ unseparated tail = rest := by
  cases cs with
  | nil => cases same
  | cons first tail =>
    have other : first ≠ '\'' := by
      rintro rfl
      obtain ⟨⟨_, _, impossible, -⟩, -⟩ := inside [] tail rfl
      cases impossible
    rw [unseparated_cons other] at same
    obtain ⟨rfl, rfl⟩ := List.cons.inj same
    exact ⟨tail, rfl, rfl⟩

/-- A number with separators between digits is a numeral.  By induction on the digits, since each
step of a numeral takes one. -/
theorem numeral_of_plain {base : Nat} {cs : List Char} {digits : List Nat}
    (inside : SeparatorsInside cs) (written : Plain base (unseparated cs) digits) :
    Numeral base cs digits := by
  obtain ⟨nonempty, each⟩ := written
  induction digits generalizing cs with
  | nil => exact absurd rfl nonempty
  | cons digit digits inductionHypothesis =>
    obtain ⟨c, rest, isDigit, others, same⟩ := List.forall₂_cons_right_iff.mp each
    obtain ⟨tail, rfl, rfl⟩ := inside.exists_cons same
    -- What follows the digit, or a separator behind it, starts with another digit.
    have continued {rest : List Char} {d : Char} (isInside : SeparatorsInside (d :: rest))
        (other : d ≠ '\'') (others : List.Forall₂ (IsDigit base) (unseparated (d :: rest)) digits) :
        Numeral base (d :: rest) digits := by
      refine inductionHypothesis isInside ?_ others
      rintro rfl
      rw [unseparated_cons other] at others
      cases others
    match tail with
    | [] =>
      cases others
      exact .last isDigit
    | d :: rest =>
      by_cases isSeparator : d = '\''
      · subst isSeparator
        obtain ⟨-, e, value, isHead, isNext⟩ := inside [c] rest rfl
        obtain ⟨rest, rfl⟩ := List.head?_eq_some_iff.mp isHead
        have other : (e :: rest).head? ≠ some '\'' := by simpa using isNext.ne_separator
        have isInside := @SeparatorsInside.of_append [c, '\''] _ inside other
        rw [unseparated_separator] at others
        exact .separated isDigit (continued isInside isNext.ne_separator others)
      · have other : (d :: rest).head? ≠ some '\'' := by simpa using isSeparator
        have isInside := @SeparatorsInside.of_append [c] _ inside other
        exact .next isDigit (continued isInside isSeparator others)

/-- Next to the mark of a base there is no separator, since the mark is no digit. -/
theorem SeparatorsInside.exists_of_mark {body cs : List Char} {mark : Char}
    (inside : SeparatorsInside body) (isMark : IsMark mark)
    (same : unseparated body = '0' :: mark :: cs) :
    ∃ rest, body = '0' :: mark :: rest ∧ unseparated rest = cs ∧ SeparatorsInside rest := by
  obtain ⟨tail, rfl, sameTail⟩ := inside.exists_cons same
  have before : tail.head? ≠ some '\'' := by
    intro isHead
    obtain ⟨rest, rfl⟩ := List.head?_eq_some_iff.mp isHead
    obtain ⟨-, e, digit, isNext, isDigit⟩ := inside ['0'] rest rfl
    obtain ⟨rest, rfl⟩ := List.head?_eq_some_iff.mp isNext
    rw [unseparated_separator, unseparated_cons isDigit.ne_separator] at sameTail
    cases sameTail
    exact isDigit.not_isMark isMark
  obtain ⟨rest, rfl, rfl⟩ :=
    (@SeparatorsInside.of_append ['0'] _ inside before).exists_cons sameTail
  have behind : rest.head? ≠ some '\'' := by
    intro isHead
    obtain ⟨rest, rfl⟩ := List.head?_eq_some_iff.mp isHead
    obtain ⟨⟨e, digit, isLast, isDigit⟩, -⟩ := inside ['0', mark] rest rfl
    cases isLast
    exact isDigit.not_isMark isMark
  exact ⟨rest, rfl, rfl, @SeparatorsInside.of_append ['0', mark] _ inside behind⟩

/-- Where there is no plus sign, none is passed over. -/
theorem IsSign.eq_nil {sign cs : List Char} (isSign : IsSign sign) (unsigned : '+' ∉ sign ++ cs) :
    sign = [] := by
  rcases isSign with rfl | rfl
  · rfl
  · exact absurd List.mem_cons_self unsigned

/-- A tolerated text that has no plus sign, and each separator between two digits, is a literal. -/
theorem Tolerated.literal {body : List Char} {value : Nat} (unsigned : '+' ∉ body)
    (inside : SeparatorsInside body) (tolerated : Tolerated (unseparated body) value) :
    Literal body value := by
  rw [← mem_unseparated_iff (by decide)] at unsigned
  generalize same : unseparated body = bare at tolerated unsigned
  cases tolerated with
  | @decimal sign cs digits isSign written leading =>
    cases isSign.eq_nil unsigned
    rw [List.nil_append] at same
    subst same
    by_cases isZero : digits.head? = some 0
    · -- The zero by itself is an octal literal.
      cases leading rfl isZero
      obtain ⟨c, _, isDigit, none, same⟩ := List.forall₂_cons_right_iff.mp written.2
      cases none
      have octal : Plain 8 (unseparated body) [0] := by
        rw [same]
        exact ⟨List.cons_ne_nil _ _, .cons ⟨by decide, isDigit.2⟩ .nil⟩
      exact .octal (numeral_of_plain inside octal) rfl
    · exact .decimal (numeral_of_plain inside written) isZero
  | @octal sign cs digits isSign written =>
    rw [List.mem_cons, not_or] at unsigned
    cases isSign.eq_nil unsigned.2
    have octal : Plain 8 (unseparated body) (0 :: digits) := by
      rw [same]
      exact ⟨List.cons_ne_nil _ _, .cons (by decide) written.2⟩
    rw [← Nat.ofDigits_reverse_zero_cons]
    exact .octal (numeral_of_plain inside octal) rfl
  | @hexadecimal mark sign cs digits isMark isSign written =>
    rw [List.mem_cons, not_or, List.mem_cons, not_or] at unsigned
    cases isSign.eq_nil unsigned.2.2
    obtain ⟨rest, rfl, rfl, isInside⟩ := inside.exists_of_mark isMark same
    exact .hexadecimal isMark (numeral_of_plain isInside written)

/-- A text is read with a value that fits in 64 bits exactly if it is tolerated with that value.
What is read is an integer literal of that value exactly if it has no plus sign, and each separator
in it stands between two digits. -/
theorem reads_beyond_literals (text : String) (value : Nat) :
    (read? text = some value ↔ value < 2 ^ 64 ∧ IsTolerated text value) ∧
      (read? text = some value →
        (IsLiteral text value ↔ '+' ∉ text.toList ∧ SeparatorsInside text.toList)) := by
  constructor
  · constructor
    · exact isTolerated_of_read?
    · rintro ⟨fits, tolerated⟩
      rw [tolerated.read?_eq, if_pos fits]
  · intro read
    refine ⟨IsLiteral.regular, ?_⟩
    rintro ⟨unsigned, inside⟩
    obtain ⟨-, body, suffix, isText, isSuffix, tolerated⟩ := isTolerated_of_read? read
    rw [isText, separatorsInside_append_iff isSuffix] at inside
    rw [isText, List.mem_append, not_or] at unsigned
    exact ⟨body, suffix, isText, isSuffix, tolerated.literal unsigned.1 inside⟩

/-- An octal literal with a separator and a suffix is read, and its separator stands between two
digits. -/
theorem reads_beyond_literals_octal :
    read? "0'17u" = some 15 ∧ IsLiteral "0'17u" 15 ∧ '+' ∉ "0'17u".toList ∧
      SeparatorsInside "0'17u".toList := by
  have read : read? "0'17u" = some 15 := by decide
  have written : Numeral 8 "0'17".toList [0, 1, 7] :=
    .separated (by decide) (.next (by decide) (.last (by decide)))
  have literal : IsLiteral "0'17u" 15 := ⟨_, ['u'], rfl, by decide, .octal written rfl⟩
  exact ⟨read, literal, ((reads_beyond_literals "0'17u" 15).2 read).mp literal⟩

/-- A character constant, a signed number and a sum are read, and none of them is a literal.  The
sum is even read with a value that is not its own. -/
theorem reads_expressions :
    read? "'1'" = some 1 ∧ read? "+3" = some 3 ∧ read? "0+10" = some 8 ∧
      ∀ text ∈ ["'1'", "+3", "0+10"], ∀ value, ¬ IsLiteral text value := by
  refine ⟨by decide, by decide, by decide, ?_⟩
  intro text mem value literal
  obtain ⟨unsigned, inside⟩ := literal.regular
  simp only [List.mem_cons, List.not_mem_nil, or_false] at mem
  rcases mem with rfl | rfl | rfl
  · obtain ⟨⟨_, _, impossible, -⟩, -⟩ := inside [] ['1', '\''] rfl
    cases impossible
  · exact unsigned (by decide)
  · exact unsigned (by decide)

end DeclScope.Size
