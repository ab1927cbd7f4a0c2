import DeclScope.Input
import DeclScope.Proofs.Text.Position
import Mathlib.Algebra.Group.Nat.Defs

/-!
# Decoding keeps valid text, ASCII characters and lines

Bytes are decoded by a machine that reads one byte at a time.  Between two characters it remembers
nothing; inside of a character it knows the payload so far, how many bytes are to come, and between
which bounds the next one lies.  The bounds are such that only code points of characters can come
out, so what is pending always consists of the first bytes of the characters that it can become.
This one invariant gives both directions: the bytes of a character are read as that character, and a
character that comes out was written by exactly the bytes that went in.

Therefore valid bytes are decoded to the text that they write, and other bytes up to the end of
their longest valid part, which is where the first gap is found.  ASCII bytes are never inside of a
longer character nor swallowed by a gap, so they all stay, in their order, and with them the line
feeds: a character keeps its line, although its offset may change.
-/

namespace DeclScope

namespace Utf8

/-- The bytes are the UTF-8 form of some text. -/
def Valid (bytes : List UInt8) : Prop := bytes.toByteArray.IsValidUTF8

/-- Whether a byte is an ASCII character of its own. -/
def isAscii (byte : UInt8) : Bool := byte.toNat < 0x80

/-- The last groups of six bits of a code point, as the bytes that continue a character. -/
def continuation : Nat → Nat → List UInt8
  | 0, _ => []
  | count + 1, code => UInt8.ofNat (code / 64 ^ count % 64 + 128) :: continuation count code

/-- The byte begins the character with the given code point, and one byte more than the given number
continues it. -/
inductive Leads (byte : UInt8) (code : Nat) : Nat → Prop where
  | two (lower : 0x80 ≤ code) (upper : code < 0x800) (isByte : byte.toNat = code / 64 + 0xC0) :
      Leads byte code 0
  | three (lower : 0x800 ≤ code) (upper : code < 0x10000)
      (isByte : byte.toNat = code / 4096 + 0xE0) : Leads byte code 1
  | four (lower : 0x10000 ≤ code) (upper : code < 0x110000)
      (isByte : byte.toNat = code / 262144 + 0xF0) : Leads byte code 2

/-- A pending character can become the one with the given code point. -/
def Pending.Admits : Pending → Nat → Prop
  | .idle, _ => False
  | .inside value more low high, code =>
    value * 64 + low.toNat ≤ code / 64 ^ more + 0x80 ∧
      code / 64 ^ more + 0x80 ≤ value * 64 + high.toNat

/-- The bytes that were seen are the first ones of every character that the pending one can become,
and none of these is ASCII. -/
inductive Begun : List UInt8 → Pending → Prop where
  | idle : Begun [] .idle
  | inside {seen : List UInt8} {value more : Nat} {low high : UInt8} (above : 0x80 ≤ low.toNat)
      (below : high.toNat ≤ 0xBF)
      (spells : ∀ code, (Pending.inside value more low high).Admits code →
        0x80 ≤ code ∧ code.isValidChar ∧
          String.utf8EncodeChar (Char.ofNat code) = seen ++ continuation (more + 1) code) :
      Begun seen (.inside value more low high)

/-- Valid bytes are those that some text has. -/
theorem valid_iff {bytes : List UInt8} : Valid bytes ↔ ∃ text, encode text = bytes := by
  constructor
  · rintro ⟨text, same⟩
    have data := congrArg (fun array : ByteArray => array.data.toList) same
    exact ⟨text, by simpa [List.utf8Encode, encode] using data.symm⟩
  · rintro ⟨text, rfl⟩
    exact ⟨text, rfl⟩

/-- The code point of a character is found in the character. -/
theorem toNat_ofNat {code : Nat} (valid : code.isValidChar) : (Char.ofNat code).toNat = code := by
  rw [Char.ofNat, dif_pos valid]
  rfl

/-- A number below 256 is that of its byte. -/
theorem toNat_byte {n : Nat} (bound : n < 256) : (UInt8.ofNat n).toNat = n :=
  UInt8.toNat_ofNat_of_lt' bound

/-- The bytes of a character beyond ASCII. -/
theorem Leads.utf8EncodeChar_eq {byte : UInt8} {code more : Nat} (leads : Leads byte code more)
    (valid : code.isValidChar) :
    String.utf8EncodeChar (Char.ofNat code) = byte :: continuation (more + 1) code := by
  have value : (Char.ofNat code).val.toNat = code := toNat_ofNat valid
  have first {n : Nat} (same : byte.toNat = n) : UInt8.ofNat n = byte := by
    rw [← same, UInt8.ofNat_toNat]
  unfold String.utf8EncodeChar
  simp only [value]
  cases leads with
  | two lower upper isByte =>
    rw [if_neg (by omega), if_pos (by omega), Nat.mod_eq_of_lt (by omega : code / 64 < 32),
      first isByte]
    simp [continuation]
  | three lower upper isByte =>
    rw [if_neg (by omega), if_neg (by omega), if_pos (by omega),
      Nat.mod_eq_of_lt (by omega : code / 4096 < 16), first isByte]
    simp [continuation]
  | four lower upper isByte =>
    rw [if_neg (by omega), if_neg (by omega), if_neg (by omega),
      Nat.mod_eq_of_lt (by omega : code / 262144 < 8), first isByte]
    simp [continuation]

/-- An ASCII byte is the only byte of its character. -/
theorem utf8EncodeChar_of_isAscii {byte : UInt8} (ascii : isAscii byte = true) :
    String.utf8EncodeChar (Char.ofNat byte.toNat) = [byte] := by
  have low : byte.toNat < 0x80 := of_decide_eq_true ascii
  have value : (Char.ofNat byte.toNat).val.toNat = byte.toNat := toNat_ofNat (.inl (by omega))
  unfold String.utf8EncodeChar
  simp only [value]
  rw [if_pos (by omega), UInt8.ofNat_toNat]

/-- Every code point beyond ASCII has a byte that begins it. -/
theorem exists_leads {code : Nat} (valid : code.isValidChar) (beyond : 0x80 ≤ code) :
    ∃ byte more, Leads byte code more := by
  by_cases two : code < 0x800
  · exact ⟨_, _, .two beyond two (toNat_byte (by omega))⟩
  by_cases three : code < 0x10000
  · exact ⟨_, _, .three (by omega) three (toNat_byte (by omega))⟩
  · exact ⟨_, _, .four (by omega) (by omega) (toNat_byte (by omega))⟩

/-- Without narrower bounds a pending character can become any that goes on from the payload. -/
theorem admits_plain_iff {value more code : Nat} :
    (Pending.inside value more 0x80 0xBF).Admits code ↔ code / 64 ^ (more + 1) = value := by
  have divided : code / 64 ^ (more + 1) = code / 64 ^ more / 64 := by
    rw [Nat.pow_succ, Nat.div_div_eq_div_mul]
  simp only [Pending.Admits, divided, UInt8.reduceToNat]
  omega

/-- The first byte of a character leaves a state that admits the character. -/
theorem Leads.begin_eq {byte : UInt8} {code more : Nat} (leads : Leads byte code more)
    (valid : code.isValidChar) :
    ∃ value low high, begin byte = ([], .inside value more low high) ∧
      (Pending.inside value more low high).Admits code := by
  have limited {value : Nat} {low high : UInt8}
      (lower : value * 64 + low.toNat ≤ code / 64 ^ more + 0x80)
      (upper : code / 64 ^ more + 0x80 ≤ value * 64 + high.toNat) :
      (Pending.inside value more low high).Admits code := ⟨lower, upper⟩
  unfold begin
  dsimp only
  cases leads with
  | two lower upper isByte =>
    rw [isByte, if_neg (by omega), if_neg (by omega), if_pos (by omega)]
    exact ⟨_, _, _, rfl, admits_plain_iff.mpr (by omega)⟩
  | three lower upper isByte =>
    rw [isByte, if_neg (by omega), if_neg (by omega), if_neg (by omega)]
    split
    · exact ⟨_, _, _, rfl, limited (by simp; omega) (by simp; omega)⟩
    split
    · exact ⟨_, _, _, rfl, limited (by simp; omega) (by simp; omega)⟩
    rw [if_pos (by omega)]
    exact ⟨_, _, _, rfl, admits_plain_iff.mpr (by omega)⟩
  | four lower upper isByte =>
    rw [isByte, if_neg (by omega), if_neg (by omega), if_neg (by omega), if_neg (by omega),
      if_neg (by omega), if_neg (by omega)]
    split
    · exact ⟨_, _, _, rfl, limited (by simp; omega) (by simp; omega)⟩
    split
    · exact ⟨_, _, _, rfl, admits_plain_iff.mpr (by omega)⟩
    rw [if_pos (by omega)]
    exact ⟨_, _, _, rfl, limited (by simp; omega) (by simp; omega)⟩

/-- What reading a first byte can come to: an ASCII character, a gap, or a character that begins
with the byte. -/
theorem begin_cases (byte : UInt8) :
    (isAscii byte = true ∧ begin byte = ([some (Char.ofNat byte.toNat)], .idle)) ∨
    (isAscii byte = false ∧ begin byte = ([none], .idle)) ∨
    (isAscii byte = false ∧ ∃ next, begin byte = ([], next) ∧ Begun [byte] next) := by
  have begun {value more : Nat} {low high : UInt8} (lowest highest : Nat)
      (isLow : low.toNat = lowest) (isHigh : high.toNat = highest)
      (above : 0x80 ≤ lowest) (below : highest ≤ 0xBF)
      (leads : ∀ code, value * 64 + lowest ≤ code / 64 ^ more + 0x80 →
        code / 64 ^ more + 0x80 ≤ value * 64 + highest →
        Leads byte code more ∧ code.isValidChar) :
      Begun [byte] (.inside value more low high) := by
    subst isLow isHigh
    refine .inside above below ?_
    rintro code ⟨lower, upper⟩
    obtain ⟨leading, valid⟩ := leads code lower upper
    have beyond : 0x80 ≤ code := by cases leading <;> omega
    exact ⟨beyond, valid, leading.utf8EncodeChar_eq valid⟩
  unfold begin isAscii
  dsimp only
  split
  · rename_i ascii
    exact .inl ⟨decide_eq_true ascii, rfl⟩
  rename_i high
  have beyond : decide (byte.toNat < 0x80) = false := decide_eq_false high
  split
  · exact .inr (.inl ⟨beyond, rfl⟩)
  split
  · exact .inr (.inr ⟨beyond, _, rfl, begun 0x80 0xBF rfl rfl (by decide) (by decide)
      fun code lower upper => ⟨.two (by omega) (by omega) (by omega), by omega⟩⟩)
  split
  · exact .inr (.inr ⟨beyond, _, rfl, begun 0xA0 0xBF rfl rfl (by decide) (by decide)
      fun code lower upper => ⟨.three (by omega) (by omega) (by omega), by omega⟩⟩)
  split
  · exact .inr (.inr ⟨beyond, _, rfl, begun 0x80 0x9F rfl rfl (by decide) (by decide)
      fun code lower upper => ⟨.three (by omega) (by omega) (by omega), by omega⟩⟩)
  split
  · exact .inr (.inr ⟨beyond, _, rfl, begun 0x80 0xBF rfl rfl (by decide) (by decide)
      fun code lower upper => ⟨.three (by omega) (by omega) (by omega), by omega⟩⟩)
  split
  · exact .inr (.inr ⟨beyond, _, rfl, begun 0x90 0xBF rfl rfl (by decide) (by decide)
      fun code lower upper => ⟨.four (by omega) (by omega) (by omega), by omega⟩⟩)
  split
  · exact .inr (.inr ⟨beyond, _, rfl, begun 0x80 0xBF rfl rfl (by decide) (by decide)
      fun code lower upper => ⟨.four (by omega) (by omega) (by omega), by omega⟩⟩)
  split
  · exact .inr (.inr ⟨beyond, _, rfl, begun 0x80 0x8F rfl rfl (by decide) (by decide)
      fun code lower upper => ⟨.four (by omega) (by omega) (by omega), by omega⟩⟩)
  · exact .inr (.inl ⟨beyond, rfl⟩)

/-- The byte that continues an admitted character is within the bounds and completes the payload. -/
theorem admits_byte {value more code : Nat} {low high : UInt8} (above : 0x80 ≤ low.toNat)
    (below : high.toNat ≤ 0xBF) (admits : (Pending.inside value more low high).Admits code) :
    let byte := UInt8.ofNat (code / 64 ^ more % 64 + 128)
    (low ≤ byte && byte ≤ high) = true ∧ value * 64 + byte.toNat % 64 = code / 64 ^ more := by
  intro byte
  obtain ⟨lower, upper⟩ := admits
  have isByte : byte.toNat = code / 64 ^ more % 64 + 128 := toNat_byte (by omega)
  simp only [Bool.and_eq_true, decide_eq_true_eq, UInt8.le_iff_toNat_le, isByte]
  omega

/-- The bytes that continue an admitted character are read as that character. -/
theorem piecesFrom_continuation {value more code : Nat} {low high : UInt8}
    (above : 0x80 ≤ low.toNat) (below : high.toNat ≤ 0xBF)
    (admits : (Pending.inside value more low high).Admits code) (rest : List UInt8) :
    piecesFrom (.inside value more low high) (continuation (more + 1) code ++ rest) =
      some (Char.ofNat code) :: pieces rest := by
  induction more generalizing value low high with
  | zero =>
    obtain ⟨fits, payload⟩ := admits_byte above below admits
    rw [continuation, List.cons_append, piecesFrom, step, if_pos fits]
    dsimp only
    rw [payload, Nat.pow_zero, Nat.div_one]
    rfl
  | succ more inductionHypothesis =>
    obtain ⟨fits, payload⟩ := admits_byte above below admits
    rw [continuation, List.cons_append, piecesFrom, step, if_pos fits]
    dsimp only
    rw [payload]
    exact inductionHypothesis (by decide) (by decide) (admits_plain_iff.mpr rfl)

/-- The bytes of a character are read as that character. -/
theorem pieces_utf8EncodeChar (char : Char) (rest : List UInt8) :
    pieces (String.utf8EncodeChar char ++ rest) = some char :: pieces rest := by
  have same : Char.ofNat char.toNat = char := Char.ofNat_toNat char
  have valid : char.toNat.isValidChar := char.valid
  by_cases ascii : char.toNat < 0x80
  · have isByte : (UInt8.ofNat char.toNat).toNat = char.toNat := toNat_byte (by omega)
    have low : (UInt8.ofNat char.toNat).toNat < 0x80 := by rwa [isByte]
    have single := utf8EncodeChar_of_isAscii (decide_eq_true low)
    rw [isByte, same] at single
    rw [single, List.singleton_append, pieces, piecesFrom, step, begin_ascii low, isByte, same]
    rfl
  · obtain ⟨byte, more, leads⟩ := exists_leads valid (by omega)
    obtain ⟨value, low, high, begins, admits⟩ := leads.begin_eq valid
    have begun : Begun [byte] (.inside value more low high) := by
      rcases begin_cases byte with ⟨-, other⟩ | ⟨-, other⟩ | ⟨-, next, other, begun⟩
      · cases begins.symm.trans other
      · cases begins.symm.trans other
      · cases begins.symm.trans other
        exact begun
    cases begun with
    | inside above below spells =>
      have spelled := leads.utf8EncodeChar_eq valid
      rw [same] at spelled
      rw [spelled, List.cons_append, pieces, piecesFrom, step, begins, List.nil_append,
        piecesFrom_continuation above below admits, same]

/-- The bytes of a text are read as its characters. -/
theorem pieces_encode_append (text : List Char) (rest : List UInt8) :
    pieces (encode text ++ rest) = text.map some ++ pieces rest := by
  induction text with
  | nil => rfl
  | cons char others inductionHypothesis =>
    rw [encode_cons, List.append_assoc, pieces_utf8EncodeChar, inductionHypothesis]
    rfl

/-- The ASCII bytes among those of the decoded pieces. -/
def kept (pieces : Pieces) : List UInt8 :=
  (encode (pieces.map (·.getD replacement))).filter isAscii

/-- A character beyond ASCII has no ASCII bytes. -/
theorem filter_isAscii_utf8EncodeChar {char : Char} (beyond : 0x80 ≤ char.toNat) :
    (String.utf8EncodeChar char).filter isAscii = [] := by
  rw [List.filter_eq_nil_iff]
  intro byte listed ascii
  have low : byte.toNat < 0x80 := of_decide_eq_true ascii
  have value := toNat_eq_of_mem_utf8EncodeChar listed low
  omega

/-- What is kept of two lists of pieces is kept of both. -/
theorem kept_append (front back : Pieces) : kept (front ++ back) = kept front ++ kept back := by
  simp [kept, encode]

/-- Of a character its ASCII bytes are kept. -/
theorem kept_some (char : Char) :
    kept [some char] = (String.utf8EncodeChar char).filter isAscii := by
  simp [kept, encode]

/-- Of a gap nothing is kept, and so it does not matter for the rest. -/
theorem kept_none (others : Pieces) : kept (none :: others) = kept others := by
  have beyond : 0x80 ≤ replacement.toNat := by decide
  have gap : kept [none] = [] := by
    rw [← filter_isAscii_utf8EncodeChar beyond]
    simp [kept, encode]
  rw [← List.singleton_append, kept_append, gap, List.nil_append]

/-- Reading a first byte keeps it if it is ASCII, and what is pending then has begun. -/
theorem kept_begin (byte : UInt8) :
    kept (begin byte).1 = [byte].filter isAscii ∧ ∃ seen, Begun seen (begin byte).2 := by
  rcases begin_cases byte with ⟨ascii, reads⟩ | ⟨beyond, reads⟩ | ⟨beyond, next, reads, begun⟩
  · rw [reads]
    exact ⟨by rw [kept_some, utf8EncodeChar_of_isAscii ascii], [], .idle⟩
  · rw [reads]
    exact ⟨by rw [kept_none]; simp [kept, encode, beyond], [], .idle⟩
  · rw [reads]
    exact ⟨by simp [kept, encode, beyond], [byte], begun⟩

/-- What reading a byte can come to: it completes a character whose bytes were seen, it goes on with
that character, or it ends in a gap and is looked at afresh.  In each case it is kept if it is
ASCII. -/
theorem Begun.step_cases {seen : List UInt8} {pending : Pending} (begun : Begun seen pending)
    (byte : UInt8) :
    (∃ char, step pending byte = ([some char], .idle) ∧
      String.utf8EncodeChar char = seen ++ [byte] ∧ kept [some char] = [byte].filter isAscii) ∨
    (∃ next, step pending byte = ([], next) ∧ Begun (seen ++ [byte]) next ∧
      isAscii byte = false) ∨
    ∃ others next, step pending byte = (none :: others, next) ∧ (∃ after, Begun after next) ∧
      kept others = [byte].filter isAscii := by
  cases begun with
  | idle =>
    rcases begin_cases byte with ⟨ascii, reads⟩ | ⟨beyond, reads⟩ | ⟨beyond, next, reads, begun⟩
    · have single := utf8EncodeChar_of_isAscii ascii
      exact .inl ⟨_, reads, single, by rw [kept_some, single]⟩
    · exact .inr (.inr ⟨[], .idle, reads, ⟨[], .idle⟩, by simp [kept, encode, beyond]⟩)
    · exact .inr (.inl ⟨next, reads, begun, beyond⟩)
  | @inside _ value more low high above below spells =>
    by_cases fits : (low ≤ byte && byte ≤ high) = true
    · have bounds : low.toNat ≤ byte.toNat ∧ byte.toNat ≤ high.toNat := by
        simpa [UInt8.le_iff_toNat_le] using fits
      have beyond : isAscii byte = false := decide_eq_false (by omega)
      -- Whatever goes on from the payload after this byte is admitted, and has the byte there.
      have spelled (code : Nat) (payload : code / 64 ^ more = value * 64 + byte.toNat % 64) :
          0x80 ≤ code ∧ code.isValidChar ∧ String.utf8EncodeChar (Char.ofNat code) =
            seen ++ [byte] ++ continuation more code := by
        obtain ⟨large, valid, spelling⟩ := spells code ⟨by omega, by omega⟩
        have isByte : UInt8.ofNat (code / 64 ^ more % 64 + 128) = byte := by
          rw [payload, ← UInt8.toNat_inj, toNat_byte (by omega)]
          omega
        refine ⟨large, valid, ?_⟩
        rw [spelling, continuation, isByte, List.append_assoc, List.singleton_append]
      cases more with
      | zero =>
        obtain ⟨large, valid, spelling⟩ := spelled (value * 64 + byte.toNat % 64) (by simp)
        refine .inl ⟨Char.ofNat (value * 64 + byte.toNat % 64), ?_, ?_, ?_⟩
        · rw [step, if_pos fits]
        · rw [spelling, continuation, List.append_nil]
        · rw [kept_some, filter_isAscii_utf8EncodeChar (by rwa [toNat_ofNat valid])]
          simp [beyond]
      | succ more =>
        refine .inr (.inl ⟨.inside (value * 64 + byte.toNat % 64) more 0x80 0xBF, ?_, ?_, beyond⟩)
        · rw [step, if_pos fits]
        refine .inside (by decide) (by decide) ?_
        intro code admits
        exact spelled code (admits_plain_iff.mp admits)
    · obtain ⟨keeps, after⟩ := kept_begin byte
      refine .inr (.inr ⟨(begin byte).1, (begin byte).2, ?_, after, keeps⟩)
      rw [step, if_neg fits]

/-- Decoding keeps the ASCII bytes, and adds none.

By induction along the bytes, for every state in which the bytes can be met. -/
theorem kept_piecesFrom {seen : List UInt8} {pending : Pending} (begun : Begun seen pending)
    (bytes : List UInt8) : kept (piecesFrom pending bytes) = bytes.filter isAscii := by
  induction bytes generalizing seen pending with
  | nil =>
    cases begun with
    | idle => rfl
    | inside => exact kept_none []
  | cons byte rest inductionHypothesis =>
    rw [piecesFrom, kept_append, ← List.singleton_append, List.filter_append]
    rcases begun.step_cases byte with
      ⟨char, reads, -, keeps⟩ | ⟨next, reads, begun, beyond⟩ | ⟨others, next, reads, ⟨after, begun⟩,
        keeps⟩
    · rw [reads, inductionHypothesis .idle, keeps]
    · rw [reads, inductionHypothesis begun]
      simp [kept, encode, beyond]
    · rw [reads, inductionHypothesis begun, kept_none, keeps]

/-- A character that comes out first was written by the first bytes.

By induction along the bytes; what was seen before them belongs to the character. -/
theorem Begun.exists_of_some {seen bytes : List UInt8} {pending : Pending} {char : Char}
    {others : Pieces} (begun : Begun seen pending)
    (reads : piecesFrom pending bytes = some char :: others) :
    ∃ back, seen ++ bytes = String.utf8EncodeChar char ++ back ∧ others = pieces back := by
  induction bytes generalizing seen pending with
  | nil => cases begun <;> cases reads
  | cons byte rest inductionHypothesis =>
    rw [piecesFrom] at reads
    rcases begun.step_cases byte with
      ⟨found, stepped, spelling, -⟩ | ⟨next, stepped, begun, -⟩ | ⟨gap, next, stepped, -⟩
    · rw [stepped] at reads
      cases reads
      exact ⟨rest, by rw [spelling, List.append_assoc, List.singleton_append], rfl⟩
    · rw [stepped] at reads
      have later := inductionHypothesis begun reads
      rwa [List.append_assoc, List.singleton_append] at later
    · rw [stepped] at reads
      cases reads

/-- Something comes out of every byte. -/
theorem Begun.eq_nil_of_nil {seen bytes : List UInt8} {pending : Pending}
    (begun : Begun seen pending) (reads : piecesFrom pending bytes = []) :
    seen = [] ∧ bytes = [] := by
  induction bytes generalizing seen pending with
  | nil =>
    cases begun with
    | idle => exact ⟨rfl, rfl⟩
    | inside => cases reads
  | cons byte rest inductionHypothesis =>
    rw [piecesFrom] at reads
    rcases begun.step_cases byte with
      ⟨found, stepped, -⟩ | ⟨next, stepped, begun, -⟩ | ⟨gap, next, stepped, -⟩
    · rw [stepped] at reads
      cases reads
    · rw [stepped] at reads
      have none := (inductionHypothesis begun reads).1
      exact absurd none (by simp)
    · rw [stepped] at reads
      cases reads

/-- Bytes are those of a text, followed by nothing or by a gap. -/
theorem exists_text_before_gap (bytes : List UInt8) :
    ∃ text back, bytes = encode text ++ back ∧
      (back = [] ∨ ∃ others, pieces back = none :: others) := by
  cases reads : pieces bytes with
  | nil =>
    obtain ⟨-, rfl⟩ := Begun.idle.eq_nil_of_nil reads
    exact ⟨[], [], rfl, .inl rfl⟩
  | cons piece others =>
    cases piece with
    | none => exact ⟨[], bytes, rfl, .inr ⟨others, reads⟩⟩
    | some char =>
      obtain ⟨rest, spelled, -⟩ := Begun.idle.exists_of_some reads
      have shorter : rest.length < bytes.length := by
        have size := congrArg List.length spelled
        have positive := char.utf8Size_pos
        simp only [List.nil_append, List.length_append, String.length_utf8EncodeChar] at size
        omega
      obtain ⟨text, back, rfl, stops⟩ := exists_text_before_gap rest
      refine ⟨char :: text, back, ?_, stops⟩
      rw [encode_cons, List.append_assoc]
      exact spelled
termination_by bytes.length

/-- The bytes of a text are decoded to the text. -/
theorem decode_encode_append (text : List Char) (rest : List UInt8) :
    decode (encode text ++ rest) = text ++ decode rest := by
  simp [decode, pieces_encode_append, Function.comp_def]

/-- A gap behind a text is as far from its beginning as the text has bytes. -/
theorem firstGap?_append (text : List Char) (others : Pieces) :
    firstGap? (text.map some ++ others) =
      (firstGap? others).map ((encode text).length + ·) := by
  induction text with
  | nil => simp [encode]
  | cons char rest inductionHypothesis =>
    rw [List.map_cons, List.cons_append, firstGap?, inductionHypothesis, Option.map_map,
      encode_cons, List.length_append, String.length_utf8EncodeChar]
    congr 1
    funext size
    exact (Nat.add_assoc ..).symm

/-- A text that is read ends before the first gap. -/
theorem prefix_of_map_some {first second : List Char} {others rest : Pieces}
    (same : first.map some ++ others = second.map some ++ none :: rest) : first <+: second := by
  induction first generalizing second with
  | nil => exact List.nil_prefix
  | cons char chars inductionHypothesis =>
    cases second with
    | nil => cases same
    | cons other more =>
      obtain ⟨alike, later⟩ := List.cons.inj same
      exact List.cons_prefix_cons.mpr ⟨Option.some.inj alike, inductionHypothesis later⟩

/-- The front is valid, and every valid part at the beginning of the bytes is in it. -/
structure IsLongestValid (front bytes : List UInt8) : Prop where
  atBegin : front <+: bytes
  valid : Valid front
  longest : ∀ part, part <+: bytes → Valid part → part <+: front

/-- The bytes up to the first gap are the longest valid part. -/
theorem isLongestValid_encode {text : List Char} {back : List UInt8} {others : Pieces}
    (gap : pieces back = none :: others) : IsLongestValid (encode text) (encode text ++ back) where
  atBegin := List.prefix_append ..
  valid := valid_iff.mpr ⟨text, rfl⟩
  longest := by
    rintro part ⟨rest, same⟩ valid
    obtain ⟨shorter, rfl⟩ := valid_iff.mp valid
    have reads := congrArg pieces same
    rw [pieces_encode_append, pieces_encode_append, gap] at reads
    obtain ⟨more, rfl⟩ := prefix_of_map_some reads
    exact ⟨encode more, by simp [encode]⟩

/-- Decoding keeps the ASCII bytes in their order. -/
theorem filter_isAscii_encode_decode (bytes : List UInt8) :
    (encode (decode bytes)).filter isAscii = bytes.filter isAscii :=
  kept_piecesFrom .idle bytes

/-- Where two byte sequences have the same ASCII bytes, each of them is found in both, with the same
ones before it. -/
theorem exists_split_of_filter_isAscii {result front back : List UInt8} {byte : UInt8}
    (same : result.filter isAscii = (front ++ byte :: back).filter isAscii)
    (ascii : isAscii byte = true) :
    ∃ before behind, result = before ++ byte :: behind ∧
      before.filter isAscii = front.filter isAscii := by
  rw [List.filter_append, List.filter_cons_of_pos ascii, List.filter_eq_append_iff] at same
  obtain ⟨early, late, rfl, sameEarly, sameLate⟩ := same
  obtain ⟨between, behind, rfl, noneBetween, -, -⟩ := List.filter_eq_cons_iff.mp sameLate
  refine ⟨early ++ between, behind, by rw [List.append_assoc], ?_⟩
  rw [List.filter_append, sameEarly, List.filter_eq_nil_iff.mpr noneBetween, List.append_nil]

/-- Where there are the same ASCII bytes, there are as many line feeds. -/
theorem count_lineFeed_of_filter_isAscii {first second : List UInt8}
    (same : first.filter isAscii = second.filter isAscii) :
    first.count lineFeed = second.count lineFeed := by
  have ascii : isAscii lineFeed = true := by decide
  rw [← List.count_filter ascii, same, List.count_filter ascii]

end Utf8

namespace Input

open Utf8

/-- A comment that is not in UTF-8: its last letter is one byte, which a line feed follows. -/
def legacyComment : List UInt8 := [0x2F, 0x2F, 0xE9, 0x0A, 0x78]

/-- Valid bytes are the source as they are, without a warning. -/
theorem decode_of_valid {bytes : List UInt8} (valid : Valid bytes) (filename : String) :
    (decode filename bytes).1 = [] ∧ encode (decode filename bytes).2.chars = bytes := by
  obtain ⟨text, rfl⟩ := valid_iff.mp valid
  have reads := pieces_encode_append text []
  have decodes := decode_encode_append text []
  rw [List.append_nil] at reads decodes
  have complete : firstGap? (pieces (encode text)) = none := by
    rw [reads, firstGap?_append]
    rfl
  refine ⟨by rw [decode, complete], ?_⟩
  change encode (Utf8.decode (encode text)) = encode text
  rw [decodes]
  simp [Utf8.decode, pieces, piecesFrom, finish]

/-- Other bytes are the source up to the end of their longest valid part, and a warning says where
that is. -/
theorem decode_of_not_valid {bytes : List UInt8} (invalid : ¬ Valid bytes) (filename : String) :
    ∃ front, IsLongestValid front bytes ∧
      front ++ encode [replacement] <+: encode (decode filename bytes).2.chars ∧
      (decode filename bytes).1 =
        [⟨.warn, "Source is not valid UTF-8, replacing invalid bytes",
          [("filename", filename), ("offset", front.length.repr)]⟩] := by
  obtain ⟨text, back, rfl, stops⟩ := exists_text_before_gap bytes
  rcases stops with rfl | ⟨others, gap⟩
  · exact absurd (valid_iff.mpr ⟨text, (List.append_nil _).symm⟩) invalid
  have offset : firstGap? (pieces (encode text ++ back)) = some (encode text).length := by
    rw [pieces_encode_append, gap, firstGap?_append]
    rfl
  refine ⟨encode text, isLongestValid_encode gap, ?_, by rw [decode, offset]⟩
  refine ⟨encode (others.map (·.getD replacement)), ?_⟩
  change _ = encode (Utf8.decode (encode text ++ back))
  rw [decode_encode_append, Utf8.decode, gap]
  simp [encode]

/-- The source keeps the text and the lines of the bytes.  It is valid UTF-8; valid bytes are kept
as they are, and of others the longest valid part stands at the beginning.  It has the ASCII characters
of the bytes in their order and no others, and each of them is on the line on which it was. -/
structure KeepsTextAndLines (bytes : List UInt8) (source : Source) : Prop where
  valid : Valid (encode source.chars)
  keepsValid : Valid bytes → encode source.chars = bytes
  keepsFront : ¬ Valid bytes → ∃ front, IsLongestValid front bytes ∧ front <+: encode source.chars
  keepsAscii : (encode source.chars).filter isAscii = bytes.filter isAscii
  keepsLines : ∀ front byte back, bytes = front ++ byte :: back → isAscii byte = true →
    ∃ before behind, encode source.chars = before ++ byte :: behind ∧
      before.filter isAscii = front.filter isAscii ∧
      before.count lineFeed = front.count lineFeed ∧
      ∀ file, (Location.ofOffset file source before.length).line = 1 + front.count lineFeed

/-- Decoding keeps the text and the lines, whatever the bytes are. -/
theorem decode_keeps_text_and_lines (filename : String) (bytes : List UInt8) :
    KeepsTextAndLines bytes (decode filename bytes).2 where
  valid := valid_iff.mpr ⟨_, rfl⟩
  keepsValid valid := (decode_of_valid valid filename).2
  keepsFront := by
    intro invalid
    obtain ⟨front, longest, stays, -⟩ := decode_of_not_valid invalid filename
    exact ⟨front, longest, (List.prefix_append ..).trans stays⟩
  keepsAscii := filter_isAscii_encode_decode bytes
  keepsLines := by
    rintro front byte back rfl ascii
    obtain ⟨before, behind, split, sameBefore⟩ :=
      exists_split_of_filter_isAscii (filter_isAscii_encode_decode _) ascii
    have sameLine := count_lineFeed_of_filter_isAscii sameBefore
    refine ⟨before, behind, split, sameBefore, sameLine, ?_⟩
    intro file
    have decoded : encode (decode filename (front ++ byte :: back)).2.chars =
        before ++ byte :: behind := split
    have size : before.length ≤
        (encode (decode filename (front ++ byte :: back)).2.chars).length := by simp [decoded]
    rw [Location.ofOffset_eq size]
    dsimp only
    rw [decoded, List.take_left, sameLine]

/-- The comment is not valid from its third byte on; what is behind the line feed stays on the
second line. -/
theorem decode_keeps_legacyComment :
    ¬ Valid legacyComment ∧ (∃ front, IsLongestValid front legacyComment ∧
      front <+: encode (decode "x.c" legacyComment).2.chars) ∧
    ∃ before behind, encode (decode "x.c" legacyComment).2.chars = before ++ 0x78 :: behind ∧
      (Location.ofOffset "x.c" (decode "x.c" legacyComment).2 before.length).line = 2 := by
  have keeps := decode_keeps_text_and_lines "x.c" legacyComment
  have invalid : ¬ Valid legacyComment := by
    intro valid
    exact absurd (keeps.keepsValid valid) (by decide)
  obtain ⟨before, behind, split, -, -, line⟩ :=
    keeps.keepsLines [0x2F, 0x2F, 0xE9, 0x0A] 0x78 [] rfl rfl
  exact ⟨invalid, keeps.keepsFront invalid, before, behind, split, line "x.c"⟩

end Input

end DeclScope
