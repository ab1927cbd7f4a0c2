/-!
# Reading bytes as UTF-8

Bytes are read one at a time by a machine that remembers how far it is inside a character.  Each
byte either continues the character begun before it, or ends that attempt and is looked at afresh.
The outcome is a list of pieces: a character for each well-formed sequence, and one gap for each
maximal sequence that begins a character and does not finish it, or that can begin none.

A byte below 128 never continues a character, so it is always a piece of its own: gaps never
swallow an ASCII byte, and in particular no line feed.
-/

namespace DeclScope.Utf8

/-- What has been read of the current character. -/
inductive Pending where
  /-- Nothing: the next byte begins a character. -/
  | idle
  /-- Some bytes with payload `value`; `more` bytes follow the next one, which has to lie between
  `low` and `high`. -/
  | inside (value more : Nat) (low high : UInt8)
deriving DecidableEq, Inhabited

/-- The pieces of a byte sequence: characters, and gaps where the bytes form none. -/
abbrev Pieces := List (Option Char)

/-- Read the first byte of a character.  The ranges leave out overlong forms, surrogates and
everything above the last code point. -/
def begin (b : UInt8) : Pieces × Pending :=
  let n := b.toNat
  if n < 0x80 then ([some (Char.ofNat n)], .idle)
  else if n < 0xC2 then ([none], .idle)
  else if n < 0xE0 then ([], .inside (n - 0xC0) 0 0x80 0xBF)
  else if n = 0xE0 then ([], .inside 0 1 0xA0 0xBF)
  else if n = 0xED then ([], .inside 0x0D 1 0x80 0x9F)
  else if n < 0xF0 then ([], .inside (n - 0xE0) 1 0x80 0xBF)
  else if n = 0xF0 then ([], .inside 0 2 0x90 0xBF)
  else if n < 0xF4 then ([], .inside (n - 0xF0) 2 0x80 0xBF)
  else if n = 0xF4 then ([], .inside 4 2 0x80 0x8F)
  else ([none], .idle)

/-- Read one byte: the pieces it completes, and what is pending after it. -/
def step : Pending → UInt8 → Pieces × Pending
  | .idle, b => begin b
  | .inside value more low high, b =>
    if low ≤ b && b ≤ high then
      let value := value * 64 + b.toNat % 64
      match more with
      | 0 => ([some (Char.ofNat value)], .idle)
      | more + 1 => ([], .inside value more 0x80 0xBF)
    else (none :: (begin b).1, (begin b).2)

/-- The pieces that are left when the bytes end. -/
def finish : Pending → Pieces
  | .idle => []
  | .inside .. => [none]

/-- The pieces of the remaining bytes. -/
def piecesFrom : Pending → List UInt8 → Pieces
  | pending, [] => finish pending
  | pending, b :: bs => (step pending b).1 ++ piecesFrom (step pending b).2 bs

/-- The pieces of a byte sequence. -/
def pieces (bytes : List UInt8) : Pieces := piecesFrom .idle bytes

/-- The character that stands for a gap. -/
def replacement : Char := '\uFFFD'

/-- The text of a byte sequence, each gap written as the replacement character. -/
def decode (bytes : List UInt8) : List Char :=
  (pieces bytes).map (·.getD replacement)

/-- The bytes before the first gap, counted; nothing when there is no gap. -/
def firstGap? : Pieces → Option Nat
  | [] => none
  | none :: _ => some 0
  | some c :: rest => (firstGap? rest).map (c.utf8Size + ·)

/-- The bytes of a text. -/
def encode (text : List Char) : List UInt8 :=
  text.flatMap String.utf8EncodeChar

/-- An ASCII byte at the start of a character is that character. -/
theorem begin_ascii {b : UInt8} (ascii : b.toNat < 0x80) :
    begin b = ([some (Char.ofNat b.toNat)], .idle) := by
  simp [begin, ascii]

end DeclScope.Utf8
