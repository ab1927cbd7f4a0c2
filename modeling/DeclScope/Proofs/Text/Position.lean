import DeclScope.Proofs.Location
import DeclScope.Text.Utf8
import Mathlib.Data.List.TakeWhile

/-!
# Places are counted in bytes, and their order is that of offsets

The row and the column of an offset are found by following the source character by character.  Here
they are tied to its bytes: up to the end of the source, the row is the number of line feeds among
the bytes before the offset, and the column is the number of bytes behind the last of them.  Nothing
else counts: a carriage return is a byte like others, and so are the bytes of a longer character,
also where the offset falls inside it.

Locations compare by file, line and column before they compare by offset.  In one file and one
source this is the order of the offsets.  Line and column alone tell the offset, and sorting the
locations sorts the offsets.
-/

namespace DeclScope

/-- A source with a character of two bytes, a carriage return and an empty line. -/
def Source.accented : Source := .ofString "é\r\n\nx"

namespace Utf8

/-- The byte of a line feed. -/
def lineFeed : UInt8 := 0x0A

/-- The number of bytes behind the last line feed, or of all bytes if there is none. -/
def sinceLineFeed (bytes : List UInt8) : Nat :=
  (bytes.reverse.takeWhile (· != lineFeed)).length

/-- The bytes of a text are those of its first character and those of the others. -/
theorem encode_cons (char : Char) (chars : List Char) :
    encode (char :: chars) = String.utf8EncodeChar char ++ encode chars := rfl

/-- An ASCII byte is the whole of its character: all bytes of a longer one are 128 or more. -/
theorem toNat_eq_of_mem_utf8EncodeChar {byte : UInt8} {char : Char}
    (mem : byte ∈ String.utf8EncodeChar char) (ascii : byte.toNat < 0x80) :
    char.toNat = byte.toNat := by
  have high {n : Nat} (lower : 0x80 ≤ n) (upper : n < 256) (same : byte = UInt8.ofNat n) :
      char.toNat = byte.toNat := by
    have value : byte.toNat = n := by rw [same, UInt8.toNat_ofNat_of_lt' upper]
    omega
  unfold String.utf8EncodeChar at mem
  dsimp only at mem
  split at mem
  · rename_i low
    rw [List.mem_singleton.mp mem, UInt8.toNat_ofNat_of_lt' (by simp only [UInt8.size]; omega)]
    rfl
  split at mem
  · simp only [List.mem_cons, List.not_mem_nil, or_false] at mem
    rcases mem with same | same
    · exact high (by omega) (by omega) same
    · exact high (by omega) (by omega) same
  split at mem
  · simp only [List.mem_cons, List.not_mem_nil, or_false] at mem
    rcases mem with same | same | same
    · exact high (by omega) (by omega) same
    · exact high (by omega) (by omega) same
    · exact high (by omega) (by omega) same
  · simp only [List.mem_cons, List.not_mem_nil, or_false] at mem
    rcases mem with same | same | same | same
    · exact high (by omega) (by omega) same
    · exact high (by omega) (by omega) same
    · exact high (by omega) (by omega) same
    · exact high (by omega) (by omega) same

/-- Only the line feed has the byte of one. -/
theorem lineFeed_not_mem {char : Char} (other : char ≠ '\n') :
    lineFeed ∉ String.utf8EncodeChar char := by
  intro mem
  have value : char.toNat = '\n'.toNat := toNat_eq_of_mem_utf8EncodeChar mem (by decide)
  exact other (Char.toNat_inj.mp value)

/-- Where there is no line feed, and only there, all bytes count. -/
theorem takeWhile_ne_lineFeed {bytes : List UInt8} :
    bytes.takeWhile (· != lineFeed) = bytes ↔ lineFeed ∉ bytes := by
  rw [List.takeWhile_eq_self_iff]
  constructor
  · intro all present
    exact bne_iff_ne.mp (all lineFeed present) rfl
  · rintro absent byte listed
    rw [bne_iff_ne]
    rintro rfl
    exact absent listed

/-- Bytes without a line feed are all behind the last one. -/
theorem sinceLineFeed_of_not_mem {bytes : List UInt8} (absent : lineFeed ∉ bytes) :
    sinceLineFeed bytes = bytes.length := by
  rw [sinceLineFeed, takeWhile_ne_lineFeed.mpr (by simpa using absent), List.length_reverse]

/-- Bytes in front do not count if a line feed comes after them, and count as before if not. -/
theorem sinceLineFeed_append (front back : List UInt8) :
    sinceLineFeed (front ++ back) =
      if lineFeed ∈ back then sinceLineFeed back else sinceLineFeed front + back.length := by
  unfold sinceLineFeed
  rw [List.reverse_append, List.takeWhile_append]
  by_cases present : lineFeed ∈ back
  · have stops : (back.reverse.takeWhile (· != lineFeed)).length ≠ back.reverse.length := by
      intro full
      have whole := (List.takeWhile_prefix (· != lineFeed)).eq_of_length full
      exact takeWhile_ne_lineFeed.mp whole (List.mem_reverse.mpr present)
    rw [if_neg stops, if_pos present]
  · have whole : back.reverse.takeWhile (· != lineFeed) = back.reverse :=
      takeWhile_ne_lineFeed.mpr (by simpa using present)
    rw [whole, if_pos rfl, if_neg present, List.length_append, List.length_reverse, Nat.add_comm]

end Utf8

namespace Text

open Utf8

/-- A text has as many bytes as its characters have together. -/
theorem length_encode (chars : List Char) : (encode chars).length = byteSize chars := by
  induction chars with
  | nil => rfl
  | cons char rest inductionHypothesis =>
    rw [encode_cons, List.length_append, String.length_utf8EncodeChar, inductionHypothesis,
      byteSize]

/-- An offset that ends inside the first character leaves no line feed behind. -/
theorem lineFeed_not_mem_take {char : Char} {offset : Nat} (inside : offset < char.utf8Size) :
    lineFeed ∉ (String.utf8EncodeChar char).take offset := by
  by_cases lineEnd : char = '\n'
  · subst lineEnd
    obtain rfl : offset = 0 := Nat.lt_one_iff.mp inside
    simp
  · intro present
    exact lineFeed_not_mem lineEnd (List.mem_of_mem_take present)

/-- An offset behind the first character leaves that character behind, and goes on in the others. -/
theorem take_encode_cons {char : Char} {offset : Nat} (outside : ¬ offset < char.utf8Size)
    (chars : List Char) :
    (encode (char :: chars)).take offset =
      String.utf8EncodeChar char ++ (encode chars).take (offset - char.utf8Size) := by
  have length := String.length_utf8EncodeChar char
  rw [encode_cons, List.take_append, length, List.take_of_length_le (by omega)]

/-- Following an offset adds the line feeds before it to the row, and leads to the column of the
bytes behind the last of them; the column from which it started counts if there is none.

By induction along the characters.  The offset ends inside a character only before its last byte, so
a line feed is never in the part that is left behind. -/
theorem advance_eq (here : Position) (offset : Nat) (chars : List Char)
    (within : offset ≤ byteSize chars) :
    advance here offset chars =
      ⟨here.row + ((encode chars).take offset).count lineFeed,
        (if lineFeed ∈ (encode chars).take offset then 0 else here.column) +
          sinceLineFeed ((encode chars).take offset)⟩ := by
  fun_induction advance here offset chars with
  | case1 here offset =>
    obtain rfl : offset = 0 := Nat.le_zero.mp within
    rfl
  | case2 here offset char rest inside =>
    have length := String.length_utf8EncodeChar char
    have part : (encode (char :: rest)).take offset =
        (String.utf8EncodeChar char).take offset := by
      rw [encode_cons, List.take_append_of_le_length (by omega)]
    have absent := lineFeed_not_mem_take inside
    rw [part, List.count_eq_zero.mpr absent, if_neg absent, sinceLineFeed_of_not_mem absent,
      List.length_take, length, Nat.min_eq_left inside.le]
    rfl
  | case3 here offset rest outside inductionHypothesis =>
    have left : offset - '\n'.utf8Size ≤ byteSize rest := by
      rw [byteSize] at within
      omega
    have first : String.utf8EncodeChar '\n' = [lineFeed] := rfl
    rw [take_encode_cons outside, first, inductionHypothesis left, sinceLineFeed_append]
    generalize (encode rest).take (offset - '\n'.utf8Size) = before
    have alone : sinceLineFeed [lineFeed] = 0 := rfl
    have rows : here.row + 1 + before.count lineFeed =
        here.row + ([lineFeed] ++ before).count lineFeed := by
      rw [List.count_append, List.count_singleton_self, Nat.add_assoc]
    by_cases present : lineFeed ∈ before
    · simp [present, rows]
    · simp [present, rows, alone, sinceLineFeed_of_not_mem present]
  | case4 here offset char rest outside other inductionHypothesis =>
    have left : offset - char.utf8Size ≤ byteSize rest := by
      rw [byteSize] at within
      omega
    have absent := lineFeed_not_mem other
    rw [take_encode_cons outside, inductionHypothesis left, sinceLineFeed_append,
      sinceLineFeed_of_not_mem absent, String.length_utf8EncodeChar, List.count_append,
      List.count_eq_zero.mpr absent]
    generalize (encode rest).take (offset - char.utf8Size) = before
    by_cases present : lineFeed ∈ before
    · simp [present]
    · simp [present, absent, sinceLineFeed_of_not_mem present, Nat.add_assoc]

/-- Row and column tell the offset. -/
theorem eq_of_advance {here : Position} {first second : Nat} {chars : List Char}
    (sameRow : (advance here first chars).row = (advance here second chars).row)
    (sameColumn : (advance here first chars).column = (advance here second chars).column) :
    first = second := by
  rcases Nat.lt_trichotomy first second with before | equal | behind
  · have apart := advance_lt before here chars
    omega
  · exact equal
  · have apart := advance_lt behind here chars
    omega

end Text

namespace Location

open Utf8

/-- The line of an offset is one more than the number of line feeds before it, and its column one
more than the number of bytes behind the last of them. -/
theorem ofOffset_eq {source : Source} {offset : Nat}
    (within : offset ≤ (encode source.chars).length) (file : String) :
    ofOffset file source offset =
      ⟨file, 1 + ((encode source.chars).take offset).count lineFeed,
        1 + sinceLineFeed ((encode source.chars).take offset), offset⟩ := by
  rw [Text.length_encode] at within
  rw [ofOffset, Source.position, Text.advance_eq ⟨0, 0⟩ offset source.chars within]
  simp [Nat.add_comm 1]

/-- The order of two locations, the other way round. -/
theorem order_swap (first second : Location) : (order first second).swap = order second first := by
  simp only [order, Ordering.swap_then, ← Std.OrientedCmp.eq_swap]

/-- Places in one source compare as their offsets. -/
theorem order_ofOffset (file : String) (source : Source) (first second : Nat) :
    order (ofOffset file source first) (ofOffset file source second) = compare first second := by
  rcases Nat.lt_trichotomy first second with before | rfl | behind
  · rw [order_ofOffset_of_lt file source before, Nat.compare_eq_lt.mpr before]
  · simp [order, Std.ReflCmp.compare_self]
  · rw [← order_swap, order_ofOffset_of_lt file source behind, Nat.compare_eq_gt.mpr behind]
    rfl

/-- Places in one source are sorted as their offsets. -/
theorem sort_map_ofOffset (file : String) (source : Source) (offsets : List Nat) :
    sort (offsets.map (ofOffset file source)) =
      (offsets.mergeSort (· ≤ ·)).map (ofOffset file source) := by
  have alike (first second : Nat) : decide (first ≤ second) =
      isBefore (ofOffset file source first) (ofOffset file source second) := by
    rw [isBefore, order_ofOffset, Bool.eq_iff_iff, decide_eq_true_eq, bne_iff_ne,
      ne_eq, Nat.compare_eq_gt, Nat.not_lt]
  exact (List.map_mergeSort fun first _ second _ => alike first second).symm

/-- Locations are in document order.  The line and the column of an offset in a source are told by
the bytes before it; locations in the source compare as their offsets; line and column together tell
the offset; and sorting locations is sorting offsets. -/
theorem ofOffset_in_document_order (file : String) (source : Source) :
    (∀ offset ≤ (encode source.chars).length,
      let before := (encode source.chars).take offset
      (ofOffset file source offset).line = 1 + before.count lineFeed ∧
        (ofOffset file source offset).column = 1 + sinceLineFeed before) ∧
    (∀ first second, order (ofOffset file source first) (ofOffset file source second) =
      compare first second) ∧
    (∀ first second,
      (ofOffset file source first).line = (ofOffset file source second).line →
      (ofOffset file source first).column = (ofOffset file source second).column →
      first = second) ∧
    ∀ offsets : List Nat, sort (offsets.map (ofOffset file source)) =
      (offsets.mergeSort (· ≤ ·)).map (ofOffset file source) := by
  refine ⟨?_, order_ofOffset file source, ?_, sort_map_ofOffset file source⟩
  · intro offset within
    rw [ofOffset_eq within]
    exact ⟨rfl, rfl⟩
  · intro first second sameLine sameColumn
    exact Text.eq_of_advance (Nat.succ.inj sameLine) (Nat.succ.inj sameColumn)

/-- In the accented source the offset 1 is inside of the first character, 4 begins the empty line
and 6 is the end. -/
theorem ofOffset_in_accented :
    (4 ≤ (encode Source.accented.chars).length ∧ (ofOffset "x.c" .accented 4).line = 2 ∧
      (ofOffset "x.c" .accented 4).column = 1) ∧
    (6 ≤ (encode Source.accented.chars).length ∧ (ofOffset "x.c" .accented 6).line = 3 ∧
      (ofOffset "x.c" .accented 6).column = 2) ∧
    order (ofOffset "x.c" .accented 1) (ofOffset "x.c" .accented 4) = .lt ∧
    sort ([4, 1, 6].map (ofOffset "x.c" .accented)) =
      [1, 4, 6].map (ofOffset "x.c" .accented) := by
  obtain ⟨places, ordered, -, sorted⟩ := ofOffset_in_document_order "x.c" .accented
  have empty : 4 ≤ (encode Source.accented.chars).length := by decide
  have last : 6 ≤ (encode Source.accented.chars).length := by decide
  have ascending : [4, 1, 6].mergeSort (· ≤ ·) = [1, 4, 6] := by simp [List.mergeSort]
  refine ⟨⟨empty, places 4 empty⟩, ⟨last, places 6 last⟩, ordered 1 4, ?_⟩
  rw [sorted, ascending]

end Location

end DeclScope
