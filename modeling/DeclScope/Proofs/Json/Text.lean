import DeclScope.Json
import Mathlib.Data.List.Forall2

/-!
# The text of a JSON value

What the text of a value is, is said here by rules on the text.  A number is written by the fewest
decimal digits that read back as it, a text between quotes with each character escaped by its own
rule, and a list or object between brackets, with commas between its items.  In the compact layout
nothing stands around an item; in the indented one each item and each closing bracket is on a line of
its own, with two spaces for each level that it is deep.

The writer follows these rules for every value whose numbers are whole.
-/

namespace DeclScope.Json

/-- The digits are the decimal form of a number: they read back as it, and begin with a zero only if
this is all there is. -/
structure Decimal (value : Nat) (digits : List Char) : Prop where
  ne_nil : digits ≠ []
  areDigits : ∀ char ∈ digits, char.isDigit = true
  readsBack : Nat.ofDigitChars 10 digits 0 = value
  shortest : digits.head? = some '0' → digits = ['0']

/-- A character and how it is escaped. -/
inductive Escapes : Char → List Char → Prop where
  | quote : Escapes '"' ['\\', '"']
  | backslash : Escapes '\\' ['\\', '\\']
  | lineFeed : Escapes '\n' ['\\', 'n']
  | tab : Escapes '\t' ['\\', 't']
  | carriageReturn : Escapes '\r' ['\\', 'r']
  | backspace : Escapes '\x08' ['\\', 'b']
  | formFeed : Escapes '\x0c' ['\\', 'f']
  | control {char : Char} (isControl : char.toNat < 0x20)
      (other : char ∉ ['\n', '\t', '\r', '\x08', '\x0c']) :
      Escapes char
        ['\\', 'u', '0', '0', Nat.digitChar (char.toNat / 16), Nat.digitChar (char.toNat % 16)]
  | plain {char : Char} (visible : 0x20 ≤ char.toNat) (other : char ∉ ['"', '\\']) :
      Escapes char [char]

/-- A text and its form between quotes. -/
def Quotes (text quoted : String) : Prop :=
  ∃ parts, List.Forall₂ Escapes text.toList parts ∧
    quoted.toList = '"' :: (parts.flatten ++ ['"'])

/-- What stands before an item, or before a closing bracket, at a given depth. -/
inductive Layout.Gap : Layout → Nat → String → Prop where
  | compact {depth : Nat} : Gap compact depth ""
  | indented {depth : Nat} :
      Gap indented depth ("\n" ++ String.ofList (List.replicate (2 * depth) ' '))

/-- What stands between a name and a value. -/
inductive Layout.Colon : Layout → String → Prop where
  | compact : Colon compact ":"
  | indented : Colon indented ": "

mutual

/-- A value at a given depth and its text in a layout. -/
inductive Shows (layout : Layout) : Nat → Json → String → Prop where
  | null {depth : Nat} : Shows layout depth .null "null"
  | yes {depth : Nat} : Shows layout depth (.bool true) "true"
  | no {depth : Nat} : Shows layout depth (.bool false) "false"
  | natural {depth value : Nat} {digits : List Char} (decimal : Decimal value digits) :
      Shows layout depth (.int (.ofNat value)) (String.ofList digits)
  | negative {depth value : Nat} {digits : List Char} (decimal : Decimal (value + 1) digits) :
      Shows layout depth (.int (.negSucc value)) (String.ofList ('-' :: digits))
  | str {depth : Nat} {text quoted : String} (quotes : Quotes text quoted) :
      Shows layout depth (.str text) quoted
  | emptyArr {depth : Nat} : Shows layout depth (.arr []) "[]"
  | emptyObj {depth : Nat} : Shows layout depth (.obj []) "\x7b\x7d"
  | arr {depth : Nat} {elements : List Json} {body gap : String}
      (shows : ShowsElements layout (depth + 1) elements body) (isGap : layout.Gap depth gap) :
      Shows layout depth (.arr elements) ("[" ++ body ++ gap ++ "]")
  | obj {depth : Nat} {members : List (String × Json)} {body gap : String}
      (shows : ShowsMembers layout (depth + 1) members body) (isGap : layout.Gap depth gap) :
      Shows layout depth (.obj members) ("\x7b" ++ body ++ gap ++ "\x7d")

/-- Elements of a list and their text, with commas between them. -/
inductive ShowsElements (layout : Layout) : Nat → List Json → String → Prop where
  | last {depth : Nat} {value : Json} {gap text : String} (isGap : layout.Gap depth gap)
      (shows : Shows layout depth value text) : ShowsElements layout depth [value] (gap ++ text)
  | cons {depth : Nat} {value : Json} {rest : List Json} {gap text body : String}
      (isGap : layout.Gap depth gap) (shows : Shows layout depth value text)
      (others : ShowsElements layout depth rest body) :
      ShowsElements layout depth (value :: rest) (gap ++ text ++ "," ++ body)

/-- Members of an object and their text, with commas between them. -/
inductive ShowsMembers (layout : Layout) : Nat → List (String × Json) → String → Prop where
  | last {depth : Nat} {name : String} {value : Json} {gap quoted colon text : String}
      (isGap : layout.Gap depth gap) (quotes : Quotes name quoted) (isColon : layout.Colon colon)
      (shows : Shows layout depth value text) :
      ShowsMembers layout depth [(name, value)] (gap ++ (quoted ++ colon ++ text))
  | cons {depth : Nat} {name : String} {value : Json} {rest : List (String × Json)}
      {gap quoted colon text body : String} (isGap : layout.Gap depth gap)
      (quotes : Quotes name quoted) (isColon : layout.Colon colon)
      (shows : Shows layout depth value text) (others : ShowsMembers layout depth rest body) :
      ShowsMembers layout depth ((name, value) :: rest)
        (gap ++ (quoted ++ colon ++ text) ++ "," ++ body)

end

/-- All numbers in a value are whole. -/
inductive Whole : Json → Prop where
  | null : Whole .null
  | bool (value : Bool) : Whole (.bool value)
  | int (value : Int) : Whole (.int value)
  | str (text : String) : Whole (.str text)
  | arr {elements : List Json} (all : ∀ element ∈ elements, Whole element) : Whole (.arr elements)
  | obj {members : List (String × Json)} (all : ∀ member ∈ members, Whole member.2) :
      Whole (.obj members)

/-! ### Numbers and texts -/

/-- Only the decimal form of zero begins with a zero.  By induction on the number, whose last digit
is put behind those of a tenth of it. -/
theorem head?_toDigits_ne {value : Nat} (positive : 0 < value) :
    (Nat.toDigits 10 value).head? ≠ some '0' := by
  induction value using Nat.strongRecOn with
  | ind value inductionHypothesis =>
    by_cases small : value < 10
    · rw [Nat.toDigits_of_lt_base small]
      have nonzero : ∀ digit : Fin 10, 0 < digit.val → [Nat.digitChar digit.val].head? ≠ some '0' :=
        by decide
      exact nonzero ⟨value, small⟩ positive
    · have tenth := inductionHypothesis (value / 10) (by omega) (by omega)
      rw [Nat.toDigits_of_base_le (by decide) (by omega), List.head?_append,
        Option.or_of_isSome (by simp [Nat.toDigits_ne_nil])]
      exact tenth

/-- The digits of a number are its decimal form. -/
theorem decimal_toDigits (value : Nat) : Decimal value (Nat.toDigits 10 value) where
  ne_nil := Nat.toDigits_ne_nil
  areDigits _ listed := Nat.isDigit_of_mem_toDigits (by decide) (by decide) listed
  readsBack := Nat.ofDigitChars_ten_toDigits
  shortest zero := by
    cases value with
    | zero => rfl
    | succ value => exact absurd zero (head?_toDigits_ne (Nat.succ_pos value))

/-- The writer escapes each character by its rule. -/
theorem escapes_escapedChar (char : Char) : Escapes char (escapedChar char) := by
  unfold escapedChar
  split_ifs with quote backslash lineFeed tab carriageReturn backspace formFeed isControl
  · rw [quote]
    exact .quote
  · rw [backslash]
    exact .backslash
  · rw [lineFeed]
    exact .lineFeed
  · rw [tab]
    exact .tab
  · rw [carriageReturn]
    exact .carriageReturn
  · obtain rfl : char = '\x08' := Char.toNat_inj.mp backspace
    exact .backspace
  · obtain rfl : char = '\x0c' := Char.toNat_inj.mp formFeed
    exact .formFeed
  · have high : char.toNat / 16 % 16 = char.toNat / 16 := by omega
    rw [hexDigit, hexDigit, high]
    refine .control isControl ?_
    simp only [List.mem_cons, List.not_mem_nil, or_false, not_or]
    exact ⟨lineFeed, tab, carriageReturn, fun same => backspace (same ▸ rfl),
      fun same => formFeed (same ▸ rfl)⟩
  · refine .plain (by omega) ?_
    simp only [List.mem_cons, List.not_mem_nil, or_false, not_or]
    exact ⟨quote, backslash⟩

/-- The writer puts a text between quotes by its rule. -/
theorem quotes_quote (text : String) : Quotes text (quote text) := by
  refine ⟨text.toList.map escapedChar, ?_, ?_⟩
  · rw [List.forall₂_map_right_iff, List.forall₂_same]
    intro char _
    exact escapes_escapedChar char
  · rw [quote, String.toList_ofList, List.flatMap_def]

/-! ### Values -/

/-- The writer begins a line by its rule. -/
theorem gap_lineStart (layout : Layout) (depth : Nat) :
    layout.Gap depth (layout.lineStart depth) := by
  cases layout with
  | compact => exact .compact
  | indented => exact .indented

/-- The writer puts a colon by its rule. -/
theorem colon_colon (layout : Layout) : layout.Colon layout.colon := by
  cases layout with
  | compact => exact .compact
  | indented => exact .indented

mutual

/-- The writer follows the rules.  By induction on the value. -/
theorem shows_textAt (layout : Layout) (depth : Nat) : ∀ (value : Json) (_ : value.Whole),
    Shows layout depth value (textAt layout depth value)
  | .null, _ => .null
  | .bool true, _ => .yes
  | .bool false, _ => .no
  | .int (.ofNat value), _ => by
    rw [textAt, intText, Nat.repr_eq_ofList_toDigits]
    exact .natural (decimal_toDigits value)
  | .int (.negSucc value), _ => by
    have joined : "-" ++ String.ofList (Nat.toDigits 10 (value + 1)) =
        String.ofList ('-' :: Nat.toDigits 10 (value + 1)) := by
      rw [← String.toList_inj]
      simp
    rw [textAt, intText, Nat.repr_eq_ofList_toDigits, joined]
    exact .negative (decimal_toDigits (value + 1))
  | .decimal mantissa places, whole => nomatch whole
  | .str text, _ => .str (quotes_quote text)
  | .arr [], _ => .emptyArr
  | .arr (first :: rest), .arr whole =>
    .arr (showsElements_elementTexts layout (depth + 1) (first :: rest) nofun whole)
      (gap_lineStart layout depth)
  | .obj [], _ => .emptyObj
  | .obj (first :: rest), .obj whole =>
    .obj (showsMembers_memberTexts layout (depth + 1) (first :: rest) nofun whole)
      (gap_lineStart layout depth)

/-- The writer follows the rules for the elements of a list. -/
theorem showsElements_elementTexts (layout : Layout) (depth : Nat) : ∀ (elements : List Json)
    (_ : elements ≠ []) (_ : ∀ element ∈ elements, element.Whole),
    ShowsElements layout depth elements
      (",".intercalate ((elementTexts layout depth elements).map (layout.lineStart depth ++ ·)))
  | [], present, _ => absurd rfl present
  | [value], _, whole =>
    .last (gap_lineStart layout depth)
      (shows_textAt layout depth value (whole value List.mem_cons_self))
  | value :: second :: rest, _, whole => by
    obtain ⟨isFirst, areOthers⟩ := List.forall_mem_cons.mp whole
    rw [elementTexts, elementTexts, List.map_cons, List.map_cons, String.intercalate_cons_cons]
    exact .cons (gap_lineStart layout depth) (shows_textAt layout depth value isFirst)
      (showsElements_elementTexts layout depth (second :: rest) nofun areOthers)

/-- The writer follows the rules for the members of an object. -/
theorem showsMembers_memberTexts (layout : Layout) (depth : Nat) :
    ∀ (members : List (String × Json)) (_ : members ≠ [])
    (_ : ∀ member ∈ members, member.2.Whole),
    ShowsMembers layout depth members
      (",".intercalate ((memberTexts layout depth members).map (layout.lineStart depth ++ ·)))
  | [], present, _ => absurd rfl present
  | [(name, value)], _, whole =>
    .last (gap_lineStart layout depth) (quotes_quote name) (colon_colon layout)
      (shows_textAt layout depth value (whole _ List.mem_cons_self))
  | (name, value) :: second :: rest, _, whole => by
    obtain ⟨isFirst, areOthers⟩ := List.forall_mem_cons.mp whole
    rw [memberTexts, memberTexts, List.map_cons, List.map_cons, String.intercalate_cons_cons]
    exact .cons (gap_lineStart layout depth) (quotes_quote name) (colon_colon layout)
      (shows_textAt layout depth value isFirst)
      (showsMembers_memberTexts layout depth (second :: rest) nofun areOthers)

end

/-- Each item is on a line of its own, and an empty object on the line of its name. -/
example :
    write .indented (.obj [("a", .arr [.int (-30), .str "\t\""]), ("b", .obj [])]) =
      "\x7b\n  \"a\": [\n    -30,\n    \"\\t\\\"\"\n  ],\n  \"b\": \x7b\x7d\n\x7d" := by
  decide +kernel

end DeclScope.Json
