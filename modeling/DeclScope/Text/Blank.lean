/-!
# Blanks, words and trimming

Source text is cut at *blanks*: the characters that Unicode gives the property `White_Space`.
A *word* is a maximal run of characters that are not blank.  Squeezing a text joins its words by
single spaces, so two texts with the same words squeeze to the same text, and a squeezed text is
empty exactly when there was no word.

Case folding here touches the ASCII letters only; every other character is left alone.
-/

namespace DeclScope.Text

/-- The characters with the Unicode property `White_Space`. -/
def isBlank (c : Char) : Bool :=
  let n := c.toNat
  (9 ≤ n && n ≤ 13) || n == 0x20 || n == 0x85 || n == 0xA0 || n == 0x1680 ||
    (0x2000 ≤ n && n ≤ 0x200A) || n == 0x2028 || n == 0x2029 || n == 0x202F || n == 0x205F ||
    n == 0x3000

/-- Put a word in front of further words; an empty run of characters is no word. -/
def consWord : List Char → List (List Char) → List (List Char)
  | [], rest => rest
  | word, rest => word :: rest

/-- The characters before the first blank, and the words after it. -/
def headWord : List Char → List Char × List (List Char)
  | [] => ([], [])
  | c :: cs =>
    let (word, rest) := headWord cs
    if isBlank c then ([], consWord word rest) else (c :: word, rest)

/-- The words of a list of characters, in order. -/
def wordsOf (cs : List Char) : List (List Char) :=
  consWord (headWord cs).1 (headWord cs).2

/-- The words of a text, in order. -/
def words (text : String) : List String :=
  (wordsOf text.toList).map String.ofList

/-- The words of a text joined by single spaces. -/
def squeeze (text : String) : String :=
  " ".intercalate (words text)

/-- A list of characters without the blanks at both ends. -/
def trimmed (cs : List Char) : List Char :=
  ((cs.dropWhile isBlank).reverse.dropWhile isBlank).reverse

/-- A text without the blanks at both ends. -/
def trim (text : String) : String :=
  String.ofList (trimmed text.toList)

/-- The lower-case form of an ASCII capital; any other character is unchanged. -/
def lowerAscii (c : Char) : Char :=
  if 'A' ≤ c && c ≤ 'Z' then Char.ofNat (c.toNat + 32) else c

/-- A text with its ASCII capitals made lower case. -/
def lower (text : String) : String :=
  String.ofList (text.toList.map lowerAscii)

/-- The text after a given beginning, when it has that beginning. -/
def after? (beginning text : String) : Option String :=
  if beginning.toList.isPrefixOf text.toList then
    some (String.ofList (text.toList.drop beginning.toList.length))
  else none

/-- Whether a text begins with another. -/
def begins (beginning text : String) : Bool :=
  beginning.toList.isPrefixOf text.toList

/-- Whether a text ends with another. -/
def ends (ending text : String) : Bool :=
  ending.toList.isSuffixOf text.toList

/-- No characters, no words. -/
@[simp] theorem wordsOf_nil : wordsOf [] = [] := rfl

/-- A leading blank belongs to no word. -/
theorem wordsOf_blank {c : Char} {cs : List Char} (blank : isBlank c = true) :
    wordsOf (c :: cs) = wordsOf cs := by
  simp [wordsOf, headWord, blank, consWord]

end DeclScope.Text
