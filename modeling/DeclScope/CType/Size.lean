/-!
# Array sizes

The size of an array is known when it is written as an integer literal: decimal, octal with a
leading zero, or hexadecimal, possibly with separators between the digits and with a suffix.  A
value that does not fit in 64 bits is not known.  In front of the digits a plus sign is tolerated,
also after the mark of the base.
-/

namespace DeclScope.Size

/-- The value of a digit, below the base. -/
def digit? (base : Nat) (c : Char) : Option Nat :=
  let value? :=
    if '0' ≤ c && c ≤ '9' then some (c.toNat - '0'.toNat)
    else if 'a' ≤ c && c ≤ 'z' then some (c.toNat - 'a'.toNat + 10)
    else if 'A' ≤ c && c ≤ 'Z' then some (c.toNat - 'A'.toNat + 10)
    else none
  value?.filter (· < base)

/-- The value of a number, its most significant digit first. -/
def valueOf (base : Nat) (digits : List Nat) : Nat :=
  digits.foldl (fun value digit => value * base + digit) 0

/-- Read one digit or more, all of them below the base. -/
def digits? (base : Nat) : List Char → Option Nat
  | [] => none
  | cs => (cs.mapM (digit? base)).map (valueOf base)

/-- Leave out a leading plus sign. -/
def unsigned : List Char → List Char
  | '+' :: cs => cs
  | cs => cs

/-- Read a number that fits in 64 bits. -/
def word? (base : Nat) (cs : List Char) : Option Nat :=
  (digits? base (unsigned cs)).filter (· < UInt64.size)

/-- The letters of a suffix. -/
def isSuffixLetter (c : Char) : Bool := c == 'u' || c == 'U' || c == 'l' || c == 'L'

/-- A literal without its suffix and its separators. -/
def bare (literal : List Char) : List Char :=
  (literal.reverse.dropWhile isSuffixLetter).reverse.filter (· != '\'')

/-- Read a literal that has neither suffix nor separators. -/
def ofBare? : List Char → Option Nat
  | '0' :: 'x' :: digits => word? 16 digits
  | '0' :: 'X' :: digits => word? 16 digits
  | '0' :: c :: digits => word? 8 (c :: digits)
  | digits => word? 10 digits

/-- The value of an integer literal, if the text is one and its value fits in 64 bits. -/
def read? (literal : String) : Option Nat :=
  ofBare? (bare literal.toList)

end DeclScope.Size
