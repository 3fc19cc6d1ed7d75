import StructScript.Text.Blank
import StructScript.Text.Digit
import StructScript.Text.Escape

/-! # Whole numbers

    A whole number is written with decimal digits of any script, single
    underscores between digits, a sign in front, and blanks around it.  Numbers
    with very many digits are neither read nor written. -/

namespace StructScript.Text

/-- The blanks allowed around a number: all but the information separators. -/
def isNumberPadding (c : Char) : Bool :=
  isBlank c && !(0x1c ≤ c.toNat && c.toNat ≤ 0x1f)

/-- A number without the blanks around it. -/
def unpadded (text : List Char) : List Char :=
  ((text.dropWhile isNumberPadding).reverse.dropWhile isNumberPadding).reverse

/-- Whether a number has a minus sign, and the number behind its sign. -/
def splitSign : List Char → Bool × List Char
  | '+' :: rest => (false, rest)
  | '-' :: rest => (true, rest)
  | text => (false, text)

/-- A number with a minus sign or without one. -/
def signed (negative : Bool) (n : Nat) : Int :=
  if negative then -Int.ofNat n else Int.ofNat n

/-- The value of digits that follow a digit, given the value so far. -/
def readMoreDigits (value : Nat) : List Char → Option Nat
  | [] => some value
  | '_' :: c :: rest => do
      let digit ← digitValue? c
      readMoreDigits (10 * value + digit) rest
  | c :: rest => do
      let digit ← digitValue? c
      readMoreDigits (10 * value + digit) rest

/-- A whole number without its sign. -/
def natural? : List Char → Option Nat
  | [] => none
  | c :: rest => do
      let digit ← digitValue? c
      readMoreDigits digit rest

/-- The most decimal digits of a number that is read or written. -/
def digitLimit : Nat := 4300

/-- How many digits a text has. -/
def digitCount (text : List Char) : Nat :=
  text.countP fun c => (digitValue? c).isSome

/-- A whole number of no more digits than are read. -/
def integer? (text : String) : Option Int :=
  let (negative, digits) := splitSign (unpadded text.toList)
  if digitLimit < digitCount digits then none else (natural? digits).map (signed negative)

/-- The decimal digits of a number, unless there are too many to be written. -/
def decimalText? (n : Int) : Option String :=
  if Nat.pow 10 digitLimit ≤ n.natAbs then none else some (toString n)

/-- What stands behind the mark of a base, if a number has one. -/
def dropBaseMark (base : Nat) : List Char → List Char
  | '0' :: mark :: rest =>
      let marks := [(2, 'b'), (8, 'o'), (16, 'x')]
      if marks.lookup base == some mark.toLower then rest else '0' :: mark :: rest
  | text => text

/-- A whole number in a base up to sixteen, with the mark of the base or without. -/
def integerIn? (base : Nat) (text : List Char) : Option Int :=
  let digit (c : Char) : Option Nat := ((digitValue? c).or (hexDigit? c)).filter (· < base)
  let (negative, number) := splitSign (unpadded text)
  match dropBaseMark base number with
  | [] => none
  | digits =>
      (digits.foldlM (fun n c => (digit c).map (base * n + ·)) 0).map (signed negative)

end StructScript.Text
