/-! # Shortest decimals

    The decimal with the fewest digits among those that read back as a given
    binary floating-point number, and of these the nearest. -/

namespace StructScript.Decimal

/-- A finite binary number: `mantissa · 2 ^ exponent`. -/
structure Binary where
  mantissa : Nat
  exponent : Int
  /-- Whether the next smaller number is only half as far away as the next
      larger one. -/
  narrowBelow : Bool
deriving Repr

/-- A decimal: `digits · 10 ^ exponent`. -/
structure Scientific where
  digits : Nat
  exponent : Int
deriving DecidableEq, Repr

/-- The power of two with the given exponent. -/
def twoTo (exponent : Nat) : Nat := Nat.pow 2 exponent

/-- The power of ten with the given exponent. -/
def tenTo (exponent : Nat) : Nat := Nat.pow 10 exponent

/-- The parts of a double: its sign, and its magnitude unless that is infinite
    or no number. -/
def parts (x : Float) : Bool × Option Binary :=
  let bits := x.toBits.toNat
  let negative := bits / twoTo 63 == 1
  let exponent : Nat := bits / twoTo 52 % twoTo 11
  let fraction := bits % twoTo 52
  let magnitude :=
    if exponent == 2047 then none
    else if exponent == 0 then
      some { mantissa := fraction, exponent := -1074, narrowBelow := false }
    else
      some
        { mantissa := fraction + twoTo 52, exponent := (exponent : Int) - 1075
          narrowBelow := fraction == 0 && 1 < exponent }
  (negative, magnitude)

/-- A number between bounds, all over one denominator. -/
structure Bounds where
  low : Nat
  value : Nat
  high : Nat
  denominator : Nat
  /-- Whether the bounds themselves read back as the number. -/
  closed : Bool

/-- The numbers that read back as a binary number: those nearer to it than to
    its neighbours. -/
def Binary.bounds (x : Binary) : Bounds :=
  let scale : Int := x.exponent - 2
  let factor := twoTo scale.toNat
  { low := (4 * x.mantissa - if x.narrowBelow then 1 else 2) * factor
    value := 4 * x.mantissa * factor
    high := (4 * x.mantissa + 2) * factor
    denominator := twoTo (-scale).toNat
    closed := x.mantissa % 2 == 0 }

/-- Whether a decimal lies between the bounds. -/
def Bounds.holds (b : Bounds) (d : Scientific) : Bool :=
  let number := d.digits * tenTo d.exponent.toNat * b.denominator
  let unit := tenTo (-d.exponent).toNat
  if b.closed then b.low * unit ≤ number && number ≤ b.high * unit
  else b.low * unit < number && number < b.high * unit

/-- The largest decimal with the given exponent that is not above the number. -/
def Bounds.floorAt (b : Bounds) (exponent : Int) : Nat :=
  b.value * tenTo (-exponent).toNat / (b.denominator * tenTo exponent.toNat)

/-- Whether the number is nearer to the upper of two neighbouring decimals; in
    the middle an even neighbour is preferred. -/
def Bounds.roundsUp (b : Bounds) (lower : Scientific) : Bool :=
  let twice := 2 * b.value * tenTo (-lower.exponent).toNat
  let middle := (2 * lower.digits + 1) * tenTo lower.exponent.toNat * b.denominator
  middle < twice || (middle == twice && lower.digits % 2 == 1)

/-- The decimal with the given exponent that reads back, if there is one. -/
def Bounds.decimalAt? (b : Bounds) (exponent : Int) : Option Scientific :=
  let lower : Scientific := { digits := b.floorAt exponent, exponent }
  let upper : Scientific := { lower with digits := lower.digits + 1 }
  match b.holds lower, b.holds upper with
  | true, true => some (if b.roundsUp lower then upper else lower)
  | true, false => some lower
  | false, true => some upper
  | false, false => none

/-- The exponent of the first power of ten above the number, searched upwards
    from `start` in so many steps. -/
def Bounds.magnitudeFrom (b : Bounds) (start : Int) : Nat → Int
  | 0 => start
  | steps + 1 =>
      if b.value * tenTo (-start).toNat < b.denominator * tenTo start.toNat then start
      else b.magnitudeFrom (start + 1) steps

/-- The first decimal that reads back, with one digit more at each step. -/
def Bounds.search (b : Bounds) (exponent : Int) : Nat → Scientific
  | 0 => { digits := b.floorAt exponent, exponent }
  | steps + 1 =>
      match b.decimalAt? exponent with
      | some found => found
      | none => b.search (exponent - 1) steps

/-- A decimal without zeros at the end of its digits. -/
def Scientific.trimFrom (digits : Nat) (exponent : Int) : Nat → Scientific
  | 0 => { digits, exponent }
  | steps + 1 =>
      if digits % 10 == 0 then trimFrom (digits / 10) (exponent + 1) steps
      else { digits, exponent }

/-- The shortest decimal that reads back as a binary number other than zero. -/
def Binary.shortest (x : Binary) : Scientific :=
  let b := x.bounds
  let magnitude := b.magnitudeFrom (-330) 700
  let found := b.search (magnitude - 1) 17
  Scientific.trimFrom found.digits found.exponent 20

end StructScript.Decimal
