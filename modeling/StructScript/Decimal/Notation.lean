import StructScript.Decimal.Shortest

/-! # Floating-point numbers as text

    A number is written with the fewest digits that read back: positionally
    while its decimal point lies within sixteen digits to the right or four
    places to the left of the first digit, and with an exponent otherwise. -/

namespace StructScript.Decimal

/-- An exponent with its sign and at least two digits. -/
def exponentText (exponent : Int) : String :=
  let digits := toString exponent.natAbs
  "e" ++ (if exponent < 0 then "-" else "+") ++ (if digits.length < 2 then "0" ++ digits else digits)

/-- A decimal in positional notation; a whole number keeps one zero behind the
    point. -/
def positional (digits : List Char) (point : Int) : String :=
  if point ≤ 0 then
    String.ofList ('0' :: '.' :: List.replicate (-point).toNat '0' ++ digits)
  else
    let whole := digits.take point.toNat
    let padding := List.replicate (point.toNat - whole.length) '0'
    let rest := digits.drop point.toNat
    String.ofList (whole ++ padding ++ '.' :: (if rest.isEmpty then ['0'] else rest))

/-- A decimal with an exponent. -/
def scientific (digits : List Char) (point : Int) : String :=
  let mantissa :=
    match digits with
    | [] => []
    | [first] => [first]
    | first :: rest => first :: '.' :: rest
  String.ofList mantissa ++ exponentText (point - 1)

/-- The text of a decimal. -/
def Scientific.text (d : Scientific) : String :=
  let digits := (toString d.digits).toList
  let point : Int := digits.length + d.exponent
  if -4 < point && point ≤ 16 then positional digits point else scientific digits point

/-- The text of a floating-point number. -/
def floatText (x : Float) : String :=
  let (negative, magnitude) := parts x
  let sign := if negative then "-" else ""
  match magnitude with
  | none => if x.isNaN then "nan" else sign ++ "inf"
  | some m => if m.mantissa == 0 then sign ++ "0.0" else sign ++ m.shortest.text

end StructScript.Decimal
