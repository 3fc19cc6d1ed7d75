/-! # Base 64

    Bytes written in groups of four characters of six bits each.  Characters
    outside the alphabet mean nothing.  The padding that fills a group ends the
    text, and without it the last group has to be whole. -/

namespace StructScript.Text.Base64

/-- The six bits that a character of the alphabet stands for. -/
def sextet? (c : Char) : Option Nat :=
  if c.isUpper then some (c.toNat - 'A'.toNat)
  else if c.isLower then some (c.toNat - 'a'.toNat + 26)
  else if c.isDigit then some (c.toNat - '0'.toNat + 52)
  else if c = '+' then some 62
  else if c = '/' then some 63
  else none

/-- The sextets of a text from a place in a group on, with so much padding just
    before. -/
def sextetsFrom (place padding : Nat) : List Char → Option (List Nat)
  | [] => if place = 0 then some [] else none
  | c :: rest =>
      if c = '=' then
        if place < 2 then sextetsFrom place padding rest
        else if 4 ≤ place + padding + 1 then some []
        else sextetsFrom place (padding + 1) rest
      else
        match sextet? c with
        | none => sextetsFrom place padding rest
        | some bits => (sextetsFrom ((place + 1) % 4) 0 rest).map (bits :: ·)

/-- The whole bytes in sextets. -/
def bytesOf : List Nat → List UInt8
  | a :: b :: c :: d :: rest =>
      UInt8.ofNat (4 * a + b / 16) :: UInt8.ofNat (16 * (b % 16) + c / 4)
        :: UInt8.ofNat (64 * (c % 4) + d) :: bytesOf rest
  | [a, b, c] => [UInt8.ofNat (4 * a + b / 16), UInt8.ofNat (16 * (b % 16) + c / 4)]
  | [a, b] => [UInt8.ofNat (4 * a + b / 16)]
  | _ => []

/-- The bytes that a text writes. -/
def decode? (text : List Char) : Option (List UInt8) :=
  (sextetsFrom 0 0 text).map bytesOf

end StructScript.Text.Base64
