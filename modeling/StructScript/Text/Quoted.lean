import StructScript.Text.Printable

/-! # Quoted texts in messages

    A message shows a text between quote marks, on one line and unambiguously:
    the mark in use, the backslash and everything unprintable is written as an
    escape. -/

namespace StructScript.Text

/-- The mark around a text: single, unless the text has single marks and no
    double ones. -/
def quoteMark (text : List Char) : Char :=
  if text.contains '\'' && !text.contains '"' then '"' else '\''

/-- A number in lower-case hexadecimal, padded with zeros to a width. -/
def hexPadded (width n : Nat) : List Char :=
  let digits := Nat.toDigits 16 n
  List.replicate (width - digits.length) '0' ++ digits

/-- A character as it stands between quote marks. -/
def quotedChar (mark c : Char) : List Char :=
  if c = '\\' || c = mark then ['\\', c]
  else if c = '\n' then ['\\', 'n']
  else if c = '\r' then ['\\', 'r']
  else if c = '\t' then ['\\', 't']
  else if isPrintable c then [c]
  else if c.toNat < 0x100 then '\\' :: 'x' :: hexPadded 2 c.toNat
  else if c.toNat < 0x10000 then '\\' :: 'u' :: hexPadded 4 c.toNat
  else '\\' :: 'U' :: hexPadded 8 c.toNat

/-- A text between quote marks. -/
def quoted (text : String) : String :=
  let mark := quoteMark text.toList
  String.ofList (mark :: text.toList.flatMap (quotedChar mark) ++ [mark])

/-- A byte as it stands between quote marks: as a character if it is a visible
    one of the first half, else by its code. -/
def quotedByte (mark : Char) (byte : UInt8) : List Char :=
  if byte < 0x7f then quotedChar mark (Char.ofNat byte.toNat)
  else '\\' :: 'x' :: hexPadded 2 byte.toNat

/-- Bytes between quote marks, with a letter in front. -/
def quotedBytes (bytes : List UInt8) : String :=
  let mark := quoteMark (bytes.map fun byte => Char.ofNat byte.toNat)
  String.ofList ('b' :: mark :: bytes.flatMap (quotedByte mark) ++ [mark])

/-- Items between parentheses; one item alone keeps a comma. -/
def tuple : List String → String
  | [item] => "(" ++ item ++ ",)"
  | items => "(" ++ String.intercalate ", " items ++ ")"

end StructScript.Text
