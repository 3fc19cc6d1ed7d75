import StructScript.Text.Spans

/-! # Blanks

    The characters that separate words: the ASCII blanks with the four
    information separators, and the blanks of Unicode 14. -/

namespace StructScript.Text

/-- The spans of the blank characters. -/
def blankSpans : List (Nat × Nat) :=
  [(0x9, 0xd), (0x1c, 0x20), (0x85, 0x85), (0xa0, 0xa0), (0x1680, 0x1680), (0x2000, 0x200a),
   (0x2028, 0x2029), (0x202f, 0x202f), (0x205f, 0x205f), (0x3000, 0x3000)]

/-- Characters that separate words. -/
def isBlank (c : Char) : Bool :=
  inSpans blankSpans c.toNat

/-- A text without the blanks at its two ends. -/
def trim (text : List Char) : List Char :=
  ((text.dropWhile isBlank).reverse.dropWhile isBlank).reverse

/-- The words of a text, given the letters of the word in hand, last first. -/
def wordsFrom (word rest : List Char) : List (List Char) :=
  match rest with
  | [] => if word.isEmpty then [] else [word.reverse]
  | c :: after =>
      if isBlank c then
        if word.isEmpty then wordsFrom [] after else word.reverse :: wordsFrom [] after
      else wordsFrom (c :: word) after

/-- The words of a text, that is its longest runs without blanks. -/
def words (text : List Char) : List (List Char) :=
  wordsFrom [] text

end StructScript.Text
