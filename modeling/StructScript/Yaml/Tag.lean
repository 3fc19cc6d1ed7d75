import StructScript.Yaml.Cursor

/-! # Tags

    The kind of a node.  A plain scalar without a tag of its own gets one from
    its spelling, by the rules of YAML 1.1. -/

namespace StructScript.Yaml

/-- The kind of a node. -/
inductive Tag
  | null
  | bool
  | int
  | float
  | timestamp
  | text
  | binary
  | sequence
  | mapping
  | orderedMapping
  | pairs
  | set
  /-- The key that takes over the entries of other mappings. -/
  | merge
  /-- The key of a mapping's default value. -/
  | defaultValue
  /-- A tag without a meaning here. -/
  | foreign (name : String)
deriving DecidableEq, Repr

namespace Tag

/-- The names of the tags of YAML itself. -/
def standard : List (String × Tag) :=
  [("null", .null), ("bool", .bool), ("int", .int), ("float", .float), ("timestamp", .timestamp),
   ("str", .text), ("binary", .binary), ("seq", .sequence), ("map", .mapping),
   ("omap", .orderedMapping), ("pairs", .pairs), ("set", .set), ("merge", .merge),
   ("value", .defaultValue)]

/-- What the names of the tags of YAML itself start with. -/
def standardSpace : String :=
  "tag:yaml.org,2002:"

/-- The tag with a full name. -/
def ofName (name : String) : Tag :=
  let known := standard.find? fun entry => standardSpace ++ entry.1 == name
  match known with
  | some entry => entry.2
  | none => .foreign name

end Tag

/-- The words for true and false. -/
def boolWords : List (String × Bool) :=
  [("yes", true), ("Yes", true), ("YES", true), ("no", false), ("No", false), ("NO", false),
   ("true", true), ("True", true), ("TRUE", true), ("false", false), ("False", false),
   ("FALSE", false), ("on", true), ("On", true), ("ON", true), ("off", false), ("Off", false),
   ("OFF", false)]

/-- The spellings of nothing. -/
def nullWords : List String :=
  ["", "~", "null", "Null", "NULL"]

/-- A digit or an underscore. -/
def isDigitOrUnderscore (c : Char) : Bool :=
  c.isDigit || c == '_'

/-- A text without a sign in front. -/
def unsigned : List Char → List Char
  | '+' :: rest => rest
  | '-' :: rest => rest
  | text => text

/-- One or two digits that write a number below sixty. -/
def isSixtieth : List Char → Bool
  | [a] => a.isDigit
  | [a, b] => '0' ≤ a && a ≤ '5' && b.isDigit
  | _ => false

/-- The parts of a text between colons. -/
def colonParts (text : List Char) : List (List Char) :=
  text.splitOn ':'

/-- Whole numbers: binary, octal, decimal, hexadecimal, or in base sixty. -/
def isIntText (text : List Char) : Bool :=
  match unsigned text with
  | [] => false
  | ['0'] => true
  | '0' :: 'b' :: digits => !digits.isEmpty && digits.all fun c => c == '0' || c == '1' || c == '_'
  | '0' :: 'x' :: digits =>
      !digits.isEmpty && digits.all fun c =>
        isDigitOrUnderscore c || ('a' ≤ c && c ≤ 'f') || ('A' ≤ c && c ≤ 'F')
  | '0' :: digits => digits.all fun c => ('0' ≤ c && c ≤ '7') || c == '_'
  | first :: digits =>
      first.isDigit
        && match colonParts digits with
          | [] => true
          | head :: sixtieths => head.all isDigitOrUnderscore && sixtieths.all isSixtieth

/-- The end of a number behind its point: digits, and an exponent with a sign. -/
def isFraction (text : List Char) : Bool :=
  match text.dropWhile isDigitOrUnderscore with
  | [] => true
  | e :: sign :: digits =>
      (e == 'e' || e == 'E') && (sign == '+' || sign == '-') && !digits.isEmpty
        && digits.all Char.isDigit
  | _ => false

/-- Numbers with a point, also in base sixty, infinities, and the undefined
    number. -/
def isFloatText (text : List Char) : Bool :=
  let body := unsigned text
  let whole := body.takeWhile (· != '.')
  let behind := (body.dropWhile (· != '.')).drop 1
  let words (names : List String) : Bool := names.contains (String.ofList behind)
  if !body.contains '.' then false
  else
    match whole with
    | [] =>
        words ["inf", "Inf", "INF"]
          || (body == text
            && (words ["nan", "NaN", "NAN"]
              || ((behind.head?.any Char.isDigit) && isFraction behind)))
    | first :: digits =>
        first.isDigit
          && match colonParts digits with
            | [] => false
            | [head] => head.all isDigitOrUnderscore && isFraction behind
            | head :: sixtieths =>
                head.all isDigitOrUnderscore && sixtieths.all isSixtieth
                  && behind.all isDigitOrUnderscore

end StructScript.Yaml
