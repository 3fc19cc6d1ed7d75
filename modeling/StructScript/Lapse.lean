import StructScript.Text.Quoted

/-! # Lapses

    What the program is not prepared for: no command reports a lapse as a failure
    of its own work, so a lapse stops the program. -/

namespace StructScript

/-- Something that no command is prepared for. -/
inductive Lapse
  /-- A path starts in the home folder of a user who has none. -/
  | noHome
  /-- A number is too large to count characters. -/
  | hugeCount
  /-- There is no room for so many characters. -/
  | noRoom
  /-- A word that stands for no truth value is tagged as one. -/
  | noTruthValue (word : String)
  /-- A text without a character is tagged as a number. -/
  | noDigits
  /-- A text that writes no date is tagged as one. -/
  | noMoment
  /-- A mapping is tagged as a date. -/
  | mappedMoment
  /-- A number with a point has more places in base sixty than fit into it. -/
  | tooManyPlaces
  /-- An escape writes a number that is far beyond all characters. -/
  | hugeCode
deriving DecidableEq, Repr

/-- The message of a lapse. -/
def Lapse.message : Lapse → String
  | .noHome => "Could not determine home directory."
  | .hugeCount => "cannot fit 'int' into an index-sized integer"
  | .noRoom => ""
  | .noTruthValue word => Text.quoted word
  | .noDigits => "string index out of range"
  | .noMoment => "'NoneType' object has no attribute 'groupdict'"
  | .mappedMoment => "expected string or bytes-like object, got 'list'"
  | .tooManyPlaces => "int too large to convert to float"
  | .hugeCode => "signed integer is greater than maximum"

end StructScript
