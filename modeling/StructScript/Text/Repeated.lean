/-! # Repeated texts

    Copies of a piece end to end: indentation, and the slashes in front of a
    path. -/

namespace StructScript.Text

/-- So many copies of a piece end to end. -/
def repeated (piece : String) : Nat → String
  | 0 => ""
  | count + 1 => piece ++ repeated piece count

end StructScript.Text
