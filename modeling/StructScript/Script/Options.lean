/-! # Options of the output -/

namespace StructScript

/-- How types are written out. -/
structure Options where
  /-- The indentation of one level. -/
  indent : String := "    "
  /-- The name that makes a declaration generic wherever it is mentioned. -/
  placeholder : String := "T"
  /-- Whether `undefined` is written beside the type of a pointer member. -/
  widenPointers : Bool := false
  /-- The types of other packages that are written as a fixed text. -/
  scalars : List (String × String) := [("time.Time", "string"), ("decimal.Decimal", "number")]
deriving Repr

/-- The text for a type of another package, if there is one. -/
def Options.scalar? (options : Options) (package name : String) : Option String :=
  options.scalars.lookup (package ++ "." ++ name)

end StructScript
