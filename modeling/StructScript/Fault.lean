import StructScript.Text.Quoted

/-! # Faults of a declaration or a file

    A fault has a cause and the path of labels that leads to it, outermost
    first.  The wording of every fault is decided here and nowhere else. -/

namespace StructScript

/-- What went wrong. -/
inductive Fault.Cause where
  /-- A fault that is known by its message alone. -/
  | general (message : String)
  /-- A source file could not be read or is not well formed. -/
  | unreadable (path message : String)
  /-- A module or an extended source file could not be written. -/
  | unwritable (path message : String)
  /-- A type or a member outside the supported set, as written, with the name
      of its form and what was wanted of it. -/
  | unsupported (text form demand : String)
  /-- A struct tag that does not follow the grammar of tags. -/
  | malformedTag (tag reason : String)
deriving DecidableEq, Repr

/-- A cause with the labels of the places around it, outermost first. -/
structure Fault where
  cause : Fault.Cause
  context : List String := []
deriving DecidableEq, Repr

namespace Fault

/-- The message of a cause, without its place. -/
def Cause.message : Cause → String
  | .general message => message
  | .unreadable path message => path ++ ": " ++ message
  | .unwritable path message => path ++ ": " ++ message
  | .unsupported text form demand =>
      (if demand.isEmpty then "unsupported construct" else demand)
        ++ ": " ++ Text.quoted text ++ " (" ++ form ++ ")"
  | .malformedTag tag reason => "malformed struct tag " ++ Text.quoted tag ++ ": " ++ reason

/-- The message of a fault: its place, if there is one, and its cause. -/
def message (fault : Fault) : String :=
  if fault.context.isEmpty then fault.cause.message
  else String.intercalate " > " fault.context ++ ": " ++ fault.cause.message

/-- The fault seen from one place further out. -/
def within (label : String) (fault : Fault) : Fault :=
  { fault with context := label :: fault.context }

end Fault

/-- An outcome seen from one place further out. -/
def labelled {α : Type} (label : String) (outcome : Except Fault α) : Except Fault α :=
  outcome.mapError (Fault.within label)

end StructScript
