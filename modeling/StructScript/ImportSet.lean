/-! # Import sets

    The names that a module takes from elsewhere, in the order in which they
    are first met and each once: references into other packages, and names of
    the module's own package. -/

namespace StructScript

/-- A type of another package. -/
structure Reference where
  package : String
  symbol : String
deriving DecidableEq, Repr

/-- A list with an item at its end, unless the item is in it already. -/
def appendNew {α : Type} [DecidableEq α] (items : List α) (item : α) : List α :=
  if item ∈ items then items else items ++ [item]

/-- A list followed by the items of another that are not in it yet. -/
def appendAllNew {α : Type} [DecidableEq α] (items : List α) : List α → List α
  | [] => items
  | item :: rest => appendAllNew (appendNew items item) rest

/-- References into other packages, and names of the own package. -/
structure ImportSet where
  external : List Reference := []
  internal : List String := []
deriving DecidableEq, Repr

namespace ImportSet

/-- The set without a name. -/
def empty : ImportSet := {}

/-- A set with a reference into another package. -/
def addExternal (imports : ImportSet) (package symbol : String) : ImportSet :=
  { imports with external := appendNew imports.external ⟨package, symbol⟩ }

/-- A set with a name of the own package. -/
def addInternal (imports : ImportSet) (symbol : String) : ImportSet :=
  { imports with internal := appendNew imports.internal symbol }

/-- A set with the names of another behind its own. -/
def union (imports other : ImportSet) : ImportSet :=
  { external := appendAllNew imports.external other.external
    internal := appendAllNew imports.internal other.internal }

/-- Whether a set has no name. -/
def isEmpty (imports : ImportSet) : Bool :=
  imports.external.isEmpty && imports.internal.isEmpty

end ImportSet

end StructScript
