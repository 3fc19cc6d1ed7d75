import StructScript.Text.Repeated

/-! # Paths

    A path is a list of names, from a folder in use or from the top.  Empty
    names and single points mean nothing and are dropped; two points stand for
    the folder above and are kept until a path is resolved. -/

namespace StructScript

/-- A path in a file tree. -/
structure Path where
  /-- The slashes in front: none for a relative path, otherwise one, or two
      where a path starts with exactly two. -/
  slashes : Nat := 0
  parts : List String := []
deriving DecidableEq, Repr

/-- A place in a file tree: the names on the way from the top. -/
abbrev Location := List String

namespace Path

/-- The names between slashes. -/
def names (text : List Char) : List String :=
  ((text.splitOn '/').map String.ofList).filter fun name => name != "" && name != "."

/-- The path that a text writes. -/
def ofText (text : String) : Path :=
  let chars := text.toList
  let leading := (chars.takeWhile (· == '/')).length
  { slashes := if leading = 2 then 2 else min leading 1, parts := names chars }

/-- The text of a path. -/
def text (path : Path) : String :=
  if path.slashes = 0 && path.parts.isEmpty then "."
  else Text.repeated "/" path.slashes ++ String.intercalate "/" path.parts

/-- The path from the top to a place. -/
def ofLocation (location : Location) : Path :=
  { slashes := 1, parts := location }

/-- A path that starts at another. -/
def join (base path : Path) : Path :=
  if path.slashes = 0 then { base with parts := base.parts ++ path.parts } else path

/-- The entry with a name in the folder that a path leads to. -/
def child (path : Path) (name : String) : Path :=
  { path with parts := path.parts ++ [name] }

/-- The path without its last name. -/
def parent (path : Path) : Path :=
  { path with parts := path.parts.dropLast }

/-- The last name. -/
def name (path : Path) : String :=
  path.parts.getLastD ""

/-- A name cut before its last point, unless the point is its first or last
    character. -/
def splitName (name : String) : String × String :=
  let reversed := name.toList.reverse
  let ending := reversed.takeWhile (· != '.')
  let stem := reversed.drop (ending.length + 1)
  if ending.isEmpty || stem.isEmpty then (name, "")
  else (String.ofList stem.reverse, String.ofList ('.' :: ending.reverse))

/-- The last name without its ending. -/
def stem (path : Path) : String :=
  (splitName path.name).1

/-- The ending of the last name, with its point. -/
def ending (path : Path) : String :=
  (splitName path.name).2

/-- Whether a path holds the character that no path can hold. -/
def holdsNull (path : Path) : Bool :=
  path.parts.any fun name => name.toList.contains (Char.ofNat 0)

/-- The place that names lead to, with those of folders above carried out. -/
def settle (location : Location) : List String → Location
  | [] => location
  | name :: rest => settle (if name = ".." then location.dropLast else location ++ [name]) rest

/-- The place that a path leads to from a place in use. -/
def resolve (here : Location) (path : Path) : Location :=
  settle (if path.slashes = 0 then here else []) path.parts

end Path

/-- What is left of a place below another one. -/
def relativeTo? (base location : Location) : Option (List String) :=
  if base.isPrefixOf location then some (location.drop base.length) else none

end StructScript
