import StructScript.Text.Word

/-! # Names in TypeScript

    Property names and the names of built-in types. -/

namespace StructScript.Script

/-- Whether a name may stand without quotes: word characters, of which the
    first is no digit.  A line break at the very end is not looked at. -/
def isPlainName (name : List Char) : Bool :=
  match name with
  | [] => false
  | first :: rest =>
      let word := if rest.getLast? = some '\n' then rest.dropLast else rest
      Text.isWordChar first && !Text.isDigit first && word.all Text.isWordChar

/-- A character inside single quotes. -/
def quotedNameChar (c : Char) : List Char :=
  if c = '\\' || c = '\'' then ['\\', c] else [c]

/-- A property name as it is written: plain, or between single quotes. -/
def propertyName (name : String) : String :=
  if isPlainName name.toList then name
  else String.ofList ('\'' :: name.toList.flatMap quotedNameChar ++ ['\''])

end StructScript.Script
