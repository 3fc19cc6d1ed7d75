import StructScript.Go.Phrase

/-! # Types of Go

    The readers for types.  Parentheses and array lengths leave no trace in the
    type that is read; channels, functions, approximations and unions are kept
    as written. -/

namespace StructScript.Go

/-- The keywords and marks with which a type can start, names apart. -/
def typeStarts : List String :=
  ["*", "[", "map", "struct", "interface", "chan", "<-", "func", "~", "("]

/-- Whether a type can start with a token. -/
def startsType (token : Token) : Bool :=
  token.isWord || typeStarts.any token.is

/-- A type argument: a type, or a union of types, which is kept as written. -/
def readTypeElement (phrases : Phrases) : Reader TypeExpr := fun ts =>
  match separated false "|" (phrases.type false) ts.length ts with
  | some ([one], rest) => some (one.type, rest)
  | some (_, rest) => some (.other (sourceOf ts rest) "type_elem", rest)
  | none => none

/-- Type arguments in brackets, at least one. -/
def readTypeArguments (phrases : Phrases) : Reader (List TypeExpr) := fun ts =>
  match expect "[" ts with
  | some ((), rest) => itemsUntil "]" (readTypeElement phrases) rest.length rest
  | none => none

/-- A name, or a name of another package. -/
def readTypeName (ends : Bool) : Reader TypeExpr
  | [] => none
  | token :: rest =>
      if token.isWord then
        if nextIs ends "." rest then
          (readWord rest.tail).map fun (name, after) => (.selector token.text name, after)
        else some (.named token.text false, rest)
      else none

/-- A type name with its arguments, if there are any. -/
def readNamedType (phrases : Phrases) (ends : Bool) : Reader TypeExpr := fun ts =>
  match readTypeName ends ts with
  | none => none
  | some (base, rest) =>
      if nextIs ends "[" rest then
        match readTypeArguments phrases rest with
        | some (arguments, after) => some (.generic base arguments, after)
        | none => some (base, rest)
      else some (base, rest)

/-- A slice or an array; a slice of bytes is a type of its own. -/
def listType : TypeExpr → TypeExpr
  | .named "byte" _ => .bytes
  | element => .slice element

/-- The tag behind a member, if there is one on its line. -/
def readTag (ts : List Token) : Option String × List Token :=
  match ts with
  | token :: rest => if token.isText && !token.breaks then (some token.text, rest) else (none, ts)
  | [] => (none, ts)

/-- A member of a struct, given its names and its type. -/
def finishField (names : List String) (type : TypeExpr) (ts : List Token) : Field × List Token :=
  let (tag, rest) := readTag ts
  ({ names, type, tag }, rest)

/-- An embedded member without its pointer. -/
def readEmbedded (phrases : Phrases) : Reader Field := fun ts =>
  (readNamedType phrases true ts).map fun (type, rest) => finishField [] type rest

/-- An embedded member behind a pointer's mark. -/
def readEmbeddedPointer (phrases : Phrases) : Reader Field := fun ts =>
  (readNamedType phrases true ts).map fun (type, rest) => finishField [] (.pointer type) rest

/-- A member with the names before a type. -/
def readNamedField (phrases : Phrases) : Reader Field := fun ts =>
  match readWords ts with
  | none => none
  | some (names, rest) =>
      (phrases.type true rest).map fun (phrase, after) => finishField names phrase.type after

/-- The ways to read a member of a struct, the preferred one first.  A name
    before a bracket is an embedded generic type or the name of a list; all
    other members can be read in one way only. -/
def fieldChoices (phrases : Phrases) (ts : List Token) : List (Field × List Token) :=
  match ts with
  | [] => []
  | token :: rest =>
      if token.is "*" then (readEmbeddedPointer phrases rest).toList
      else if token.isWord then
        match rest with
        | [] => []
        | next :: _ =>
            if next.breaks then (readEmbedded phrases ts).toList
            else if next.is "[" then
              (readEmbedded phrases ts).toList ++ (readNamedField phrases ts).toList
            else if next.is "," || startsType next then (readNamedField phrases ts).toList
            else (readEmbedded phrases ts).toList
      else []

/-- The members of a struct behind its opening brace. -/
def readFields (phrases : Phrases) : Nat → Reader (List Field)
  | 0, _ => none
  | count + 1, ts =>
      if nextIs false "\x7d" ts then some ([], ts.tail)
      else
        (fieldChoices phrases ts).findSome? fun (field, rest) =>
          match afterTerminator false "\x7d" rest with
          | none => none
          | some next =>
              (readFields phrases count next).map fun (fields, after) => (field :: fields, after)

/-- A parameter: its type, with or without a name, possibly for any number of
    values. -/
def readParameter (phrases : Phrases) : Reader Unit := fun ts =>
  let typed (ts : List Token) : Option (Unit × List Token) :=
    (phrases.type false ts).map fun (_, rest) => ((), rest)
  let complete (found : Option (Unit × List Token)) : Option (Unit × List Token) :=
    found.filter fun (_, rest) => nextIs false "," rest || nextIs false ")" rest
  if nextIs false "..." ts then typed ts.tail
  else
    match readWord ts with
    | none => typed ts
    | some (_, rest) =>
        if nextIs false "..." rest then typed rest.tail
        else (complete (typed rest)).or (typed ts)

/-- The parameters of a function in parentheses. -/
def readParameters (phrases : Phrases) : Reader Unit := fun ts =>
  (bracketed "(" ")" (readParameter phrases) ts).map fun (_, rest) => ((), rest)

/-- The tokens behind the result of a function, if it has one. -/
def skipResult (phrases : Phrases) (ends : Bool) (ts : List Token) : List Token :=
  match ts with
  | [] => ts
  | token :: _ =>
      if ends && token.breaks then ts
      else if token.is "(" then
        match readParameters phrases ts with
        | some ((), rest) => rest
        | none => ts
      else if startsType token then
        match phrases.type ends ts with
        | some (_, rest) => rest
        | none => ts
      else ts

/-- An element of an interface: a method, or a union of types. -/
def readInterfaceElement (phrases : Phrases) : Reader Unit := fun ts =>
  match readWord ts with
  | some (_, rest) =>
      if nextIs true "(" rest then
        (readParameters phrases rest).map fun (_, after) => ((), skipResult phrases true after)
      else
        (separated true "|" (phrases.type true) ts.length ts).map fun (_, after) => ((), after)
  | none => (separated true "|" (phrases.type true) ts.length ts).map fun (_, after) => ((), after)

/-- The elements of an interface behind its keyword. -/
def readInterface (phrases : Phrases) : Reader (List Unit) := fun ts =>
  match expect "\x7b" ts with
  | some ((), rest) => terminated false "\x7d" (readInterfaceElement phrases) rest.length rest
  | none => none

/-- An array's length and what stands around it; a slice has none. -/
def readLength (phrases : Phrases) : Reader Unit := fun ts =>
  if nextIs false "]" ts then some ((), ts.tail)
  else
    match phrases.term Place.inside ts with
    | some (term, rest) => if term.isExpression then expect "]" rest else none
    | none => none

/-- A type that is kept as written and describes behaviour. -/
def behaviourPhrase (start rest : List Token) (form : String) : TypePhrase × List Token :=
  ({ type := .other (sourceOf start rest) form, behaviour := some form }, rest)

/-- The channel types behind their first keyword or mark. -/
def readChannel (phrases : Phrases) (ends : Bool) (ts : List Token) : Option (List Token) :=
  let element (ts : List Token) : Option (List Token) := (phrases.type ends ts).map (·.2)
  match ts with
  | [] => none
  | first :: rest =>
      if first.is "<-" then
        match expect "chan" rest with
        | some ((), after) => element after
        | none => none
      else if nextIs false "<-" rest then
        -- An arrow behind the keyword is the direction, unless a channel type starts there.
        match element rest.tail with
        | some after => some after
        | none => element rest
      else element rest

/-- A type. -/
def readType (phrases : Phrases) (ends : Bool) : Reader TypePhrase := fun ts =>
  match ts with
  | [] => none
  | token :: rest =>
      let plain (found : Option (TypeExpr × List Token)) : Option (TypePhrase × List Token) :=
        found.map fun (type, after) => ({ type }, after)
      if token.isWord then plain (readNamedType phrases ends ts)
      else if token.is "*" then
        plain ((phrases.type ends rest).map fun (inner, after) => (.pointer inner.type, after))
      else if token.is "[" then
        match readLength phrases rest with
        | some ((), after) =>
            plain ((phrases.type ends after).map fun (element, after) =>
              (listType element.type, after))
        | none => none
      else if token.is "map" then
        match expect "[" rest with
        | none => none
        | some ((), after) =>
            match phrases.type false after with
            | none => none
            | some (key, after) =>
                match expect "]" after with
                | none => none
                | some ((), after) =>
                    plain ((phrases.type ends after).map fun (value, after) =>
                      (.map key.type value.type, after))
      else if token.is "struct" then
        match expect "\x7b" rest with
        | some ((), after) =>
            plain ((readFields phrases after.length after).map fun (fields, after) =>
              (.struct fields, after))
        | none => none
      else if token.is "interface" then
        (readInterface phrases rest).map fun (elements, after) =>
          ({ type := .any
             behaviour := if elements.isEmpty then none else some "interface_type" }, after)
      else if token.is "chan" || token.is "<-" then
        (readChannel phrases ends ts).map fun after => behaviourPhrase ts after "channel_type"
      else if token.is "func" then
        (readParameters phrases rest).map fun (_, after) =>
          behaviourPhrase ts (skipResult phrases ends after) "function_type"
      else if token.is "~" then
        plain ((phrases.type ends rest).map fun (_, after) =>
          (.other (sourceOf ts after) "negated_type", after))
      else if token.is "(" then
        match phrases.type false rest with
        | none => none
        | some (inner, after) => (expect ")" after).map fun (_, after) => (inner, after)
      else none

end StructScript.Go
