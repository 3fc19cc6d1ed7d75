import StructScript.Go.TypePhrase

/-! # Terms of Go

    The readers for expressions.  Outside declarations only their extent
    matters, so precedence is not looked at; but a type alone is no expression,
    and a reader tells the two apart. -/

namespace StructScript.Go

/-- The operators before an operand. -/
def unaryMarks : List String := ["+", "-", "!", "^", "*", "&", "<-"]

/-- The operators between operands. -/
def binaryMarks : List String :=
  ["*", "/", "%", "<<", ">>", "&", "&^", "+", "-", "|", "^", "==", "!=", "<", "<=", ">", ">=",
    "&&", "||"]

/-- An expression and nothing else. -/
def plainExpression : TermPhrase := { isExpression := true, isType := false }

/-- A type that takes no body. -/
def plainType : TermPhrase := { isExpression := false, isType := true }

/-- An expression in a place. -/
def nestedExpression (phrases : Phrases) (place : Place) : Reader Unit := fun ts =>
  match phrases.term place ts with
  | some (term, rest) => if term.isExpression then some ((), rest) else none
  | none => none

/-- An argument of a call. -/
def readArgument (phrases : Phrases) : Reader Unit := fun ts =>
  (nestedExpression phrases Place.inside ts).map fun (_, rest) =>
    if nextIs false "..." rest then ((), rest.tail) else ((), rest)

/-- The arguments of a call that makes a value of a type. -/
def readMakerArguments (phrases : Phrases) : Reader Unit := fun ts =>
  match expect "(" ts with
  | none => none
  | some ((), rest) =>
      if nextIs false ")" rest then some ((), rest.tail)
      else
        match phrases.type false rest with
        | none => none
        | some (_, after) =>
            if nextIs false ")" after then some ((), after.tail)
            else if nextIs false "," after then
              if nextIs false ")" after.tail then some ((), after.tail.tail)
              else
                (itemsUntil ")" (nestedExpression phrases Place.inside) after.length
                  after.tail).map fun (_, final) => ((), final)
            else none

/-- An element of a literal's body, or its key. -/
def readLiteralPart (phrases : Phrases) : Reader Unit := fun ts =>
  if nextIs false "\x7b" ts then phrases.body ts
  else nestedExpression phrases Place.inside ts

/-- An element of a literal's body, with or without a key. -/
def readLiteralElement (phrases : Phrases) : Reader Unit := fun ts =>
  match readLiteralPart phrases ts with
  | none => none
  | some ((), rest) =>
      if nextIs false ":" rest then readLiteralPart phrases rest.tail else some ((), rest)

/-- The body of a literal. -/
def readBody (phrases : Phrases) : Reader Unit := fun ts =>
  (bracketed "\x7b" "\x7d" (readLiteralElement phrases) ts).map fun (_, rest) => ((), rest)

/-- Whether a statement list ends before a token. -/
def endsStatements (token : Token) : Bool :=
  token.is "\x7d" || token.is "case" || token.is "default"

/-- The tokens behind a statement list. -/
def skipStatements (phrases : Phrases) : Nat → List Token → Option (List Token)
  | 0, _ => none
  | count + 1, ts =>
      match ts with
      | [] => none
      | token :: _ =>
          if endsStatements token then some ts
          else
            match phrases.statement ts with
            | none => none
            | some ((), rest) =>
                match rest with
                | [] => none
                | next :: after =>
                    if endsStatements next then some rest
                    else if next.breaks then skipStatements phrases count rest
                    else if next.is ";" then skipStatements phrases count after
                    else none

/-- A block of statements in braces. -/
def readBlock (phrases : Phrases) : Reader Unit := fun ts =>
  match expect "\x7b" ts with
  | none => none
  | some ((), rest) =>
      match skipStatements phrases (rest.length + 1) rest with
      | none => none
      | some after => expect "\x7d" after

/-- A function as a term: with a block it is an expression, without one a
    type. -/
def readFunctionTerm (phrases : Phrases) : Reader TermPhrase := fun ts =>
  match readParameters phrases ts with
  | none => none
  | some ((), rest) =>
      let after := skipResult phrases false rest
      if nextIs false "\x7b" after then
        (readBlock phrases after).map fun (_, final) => (plainExpression, final)
      else some (plainType, after)

/-- A list type as a term. -/
def readListTerm (phrases : Phrases) : Reader TermPhrase := fun ts =>
  let element (ts : List Token) (isType : Bool) : Option (TermPhrase × List Token) :=
    (phrases.type false ts).map fun (_, rest) =>
      ({ isExpression := false, isType, takesBody := true }, rest)
  if nextIs false "..." ts then
    match expect "]" ts.tail with
    | some ((), rest) => element rest false
    | none => none
  else
    match readLength phrases ts with
    | some ((), rest) => element rest true
    | none => none

/-- An operand without what can stand behind it. -/
def readOperand (phrases : Phrases) : Reader TermPhrase := fun ts =>
  match ts with
  | [] => none
  | token :: rest =>
      let ofType (takesBody : Bool) : Option (TermPhrase × List Token) :=
        (phrases.type false ts).map fun (_, after) => ({ plainType with takesBody }, after)
      match token.kind with
      | .word =>
          let name : TermPhrase := { isExpression := true, isType := true, isName := true }
          if token.text == "new" || token.text == "make" then
            match readMakerArguments phrases rest with
            | some ((), after) => some (plainExpression, after)
            | none => some (name, rest)
          else some (name, rest)
      | .number | .rune | .text => some (plainExpression, rest)
      | .finish => none
      | .keyword | .mark =>
          if token.is "(" then
            match phrases.term Place.inside rest with
            | none => none
            | some (term, after) =>
                (expect ")" after).map fun (_, final) =>
                  ({ isExpression := term.isExpression, isType := term.isType }, final)
          else if token.is "func" then readFunctionTerm phrases rest
          else if token.is "[" then readListTerm phrases rest
          else if token.is "map" || token.is "struct" then ofType true
          else if token.is "interface" || token.is "chan" || token.is "<-" then ofType false
          else none

/-- The contents of brackets behind an operand: an index, a slice, or type
    arguments.  The result tells whether there is a single expression or a
    slice, and whether there are only types. -/
def readIndex (phrases : Phrases) : Reader (Bool × Bool) := fun ts =>
  let bound (ts : List Token) : Option (List Token) :=
    if nextIs false ":" ts || nextIs false "]" ts then some ts
    else (nestedExpression phrases Place.inside ts).map (·.2)
  let slice (ts : List Token) : Option ((Bool × Bool) × List Token) :=
    match bound ts with
    | none => none
    | some rest =>
        if nextIs false ":" rest then
          match nestedExpression phrases Place.inside rest.tail with
          | some ((), after) => (expect "]" after).map fun (_, final) => ((true, false), final)
          | none => none
        else (expect "]" rest).map fun (_, final) => ((true, false), final)
  if nextIs false ":" ts then slice ts.tail
  else
    match phrases.term Place.inside ts with
    | none => none
    | some (term, rest) =>
        if nextIs false ":" rest && term.isExpression then slice rest.tail
        else
          (itemsUntil "]" (phrases.term Place.inside) ts.length ts).map fun (terms, after) =>
            ((terms.length == 1 && term.isExpression, terms.all (·.isType)), after)

/-- What can stand behind an operand, and the term that results. -/
def readSuffix (phrases : Phrases) (place : Place) (term : TermPhrase) : Reader TermPhrase :=
  fun ts =>
  match ts with
  | [] => none
  | token :: rest =>
      if place.ends && token.breaks && term.isExpression then none
      else if token.is "." then
        match readWord rest with
        | some (_, after) =>
            if term.isExpression then
              some ({ isExpression := true, isType := term.isName, isName := term.isName }, after)
            else none
        | none =>
            if nextIs false "(" rest && !nextIs false "type" rest.tail && term.isExpression then
              match phrases.type false rest.tail with
              | some (_, after) => (expect ")" after).map fun (_, final) => (plainExpression, final)
              | none => none
            else none
      else if token.is "[" then
        match readIndex phrases rest with
        | some ((isIndex, areTypes), after) =>
            let applies := term.isName && areTypes
            let indexes := term.isExpression && isIndex
            if applies || indexes then
              some ({ isExpression := true, isType := applies, isName := applies }, after)
            else none
        | none => none
      else if token.is "(" then
        if term.isExpression then
          (bracketed "(" ")" (readArgument phrases) ts).map fun (_, after) =>
            (plainExpression, after)
        else if term.isType then
          match nestedExpression phrases Place.inside rest with
          | none => none
          | some ((), after) =>
              let after := if nextIs false "," after then after.tail else after
              (expect ")" after).map fun (_, final) => (plainExpression, final)
        else none
      else if token.is "\x7b" then
        if term.takesBody || (term.isName && place.bodies) then
          (readBody phrases ts).map fun (_, after) => (plainExpression, after)
        else none
      else none

/-- A term with everything that stands behind it. -/
def readSuffixes (phrases : Phrases) (place : Place) :
    Nat → TermPhrase → List Token → TermPhrase × List Token
  | 0, term, ts => (term, ts)
  | count + 1, term, ts =>
      match readSuffix phrases place term ts with
      | some (next, rest) => readSuffixes phrases place count next rest
      | none => (term, ts)

/-- An operand behind its operators.  Behind stars alone a type stays a type;
    an arrow before the keyword of a channel starts a type. -/
def readUnary (phrases : Phrases) (place : Place) : Nat → Reader TermPhrase
  | 0, _ => none
  | count + 1, ts =>
      match ts with
      | [] => none
      | token :: rest =>
          let isChannel := token.is "<-" && nextIs false "chan" rest
          if !isChannel && unaryMarks.any token.is then
            match readUnary phrases place count rest with
            | none => none
            | some (term, after) =>
                let isType := term.isType && token.is "*"
                if term.isExpression || isType then
                  some ({ isExpression := term.isExpression, isType }, after)
                else none
          else
            (readOperand phrases ts).map fun (term, after) =>
              readSuffixes phrases place after.length term after

/-- A term: operands with operators between them. -/
def readTermFrom (phrases : Phrases) (place : Place) : Nat → Reader TermPhrase
  | 0, _ => none
  | count + 1, ts =>
      match readUnary phrases place ts.length ts with
      | none => none
      | some (term, rest) =>
          match rest with
          | [] => some (term, rest)
          | token :: after =>
              if term.isExpression && !(place.ends && token.breaks) && binaryMarks.any token.is then
                match readTermFrom phrases place count after with
                | some (next, final) =>
                    if next.isExpression then some (plainExpression, final) else none
                | none => none
              else some (term, rest)

/-- A term. -/
def readTerm (phrases : Phrases) (place : Place) : Reader TermPhrase := fun ts =>
  readTermFrom phrases place ts.length ts

/-- An expression. -/
def readExpression (phrases : Phrases) (place : Place) : Reader Unit := fun ts =>
  match readTerm phrases place ts with
  | some (term, rest) => if term.isExpression then some ((), rest) else none
  | none => none

/-- Expressions with commas between neighbours. -/
def readExpressions (phrases : Phrases) (place : Place) : Reader (List Unit) := fun ts =>
  separated place.ends "," (readExpression phrases place) ts.length ts

end StructScript.Go
