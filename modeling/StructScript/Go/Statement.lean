import StructScript.Go.TermPhrase

/-! # Statements of Go

    The readers for declarations and statements, and the record of readers for
    phrases that nest to a given depth. -/

namespace StructScript.Go

/-- One declared type: its name, its type parameters, whether it is another
    name for an existing type, and its type. -/
structure Spec where
  name : String
  typeParams : List String := []
  isAlias : Bool := false
  phrase : TypePhrase

/-- Type parameters that share a constraint, with the constraint. -/
def readTypeParameter (phrases : Phrases) : Reader (List String × TypeExpr) := fun ts =>
  match readWords ts with
  | none => none
  | some (names, rest) =>
      match separated false "|" (phrases.type false) rest.length rest with
      | some ([one], after) => some ((names, one.type), after)
      | some (union, after) =>
          some ((names, .generic .any (union.map (·.type))), after)
      | none => none

/-- Type parameters in brackets. -/
def readTypeParameters (phrases : Phrases) : Reader (List (List String × TypeExpr)) := fun ts =>
  match expect "[" ts with
  | some ((), rest) => itemsUntil "]" (readTypeParameter phrases) rest.length rest
  | none => none

mutual

/-- How much a constraint looks like a type rather than an expression: applied
    types count for it, bare names against it. -/
def typeWeight : TypeExpr → Int
  | .named _ _ => -1
  | .pointer inner => typeWeight inner
  | .slice element => typeWeight element
  | .map key value => typeWeight key + typeWeight value
  | .generic .any union => typeWeights union
  | .generic (.named _ _) arguments | .generic (.selector _ _) arguments =>
      3 + typeWeights arguments
  | _ => 0

/-- The weights of several types together. -/
def typeWeights : List TypeExpr → Int
  | [] => 0
  | type :: rest => typeWeight type + typeWeights rest

end

/-- The rest of a declared type behind its name, with type parameters. -/
def readGenericSpec (phrases : Phrases) (name : String) :
    Reader (Spec × Int) := fun ts =>
  match readTypeParameters phrases ts with
  | none => none
  | some (parameters, rest) =>
      let isAlias := nextIs false "=" rest
      (phrases.type true (if isAlias then rest.tail else rest)).map fun (phrase, after) =>
        (({ name, typeParams := parameters.flatMap (·.1), isAlias, phrase },
          typeWeights (parameters.map (·.2))), after)

/-- The rest of a declared type behind its name, without type parameters. -/
def readPlainSpec (phrases : Phrases) (name : String) : Reader Spec := fun ts =>
  let isAlias := nextIs false "=" ts
  (phrases.type true (if isAlias then ts.tail else ts)).map fun (phrase, after) =>
    ({ name, isAlias, phrase }, after)

/-- A declared type.  What stands in brackets behind the name can be type
    parameters or the length of an array; where it can be both, the weight of
    the constraints decides. -/
def readSpec (phrases : Phrases) : Reader Spec := fun ts =>
  match readWord ts with
  | none => none
  | some (name, rest) =>
      match readGenericSpec phrases name rest, readPlainSpec phrases name rest with
      | some ((generic, weight), after), some plain =>
          if 0 < weight then some (generic, after) else some plain
      | some ((generic, _), after), none => some (generic, after)
      | none, plain => plain

/-- The declared types behind the keyword. -/
def readSpecs (phrases : Phrases) : Reader (List Spec) := fun ts =>
  if nextIs false "(" ts then terminated false ")" (readSpec phrases) ts.length ts.tail
  else (readSpec phrases ts).map fun (spec, rest) => ([spec], rest)

/-- The value of a declaration behind its mark. -/
def readValues (phrases : Phrases) (ts : List Token) : Option (List Token) :=
  match expect "=" ts with
  | some ((), rest) => (readExpressions phrases Place.statement rest).map (·.2)
  | none => none

/-- A declared constant. -/
def readConstant (phrases : Phrases) : Reader Unit := fun ts =>
  match readWords ts with
  | none => none
  | some (_, rest) =>
      if nextIs true "=" rest then (readValues phrases rest).map ((), ·)
      else
        match rest with
        | [] => none
        | token :: _ =>
            if token.breaks || !startsType token then some ((), rest)
            else
              match phrases.type true rest with
              | some (_, after) => (readValues phrases after).map ((), ·)
              | none => none

/-- A declared variable. -/
def readVariable (phrases : Phrases) : Reader Unit := fun ts =>
  match readWords ts with
  | none => none
  | some (_, rest) =>
      if nextIs false "=" rest then (readValues phrases rest).map ((), ·)
      else
        match phrases.type true rest with
        | none => none
        | some (_, after) =>
            if nextIs true "=" after then (readValues phrases after).map ((), ·)
            else some ((), after)

/-- One declaration, or several in parentheses, each with a terminator. -/
def readGroup (item : Reader Unit) : Reader Unit := fun ts =>
  if nextIs false "(" ts then
    (terminated true ")" item ts.length ts.tail).map fun (_, rest) => ((), rest)
  else item ts

/-- The marks that assign. -/
def assignMarks : List String :=
  ["=", ":=", "*=", "/=", "%=", "<<=", ">>=", "&=", "&^=", "+=", "-=", "|=", "^="]

/-- A simple statement, given the places of its left and its right side.  The
    result tells whether it is an expression alone. -/
def readSimple (phrases : Phrases) (left right : Place) : Reader Bool := fun ts =>
  match readExpressions phrases left ts with
  | none => none
  | some (expressions, rest) =>
      match rest with
      | [] => none
      | token :: after =>
          let alone := expressions.length == 1
          if left.ends && token.breaks then if alone then some (true, rest) else none
          else if assignMarks.any token.is then
            (readExpressions phrases right after).map fun (_, final) => (false, final)
          else if alone && (token.is "++" || token.is "--") then some (false, after)
          else if alone && token.is "<-" then
            (readExpression phrases right after).map fun (_, final) => (false, final)
          else if alone then some (true, rest)
          else none

/-- The tokens behind a statement that stands before a semicolon in a header,
    if there is one. -/
def skipInitializer (phrases : Phrases) (ts : List Token) : List Token :=
  match readSimple phrases Place.header Place.inside ts with
  | some (_, rest) => if nextIs false ";" rest then rest.tail else ts
  | none => ts

/-- What stands behind `if`. -/
def readIf (phrases : Phrases) : Reader Unit := fun ts =>
  match readExpression phrases Place.header (skipInitializer phrases ts) with
  | none => none
  | some ((), rest) =>
      match readBlock phrases rest with
      | none => none
      | some ((), after) =>
          if nextIs true "else" after then
            if nextIs false "if" after.tail then phrases.statement after.tail
            else readBlock phrases after.tail
          else some ((), after)

/-- The tokens behind a range clause. -/
def skipRange (phrases : Phrases) (ts : List Token) : Option (List Token) :=
  let ranged (ts : List Token) : Option (List Token) :=
    match expect "range" ts with
    | some ((), rest) => (readExpression phrases Place.header rest).map (·.2)
    | none => none
  if nextIs false "range" ts then ranged ts
  else
    match readExpressions phrases Place.header ts with
    | some (_, token :: rest) => if token.is "=" || token.is ":=" then ranged rest else none
    | _ => none

/-- The tokens behind a clause of three parts. -/
def skipForClause (phrases : Phrases) (ts : List Token) : Option (List Token) :=
  let start :=
    if nextIs false ";" ts then some ts
    else (readSimple phrases Place.header Place.inside ts).map (·.2)
  match start.bind (expect ";") with
  | none => none
  | some ((), rest) =>
      let condition :=
        if nextIs false ";" rest then some rest
        else (readExpression phrases Place.inside rest).map (·.2)
      match condition.bind (expect ";") with
      | none => none
      | some ((), after) =>
          if nextIs false "\x7b" after then some after
          else (readSimple phrases Place.header Place.header after).map (·.2)

/-- What stands behind `for`. -/
def readFor (phrases : Phrases) : Reader Unit := fun ts =>
  let withBlock (rest : Option (List Token)) : Option (Unit × List Token) :=
    rest.bind (readBlock phrases)
  if nextIs false "\x7b" ts then readBlock phrases ts
  else
    ((withBlock (skipRange phrases ts)).or (withBlock (skipForClause phrases ts))).or
      (withBlock ((readExpression phrases Place.header ts).map (·.2)))

/-- The tokens behind the value of a type switch, up to its brace. -/
def skipTypeGuard (phrases : Phrases) (ts : List Token) : Option (List Token) :=
  let guard (ts : List Token) : Option (List Token) :=
    match readExpression phrases Place.header ts with
    | some ((), rest) =>
        (["." , "(", "type", ")"].foldl
          (fun (acc : Option (List Token)) text => (acc.bind (expect text)).map (·.2)) (some rest))
    | none => none
  let bound : Option (List Token) :=
    match readExpressions phrases Place.header ts with
    | some (_, token :: rest) => if token.is ":=" then guard rest else none
    | _ => none
  bound.or (guard ts)

/-- The clauses of a switch or a select behind its brace. -/
def readClauses (phrases : Phrases) (label : Reader Unit) : Nat → Reader Unit
  | 0, _ => none
  | count + 1, ts =>
      let clause (ts : List Token) : Option (Unit × List Token) :=
        match expect ":" ts with
        | none => none
        | some ((), rest) =>
            match skipStatements phrases (rest.length + 1) rest with
            | some after => readClauses phrases label count after
            | none => none
      if nextIs false "\x7d" ts then some ((), ts.tail)
      else if nextIs false "default" ts then clause ts.tail
      else if nextIs false "case" ts then
        match label ts.tail with
        | some ((), rest) => clause rest
        | none => none
      else none

/-- Clauses in braces. -/
def readClauseList (phrases : Phrases) (label : Reader Unit) : Reader Unit := fun ts =>
  match expect "\x7b" ts with
  | some ((), rest) => readClauses phrases label rest.length rest
  | none => none

/-- The label of a clause with values. -/
def valueLabel (phrases : Phrases) : Reader Unit := fun ts =>
  (readExpressions phrases Place.inside ts).map fun (_, rest) => ((), rest)

/-- The label of a clause with types. -/
def typeLabel (phrases : Phrases) : Reader Unit := fun ts =>
  (separated false "," (phrases.type false) ts.length ts).map fun (_, rest) => ((), rest)

/-- The label of a clause with a communication. -/
def communicationLabel (phrases : Phrases) : Reader Unit := fun ts =>
  (readSimple phrases Place.inside Place.inside ts).map fun (_, rest) => ((), rest)

/-- What stands behind `switch`. -/
def readSwitch (phrases : Phrases) : Reader Unit := fun ts =>
  let header := skipInitializer phrases ts
  let onTypes : Option (Unit × List Token) :=
    (skipTypeGuard phrases header).bind (readClauseList phrases (typeLabel phrases))
  let onValues : Option (Unit × List Token) :=
    if nextIs false "\x7b" header then readClauseList phrases (valueLabel phrases) header
    else
      ((readExpression phrases Place.header header).map (·.2)).bind
        (readClauseList phrases (valueLabel phrases))
  onTypes.or onValues

/-- A label behind `break` or `continue`, if there is one on the line. -/
def skipLabel (ts : List Token) : List Token :=
  match ts with
  | token :: rest => if token.isWord && !token.breaks then rest else ts
  | [] => ts

/-- What stands behind `return`. -/
def readReturn (phrases : Phrases) : Reader Unit := fun ts =>
  match ts with
  | [] => none
  | token :: _ =>
      if token.breaks then some ((), ts)
      else
        match readExpressions phrases Place.statement ts with
        | some (_, rest) => some ((), rest)
        | none => some ((), ts)

/-- A statement. -/
def readStatement (phrases : Phrases) : Reader Unit := fun ts =>
  match ts with
  | [] => none
  | token :: rest =>
      if token.is ";" then some ((), rest)
      else if token.is "\x7b" then readBlock phrases ts
      else if token.is "const" then readGroup (readConstant phrases) rest
      else if token.is "var" then readGroup (readVariable phrases) rest
      else if token.is "type" then (readSpecs phrases rest).map fun (_, after) => ((), after)
      else if token.is "return" then readReturn phrases rest
      else if token.is "go" || token.is "defer" then
        readExpression phrases Place.statement rest
      else if token.is "if" then readIf phrases rest
      else if token.is "for" then readFor phrases rest
      else if token.is "switch" then readSwitch phrases rest
      else if token.is "select" then readClauseList phrases (communicationLabel phrases) rest
      else if token.is "break" || token.is "continue" then some ((), skipLabel rest)
      else if token.is "goto" then (readWord rest).map fun (_, after) => ((), after)
      else if token.is "fallthrough" then some ((), rest)
      else if token.isWord && nextIs true ":" rest then
        match rest.tail with
        | next :: _ =>
            if endsStatements next then some ((), rest.tail) else phrases.statement rest.tail
        | [] => none
      else
        (readSimple phrases Place.statement Place.statement ts).map fun (_, after) => ((), after)

/-- The readers for phrases that nest at most so deep. -/
def phrases : Nat → Phrases
  | 0 => Phrases.none
  | depth + 1 =>
      let inner := phrases depth
      { type := readType inner
        term := readTerm inner
        body := readBody inner
        statement := readStatement inner }

end StructScript.Go
