import StructScript.Decimal.Notation
import StructScript.Text.Base64
import StructScript.Text.LetterCase
import StructScript.Text.Quoted
import StructScript.Yaml.Node

/-! # Values

    What a document says: the tree of its nodes with the merge keys carried out
    and the scalars read by their tags. -/

namespace StructScript.Yaml

/-- A value. -/
inductive Value
  | null
  | bool (b : Bool)
  | int (n : Int)
  | float (x : Float)
  | text (text : String)
  | moment (m : Moment)
  | bytes (data : List UInt8)
  | list (items : List Value)
  | mapping (entries : List (Value × Value))
  /-- A value of one of the rarer kinds. -/
  | other
deriving Repr

/-! ## Merging -/

namespace Node

/-- Whether a node is the key that takes over the entries of other mappings. -/
def isMerge : Node → Bool
  | .scalar tag _ => tag == .merge
  | .sequence tag _ => tag == .merge
  | .mapping tag _ => tag == .merge

/-- The entries of a mapping. -/
def entriesOf : Node → Option (List (Node × Node))
  | .mapping _ entries => some entries
  | _ => none

/-- The entries that a merge key takes over: those of a mapping, or those of
    several, of which the first wins.  A merge key over anything else is kept. -/
def merged (key value : Node) : List (Node × Node) :=
  match value with
  | .mapping _ entries => entries
  | .sequence _ items =>
      match items.mapM entriesOf with
      | some several => several.reverse.flatten
      | none => [(key, value)]
  | .scalar _ _ => [(key, value)]

/-- Entries with nothing but the merge keys among them, if there are any. -/
def keepMerges (entries : List (Node × Node)) : List (Node × Node) :=
  match entries.filter fun entry => entry.1.isMerge with
  | [] => entries
  | merges => merges

mutual

/-- The node with all merge keys in it carried out: what is taken over comes
    before a mapping's own entries.  A mapping with a merge key that cannot be
    carried out has only that key, which has no value. -/
def spread : Node → Node
  | .scalar tag text => .scalar tag text
  | .sequence tag items => .sequence tag (spreadItems items)
  | .mapping tag entries =>
      let (taken, own) := spreadEntries entries
      .mapping tag (keepMerges (taken ++ own))

/-- The items with all merge keys in them carried out. -/
def spreadItems : List Node → List Node
  | [] => []
  | item :: rest => spread item :: spreadItems rest

/-- The entries taken over by merge keys, and the other entries. -/
def spreadEntries : List (Node × Node) → List (Node × Node) × List (Node × Node)
  | [] => ([], [])
  | (key, value) :: rest =>
      let (taken, own) := spreadEntries rest
      if key.isMerge then (merged key (spread value) ++ taken, own)
      else (taken, (spread key, spread value) :: own)

end

end Node

/-! ## Scalars -/

/-- The fault of a number that cannot be read. -/
def badInteger (base : Nat) (text : List Char) : Fault :=
  let shown := (Text.quoted (String.ofList text)).toList.take 200
  .valueless
    ("invalid literal for int() with base " ++ toString base ++ ": " ++ String.ofList shown)

/-- The number that digits of a base write. -/
def digitsIn (base : Nat) (text : List Char) : Except Fault Int :=
  match Text.integerIn? base text with
  | some n => .ok n
  | none => .error (badInteger base text)

/-- A decimal number. -/
def decimal (text : List Char) : Except Fault Int :=
  match Text.integer? (String.ofList text) with
  | some n => .ok n
  | none =>
      if Text.digitLimit < Text.digitCount text then .error (.valueless (tooManyDigits text))
      else .error (badInteger 10 text)

/-- A number in base sixty, whose places are the parts between colons. -/
def sixties (text : List Char) : Except Fault Int := do
  let places ← (colonParts text).mapM decimal
  return places.foldl (fun n place => 60 * n + place) 0

/-- A number with a sign or without one, which has to have a character. -/
def splitNumber (text : List Char) : Except Fault (Bool × List Char) :=
  if text.isEmpty then .error (.lapse .noDigits) else .ok (Text.splitSign text)

/-- A whole number; underscores in it mean nothing. -/
def readInt (text : List Char) : Except Fault Int := do
  let (negative, body) ← splitNumber (text.filter (· != '_'))
  let n ←
    match body with
    | [] => .error (.lapse .noDigits)
    | ['0'] => pure 0
    | '0' :: 'b' :: digits => digitsIn 2 digits
    | '0' :: 'x' :: digits => digitsIn 16 digits
    | '0' :: digits => digitsIn 8 ('0' :: digits)
    | _ => if body.contains ':' then sixties body else decimal body
  return if negative then -n else n

/-- Decimal digits of any script, perhaps none. -/
def digitRun? (text : List Char) : Option Nat :=
  text.foldlM (fun n c => (Text.digitValue? c).map (10 * n + ·)) 0

/-- A decimal number with a point and an exponent, either of which may be
    missing. -/
def readDecimal? (text : List Char) : Option Float := do
  let mantissa := text.takeWhile fun c => c != 'e'
  let exponent ←
    if text.contains 'e' then
      let (negative, digits) := Text.splitSign ((text.dropWhile fun c => c != 'e').drop 1)
      if digits.isEmpty then none else (digitRun? digits).map (Text.signed negative)
    else some 0
  let whole := mantissa.takeWhile (· != '.')
  let fraction := (mantissa.dropWhile (· != '.')).drop 1
  let digits := whole ++ fraction
  if digits.isEmpty then none
  else
    let n ← digitRun? digits
    -- further out every number is zero or infinite
    let bound : Int := digits.length + 400
    let shift : Int := max (-bound) (min bound (exponent - fraction.length))
    some (Float.ofScientific n (shift < 0) shift.natAbs)

/-- The value without a sign: a decimal number, or the word for one that is none. -/
def readMagnitude? (text : List Char) : Option Float :=
  if ["inf", "infinity"].contains (String.ofList text) then some (1.0 / 0.0)
  else if text == "nan".toList then some (0.0 / 0.0)
  else readDecimal? text

/-- The fault of a number with a point that cannot be read. -/
def badFloat (text : List Char) : Fault :=
  .valueless ("could not convert string to float: " ++ Text.quoted (String.ofList text))

/-- A number with a sign before or after blanks. -/
def readPointed (text : List Char) : Except Fault Float :=
  let (negative, body) := Text.splitSign (Text.unpadded text)
  match readMagnitude? body with
  | some x => .ok (if negative then -x else x)
  | none => .error (badFloat text)

/-- The weight of a place of a number with a point in base sixty, counted from the
    last one. -/
def placeWeight (place : Nat) : Except Fault Float :=
  let weight := Nat.pow 60 place
  if Nat.pow 2 1024 ≤ weight then .error (.lapse .tooManyPlaces) else .ok (Float.ofNat weight)

/-- A number with a point in base sixty, whose places are given last first. -/
def weigh (places : List Float) : Except Fault Float := do
  let weighed ← places.zipIdx.mapM fun place => do return place.1 * (← placeWeight place.2)
  return weighed.foldl (· + ·) 0.0

/-- A number with a point, an infinity or the undefined number. -/
def readFloat (text : List Char) : Except Fault Float := do
  let lowered := Text.lower (String.ofList (text.filter (· != '_')))
  let (negative, body) ← splitNumber lowered.toList
  let sign : Float := if negative then -1.0 else 1.0
  if body == ".inf".toList then return sign * (1.0 / 0.0)
  else if body == ".nan".toList then return 0.0 / 0.0
  else if body.contains ':' then
    let places ← (colonParts body).mapM readPointed
    return sign * (← weigh places.reverse)
  else return sign * (← readPointed body)

/-- A date or a time. -/
def readTimestamp (text : List Char) : Except Fault Value :=
  match readMoment text with
  | none => .error (.lapse .noMoment)
  | some m =>
      match m.flaw? with
      | some reason => .error (.valueless reason)
      | none => .ok (.moment m)

/-- Bytes in base 64. -/
def readBytes (text : List Char) : Except Fault Value :=
  match Text.Base64.decode? text with
  | some bytes => if text.all fun c => c.toNat < 0x80 then .ok (.bytes bytes) else .error .malformed
  | none => .error .malformed

/-- A scalar by its tag. -/
def readScalar (tag : Tag) (text : String) : Except Fault Value :=
  let chars := text.toList
  match tag with
  | .null => .ok .null
  | .bool =>
      let word := Text.lower text
      match boolWords.lookup word with
      | some b => .ok (.bool b)
      | none => .error (.lapse (.noTruthValue word))
  | .int => do return .int (← readInt chars)
  | .float => do return .float (← readFloat chars)
  | .timestamp => readTimestamp chars
  | .text => .ok (.text text)
  | .binary => readBytes chars
  | _ => .error .malformed

/-! ## Mappings -/

/-- A number as `digits / 2 ^ places`. -/
def exactly? : Value → Option (Int × Nat)
  | .bool b => some (if b then 1 else 0, 0)
  | .int n => some (n, 0)
  | .float x =>
      match Decimal.parts x with
      | (negative, some m) =>
          let n : Int := m.mantissa * Decimal.twoTo m.exponent.toNat
          some (if negative then -n else n, (-m.exponent).toNat)
      | (_, none) => none
  | _ => none

/-- Whether two keys are the same.  Numbers are the same if they are equal,
    whatever their kinds. -/
def Value.sameKey (a b : Value) : Bool :=
  match exactly? a, exactly? b with
  | some (m, i), some (n, j) => m * Decimal.twoTo j == n * Decimal.twoTo i
  | some _, none => false
  | none, some _ => false
  | none, none =>
      match a, b with
      | .null, .null => true
      | .text s, .text t => s == t
      | .moment s, .moment t => s == t
      | .bytes s, .bytes t => s == t
      | .float x, .float y => x == y
      | _, _ => false

/-- Whether a value may be a key. -/
def Value.isKey : Value → Bool
  | .list _ => false
  | .mapping _ => false
  | .other => false
  | _ => true

/-- Sets the value of a key; a key that is there keeps its place and its own
    spelling. -/
def putEntry (key value : Value) : List (Value × Value) → List (Value × Value)
  | [] => [(key, value)]
  | entry :: rest =>
      if entry.1.sameKey key then (entry.1, value) :: rest else entry :: putEntry key value rest

/-- The mapping with the given entries, of which later ones win. -/
def collectEntries (entries : List (Value × Value)) : List (Value × Value) :=
  entries.foldl (fun taken entry => putEntry entry.1 entry.2 taken) []

/-- A fault with the number of collections around it. -/
structure Flaw where
  depth : Nat
  fault : Fault
deriving DecidableEq, Repr

/-- Two results.  Collections are filled level by level, so of two flaws the
    outer one counts, and the first of two at one level. -/
def both {α β : Type} (a : Except Flaw α) (b : Except Flaw β) : Except Flaw (α × β) :=
  match a, b with
  | .ok x, .ok y => .ok (x, y)
  | .error f, .error g => .error (if g.depth < f.depth then g else f)
  | .error f, .ok _ => .error f
  | .ok _, .error g => .error g

/-- A key, which no collection may be, whatever is in it. -/
def checkKey (depth : Nat) (key : Except Flaw Value) : Except Flaw Value :=
  match key with
  | .ok value => if value.isKey then .ok value else .error ⟨depth, .malformed⟩
  | .error flaw => .error (if depth < flaw.depth then ⟨depth, .malformed⟩ else flaw)

/-- Whether a tag is one of a collection. -/
def Tag.ofCollection : Tag → Bool
  | .sequence | .mapping | .set | .orderedMapping | .pairs => true
  | _ => false

/-- The flaw of a node with a tag that does not fit: collections show it when
    they are filled. -/
def misfit (depth : Nat) (tag : Tag) : Flaw :=
  ⟨if tag.ofCollection then depth + 1 else depth, .malformed⟩

mutual

/-- The text of a node that stands for a scalar: its own, or that of the default
    entry of a mapping. -/
def Node.scalarText? : Node → Option String
  | .scalar _ text => some text
  | .sequence _ _ => none
  | .mapping _ entries => defaultText? entries

/-- The text of the first default entry. -/
def defaultText? : List (Node × Node) → Option String
  | [] => none
  | (key, value) :: rest =>
      match key with
      | .scalar .defaultValue _ => value.scalarText?
      | _ => defaultText? rest

end

/-- The value of a scalar, or of a mapping that stands for one. -/
def scalarValue (depth : Nat) (tag : Tag) (text : Option String) : Except Flaw Value :=
  match text with
  | some text =>
      if tag.ofCollection then .error (misfit depth tag)
      else (readScalar tag text).mapError (⟨depth, ·⟩)
  | none => .error (misfit depth tag)

mutual

/-- The value of a node without merge keys. -/
def Value.ofNode (depth : Nat) : Node → Except Flaw Value
  | .scalar tag text => scalarValue depth tag (some text)
  | .sequence tag items =>
      match tag with
      | .sequence => (ofItems (depth + 1) items).map .list
      | .orderedMapping | .pairs => (ofPairs (depth + 1) items).map fun _ => .other
      | _ => .error (misfit depth tag)
  | .mapping tag entries =>
      match tag with
      | .mapping => (ofEntries (depth + 1) entries).map fun found => .mapping (collectEntries found)
      | .set => (ofEntries (depth + 1) entries).map fun _ => .other
      -- the text is found, and then looked for in the wrong place
      | .timestamp =>
          match defaultText? entries with
          | some _ => .error ⟨depth, .lapse .mappedMoment⟩
          | none => .error (misfit depth tag)
      | _ => scalarValue depth tag (defaultText? entries)

/-- The values of a sequence. -/
def ofItems (depth : Nat) : List Node → Except Flaw (List Value)
  | [] => .ok []
  | item :: rest =>
      (both (Value.ofNode depth item) (ofItems depth rest)).map fun (value, more) => value :: more

/-- The keys and values of mappings with one entry each. -/
def ofPairs (depth : Nat) : List Node → Except Flaw (List (Value × Value))
  | [] => .ok []
  | .mapping _ [(key, value)] :: rest =>
      (both (both (Value.ofNode depth key) (Value.ofNode depth value)) (ofPairs depth rest)).map
        fun (pair, more) => pair :: more
  | _ => .error ⟨depth, .malformed⟩

/-- The keys and values of a mapping. -/
def ofEntries (depth : Nat) : List (Node × Node) → Except Flaw (List (Value × Value))
  | [] => .ok []
  | (key, value) :: rest =>
      let own := both (checkKey depth (ofKey depth key)) (Value.ofNode depth value)
      (both own (ofEntries depth rest)).map fun (entry, more) => entry :: more

/-- The value of a key. -/
def ofKey (depth : Nat) : Node → Except Flaw Value
  | .scalar .defaultValue text => .ok (.text text)
  | node => Value.ofNode depth node

end

/-- The value of a text that holds at most one document. -/
def load (text : String) : Except Fault Value := do
  match ← Node.ofTokens (← tokens text.toList) with
  | none => return .null
  | some node => (Value.ofNode 0 node.spread).mapError Flaw.fault

end StructScript.Yaml
