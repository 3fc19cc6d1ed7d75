import StructScript.Yaml.Layout
import StructScript.Yaml.Moment

/-! # Nodes

    The tree that a token list writes.  A reference stands for the node with its
    anchor; a reference to a collection that is still open stands for an empty
    one. -/

namespace StructScript.Yaml

/-- A scalar, a sequence or a mapping, with its tag. -/
inductive Node
  | scalar (tag : Tag) (text : String)
  | sequence (tag : Tag) (items : List Node)
  | mapping (tag : Tag) (entries : List (Node × Node))
deriving Repr

/-- The tag of a plain scalar by its spelling; a line feed behind it does not
    matter unless it is all there is. -/
def Tag.ofPlain (text : String) : Tag :=
  let chars := if text == "\n" then text.toList else unended text.toList
  let text := String.ofList chars
  if (boolWords.lookup text).isSome then .bool
  else if isFloatText chars then .float
  else if isIntText chars then .int
  else if text == "<<" then .merge
  else if nullWords.contains text then .null
  else if isMomentText chars then .timestamp
  else if text == "=" then .defaultValue
  else .text

namespace Node

/-- What is left to read of a document, with the anchors and tag handles met so
    far. -/
structure Reading where
  tokens : List Token
  anchors : List (String × Node) := []
  handles : List (String × String) := []

/-- The anchor and the tag in front of a node. -/
structure Properties where
  anchor : Option String := none
  /-- The full name of the tag. -/
  tag : Option String := none

namespace Reading

/-- The full name of a tag. -/
def tagName (r : Reading) (handle : Option String) (suffix : String) : Except Fault String :=
  match handle with
  | none => .ok suffix
  | some handle =>
      match r.handles.lookup handle with
      | some meaning => .ok (meaning ++ suffix)
      | none => .error .malformed

/-- The anchor and the tag ahead, in either order. -/
def properties (r : Reading) : Except Fault (Properties × Reading) :=
  match r.tokens with
  | .anchor anchor :: .tag handle suffix :: rest => do
      let tag ← r.tagName handle suffix
      return ({ anchor := some anchor, tag := some tag }, { r with tokens := rest })
  | .tag handle suffix :: .anchor anchor :: rest => do
      let tag ← r.tagName handle suffix
      return ({ anchor := some anchor, tag := some tag }, { r with tokens := rest })
  | .anchor anchor :: rest => .ok ({ anchor := some anchor }, { r with tokens := rest })
  | .tag handle suffix :: rest => do
      let tag ← r.tagName handle suffix
      return ({ tag := some tag }, { r with tokens := rest })
  | _ => .ok ({}, r)

/-- Gives an anchor to a node; no anchor is given twice. -/
def declare (r : Reading) (anchor : Option String) (node : Node) : Except Fault Reading :=
  match anchor with
  | none => .ok r
  | some name =>
      if (r.anchors.lookup name).isSome then .error .malformed
      else .ok { r with anchors := (name, node) :: r.anchors }

/-- Sets the node of an anchor that was given before its node was known. -/
def settle (r : Reading) (anchor : Option String) (node : Node) : Reading :=
  match anchor with
  | none => r
  | some name =>
      { r with
        anchors := r.anchors.map fun entry => if entry.1 == name then (name, node) else entry }

end Reading

/-- The tag of a scalar: the stated one, or the one its spelling has if it is
    plain or its tag is only an exclamation mark. -/
def scalarTag (stated : Option String) (plain : Bool) (text : String) : Tag :=
  match stated with
  | none => if plain then Tag.ofPlain text else .text
  | some "!" => Tag.ofPlain text
  | some name => Tag.ofName name

/-- The tag of a collection: the stated one or the usual one. -/
def collectionTag (stated : Option String) (usual : Tag) : Tag :=
  match stated with
  | none => usual
  | some "!" => usual
  | some name => Tag.ofName name

/-- The node of which nothing is written. -/
def absent : Node :=
  .scalar .null ""

/-- Where a node stands, which decides what may be left out. -/
inductive Place
  | blockItem
  | blockEntry
  | flow
deriving DecidableEq, Repr

mutual

/-- The node ahead. -/
def read (place : Place) (r : Reading) : Nat → Except Fault (Node × Reading)
  | 0 => .error .malformed
  | fuel + 1 => do
      match r.tokens with
      | .reference name :: rest =>
          match r.anchors.lookup name with
          | some node => return (node, { r with tokens := rest })
          | none => .error .malformed
      | _ =>
          let (given, r) ← r.properties
          readContent place given r fuel

/-- The content of a node behind its anchor and tag. -/
def readContent (place : Place) (given : Properties) (r : Reading) :
    Nat → Except Fault (Node × Reading)
  | 0 => .error .malformed
  | fuel + 1 => do
      let sequenceTag := collectionTag given.tag .sequence
      let mappingTag := collectionTag given.tag .mapping
      let openSequence ← r.declare given.anchor (.sequence sequenceTag [])
      let openMapping ← r.declare given.anchor (.mapping mappingTag [])
      let closeSequence (items : List Node) (r : Reading) : Node × Reading :=
        let node := Node.sequence sequenceTag items
        (node, r.settle given.anchor node)
      let closeMapping (entries : List (Node × Node)) (r : Reading) : Node × Reading :=
        let node := Node.mapping mappingTag entries
        (node, r.settle given.anchor node)
      match r.tokens with
      | .scalar text plain :: rest =>
          let node := Node.scalar (scalarTag given.tag plain text) text
          let r ← r.declare given.anchor node
          return (node, { r with tokens := rest })
      | .flowSequence :: rest =>
          let (items, r) ← readFlowItems true { openSequence with tokens := rest } fuel
          return closeSequence items r
      | .flowMapping :: rest =>
          let (entries, r) ← readFlowEntries true { openMapping with tokens := rest } fuel
          return closeMapping entries r
      | tokens =>
          match place, tokens with
          | .blockEntry, .blockEntry :: _ =>
              let (items, r) ← readOpenItems openSequence fuel
              return closeSequence items r
          | .flow, _ | _, [] =>
              if given.anchor.isSome || given.tag.isSome then
                let node := Node.scalar (scalarTag given.tag true "") ""
                return (node, ← r.declare given.anchor node)
              else .error .malformed
          | _, .blockSequence :: rest =>
              let (items, r) ← readBlockItems { openSequence with tokens := rest } fuel
              return closeSequence items r
          | _, .blockMapping :: rest =>
              let (entries, r) ← readBlockEntries { openMapping with tokens := rest } fuel
              return closeMapping entries r
          | _, _ =>
              if given.anchor.isSome || given.tag.isSome then
                let node := Node.scalar (scalarTag given.tag true "") ""
                return (node, ← r.declare given.anchor node)
              else .error .malformed

/-- The items of a block sequence up to the end of its block. -/
def readBlockItems (r : Reading) : Nat → Except Fault (List Node × Reading)
  | 0 => .error .malformed
  | fuel + 1 => do
      match r.tokens with
      | .blockEnd :: rest => return ([], { r with tokens := rest })
      | .blockEntry :: rest =>
          let r := { r with tokens := rest }
          let (item, r) ←
            match rest with
            | .blockEntry :: _ | .blockEnd :: _ => pure (absent, r)
            | _ => read .blockItem r fuel
          let (items, r) ← readBlockItems r fuel
          return (item :: items, r)
      | _ => .error .malformed

/-- The items of a sequence at the indentation of the mapping around it. -/
def readOpenItems (r : Reading) : Nat → Except Fault (List Node × Reading)
  | 0 => .error .malformed
  | fuel + 1 => do
      match r.tokens with
      | .blockEntry :: rest =>
          let r := { r with tokens := rest }
          let (item, r) ←
            match rest with
            | .blockEntry :: _ | .key :: _ | .value :: _ | .blockEnd :: _ => pure (absent, r)
            | _ => read .blockItem r fuel
          let (items, r) ← readOpenItems r fuel
          return (item :: items, r)
      | _ => return ([], r)

/-- The value of a block entry, if the mark of one is ahead. -/
def readBlockValue (r : Reading) : Nat → Except Fault (Node × Reading)
  | 0 => .error .malformed
  | fuel + 1 => do
      match r.tokens with
      | .value :: rest =>
          let r := { r with tokens := rest }
          match rest with
          | .key :: _ | .value :: _ | .blockEnd :: _ => return (absent, r)
          | _ => read .blockEntry r fuel
      | _ => return (absent, r)

/-- The entries of a block mapping up to the end of its block. -/
def readBlockEntries (r : Reading) : Nat → Except Fault (List (Node × Node) × Reading)
  | 0 => .error .malformed
  | fuel + 1 => do
      match r.tokens with
      | .blockEnd :: rest => return ([], { r with tokens := rest })
      | .key :: rest =>
          let r := { r with tokens := rest }
          let (key, r) ←
            match rest with
            | .key :: _ | .value :: _ | .blockEnd :: _ => pure (absent, r)
            | _ => read .blockEntry r fuel
          let (value, r) ← readBlockValue r fuel
          let (entries, r) ← readBlockEntries r fuel
          return ((key, value) :: entries, r)
      | .value :: _ =>
          let (value, r) ← readBlockValue r fuel
          let (entries, r) ← readBlockEntries r fuel
          return ((absent, value) :: entries, r)
      | _ => .error .malformed

/-- The value of an entry in a flow collection, if the mark of one is ahead. -/
def readFlowValue (closing : Token) (r : Reading) : Nat → Except Fault (Node × Reading)
  | 0 => .error .malformed
  | fuel + 1 => do
      match r.tokens with
      | .value :: rest =>
          let r := { r with tokens := rest }
          match rest with
          | .flowEntry :: _ => return (absent, r)
          | next :: _ => if next = closing then return (absent, r) else read .flow r fuel
          | [] => .error .malformed
      | _ => return (absent, r)

/-- The key of an entry in a flow collection, behind its mark. -/
def readFlowKey (closing : Token) (r : Reading) : Nat → Except Fault (Node × Reading)
  | 0 => .error .malformed
  | fuel + 1 => do
      match r.tokens with
      | .value :: _ | .flowEntry :: _ => return (absent, r)
      | next :: _ => if next = closing then return (absent, r) else read .flow r fuel
      | [] => .error .malformed

/-- The items of a flow sequence up to its end; an entry among them is a mapping
    of its own. -/
def readFlowItems (first : Bool) (r : Reading) : Nat → Except Fault (List Node × Reading)
  | 0 => .error .malformed
  | fuel + 1 => do
      match r.tokens with
      | .flowSequenceEnd :: rest => return ([], { r with tokens := rest })
      | _ =>
          let r ← if first then pure r else
            match r.tokens with
            | .flowEntry :: rest => pure { r with tokens := rest }
            | _ => .error .malformed
          match r.tokens with
          | .flowSequenceEnd :: rest => return ([], { r with tokens := rest })
          | .key :: rest =>
              let (key, r) ← readFlowKey .flowSequenceEnd { r with tokens := rest } fuel
              let (value, r) ← readFlowValue .flowSequenceEnd r fuel
              let (items, r) ← readFlowItems false r fuel
              return (.mapping .mapping [(key, value)] :: items, r)
          | _ =>
              let (item, r) ← read .flow r fuel
              let (items, r) ← readFlowItems false r fuel
              return (item :: items, r)

/-- The entries of a flow mapping up to its end; a node alone is a key. -/
def readFlowEntries (first : Bool) (r : Reading) :
    Nat → Except Fault (List (Node × Node) × Reading)
  | 0 => .error .malformed
  | fuel + 1 => do
      match r.tokens with
      | .flowMappingEnd :: rest => return ([], { r with tokens := rest })
      | _ =>
          let r ← if first then pure r else
            match r.tokens with
            | .flowEntry :: rest => pure { r with tokens := rest }
            | _ => .error .malformed
          match r.tokens with
          | .flowMappingEnd :: rest => return ([], { r with tokens := rest })
          | .key :: rest =>
              let (key, r) ← readFlowKey .flowMappingEnd { r with tokens := rest } fuel
              let (value, r) ← readFlowValue .flowMappingEnd r fuel
              let (entries, r) ← readFlowEntries false r fuel
              return ((key, value) :: entries, r)
          | _ =>
              let (key, r) ← read .flow r fuel
              let (entries, r) ← readFlowEntries false r fuel
              return ((key, absent) :: entries, r)

end

/-- The tag handles that need no directive. -/
def usualHandles : List (String × String) :=
  [("!", "!"), ("!!", Tag.standardSpace)]

/-- The directives in front of a document: at most one version, which must be
    the first one's, and one meaning for each handle. -/
def readDirectives (version : Bool) (handles : List (String × String)) :
    List Token → Except Fault (List (String × String) × List Token)
  | .directive (.version major) :: rest =>
      if version || major != 1 then .error .malformed else readDirectives true handles rest
  | .directive (.tagHandle handle meaning) :: rest =>
      if (handles.lookup handle).isSome then .error .malformed
      else readDirectives version ((handle, meaning) :: handles) rest
  | .directive .unknown :: rest => readDirectives version handles rest
  | tokens => .ok (handles, tokens)

/-- The node of a document behind its start. -/
def readDocument (handles : List (String × String)) (tokens : List Token) :
    Except Fault (Node × List Token) :=
  let fuel := 4 * tokens.length + 8
  match tokens with
  | [] | .documentStart :: _ | .documentEnd :: _ | .directive _ :: _ => .ok (absent, tokens)
  | _ => do
      let (node, r) ← read .blockItem { tokens, handles := handles ++ usualHandles } fuel
      return (node, r.tokens)

/-- The tokens behind the ends of documents. -/
def dropEnds : List Token → List Token
  | .documentEnd :: rest => dropEnds rest
  | tokens => tokens

/-- The tree of a token list, if it writes one document; nothing at all writes
    no document. -/
def ofTokens (tokens : List Token) : Except Fault (Option Node) := do
  match tokens with
  | [] => return none
  | .documentEnd :: _ => .error .malformed
  | .directive _ :: _ | .documentStart :: _ =>
      let (handles, tokens) ← readDirectives false [] tokens
      match tokens with
      | .documentStart :: rest =>
          let (node, rest) ← readDocument handles rest
          if (dropEnds rest).isEmpty then return some node else .error .malformed
      | _ => .error .malformed
  | _ =>
      let (node, rest) ← readDocument [] tokens
      if (dropEnds rest).isEmpty then return some node else .error .malformed

end Node

end StructScript.Yaml
