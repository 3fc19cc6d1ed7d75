import StructScript.Fault
import StructScript.Text.Literal

/-! # Struct tags

    A struct tag is a sequence of pairs `key:"value"` with spaces between them.
    A value is a string literal that denotes a name and options, separated by
    commas.  In a source file the whole tag stands in a literal of its own,
    raw or interpreted. -/

namespace StructScript

/-- One pair of a struct tag. -/
structure StructTag.Entry where
  key : String
  name : String
  options : List String := []
deriving DecidableEq, Repr

/-- The pairs of a struct tag, in order. -/
structure StructTag where
  entries : List StructTag.Entry := []
deriving DecidableEq, Repr

namespace StructTag

/-- Whether a pair has an option. -/
def Entry.hasOption (entry : Entry) (option : String) : Bool :=
  entry.options.contains option

/-- The first pair with a key. -/
def get? (tag : StructTag) (key : String) : Option Entry :=
  tag.entries.find? (·.key == key)

/-- Whether some pair has a key. -/
def has (tag : StructTag) (key : String) : Bool :=
  (tag.get? key).isSome

/-- The keys in order. -/
def keys (tag : StructTag) : List String :=
  tag.entries.map (·.key)

/-- What is wrong with a tag. -/
inductive Flaw where
  /-- No key where a pair should start. -/
  | key
  /-- A key without a colon and something after it. -/
  | pair
  /-- A colon without a complete literal after it. -/
  | value
  /-- A literal with something that is no escape. -/
  | escape (text : String)
  /-- A literal that denotes no text. -/
  | literal (text : String)
  /-- A tag that is no string literal. -/
  | notLiteral
deriving DecidableEq, Repr

/-- The wording of a flaw. -/
def Flaw.reason : Flaw → String
  | .key => "bad syntax for struct tag key"
  | .pair => "bad syntax for struct tag pair"
  | .value => "bad syntax for struct tag value"
  | .escape text => "invalid escape in quoted value " ++ text
  | .literal text => "invalid quoted value " ++ text
  | .notLiteral => "tag must be a string literal"

/-- The fault of a flaw in a tag. -/
def Flaw.fault (tag : String) (flaw : Flaw) : Fault :=
  { cause := .malformedTag tag flaw.reason }

/-- The characters of a key: above the space, and none of colon, quote and
    delete. -/
def isKeyChar (c : Char) : Bool :=
  decide (' ' < c) && c != ':' && c != '"' && c != Char.ofNat 0x7F

/-- What stands before the closing mark of a literal, as written, and what
    follows the mark; a backslash takes the next character with it. -/
def splitLiteral : List Char → Option (List Char × List Char)
  | [] => none
  | '"' :: rest => some ([], rest)
  | ['\\'] => none
  | '\\' :: c :: rest => (splitLiteral rest).map fun (body, tail) => ('\\' :: c :: body, tail)
  | c :: rest => (splitLiteral rest).map fun (body, tail) => (c :: body, tail)

/-- The text that a literal denotes, given what stands between its marks. -/
def unquote (body : List Char) : Except Flaw (List Char) :=
  let literal := '"' :: body ++ ['"']
  if Text.escapesValid body then
    match Text.literalText literal with
    | some text => .ok text
    | none => .error (.literal (String.ofList literal))
  else .error (.escape (String.ofList literal))

/-- The parts of a text between commas; there is always at least one. -/
def splitCommas : List Char → List Char × List (List Char)
  | [] => ([], [])
  | ',' :: rest =>
      let (first, others) := splitCommas rest
      ([], first :: others)
  | c :: rest =>
      let (first, others) := splitCommas rest
      (c :: first, others)

/-- The pair of a key and a value. -/
def Entry.ofValue (key value : List Char) : Entry :=
  let (name, options) := splitCommas value
  { key := String.ofList key, name := String.ofList name, options := options.map String.ofList }

theorem length_lt_of_splitLiteral {text body rest : List Char}
    (h : splitLiteral text = some (body, rest)) : rest.length < text.length := by
  fun_induction splitLiteral text generalizing body rest with
  | case1 => exact nomatch h
  | case2 =>
      cases h
      exact Nat.lt_succ_self _
  | case3 => exact nomatch h
  | case4 c tail ih =>
      obtain ⟨⟨b, t⟩, ht, hbt⟩ := Option.map_eq_some_iff.mp h
      cases hbt
      have := ih ht
      simp only [List.length_cons]
      omega
  | case5 c tail _ _ _ ih =>
      obtain ⟨⟨b, t⟩, ht, hbt⟩ := Option.map_eq_some_iff.mp h
      cases hbt
      exact Nat.lt_trans (ih ht) (Nat.lt_succ_self _)

/-- The pairs of a tag. -/
def readEntries (text : List Char) : Except Flaw (List Entry) :=
  let start := text.dropWhile (· == ' ')
  if start.isEmpty then .ok []
  else
    let key := start.takeWhile isKeyChar
    if key.isEmpty then .error .key
    else
      match hafter : start.dropWhile isKeyChar with
      | ':' :: '"' :: literal =>
          match hbody : splitLiteral literal with
          | some (body, rest) =>
              have : rest.length < text.length := by
                have h1 := length_lt_of_splitLiteral hbody
                have h2 := Text.length_dropWhile_le isKeyChar start
                have h3 : start.length ≤ text.length := Text.length_dropWhile_le _ text
                rw [hafter] at h2
                simp only [List.length_cons] at h2
                omega
              match unquote body with
              | .ok value => (readEntries rest).map (Entry.ofValue key value :: ·)
              | .error flaw => .error flaw
          | none => .error .value
      | ':' :: _ :: _ => .error .value
      | _ => .error .pair
termination_by text.length

/-- The pairs of the text of a tag. -/
def parse (tag : String) : Except Fault StructTag :=
  match readEntries tag.toList with
  | .ok entries => .ok { entries }
  | .error flaw => .error (flaw.fault tag)

/-- What stands between the first and the last character of a text that starts
    and ends with a mark; the two may not be the same character. -/
def between? (mark : Char) (text : List Char) : Option (List Char) :=
  match text with
  | first :: rest =>
      if first = mark && rest.getLast? = some mark then some rest.dropLast else none
  | [] => none

/-- The text of a tag literal: raw between backquotes, interpreted between
    double quotes. -/
def unquoteLiteral (literal : String) : Except Flaw String :=
  match between? '\x60' literal.toList, between? '"' literal.toList with
  | some body, _ => .ok (String.ofList body)
  | none, some body => (unquote body).map String.ofList
  | none, none => .error .notLiteral

/-- The pairs of a tag literal as written in a source file. -/
def parseLiteral (literal : String) : Except Fault StructTag :=
  match unquoteLiteral literal with
  | .ok tag => parse tag
  | .error flaw => .error (flaw.fault literal)

end StructTag

end StructScript
