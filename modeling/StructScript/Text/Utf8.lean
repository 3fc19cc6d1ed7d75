import StructScript.Text.Quoted

/-! # UTF-8

    Bytes are read as UTF-8 in the strict form, and what cannot be read is
    reported with its place: overlong forms, surrogates, stray and missing
    continuation bytes. -/

namespace StructScript.Text.Utf8

/-- Why bytes cannot be read. -/
inductive Reason where
  | start
  | continuation
  | truncated
deriving DecidableEq, Repr

/-- The wording of a reason. -/
def Reason.text : Reason → String
  | .start => "invalid start byte"
  | .continuation => "invalid continuation byte"
  | .truncated => "unexpected end of data"

/-- Bytes that cannot be read: where they start, the bytes, and why. -/
structure Fault where
  position : Nat
  bytes : List UInt8
  reason : Reason
deriving DecidableEq, Repr

/-- The wording of a fault. -/
def Fault.message (fault : Fault) : String :=
  let place :=
    match fault.bytes with
    | [byte] =>
        "byte 0x" ++ String.ofList (hexPadded 2 byte.toNat) ++ " in position "
          ++ toString fault.position
    | bytes =>
        "bytes in position " ++ toString fault.position ++ "-"
          ++ toString (fault.position + bytes.length - 1)
  "'utf-8' codec can't decode " ++ place ++ ": " ++ fault.reason.text

/-- The continuation bytes. -/
def isContinuation (byte : UInt8) : Bool :=
  0x80 ≤ byte && byte < 0xC0

/-- Whether a byte can be the second of a sequence: the first byte decides
    which values would be overlong, a surrogate, or beyond the last code point. -/
def isSecond (first second : UInt8) : Bool :=
  isContinuation second
    && !(first == 0xE0 && second < 0xA0) && !(first == 0xED && 0xA0 ≤ second)
    && !(first == 0xF0 && second < 0x90) && !(first == 0xF4 && 0x90 ≤ second)

/-- The number of bytes in the sequence of a first byte; none for a byte that
    starts no sequence. -/
def sequenceLength (first : UInt8) : Option Nat :=
  if first < 0x80 then some 1
  else if first < 0xC2 then none
  else if first < 0xE0 then some 2
  else if first < 0xF0 then some 3
  else if first < 0xF5 then some 4
  else none

/-- The bits that a first byte contributes. -/
def leadBits (first : UInt8) : Nat :=
  if first < 0xE0 then first.toNat % 0x20
  else if first < 0xF0 then first.toNat % 0x10
  else first.toNat % 0x08

/-- The good continuation bytes of a sequence of which so many are missing. -/
def takeContinuations (first : UInt8) (isFirst : Bool) : Nat → List UInt8 → List UInt8
  | 0, _ => []
  | _ + 1, [] => []
  | missing + 1, byte :: rest =>
      if if isFirst then isSecond first byte else isContinuation byte then
        byte :: takeContinuations first false missing rest
      else []

/-- What one step of reading finds. -/
inductive Step where
  | char (c : Char) (length : Nat)
  | fault (length : Nat) (reason : Reason)

/-- Reads one character. -/
def step (first : UInt8) (rest : List UInt8) : Step :=
  match sequenceLength first with
  | none => .fault 1 .start
  | some 1 => .char (Char.ofNat first.toNat) 1
  | some length =>
      let good := takeContinuations first true (length - 1) rest
      if good.length = length - 1 then
        let code := good.foldl (fun value byte => value * 0x40 + byte.toNat % 0x40) (leadBits first)
        .char (Char.ofNat code) length
      else if good.length = rest.length then .fault (1 + good.length) .truncated
      else .fault (1 + good.length) .continuation

/-- Reads bytes that start at a position. -/
def decodeFrom (position : Nat) (bytes : List UInt8) : Except Fault (List Char) :=
  match bytes with
  | [] => .ok []
  | first :: rest =>
      match step first rest with
      | .char c length =>
          (decodeFrom (position + length) (rest.drop (length - 1))).map (c :: ·)
      | .fault length reason =>
          .error { position, bytes := bytes.take length, reason }
termination_by bytes.length
decreasing_by
  simp only [List.length_drop, List.length_cons]
  omega

/-- The text of bytes. -/
def decode (bytes : List UInt8) : Except Fault String :=
  (decodeFrom 0 bytes).map String.ofList

/-- The text of bytes without those that cannot be read. -/
def decodeLossy (bytes : List UInt8) : List Char :=
  match bytes with
  | [] => []
  | first :: rest =>
      match step first rest with
      | .char c length => c :: decodeLossy (rest.drop (length - 1))
      | .fault length _ => decodeLossy (rest.drop (length - 1))
termination_by bytes.length
decreasing_by
  all_goals
    simp only [List.length_drop, List.length_cons]
    omega

/-- The bytes of a text. -/
def encode (text : String) : List UInt8 :=
  text.toUTF8.toList

/-- A text with every line end made a newline. -/
def unifyLineEnds : List Char → List Char
  | [] => []
  | '\r' :: '\n' :: rest => '\n' :: unifyLineEnds rest
  | '\r' :: rest => '\n' :: unifyLineEnds rest
  | c :: rest => c :: unifyLineEnds rest

end StructScript.Text.Utf8
