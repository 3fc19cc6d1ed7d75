/-! # Spans of code points

    A class of characters is given by the ascending list of its spans, each
    span by its first and last code point. -/

namespace StructScript.Text

/-- Membership of a code point in an ascending list of disjoint spans.  The
    search ends at the first span that starts above the code point. -/
def inSpans (spans : List (Nat × Nat)) (code : Nat) : Bool :=
  match spans with
  | [] => false
  | (first, last) :: rest =>
      if code < first then false
      else if code ≤ last then true
      else inSpans rest code

/-- A progression of code points: from `first` to `last` in steps of
    `stride`. -/
structure Progression where
  first : Nat
  last : Nat
  stride : Nat
deriving Repr

/-- Membership of a code point in a progression. -/
def Progression.holds (p : Progression) (code : Nat) : Bool :=
  p.first ≤ code && code ≤ p.last && (code - p.first) % p.stride == 0

end StructScript.Text
