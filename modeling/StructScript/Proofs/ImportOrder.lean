import StructScript.ImportSet

/-! # The order of imports

    An import set is built by adding names at the end of two lists unless they
    are there already.  Seen from outside it is the list of all uses of foreign
    names, each kept where it stands first:

    * `appendAllNew_eq_append_eraseDups` says what one addition of many items
      does, in terms of the library's removal of duplicates;
    * `appendAllNew_assoc` says that it does not matter how additions are
      grouped;
    * `ImportSet.union_ofUses` carries both over to import sets, so that a proof
      about imports never looks at how they were put together. -/

namespace StructScript

section

variable {α : Type} [DecidableEq α]

theorem appendNew_of_mem {items : List α} {item : α} (h : item ∈ items) :
    appendNew items item = items :=
  if_pos h

theorem appendNew_of_not_mem {items : List α} {item : α} (h : item ∉ items) :
    appendNew items item = items ++ [item] :=
  if_neg h

/-- Appending brings in one item at most. -/
theorem mem_appendNew {items : List α} {item other : α} :
    other ∈ appendNew items item ↔ other ∈ items ∨ other = item := by
  by_cases h : item ∈ items
  · rw [appendNew_of_mem h]
    constructor
    · exact Or.inl
    · rintro (hmem | rfl)
      · exact hmem
      · exact h
  · rw [appendNew_of_not_mem h, List.mem_append, List.mem_singleton]

/-- Appending items brings in those and no others. -/
theorem mem_appendAllNew {items others : List α} {item : α} :
    item ∈ appendAllNew items others ↔ item ∈ items ∨ item ∈ others := by
  induction others generalizing items with
  | nil => simp [appendAllNew]
  | cons first rest ih =>
      rw [appendAllNew, ih, mem_appendNew, List.mem_cons, or_assoc]

/-- Adding one list after another is adding them end to end. -/
theorem appendAllNew_append (items first second : List α) :
    appendAllNew items (first ++ second) = appendAllNew (appendAllNew items first) second := by
  induction first generalizing items with
  | nil => rfl
  | cons item rest ih => exact ih (appendNew items item)

/-- An addition keeps the list and puts behind it, each once, the items that
    are not in it. -/
theorem appendAllNew_eq_append_eraseDups (items others : List α) :
    appendAllNew items others = items ++ (others.removeAll items).eraseDups := by
  induction others generalizing items with
  | nil => simp [appendAllNew, List.removeAll]
  | cons item rest ih =>
      rw [appendAllNew, ih]
      by_cases h : item ∈ items
      · rw [appendNew_of_mem h]
        simp [List.removeAll, h]
      · rw [appendNew_of_not_mem h]
        have hhead : (item :: rest).removeAll items = item :: rest.removeAll items := by
          simp [List.removeAll, h]
        have htail : (rest.removeAll items).filter (fun other => !other == item)
            = rest.removeAll (items ++ [item]) := by
          simp only [List.removeAll, List.filter_filter]
          refine List.filter_congr fun other _ => ?_
          by_cases hsame : other = item <;> simp [hsame]
        rw [hhead, List.eraseDups_cons, htail, List.append_assoc]
        rfl

/-- Items appended to nothing are the items without repetitions. -/
theorem appendAllNew_nil (others : List α) : appendAllNew [] others = others.eraseDups := by
  have hall : others.removeAll [] = others := List.filter_eq_self.mpr (by simp)
  rw [appendAllNew_eq_append_eraseDups, hall, List.nil_append]

/-- Adding one item more to what is added adds it at the end. -/
theorem appendAllNew_appendNew (items others : List α) (item : α) :
    appendAllNew items (appendNew others item) = appendNew (appendAllNew items others) item := by
  by_cases h : item ∈ others
  · rw [appendNew_of_mem h, appendNew_of_mem (mem_appendAllNew.mpr (Or.inr h))]
  · rw [appendNew_of_not_mem h, appendAllNew_append]
    rfl

/-- Additions may be grouped in any way. -/
theorem appendAllNew_assoc (items first second : List α) :
    appendAllNew items (appendAllNew first second)
      = appendAllNew (appendAllNew items first) second := by
  induction second generalizing first with
  | nil => rfl
  | cons item rest ih =>
      show appendAllNew items (appendAllNew (appendNew first item) rest)
        = appendAllNew (appendNew (appendAllNew items first) item) rest
      rw [ih, appendAllNew_appendNew]

/-- Lists without duplicates that are put together give the list of all items
    without duplicates. -/
theorem appendAllNew_eraseDups (first second : List α) :
    appendAllNew first.eraseDups second.eraseDups = (first ++ second).eraseDups := by
  calc appendAllNew first.eraseDups second.eraseDups
      = appendAllNew (appendAllNew [] first) (appendAllNew [] second) := by
        rw [appendAllNew_nil, appendAllNew_nil]
    _ = appendAllNew (appendAllNew [] first) second := appendAllNew_assoc _ [] second
    _ = appendAllNew [] (first ++ second) := (appendAllNew_append [] first second).symm
    _ = (first ++ second).eraseDups := appendAllNew_nil _

end

/-- A use of a name that another module declares. -/
inductive Use where
  /-- A name of the own package. -/
  | own (name : String)
  /-- A name of another package. -/
  | foreign (reference : Reference)
deriving DecidableEq, Repr

namespace Use

/-- The name of the own package that is used. -/
def own? : Use → Option String
  | .own name => some name
  | .foreign _ => none

/-- The name of another package that is used. -/
def foreign? : Use → Option Reference
  | .own _ => none
  | .foreign reference => some reference

end Use

namespace ImportSet

/-- The imports for uses: every name once, in the order of first uses. -/
def ofUses (uses : List Use) : ImportSet :=
  { external := (uses.filterMap Use.foreign?).eraseDups
    internal := (uses.filterMap Use.own?).eraseDups }

theorem ofUses_nil : ofUses [] = {} := rfl

theorem ofUses_own (name : String) : ofUses [.own name] = empty.addInternal name := rfl

theorem ofUses_foreign (package name : String) :
    ofUses [.foreign ⟨package, name⟩] = empty.addExternal package name := rfl

/-- Uniting the imports for uses is collecting the uses. -/
theorem union_ofUses (first second : List Use) :
    (ofUses first).union (ofUses second) = ofUses (first ++ second) := by
  simp only [union, ofUses, appendAllNew_eraseDups, List.filterMap_append]

theorem empty_union_ofUses (uses : List Use) : empty.union (ofUses uses) = ofUses uses :=
  union_ofUses [] uses

end ImportSet

end StructScript
