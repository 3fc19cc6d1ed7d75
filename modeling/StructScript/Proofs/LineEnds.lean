import StructScript.Script.Name

/-! # Line ends in a text

    A text stays on its line if none of its characters ends one.  What is written together
    from pieces does so if and only if all pieces do, so the line ends of a text come from
    the names in it.  Where only some line ends matter, `Script.Unbroken` says that a text
    has none of these. -/

namespace StructScript

namespace Script

/-- Whether a character ends a line. -/
def endsLine (c : Char) : Bool :=
  c = '\n' || c = '\r'

/-- Whether breaks are line ends, if not all of them. -/
def AreLineEnds (breaks : Char → Bool) : Prop :=
  ∀ c, breaks c = true → endsLine c = true

/-- Whether a text has no character that breaks it. -/
def Unbroken (breaks : Char → Bool) (text : String) : Prop :=
  ∀ c ∈ text.toList, breaks c = false

instance (breaks : Char → Bool) (text : String) : Decidable (Unbroken breaks text) :=
  List.decidableBAll (fun c => breaks c = false) text.toList

/-- Whether a text stays on its line. -/
abbrev OneLine (text : String) : Prop :=
  Unbroken endsLine text

section

variable {breaks : Char → Bool}

@[simp] theorem unbroken_append {text other : String} :
    Unbroken breaks (text ++ other) ↔ Unbroken breaks text ∧ Unbroken breaks other := by
  unfold Unbroken
  rw [String.toList_append, List.forall_mem_append]

/-- Pieces between separators are on one line if each is. -/
theorem unbroken_intercalate {separator : String} (h : Unbroken breaks separator)
    (pieces : List String) :
    Unbroken breaks (String.intercalate separator pieces)
      ↔ ∀ piece ∈ pieces, Unbroken breaks piece := by
  induction pieces with
  | nil => exact iff_of_true (List.forall_mem_nil _) (List.forall_mem_nil _)
  | cons piece rest ih =>
      cases rest with
      | nil => rw [String.intercalate_singleton, List.forall_mem_singleton]
      | cons next others =>
          rw [String.intercalate_cons_cons, unbroken_append, unbroken_append, ih,
            and_iff_left h]
          exact List.forall_mem_cons.symm

variable (hbreaks : AreLineEnds breaks)

include hbreaks

/-- A text on one line has none of the line ends. -/
theorem OneLine.unbroken {text : String} (h : OneLine text) : Unbroken breaks text := by
  intro c hc
  refine Bool.eq_false_iff.mpr fun hbreak => ?_
  cases (hbreaks c hbreak).symm.trans (h c hc)

/-- Escapes bring no line end into a property name, and take none out of it. -/
theorem unbroken_propertyName_iff (name : String) :
    Unbroken breaks (propertyName name) ↔ Unbroken breaks name := by
  have hmark : ∀ c, endsLine c = false → breaks c = false := fun c hc =>
    Bool.eq_false_iff.mpr fun hbreak => by cases (hbreaks c hbreak).symm.trans hc
  have hchar : ∀ c : Char, (∀ written ∈ quotedNameChar c, breaks written = false)
      ↔ breaks c = false := by
    intro c
    unfold quotedNameChar
    split
    · rw [List.forall_mem_cons, List.forall_mem_singleton]
      exact and_iff_right (hmark '\\' (by decide))
    · exact List.forall_mem_singleton
  unfold propertyName
  split
  · exact Iff.rfl
  · unfold Unbroken
    rw [String.toList_ofList, List.cons_append, List.forall_mem_cons, List.forall_mem_append,
      List.forall_mem_singleton, List.forall_mem_flatMap]
    simp only [hchar]
    exact ⟨fun h => h.2.1, fun h => ⟨hmark _ (by decide), h, hmark _ (by decide)⟩⟩

end

end Script

end StructScript
