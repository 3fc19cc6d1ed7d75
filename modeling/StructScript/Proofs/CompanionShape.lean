import StructScript.Companion
import StructScript.Proofs.Memberwise

/-! # What a companion is

    Companions are made in several steps, each of which may fail with a fault of
    its own.  This file looks at them from the other end: given that a companion
    was made, what it consists of.

    * `Field.toOption_updates` and its like say when a step succeeds and what it
      gives, without the wording of faults, and `Field.updates_cases` what a field
      gives if it does;
    * `mem_collectUpdates` finds, for a member of a companion, the field and the
      name that it comes from;
    * `SourceUnit.mem_synthesized` finds the declaration of a companion. -/

namespace StructScript

/-! ## The steps without their faults -/

/-- The types that a member of a companion can have: a name, a name of another
    package, bytes, and a slice of names. -/
def TypeExpr.isUpdatable : TypeExpr → Bool
  | .named _ _ | .selector _ _ | .bytes | .slice (.named _ _) => true
  | _ => false

/-- The type of an update passes if and only if it is one that can be updated. -/
theorem toOption_checkUpdateType (type : TypeExpr) :
    (checkUpdateType type).toOption = if type.isUpdatable then some () else none := by
  cases type with
  | slice element => cases element <;> rfl
  | _ => rfl

/-- The updates of a field without faults: none, or one for each name if the
    field may be updated. -/
theorem Field.toOption_updates (names : List String) (type : TypeExpr) (tag : Option String) :
    (Field.updates ⟨names, type, tag⟩).toOption
      = match tag with
        | none => some []
        | some literal =>
            (StructTag.parseLiteral literal).toOption.bind fun found =>
              if !found.has updateKey then some []
              else if names.isEmpty || !type.isUpdatable then none
              else
                some
                  (names.map (updateField type (((found.get? "json").map (·.name)).getD ""))) := by
  have hcheck := toOption_checkUpdateType type
  unfold Field.updates
  cases tag with
  | none => rfl
  | some literal =>
      simp only
      cases StructTag.parseLiteral literal with
      | error fault => rfl
      | ok found =>
          show Except.toOption (if _ then _ else _) = if _ then _ else _
          split
          · rfl
          · show Except.toOption (if names.isEmpty then _ else _) = _
            cases names.isEmpty with
            | true => rfl
            | false =>
                -- the check fails exactly on the types that cannot be updated
                cases hupdatable : type.isUpdatable with
                | false =>
                    rw [hupdatable] at hcheck
                    cases hchecked : checkUpdateType type with
                    | error fault => rfl
                    | ok done =>
                        rw [hchecked] at hcheck
                        cases hcheck
                | true =>
                    rw [hupdatable] at hcheck
                    rw [toOption_eq_some.mp hcheck]
                    rfl

/-- Updates are collected if each field gives its own. -/
theorem toOption_collectUpdates_cons (field : Field) (rest : List Field) :
    (collectUpdates (field :: rest)).toOption
      = field.updates.toOption.bind fun updates =>
          (collectUpdates rest).toOption.map (updates ++ ·) := by
  rw [collectUpdates]
  cases field.updates with
  | error fault => rfl
  | ok updates =>
      cases collectUpdates rest with
      | error fault => rfl
      | ok others => rfl

/-- The companion of a struct without faults: its updates, if there are any. -/
theorem toOption_companion?_struct (name : String) (fields : List Field)
    (typeParams : List String) (isAlias : Bool) :
    (Declaration.companion? ⟨name, .struct fields, typeParams, isAlias⟩).toOption
      = (collectUpdates fields).toOption.map fun updates =>
          if updates.isEmpty then none
          else some { name := companionName name, type := .struct updates } := by
  unfold Declaration.companion?
  simp only
  cases collectUpdates fields with
  | error fault => rfl
  | ok updates =>
      cases updates with
      | nil => rfl
      | cons first rest => rfl

/-! ## The members of a companion -/

/-- The name in JSON that a field's tag gives, which may be empty, if the field
    asks to be updated. -/
def Field.updateName? (field : Field) : Option String :=
  field.tag.bind fun literal =>
    (StructTag.parseLiteral literal).toOption.bind fun tag =>
      if tag.has updateKey then some (((tag.get? "json").map (·.name)).getD "") else none

/-- The names in JSON of all fields of a unit's structs that ask to be updated. -/
def SourceUnit.updateNames (unit : SourceUnit) : List String :=
  unit.declarations.flatMap fun declaration =>
    match declaration.type with
    | .struct fields => fields.filterMap Field.updateName?
    | _ => []

/-- Whether a field of a companion comes from a field of a struct. -/
def Field.IsUpdateOf (update field : Field) : Prop :=
  ∃ jsonName name, field.updateName? = some jsonName ∧ field.type.isUpdatable = true
    ∧ name ∈ field.names ∧ update = updateField field.type jsonName name

/-- What the updates of a field are: none, or one for each name if the field asks to be
    updated. -/
theorem Field.updates_cases {field : Field} {updates : List Field}
    (h : field.updates = .ok updates) :
    (field.updateName? = none ∧ updates = [])
      ∨ ∃ jsonName, field.updateName? = some jsonName ∧ field.type.isUpdatable = true
        ∧ updates = field.names.map (updateField field.type jsonName) := by
  obtain ⟨names, type, tag⟩ := field
  have hoption := toOption_eq_some.mpr h
  rw [Field.toOption_updates] at hoption
  cases tag with
  | none => exact Or.inl ⟨rfl, (Option.some.inj hoption).symm⟩
  | some literal =>
      obtain ⟨found, hliteral, hfound⟩ := Option.bind_eq_some_iff.mp hoption
      have hname : Field.updateName? ⟨names, type, some literal⟩
          = if found.has updateKey then some (((found.get? "json").map (·.name)).getD "")
            else none := by
        show (StructTag.parseLiteral literal).toOption.bind _ = _
        rw [hliteral, Option.bind_some]
      rw [hname]
      cases hasks : found.has updateKey with
      | false =>
          rw [hasks] at hfound
          exact Or.inl ⟨rfl, (Option.some.inj hfound).symm⟩
      | true =>
          rw [hasks] at hfound
          simp only [Bool.not_true, Bool.false_eq_true, if_false] at hfound
          split at hfound
          · cases hfound
          · next hfits =>
              rw [Bool.not_eq_true, Bool.or_eq_false_iff, Bool.not_eq_false'] at hfits
              exact Or.inr ⟨_, rfl, hfits.2, (Option.some.inj hfound).symm⟩

/-- What a field gives is an update of it. -/
theorem isUpdateOf_of_mem_updates {field update : Field} {updates : List Field}
    (h : field.updates = .ok updates) (hupdate : update ∈ updates) : update.IsUpdateOf field := by
  rcases Field.updates_cases h with ⟨-, rfl⟩ | ⟨jsonName, hjson, hupdatable, rfl⟩
  · cases hupdate
  · obtain ⟨name, hname, rfl⟩ := List.mem_map.mp hupdate
    exact ⟨jsonName, name, hjson, hupdatable, hname, rfl⟩

/-- Every member of a companion comes from a field. -/
theorem mem_collectUpdates {fields updates : List Field} {update : Field}
    (h : collectUpdates fields = .ok updates) (hupdate : update ∈ updates) :
    ∃ field ∈ fields, update.IsUpdateOf field := by
  induction fields generalizing updates with
  | nil =>
      cases h
      cases hupdate
  | cons field rest ih =>
      rw [collectUpdates] at h
      split at h
      · next here hhere =>
          obtain ⟨others, hothers, rfl⟩ := map_eq_ok.mp h
          rcases List.mem_append.mp hupdate with hin | hin
          · exact ⟨field, List.mem_cons_self,
              isUpdateOf_of_mem_updates (labelled_eq_ok.mp hhere) hin⟩
          · obtain ⟨origin, horigin, hof⟩ := ih hothers hin
            exact ⟨origin, List.mem_cons_of_mem field horigin, hof⟩
      · cases h

/-- What a companion is: a struct of the updates of the fields it comes from. -/
theorem companion?_eq_some {declaration companion : Declaration}
    (h : declaration.companion? = .ok (some companion)) :
    ∃ fields updates, declaration.type = .struct fields ∧ collectUpdates fields = .ok updates
      ∧ updates ≠ []
      ∧ companion = { name := companionName declaration.name, type := .struct updates } := by
  unfold Declaration.companion? at h
  split at h
  · next fields htype =>
      split at h
      · cases h
      · next updates hne hupdates =>
          cases h
          exact ⟨fields, updates, htype, labelled_eq_ok.mp hupdates, hne, rfl⟩
      · cases h
  · cases h

/-! ## The companions of a unit -/

/-- A declaration gets a companion if none has its name already and its fields ask for one. -/
theorem Declaration.outcome_companion? (existing : List String) (declaration : Declaration)
    (companion : Declaration) :
    (declaration.outcome existing).companion? = some companion
      ↔ companionName declaration.name ∉ existing
        ∧ declaration.companion? = .ok (some companion) := by
  unfold Declaration.outcome
  by_cases hexists : companionName declaration.name ∈ existing
  · rw [if_pos (List.contains_iff_mem.mpr hexists)]
    constructor
    · intro h
      cases h
    · rintro ⟨hfresh, -⟩
      exact absurd hexists hfresh
  · rw [if_neg (fun h => hexists (List.contains_iff_mem.mp h))]
    split
    · next fault hfault =>
        rw [hfault]
        constructor
        · intro h
          cases h
        · rintro ⟨-, h⟩
          cases h
    · next hnone =>
        rw [hnone]
        constructor
        · intro h
          cases h
        · rintro ⟨-, h⟩
          cases h
    · next found hfound =>
        rw [hfound]
        constructor
        · intro h
          exact ⟨hexists, congrArg (Except.ok ∘ some) (Option.some.inj h)⟩
        · rintro ⟨-, h⟩
          exact Except.ok.inj h

/-- The companions that an expansion makes: for the declarations that ask for
    one and do not have it. -/
theorem SourceUnit.mem_synthesized {unit : SourceUnit} {companion : Declaration} :
    companion ∈ unit.expand.synthesized
      ↔ ∃ declaration ∈ unit.declarations, companionName declaration.name ∉ unit.names
        ∧ declaration.companion? = .ok (some companion) := by
  show companion ∈ unit.outcomes.filterMap (·.2.companion?) ↔ _
  simp only [SourceUnit.outcomes, List.mem_filterMap, List.mem_map]
  constructor
  · rintro ⟨_, ⟨declaration, hdeclaration, rfl⟩, h⟩
    exact ⟨declaration, hdeclaration, (declaration.outcome_companion? _ _).mp h⟩
  · rintro ⟨declaration, hdeclaration, h⟩
    exact ⟨_, ⟨declaration, hdeclaration, rfl⟩, (declaration.outcome_companion? _ _).mpr h⟩

end StructScript
