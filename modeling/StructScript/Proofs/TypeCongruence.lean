import StructScript.Proofs.Suppression

/-! # Types that differ in the fields of their structs

    Two types may be the same but for the fields of their inline structs.  What the fields
    may differ in is left open here:

    * `TypeExpr.Congruent` relates types over a relation of lists of fields, so that one set
      of lemmas serves every such relation;
    * `outcomes` is all that a struct takes from its fields: the fault in a tag, or what
      becomes of each member (`expressStruct_congr`);
    * `TypeExpr.Congruent.express_eq` says that related types are the same type in the script
      if related lists have the same outcomes. -/

namespace StructScript

/-! ## One relation over another -/

mutual

/-- Whether two types are the same but for the fields of their inline structs, which are
    related, if that is allowed. -/
inductive TypeExpr.Congruent (inside : Bool) (R : List Field → List Field → Prop) :
    TypeExpr → TypeExpr → Prop where
  | same (type : TypeExpr) : TypeExpr.Congruent inside R type type
  | pointer {inner inner' : TypeExpr} :
      TypeExpr.Congruent inside R inner inner' →
      TypeExpr.Congruent inside R (.pointer inner) (.pointer inner')
  | slice {element element' : TypeExpr} :
      TypeExpr.Congruent inside R element element' →
      TypeExpr.Congruent inside R (.slice element) (.slice element')
  | map {key key' value value' : TypeExpr} :
      TypeExpr.Congruent inside R key key' → TypeExpr.Congruent inside R value value' →
      TypeExpr.Congruent inside R (.map key value) (.map key' value')
  | generic {base base' : TypeExpr} {arguments arguments' : List TypeExpr} :
      TypeExpr.Congruent inside R base base' → TypesCongruent inside R arguments arguments' →
      TypeExpr.Congruent inside R (.generic base arguments) (.generic base' arguments')
  | struct {fields fields' : List Field} :
      inside = true → R fields fields' →
      TypeExpr.Congruent inside R (.struct fields) (.struct fields')

/-- Whether types are pairwise the same but for the fields of their inline structs. -/
inductive TypesCongruent (inside : Bool) (R : List Field → List Field → Prop) :
    List TypeExpr → List TypeExpr → Prop where
  | nil : TypesCongruent inside R [] []
  | cons {type type' : TypeExpr} {rest rest' : List TypeExpr} :
      TypeExpr.Congruent inside R type type' → TypesCongruent inside R rest rest' →
      TypesCongruent inside R (type :: rest) (type' :: rest')

end

section

variable {inside : Bool} {R : List Field → List Field → Prop} {type type' : TypeExpr}

theorem TypeExpr.Congruent.isPointer_eq (h : type.Congruent inside R type') :
    Member.isPointer type = Member.isPointer type' := by
  cases h <;> rfl

theorem TypeExpr.Congruent.isScalar_eq (h : type.Congruent inside R type') :
    Member.isScalar type = Member.isScalar type' := by
  cases h <;> rfl

theorem TypeExpr.Congruent.isScalar_target_eq (h : type.Congruent inside R type') :
    Member.isScalar (Member.target type) = Member.isScalar (Member.target type') := by
  cases h with
  | pointer hinner => exact hinner.isScalar_eq
  | _ => rfl

end

mutual

/-- Where inline structs are left alone, types stay as they are. -/
theorem TypeExpr.Congruent.eq {R : List Field → List Field → Prop} :
    ∀ {type type' : TypeExpr}, type.Congruent false R type' → type = type'
  | _, _, .same type => rfl
  | _, _, .pointer hinner => congrArg TypeExpr.pointer hinner.eq
  | _, _, .slice helement => congrArg TypeExpr.slice helement.eq
  | _, _, .map hkey hvalue => by rw [hkey.eq, hvalue.eq]
  | _, _, .generic hbase harguments => by rw [hbase.eq, harguments.eq]

/-- Types that are congruent without their structs are the same. -/
theorem TypesCongruent.eq {R : List Field → List Field → Prop} :
    ∀ {types types' : List TypeExpr}, TypesCongruent false R types types' → types = types'
  | _, _, .nil => rfl
  | _, _, .cons htype hrest => by rw [htype.eq, hrest.eq]

end

/-! ## What becomes of the members -/

/-- The fault in a tag, or what becomes of each member in order. -/
def outcomes (options : Options) (found : Except Fault (List Member)) :
    Except Fault (List (Except Fault ExpressedBody)) :=
  found.map (List.map (Member.express options))

/-- The outcomes of fields are put together field by field. -/
theorem outcomes_collectMembers_cons (options : Options) (field : Field) (rest : List Field) :
    outcomes options (collectMembers (field :: rest))
      = (outcomes options field.members).bind fun here =>
          (outcomes options (collectMembers rest)).map (here ++ ·) := by
  rw [collectMembers]
  cases field.members with
  | error fault => rfl
  | ok members =>
      cases collectMembers rest with
      | error fault => rfl
      | ok others => exact congrArg Except.ok List.map_append

/-- A field that gives no members changes nothing. -/
theorem outcomes_of_no_members {options : Options} {field : Field} (h : field.members = .ok [])
    (rest : List Field) :
    outcomes options (collectMembers (field :: rest)) = outcomes options (collectMembers rest) := by
  rw [outcomes_collectMembers_cons, h]
  cases collectMembers rest with
  | error fault => rfl
  | ok others => rfl

/-- Members with the same outcomes are expressed the same. -/
theorem expressEach_congr {options : Options} {members members' : List Member}
    (h : members.map (Member.express options) = members'.map (Member.express options)) :
    expressEach options members = expressEach options members' := by
  induction members generalizing members' with
  | nil =>
      rw [List.map_nil] at h
      rw [List.map_eq_nil_iff.mp h.symm]
  | cons member rest ih =>
      obtain ⟨member', rest', rfl, hmember, hrest⟩ := List.map_eq_cons_iff.mp h.symm
      rw [expressEach, expressEach, hmember, ih hrest.symm]

/-- A struct takes no more from its fields than what becomes of their members. -/
theorem expressStruct_congr {options : Options} {fields fields' : List Field}
    (h : outcomes options (collectMembers fields) = outcomes options (collectMembers fields')) :
    expressStruct options fields = expressStruct options fields' := by
  rw [expressStruct_eq, expressStruct_eq]
  cases hfields : collectMembers fields with
  | error fault =>
      cases hfields' : collectMembers fields' with
      | error fault' =>
          rw [hfields, hfields'] at h
          rw [Except.error.inj h]
      | ok members' =>
          rw [hfields, hfields'] at h
          cases h
  | ok members =>
      cases hfields' : collectMembers fields' with
      | error fault' =>
          rw [hfields, hfields'] at h
          cases h
      | ok members' =>
          rw [hfields, hfields'] at h
          exact expressEach_congr (Except.ok.inj h)

section

variable {options : Options} {type type' : TypeExpr}

/-- Members of one name are expressed the same if their types are and look the same. -/
theorem express_ofName_congr (hpointer : Member.isPointer type = Member.isPointer type')
    (hscalar : Member.isScalar (Member.target type) = Member.isScalar (Member.target type'))
    (hexpress : type.express options = type'.express options) (json : Option StructTag.Entry)
    (name : String) :
    (Member.ofName json type name).express options
      = (Member.ofName json type' name).express options := by
  rw [← expressMember_ofName, ← expressMember_ofName, hexpress]
  unfold expressMember Member.ofName
  simp only [hpointer, hscalar]

/-- Of its type, a field shows no more to its members than whether it is a pointer, whether
    it may be written as a string, and what is made of it. -/
theorem outcomes_members_congr (hpointer : Member.isPointer type = Member.isPointer type')
    (hscalar : Member.isScalar (Member.target type) = Member.isScalar (Member.target type'))
    (hexpress : type.express options = type'.express options) {names : List String}
    {tag : Option String} :
    outcomes options (Field.members ⟨names, type, tag⟩)
      = outcomes options (Field.members ⟨names, type', tag⟩) := by
  by_cases hexported : Field.exported ⟨names, type, tag⟩ = []
  · rw [Field.members_of_unexported hexported,
      Field.members_of_unexported (show Field.exported ⟨names, type', tag⟩ = [] from hexported)]
  · rw [Field.members_of_exported hexported,
      Field.members_of_exported (show Field.exported ⟨names, type', tag⟩ ≠ [] from hexported)]
    dsimp only
    cases jsonEntry tag with
    | error fault => rfl
    | ok json =>
        show outcomes options (if Member.isSuppressed json then _ else _)
          = outcomes options (if Member.isSuppressed json then _ else _)
        cases Member.isSuppressed json with
        | true => rfl
        | false =>
            refine congrArg Except.ok ?_
            rw [List.map_map, List.map_map]
            exact List.map_congr_left fun name _ =>
              express_ofName_congr hpointer hscalar hexpress json name

end

/-! ## Types made of related fields -/

mutual

/-- Types are the same type in the script, and need the same imports, if their fields have
    the same outcomes. -/
theorem TypeExpr.Congruent.express_eq {inside : Bool} {R : List Field → List Field → Prop}
    {options : Options} (hfields : ∀ {fields fields' : List Field}, R fields fields' →
      outcomes options (collectMembers fields) = outcomes options (collectMembers fields')) :
    ∀ {type type' : TypeExpr}, type.Congruent inside R type' →
      type.express options = type'.express options
  | _, _, .same type => rfl
  | _, _, .pointer hinner => by
      rw [TypeExpr.express, TypeExpr.express, hinner.express_eq hfields]
  | _, _, .slice helement => by
      rw [TypeExpr.express, TypeExpr.express, helement.express_eq hfields]
  | _, _, .map hkey hvalue => by
      rw [TypeExpr.express, TypeExpr.express, hkey.express_eq hfields, hvalue.express_eq hfields]
  | _, _, .generic hbase harguments => by
      rw [TypeExpr.express, TypeExpr.express, hbase.express_eq hfields]
      simp only [harguments.expressArguments_eq hfields]
  | _, _, .struct _ hrelated => by
      rw [express_struct, express_struct, expressStruct_congr (hfields hrelated)]

theorem TypesCongruent.expressArguments_eq {inside : Bool} {R : List Field → List Field → Prop}
    {options : Options} (hfields : ∀ {fields fields' : List Field}, R fields fields' →
      outcomes options (collectMembers fields) = outcomes options (collectMembers fields')) :
    ∀ {types types' : List TypeExpr}, TypesCongruent inside R types types' →
      ∀ imports : ImportSet,
        expressArguments options imports types = expressArguments options imports types'
  | _, _, .nil, imports => rfl
  | _, _, .cons htype hrest, imports => by
      rw [expressArguments, expressArguments, htype.express_eq hfields]
      simp only [hrest.expressArguments_eq hfields]

end

/-- So do the members of a field whose type is such a type. -/
theorem TypeExpr.Congruent.outcomes_eq {inside : Bool} {options : Options} {type type' : TypeExpr}
    (h : type.Congruent inside (fun fields fields' =>
      outcomes options (collectMembers fields) = outcomes options (collectMembers fields')) type')
    (names : List String) (tag : Option String) :
    outcomes options (Field.members ⟨names, type, tag⟩)
      = outcomes options (Field.members ⟨names, type', tag⟩) :=
  outcomes_members_congr h.isPointer_eq h.isScalar_target_eq (h.express_eq id)

mutual

/-- Types mention the same names if their fields do. -/
theorem TypeExpr.Congruent.mentions_iff {inside : Bool} {R : List Field → List Field → Prop}
    {mention : String × Bool} (hfields : ∀ {fields fields' : List Field}, R fields fields' →
      (mention ∈ mentionsOfFields fields ↔ mention ∈ mentionsOfFields fields')) :
    ∀ {type type' : TypeExpr}, type.Congruent inside R type' →
      (mention ∈ type.mentions ↔ mention ∈ type'.mentions)
  | _, _, .same type => Iff.rfl
  | _, _, .pointer hinner => by
      rw [TypeExpr.mentions, TypeExpr.mentions]
      exact hinner.mentions_iff hfields
  | _, _, .slice helement => by
      rw [TypeExpr.mentions, TypeExpr.mentions]
      exact helement.mentions_iff hfields
  | _, _, .map hkey hvalue => by
      rw [TypeExpr.mentions, TypeExpr.mentions, List.mem_append, List.mem_append]
      exact or_congr (hkey.mentions_iff hfields) (hvalue.mentions_iff hfields)
  | _, _, .generic hbase harguments => by
      rw [TypeExpr.mentions, TypeExpr.mentions, List.mem_append, List.mem_append]
      exact or_congr (hbase.mentions_iff hfields) (harguments.mentions_iff hfields)
  | _, _, .struct _ hrelated => by
      rw [TypeExpr.mentions, TypeExpr.mentions]
      exact hfields hrelated

theorem TypesCongruent.mentions_iff {inside : Bool} {R : List Field → List Field → Prop}
    {mention : String × Bool} (hfields : ∀ {fields fields' : List Field}, R fields fields' →
      (mention ∈ mentionsOfFields fields ↔ mention ∈ mentionsOfFields fields')) :
    ∀ {types types' : List TypeExpr}, TypesCongruent inside R types types' →
      (mention ∈ mentionsOfTypes types ↔ mention ∈ mentionsOfTypes types')
  | _, _, .nil => Iff.rfl
  | _, _, .cons htype hrest => by
      rw [mentionsOfTypes, mentionsOfTypes, List.mem_append, List.mem_append]
      exact or_congr (htype.mentions_iff hfields) (hrest.mentions_iff hfields)

end

end StructScript
