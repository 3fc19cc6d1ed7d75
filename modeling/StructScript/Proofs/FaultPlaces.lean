import StructScript.Proofs.FaultIsolation

/-! # Where a struct fails

    A struct may be wrong at many places at once, at any depth, and the fault that is
    reported is that of one of them.  This file says which places there are without looking
    at how a struct is written out, and then which one is reported.

    * `TypeExpr.spots` are the parts of a type where something can be wrong: the types
      outside the supported set and the inline structs, from left to right;
    * `TypeExpr.Fails` relates a type to the places where it is wrong, each with the fields
      that lead there.  A place is a list of numbers, and places are ordered like words: in
      a struct the tags of all fields come before their types, and both go in the order of
      the fields;
    * `TypeExpr.fault?_express` and `fault?_expressStruct` say that faults are found from
      left to right, and in two passes over a struct;
    * `reports_struct` puts the two together, by recursion on the fields. -/

namespace StructScript

open SourceUnit (fault?)

/-! ## Places -/

mutual

/-- The parts of a type where something can be wrong, from left to right.  What is inside
    an inline struct is not looked at. -/
def TypeExpr.spots : TypeExpr → List TypeExpr
  | .pointer inner => inner.spots
  | .slice element => element.spots
  | .map key value => key.spots ++ value.spots
  | .generic base arguments => base.spots ++ spotsOfTypes arguments
  | .struct fields => [.struct fields]
  | .other text form => [.other text form]
  | .named _ _ | .bytes | .selector _ _ | .any => []

/-- The parts of several types. -/
def spotsOfTypes : List TypeExpr → List TypeExpr
  | [] => []
  | type :: rest => type.spots ++ spotsOfTypes rest

end

/-- The label of a field: its first exported name. -/
def Field.label (field : Field) : String :=
  fieldLabel (field.exported.headD "")

/-- Whether the type of a field is written out: some name of it is exported, and its JSON
    entry neither suppresses it nor makes a string of it. -/
def Field.IsKept (field : Field) : Prop :=
  field.exported ≠ [] ∧ ∃ json, jsonEntry field.tag = .ok json
    ∧ Member.isSuppressed json = false
    ∧ (json.any (·.hasOption "string") && Member.isScalar (Member.target field.type)) = false

/-- What is wrong at a place. -/
inductive Defect where
  /-- A tag literal that cannot be read. -/
  | tag (literal : String)
  /-- A type outside the supported set. -/
  | type (text form : String)

/-- The cause that a defect is reported with.  The text in the cause of a tag is the tag
    literal, or the text between its marks if it has them. -/
def Defect.Explains : Defect → Fault.Cause → Prop
  | .tag literal, cause =>
      StructTag.parseLiteral literal = .error { cause }
        ∧ ∃ tag reason, cause = .malformedTag tag reason
          ∧ (tag = literal ∨ StructTag.unquoteLiteral literal = .ok tag)
  | .type text form, cause => cause = .unsupported text form "cannot translate type"

/-- The places where a type is wrong, with the fields that lead there, outermost first.  In
    a struct, a place starts with the pass and the number of the field: 0 for its tag, and 1
    for its type, followed by the number of a part of the type and a place in that part. -/
inductive TypeExpr.Fails : TypeExpr → List Nat → List Field → Defect → Prop where
  | here {text form : String} : Fails (.other text form) [] [] (.type text form)
  | tag {fields : List Field} {i : Nat} {field : Field} {literal : String} {fault : Fault} :
      fields[i]? = some field → field.exported ≠ [] → field.tag = some literal →
      StructTag.parseLiteral literal = .error fault →
      Fails (.struct fields) [0, i] [field] (.tag literal)
  | type {fields : List Field} {i k : Nat} {field : Field} {spot : TypeExpr} {place : List Nat}
      {path : List Field} {defect : Defect} :
      fields[i]? = some field → field.IsKept → field.type.spots[k]? = some spot →
      Fails spot place path defect →
      Fails (.struct fields) (1 :: i :: k :: place) (field :: path) defect

/-- Whether one place comes before another. -/
def Earlier (place other : List Nat) : Prop :=
  List.Lex (fun i j => i < j) place other

/-- The first place where a type is wrong: every other one comes later. -/
def TypeExpr.FailsFirst (type : TypeExpr) (place : List Nat) (path : List Field)
    (defect : Defect) : Prop :=
  type.Fails place path defect
    ∧ ∀ other path' defect', type.Fails other path' defect' →
      (other, path', defect') = (place, path, defect) ∨ Earlier place other

/-! ## Faults from left to right -/

/-- What is made of a value is no part of a fault. -/
theorem fault?_map {α β : Type} (f : α → β) (outcome : Except Fault α) :
    fault? (outcome.map f) = fault? outcome := by
  cases outcome with
  | ok value => rfl
  | error fault => rfl

/-- A label is put around a fault. -/
theorem fault?_labelled {α : Type} (label : String) (outcome : Except Fault α) :
    fault? (labelled label outcome) = (fault? outcome).map (Fault.within label) := by
  cases outcome with
  | ok value => rfl
  | error fault => rfl

mutual

/-- A type has the fault of the first of its parts that has one. -/
theorem TypeExpr.fault?_express (options : Options) :
    ∀ type : TypeExpr, fault? (type.express options)
      = type.spots.findSome? fun spot => fault? (spot.express options)
  | .pointer inner => by
      rw [TypeExpr.express, TypeExpr.spots, fault?_map]
      exact inner.fault?_express options
  | .slice element => by
      rw [TypeExpr.express, TypeExpr.spots, fault?_map]
      exact element.fault?_express options
  | .map key value => by
      rw [TypeExpr.express, TypeExpr.spots, List.findSome?_append, ← key.fault?_express options,
        ← value.fault?_express options]
      cases key.express options with
      | ok k => exact fault?_map _ _
      | error fault => rfl
  | .generic base arguments => by
      rw [TypeExpr.express, TypeExpr.spots, List.findSome?_append, ← base.fault?_express options]
      cases base.express options with
      | ok b =>
          rw [← fault?_expressArguments options arguments b.imports]
          exact fault?_map _ _
      | error fault => rfl
  | .struct fields => by
      rw [TypeExpr.spots, List.findSome?_singleton]
  | .other text form => by
      rw [TypeExpr.spots, List.findSome?_singleton]
  | .named name isLocal => by
      rw [TypeExpr.express, TypeExpr.spots]
      rfl
  | .bytes => by
      rw [TypeExpr.express, TypeExpr.spots]
      rfl
  | .selector package name => by
      rw [TypeExpr.express, TypeExpr.spots]
      rfl
  | .any => by
      rw [TypeExpr.express, TypeExpr.spots]
      rfl

/-- The fault of arguments is that of their first spot with one. -/
theorem fault?_expressArguments (options : Options) :
    ∀ (arguments : List TypeExpr) (imports : ImportSet),
      fault? (expressArguments options imports arguments)
        = (spotsOfTypes arguments).findSome? fun spot => fault? (spot.express options)
  | [], imports => by
      rw [expressArguments, spotsOfTypes]
      rfl
  | argument :: rest, imports => by
      rw [expressArguments, spotsOfTypes, List.findSome?_append,
        ← argument.fault?_express options]
      cases argument.express options with
      | ok e =>
          rw [← fault?_expressArguments options rest (imports.union e.imports)]
          exact fault?_map _ _
      | error fault => rfl

end

/-- The fault in tags is that of the first field with one. -/
theorem fault?_collectMembers (fields : List Field) :
    fault? (collectMembers fields) = fields.findSome? fun field => fault? field.members := by
  induction fields with
  | nil => rfl
  | cons field rest ih =>
      rw [collectMembers, List.findSome?_cons]
      cases field.members with
      | ok members => rw [← ih]; exact fault?_map _ _
      | error fault => rfl

/-- The fault of a field in the second pass, when its type is written out. -/
def Field.typeFault? (options : Options) (field : Field) : Option Fault :=
  match field.members with
  | .ok members => fault? (expressMembers options (field.type.express options) members)
  | .error fault => some fault

/-- The fault in types is that of the first field with one. -/
theorem fault?_expressFields (options : Options) (fields : List Field) :
    fault? (expressFields options fields) = fields.findSome? (Field.typeFault? options) := by
  induction fields with
  | nil =>
      rw [expressFields]
      rfl
  | cons field rest ih =>
      obtain ⟨names, type, tag⟩ := field
      rw [expressFields, List.findSome?_cons, Field.typeFault?]
      cases Field.members ⟨names, type, tag⟩ with
      | error fault => rfl
      | ok members =>
          simp only
          cases expressMembers options (type.express options) members with
          | error fault => rfl
          | ok body => rw [← ih]; exact fault?_map _ _

/-- A struct has the fault of its first tag that has one, and else that of its first type
    that has one. -/
theorem fault?_expressStruct (options : Options) (fields : List Field) :
    fault? (expressStruct options fields)
      = (fields.findSome? fun field => fault? field.members).or
        (fields.findSome? (Field.typeFault? options)) := by
  rw [← fault?_collectMembers, ← fault?_expressFields, expressStruct]
  cases collectMembers fields with
  | ok members => rfl
  | error fault => rfl

/-- A struct fails as its fields do. -/
theorem TypeExpr.fault?_express_struct (options : Options) (fields : List Field) :
    fault? ((TypeExpr.struct fields).express options) = fault? (expressStruct options fields) := by
  rw [express_struct]
  exact fault?_map _ _

/-- A struct fails if a field fails in one of the passes. -/
theorem TypeExpr.exists_fault_struct_iff {options : Options} {fields : List Field} :
    (∃ fault, fault? ((TypeExpr.struct fields).express options) = some fault)
      ↔ (∃ field ∈ fields, (fault? field.members).isSome = true)
        ∨ ∃ field ∈ fields, (field.typeFault? options).isSome = true := by
  rw [TypeExpr.fault?_express_struct, fault?_expressStruct, ← Option.isSome_iff_exists,
    Option.isSome_or, Bool.or_eq_true, List.findSome?_isSome_iff, List.findSome?_isSome_iff]

/-! ## Faults of fields -/

/-- A tag that is refused is a malformed one. -/
theorem explains_of_parseLiteral {literal : String} {fault : Fault}
    (h : StructTag.parseLiteral literal = .error fault) :
    (Defect.tag literal).Explains fault.cause ∧ fault.context = [] := by
  have hboth := h
  unfold StructTag.parseLiteral at h
  split at h
  · next tag htag =>
      unfold StructTag.parse at h
      split at h
      · cases h
      · next flaw _ =>
          cases h
          exact ⟨⟨hboth, tag, flaw.reason, rfl, Or.inr htag⟩, rfl⟩
  · next flaw _ =>
      cases h
      exact ⟨⟨hboth, literal, flaw.reason, rfl, Or.inl rfl⟩, rfl⟩

/-- The fault of a JSON entry is that of its tag. -/
theorem fault?_jsonEntry (tag : Option String) :
    fault? (jsonEntry tag) = tag.bind fun literal => fault? (StructTag.parseLiteral literal) := by
  cases tag with
  | none => rfl
  | some literal => exact fault?_map _ _

/-- A field without exported names gives no members. -/
theorem Field.members_of_unexported {field : Field} (h : field.exported = []) :
    field.members = .ok [] := by
  unfold Field.members
  rw [h]

/-- The members of a field with exported names. -/
theorem Field.members_of_exported {field : Field} (h : field.exported ≠ []) :
    field.members
      = match labelled field.label (jsonEntry field.tag) with
        | .ok json =>
            if Member.isSuppressed json then .ok []
            else .ok (field.exported.map (Member.ofName json field.type))
        | .error fault => .error fault := by
  unfold Field.members Field.label
  cases hexported : field.exported with
  | nil => exact absurd hexported h
  | cons first others => rfl

/-- The first pass fails at a field with an exported name and a tag that is refused. -/
theorem Field.fault?_members {field : Field} {fault : Fault} :
    fault? field.members = some fault
      ↔ field.exported ≠ [] ∧ ∃ literal inner, field.tag = some literal
        ∧ StructTag.parseLiteral literal = .error inner ∧ fault = inner.within field.label := by
  by_cases hexported : field.exported = []
  · rw [Field.members_of_unexported hexported]
    refine iff_of_false (fun h => by cases h) (fun h => h.1 hexported)
  · have hfault : fault? field.members
        = (fault? (jsonEntry field.tag)).map (Fault.within field.label) := by
      rw [Field.members_of_exported hexported, ← fault?_labelled]
      cases labelled field.label (jsonEntry field.tag) with
      | ok json =>
          simp only
          split
          · rfl
          · rfl
      | error fault => rfl
    rw [hfault, fault?_jsonEntry, Option.map_eq_some_iff]
    simp only [Option.bind_eq_some_iff, SourceUnit.fault?_eq_some]
    constructor
    · rintro ⟨inner, ⟨literal, htag, hliteral⟩, rfl⟩
      exact ⟨hexported, literal, inner, htag, hliteral, rfl⟩
    · rintro ⟨-, literal, inner, htag, hliteral, rfl⟩
      exact ⟨inner, ⟨literal, htag, hliteral⟩, rfl⟩

/-- A member fails as its type does, unless it is a string, in the place of its field. -/
theorem fault?_expressMember (options : Options) (outcome : Except Fault Expressed)
    (member : Member) :
    fault? (expressMember options outcome member)
      = if member.asString then none
        else (fault? outcome).map (Fault.within (fieldLabel member.sourceName)) := by
  unfold expressMember
  split
  · rfl
  · rw [← fault?_labelled]
    cases labelled (fieldLabel member.sourceName) outcome with
    | ok e => rfl
    | error fault => rfl

/-- The fault of members is that of the first, or else that of the others. -/
theorem fault?_expressMembers_cons (options : Options) (outcome : Except Fault Expressed)
    (member : Member) (rest : List Member) :
    fault? (expressMembers options outcome (member :: rest))
      = (fault? (expressMember options outcome member)).or
        (fault? (expressMembers options outcome rest)) := by
  rw [expressMembers]
  cases expressMember options outcome member with
  | ok body => exact fault?_map _ _
  | error fault => rfl

/-- The names of a field have the same type, so a fault of it is met at the first one. -/
theorem fault?_expressMembers (options : Options) (outcome : Except Fault Expressed)
    (json : Option StructTag.Entry) (type : TypeExpr) (names : List String) :
    fault? (expressMembers options outcome (names.map (Member.ofName json type)))
      = if json.any (·.hasOption "string") && Member.isScalar (Member.target type) then none
        else names.head?.bind fun name => (fault? outcome).map (Fault.within (fieldLabel name)) := by
  induction names with
  | nil =>
      split
      · rfl
      · rfl
  | cons name rest ih =>
      rw [List.map_cons, fault?_expressMembers_cons, fault?_expressMember, ih]
      show (if json.any (·.hasOption "string") && Member.isScalar (Member.target type) then none
        else (fault? outcome).map (Fault.within (fieldLabel name))).or _ = _
      split
      · rfl
      · cases fault? outcome with
        | none => cases rest <;> rfl
        | some fault => rfl

/-- The type of a field matters unless the field is suppressed or a string. -/
theorem Field.typeFault?_of_exported {field : Field} {json : Option StructTag.Entry}
    (hexported : field.exported ≠ []) (hjson : jsonEntry field.tag = .ok json)
    (options : Options) :
    field.typeFault? options
      = if Member.isSuppressed json
          || json.any (·.hasOption "string") && Member.isScalar (Member.target field.type) then none
        else (fault? (field.type.express options)).map (Fault.within field.label) := by
  have hlabel : field.exported.head?.bind
        (fun name => (fault? (field.type.express options)).map (Fault.within (fieldLabel name)))
      = (fault? (field.type.express options)).map (Fault.within field.label) := by
    unfold Field.label
    cases hnames : field.exported with
    | nil => exact absurd hnames hexported
    | cons first others => rfl
  have hmembers : field.members
      = if Member.isSuppressed json then .ok []
        else .ok (field.exported.map (Member.ofName json field.type)) := by
    rw [Field.members_of_exported hexported, hjson]
    rfl
  unfold Field.typeFault?
  cases hsuppressed : Member.isSuppressed json with
  | true =>
      rw [hmembers, hsuppressed]
      rfl
  | false =>
      rw [hmembers, hsuppressed, Bool.false_or, ← hlabel]
      exact fault?_expressMembers options (field.type.express options) json field.type field.exported

/-- The second pass fails at a field that is written out and whose type fails. -/
theorem Field.typeFault?_eq_some {options : Options} {field : Field} {fault : Fault}
    (hmembers : fault? field.members = none) :
    field.typeFault? options = some fault
      ↔ field.IsKept ∧ ∃ inner, fault? (field.type.express options) = some inner
        ∧ fault = inner.within field.label := by
  by_cases hexported : field.exported = []
  · unfold Field.typeFault?
    rw [Field.members_of_unexported hexported]
    exact iff_of_false (fun h => by cases h) (fun h => h.1.1 hexported)
  · cases hjson : jsonEntry field.tag with
    | error found =>
        rw [Field.members_of_exported hexported, hjson] at hmembers
        cases hmembers
    | ok json =>
        rw [Field.typeFault?_of_exported hexported hjson]
        have hkept : field.IsKept ↔ (Member.isSuppressed json || json.any (·.hasOption "string")
            && Member.isScalar (Member.target field.type)) = false := by
          rw [Bool.or_eq_false_iff]
          constructor
          · rintro ⟨-, found, hfound, hflags⟩
            cases hjson.symm.trans hfound
            exact hflags
          · exact fun hflags => ⟨hexported, json, hjson, hflags⟩
        rw [hkept]
        split
        · next hhidden =>
            rw [hhidden]
            exact iff_of_false (fun h => by cases h) (fun h => by cases h.1)
        · next hshown =>
            rw [Option.map_eq_some_iff, Bool.eq_false_iff]
            constructor
            · rintro ⟨inner, hinner, rfl⟩
              exact ⟨hshown, inner, hinner, rfl⟩
            · rintro ⟨-, inner, hinner, rfl⟩
              exact ⟨inner, hinner, rfl⟩

/-! ## The first defect -/

/-- What is found first is found at a place before which there is nothing. -/
theorem exists_first_of_findSome? {α β : Type} {f : α → Option β} {items : List α} {value : β}
    (h : items.findSome? f = some value) :
    ∃ (i : Nat) (item : α), items[i]? = some item ∧ f item = some value
      ∧ ∀ j < i, ∀ other, items[j]? = some other → f other = none := by
  obtain ⟨before, item, after, rfl, hitem, hbefore⟩ := List.findSome?_eq_some_iff.mp h
  refine ⟨before.length, item, by simp, hitem, fun j hj other hother => ?_⟩
  rw [List.getElem?_append_left hj] at hother
  exact hbefore other (List.mem_of_getElem? hother)

/-- The spots of types are those of each. -/
theorem mem_spotsOfTypes {types : List TypeExpr} {spot : TypeExpr} :
    spot ∈ spotsOfTypes types ↔ ∃ type ∈ types, spot ∈ type.spots := by
  induction types with
  | nil => simp [spotsOfTypes]
  | cons type rest ih => simp [spotsOfTypes, ih]

/-- Every part is a type outside the supported set or a struct, and no larger than the
    type. -/
theorem TypeExpr.spot_cases {spot : TypeExpr} : ∀ {type : TypeExpr}, spot ∈ type.spots →
    ((∃ text form, spot = .other text form) ∨ ∃ fields, spot = .struct fields)
      ∧ sizeOf spot ≤ sizeOf type
  | .pointer inner, h => by
      rw [TypeExpr.spots] at h
      obtain ⟨hcases, hsize⟩ := spot_cases h
      exact ⟨hcases, by simp only [TypeExpr.pointer.sizeOf_spec]; omega⟩
  | .slice element, h => by
      rw [TypeExpr.spots] at h
      obtain ⟨hcases, hsize⟩ := spot_cases h
      exact ⟨hcases, by simp only [TypeExpr.slice.sizeOf_spec]; omega⟩
  | .map key value, h => by
      rw [TypeExpr.spots] at h
      rcases List.mem_append.mp h with hkey | hvalue
      · obtain ⟨hcases, hsize⟩ := spot_cases hkey
        exact ⟨hcases, by simp only [TypeExpr.map.sizeOf_spec]; omega⟩
      · obtain ⟨hcases, hsize⟩ := spot_cases hvalue
        exact ⟨hcases, by simp only [TypeExpr.map.sizeOf_spec]; omega⟩
  | .generic base arguments, h => by
      rw [TypeExpr.spots] at h
      rcases List.mem_append.mp h with hbase | harguments
      · obtain ⟨hcases, hsize⟩ := spot_cases hbase
        exact ⟨hcases, by simp only [TypeExpr.generic.sizeOf_spec]; omega⟩
      · obtain ⟨argument, hargument, hspot⟩ := mem_spotsOfTypes.mp harguments
        have hlt := List.sizeOf_lt_of_mem hargument
        obtain ⟨hcases, hsize⟩ := spot_cases hspot
        exact ⟨hcases, by simp only [TypeExpr.generic.sizeOf_spec]; omega⟩
  | .struct fields, h => by
      rw [TypeExpr.spots, List.mem_singleton] at h
      subst h
      exact ⟨Or.inr ⟨fields, rfl⟩, Nat.le_refl _⟩
  | .other text form, h => by
      rw [TypeExpr.spots, List.mem_singleton] at h
      subst h
      exact ⟨Or.inl ⟨text, form, rfl⟩, Nat.le_refl _⟩
  | .named _ _, h => by
      rw [TypeExpr.spots] at h
      cases h
  | .bytes, h => by
      rw [TypeExpr.spots] at h
      cases h
  | .selector _ _, h => by
      rw [TypeExpr.spots] at h
      cases h
  | .any, h => by
      rw [TypeExpr.spots] at h
      cases h
termination_by type => sizeOf type

/-- A field that is written out fails in the second pass if a part of its type does. -/
theorem Field.exists_typeFault? {options : Options} {field : Field} {spot : TypeExpr}
    {inner : Fault} (hmembers : fault? field.members = none) (hkept : field.IsKept)
    (hspot : spot ∈ field.type.spots) (hinner : fault? (spot.express options) = some inner) :
    ∃ fault, field.typeFault? options = some fault := by
  have htype : (fault? (field.type.express options)).isSome = true := by
    rw [TypeExpr.fault?_express, List.findSome?_isSome_iff]
    exact ⟨spot, hspot, by rw [hinner]; rfl⟩
  obtain ⟨found, hfound⟩ := Option.isSome_iff_exists.mp htype
  exact ⟨_, (Field.typeFault?_eq_some hmembers).mpr ⟨hkept, found, hfound, rfl⟩⟩

/-- A type that is wrong somewhere is not written out. -/
theorem TypeExpr.Fails.exists_fault (options : Options) {type : TypeExpr} {place : List Nat}
    {path : List Field} {defect : Defect} (h : type.Fails place path defect) :
    ∃ fault, fault? (type.express options) = some fault := by
  induction h with
  | here =>
      rw [TypeExpr.express]
      exact ⟨_, rfl⟩
  | @tag fields i field literal fault hfield hexported htag hliteral =>
      rw [TypeExpr.exists_fault_struct_iff]
      refine Or.inl ⟨field, List.mem_of_getElem? hfield, ?_⟩
      rw [Field.fault?_members.mpr ⟨hexported, literal, fault, htag, hliteral, rfl⟩]
      rfl
  | @type fields i k field spot place path defect hfield hkept hspot hfails ih =>
      obtain ⟨fault, hfault⟩ := ih
      rw [TypeExpr.exists_fault_struct_iff]
      have hmem := List.mem_of_getElem? hfield
      cases hmembers : fault? field.members with
      | some earlier => exact Or.inl ⟨field, hmem, by rw [hmembers]; rfl⟩
      | none =>
          obtain ⟨found, hfound⟩ :=
            Field.exists_typeFault? hmembers hkept (List.mem_of_getElem? hspot) hfault
          exact Or.inr ⟨field, hmem, by rw [hfound]; rfl⟩

/-- What the first defect of a type has to do with the fault that is reported. -/
def TypeExpr.Reports (type : TypeExpr) (fault : Fault) : Prop :=
  ∃ place path defect, type.FailsFirst place path defect
    ∧ defect.Explains fault.cause ∧ fault.context = path.map Field.label

theorem reports_other {text form : String} :
    (TypeExpr.other text form).Reports
      { cause := .unsupported text form "cannot translate type" } := by
  refine ⟨[], [], .type text form, ⟨.here, ?_⟩, rfl, rfl⟩
  intro other path' defect' hother
  cases hother
  exact Or.inl rfl

/-- A fault of the first pass is that of the first tag that is refused. -/
theorem reports_of_tag {fields : List Field} {fault : Fault}
    (h : (fields.findSome? fun field => fault? field.members) = some fault) :
    (TypeExpr.struct fields).Reports fault := by
  obtain ⟨i, field, hfield, hfault, hbefore⟩ := exists_first_of_findSome? h
  obtain ⟨hexported, literal, inner, htag, hliteral, rfl⟩ := Field.fault?_members.mp hfault
  obtain ⟨hexplains, hcontext⟩ := explains_of_parseLiteral hliteral
  refine ⟨[0, i], [field], .tag literal, ⟨.tag hfield hexported htag hliteral, ?_⟩, hexplains, ?_⟩
  · intro other path' defect' hother
    cases hother with
    | @tag _ j field' literal' fault' hfield' hexported' htag' hliteral' =>
        rcases Nat.lt_trichotomy j i with hlt | rfl | hgt
        · have hnone := hbefore j hlt field' hfield'
          rw [Field.fault?_members.mpr ⟨hexported', literal', fault', htag', hliteral', rfl⟩] at hnone
          cases hnone
        · cases hfield.symm.trans hfield'
          cases htag.symm.trans htag'
          exact Or.inl rfl
        · exact Or.inr (.cons (.rel hgt))
    | type => exact Or.inr (.rel Nat.zero_lt_one)
  · show field.label :: inner.context = [field.label]
    rw [hcontext]

/-- A fault of the second pass is that of the first part that fails, of the first field
    whose type has such a part. -/
theorem reports_of_type {options : Options} {fields : List Field} {fault : Fault}
    (hparts : ∀ field ∈ fields, ∀ spot ∈ field.type.spots, ∀ inner,
      fault? (spot.express options) = some inner → spot.Reports inner)
    (htags : (fields.findSome? fun field => fault? field.members) = none)
    (h : fields.findSome? (Field.typeFault? options) = some fault) :
    (TypeExpr.struct fields).Reports fault := by
  rw [List.findSome?_eq_none_iff] at htags
  obtain ⟨i, field, hfield, hfault, hbefore⟩ := exists_first_of_findSome? h
  have hmem := List.mem_of_getElem? hfield
  obtain ⟨hkept, inner, hinner, rfl⟩ := (Field.typeFault?_eq_some (htags field hmem)).mp hfault
  rw [TypeExpr.fault?_express] at hinner
  obtain ⟨k, spot, hspot, hspotFault, hsooner⟩ := exists_first_of_findSome? hinner
  obtain ⟨place, path, defect, ⟨hfails, hfirst⟩, hexplains, hcontext⟩ :=
    hparts field hmem spot (List.mem_of_getElem? hspot) inner hspotFault
  refine ⟨1 :: i :: k :: place, field :: path, defect, ⟨.type hfield hkept hspot hfails, ?_⟩,
    hexplains, ?_⟩
  · intro other path' defect' hother
    cases hother with
    | @tag _ j field' literal' fault' hfield' hexported' htag' hliteral' =>
        have hnone := htags field' (List.mem_of_getElem? hfield')
        rw [Field.fault?_members.mpr ⟨hexported', literal', fault', htag', hliteral', rfl⟩] at hnone
        cases hnone
    | @type _ j l field' spot' place' path' _ hfield' hkept' hspot' hfails' =>
        obtain ⟨inner', hinner'⟩ := hfails'.exists_fault options
        rcases Nat.lt_trichotomy j i with hlt | rfl | hgt
        · -- a field before this one would have failed
          obtain ⟨found, hfound⟩ := Field.exists_typeFault?
            (htags field' (List.mem_of_getElem? hfield')) hkept' (List.mem_of_getElem? hspot') hinner'
          cases hfound.symm.trans (hbefore j hlt field' hfield')
        · cases hfield.symm.trans hfield'
          rcases Nat.lt_trichotomy l k with hlt | rfl | hgt
          · have hnone := hsooner l hlt spot' hspot'
            cases hinner'.symm.trans hnone
          · cases hspot.symm.trans hspot'
            rcases hfirst place' path' defect' hfails' with heq | hlater
            · cases heq
              exact Or.inl rfl
            · exact Or.inr (.cons (.cons (.cons hlater)))
          · exact Or.inr (.cons (.cons (.rel hgt)))
        · exact Or.inr (.cons (.rel hgt))
  · show field.label :: inner.context = field.label :: path.map Field.label
    rw [hcontext]

/-- The fault of a struct is that of its first defect.  The induction is on the size of the
    struct: the structs in the types of its fields are smaller. -/
theorem reports_struct (options : Options) (fields : List Field) (fault : Fault)
    (h : fault? ((TypeExpr.struct fields).express options) = some fault) :
    (TypeExpr.struct fields).Reports fault := by
  have hparts : ∀ field ∈ fields, ∀ spot ∈ field.type.spots, ∀ inner,
      fault? (spot.express options) = some inner → spot.Reports inner := by
    intro field hfield spot hspot inner hinner
    obtain ⟨hcases, hsize⟩ := TypeExpr.spot_cases hspot
    rcases hcases with ⟨text, form, rfl⟩ | ⟨members, rfl⟩
    · rw [TypeExpr.express] at hinner
      cases hinner
      exact reports_other
    · have hfields := List.sizeOf_lt_of_mem hfield
      have htype : sizeOf field.type < sizeOf field := by
        cases field
        simp only [Field.mk.sizeOf_spec]
        omega
      have hsmaller : sizeOf members < sizeOf fields := by
        simp only [TypeExpr.struct.sizeOf_spec] at hsize
        omega
      exact reports_struct options members inner hinner
  rw [TypeExpr.fault?_express_struct, fault?_expressStruct] at h
  cases htags : fields.findSome? fun field => fault? field.members with
  | some first =>
      rw [htags] at h
      cases h
      exact reports_of_tag htags
  | none =>
      rw [htags] at h
      exact reports_of_type hparts htags h
termination_by sizeOf fields

/-- A struct fails exactly where it is wrong, and the fault names the way to the first such
    place.  For all fields, at every depth and with all options: the lines of a struct are
    refused if and only if there is a place where it is wrong, behind fields that are
    written out.  The fault is that of the place before all others, in the order of two
    passes over each struct; its cause is the tag that is refused there or the type outside
    the supported set, and its context are the labels of the fields that lead there. -/
theorem fault_names_way_to_first_defect (options : Options) (depth : Int)
    (fields : List Field) :
    let lines := (expressStruct options fields).map fun body =>
      (ScriptType.renderProperties options.indent depth body.properties, body.imports)
    ((∃ fault, lines = .error fault)
      ↔ ∃ place path defect, (TypeExpr.struct fields).Fails place path defect)
    ∧ ∀ fault, lines = .error fault →
      ∃ place path defect, (TypeExpr.struct fields).FailsFirst place path defect
        ∧ defect.Explains fault.cause
        ∧ fault.context = path.map fun field => "field " ++ field.exported.headD "" := by
  intro lines
  have hlines : ∀ fault, lines = .error fault
      ↔ fault? ((TypeExpr.struct fields).express options) = some fault := by
    intro fault
    rw [TypeExpr.fault?_express_struct, ← SourceUnit.fault?_eq_some, fault?_map]
  refine ⟨⟨?_, ?_⟩, ?_⟩
  · rintro ⟨fault, hfault⟩
    obtain ⟨place, path, defect, hfirst, -⟩ :=
      reports_struct options fields fault ((hlines fault).mp hfault)
    exact ⟨place, path, defect, hfirst.1⟩
  · rintro ⟨place, path, defect, hfails⟩
    obtain ⟨fault, hfault⟩ := hfails.exists_fault options
    exact ⟨fault, (hlines fault).mpr hfault⟩
  · intro fault hfault
    exact reports_struct options fields fault ((hlines fault).mp hfault)

-- a tag comes before the types of its own struct only
example :
    let inner : List Field :=
      [⟨["Events"], .other "chan Event" "channel_type", none⟩,
       ⟨["note", "Note"], .named "string" false, some "\x60json\x60"⟩]
    fault? (expressStruct {}
        [⟨["Meta"], .slice (.pointer (.struct inner)), none⟩,
         ⟨["Done"], .other "func()" "function_type", none⟩])
      = some { cause := .malformedTag "json" "bad syntax for struct tag pair"
               context := ["field Meta", "field Note"] } := by
  decide +kernel

end StructScript
