import StructScript.Proofs.FaultPlaces
import StructScript.Proofs.ScriptMeaning
import StructScript.Proofs.Scopes

/-! # Names that a module binds once

    A name that is written out in a declaration must be bound: by a type of the file, by a
    type parameter of the declaration, or by an import.  Type parameters and imports are
    found apart from each other, and the imports of supertypes apart from those of members.

    * `TypeExpr.ShownIn` lists the places of a type that are written out, and
      `Declaration.Shows` those of a declaration;
    * `TypeExpr.own_mem_uses_iff` and `Declaration.own_mem_uses_iff` say which names are
      imported: those shown without a mark, but for the placeholder, and those embedded;
    * `mem_typeParams_iff` says when such a name is a type parameter: it is the
      placeholder, and the declaration has no parameters of its own.

    So the two fit together for every name but the placeholder, and for the placeholder
    only if it is embedded exactly where the declaration has parameters of its own. -/

namespace StructScript

/-! ## Places that are written out -/

/-- Whether a type expression stands in another one at a place that is written out: not in
    a field that is dropped or written as a string. -/
inductive TypeExpr.ShownIn (part : TypeExpr) : TypeExpr → Prop where
  | here : part.ShownIn part
  | pointer {inner : TypeExpr} : part.ShownIn inner → part.ShownIn (.pointer inner)
  | slice {element : TypeExpr} : part.ShownIn element → part.ShownIn (.slice element)
  | key {key value : TypeExpr} : part.ShownIn key → part.ShownIn (.map key value)
  | value {key value : TypeExpr} : part.ShownIn value → part.ShownIn (.map key value)
  | member {fields : List Field} {field : Field} :
      field ∈ fields → field.IsKept → part.ShownIn field.type → part.ShownIn (.struct fields)
  | base {base : TypeExpr} {arguments : List TypeExpr} :
      part.ShownIn base → part.ShownIn (.generic base arguments)
  | argument {base : TypeExpr} {arguments : List TypeExpr} {argument : TypeExpr} :
      argument ∈ arguments → part.ShownIn argument → part.ShownIn (.generic base arguments)

/-- Whether a declaration writes a type expression out: in its type, or as a supertype or in
    the arguments of one. -/
def Declaration.Shows (declaration : Declaration) (part : TypeExpr) : Prop :=
  part.ShownIn declaration.type
    ∨ ∃ fields, declaration.type = .struct fields
      ∧ ∃ field ∈ fields, field.isEmbedded = true ∧ part.ShownIn field.type

/-- Whether a type expression, or a pointer to it, is embedded in a declaration. -/
def Declaration.Embeds (declaration : Declaration) (part : TypeExpr) : Prop :=
  ∃ fields, declaration.type = .struct fields
    ∧ ∃ field ∈ fields, field.isEmbedded = true ∧ Member.target field.type = part

namespace TypeExpr

/-- The structs and the unsupported types in a type are written out in it. -/
theorem shownIn_of_mem_spots {spot : TypeExpr} : ∀ {type : TypeExpr}, spot ∈ type.spots →
    spot.ShownIn type
  | .pointer inner, h => by
      rw [spots] at h
      exact .pointer (shownIn_of_mem_spots h)
  | .slice element, h => by
      rw [spots] at h
      exact .slice (shownIn_of_mem_spots h)
  | .map key value, h => by
      rw [spots] at h
      rcases List.mem_append.mp h with hkey | hvalue
      · exact .key (shownIn_of_mem_spots hkey)
      · exact .value (shownIn_of_mem_spots hvalue)
  | .generic base arguments, h => by
      rw [spots] at h
      rcases List.mem_append.mp h with hbase | harguments
      · exact .base (shownIn_of_mem_spots hbase)
      · obtain ⟨argument, hargument, hspot⟩ := mem_spotsOfTypes.mp harguments
        have hlt := List.sizeOf_lt_of_mem hargument
        exact .argument hargument (shownIn_of_mem_spots hspot)
  | .struct fields, h => by
      rw [spots, List.mem_singleton] at h
      exact h ▸ .here
  | .other text form, h => by
      rw [spots, List.mem_singleton] at h
      exact h ▸ .here

/-- What is shown in a type lies within it. -/
theorem ShownIn.within {part type : TypeExpr} (h : part.ShownIn type) : part.Within type := by
  induction h with
  | here => exact .here
  | pointer _ ih => exact .pointer ih
  | slice _ ih => exact .slice ih
  | key _ ih => exact .key ih
  | value _ ih => exact .value ih
  | member hfield _ _ ih => exact .member hfield ih
  | base _ ih => exact .base ih
  | argument hargument _ ih => exact .argument hargument ih

section

variable {name : String} {mark : Bool}

/-- A name shows itself alone, with its mark. -/
theorem shownIn_named {other : String} {isLocal : Bool} :
    (named name mark).ShownIn (.named other isLocal) ↔ name = other ∧ mark = isLocal := by
  constructor
  · intro h
    cases h
    exact ⟨rfl, rfl⟩
  · rintro ⟨rfl, rfl⟩
    exact .here

/-- A pointer shows the names that its target shows. -/
theorem shownIn_pointer {inner : TypeExpr} :
    (named name mark).ShownIn (.pointer inner) ↔ (named name mark).ShownIn inner := by
  constructor
  · intro h
    cases h with
    | pointer hinner => exact hinner
  · exact .pointer

theorem shownIn_target {type : TypeExpr} :
    (named name mark).ShownIn (Member.target type) ↔ (named name mark).ShownIn type := by
  cases type with
  | pointer inner => exact shownIn_pointer.symm
  | _ => exact Iff.rfl

/-- A slice shows the names of its elements. -/
theorem shownIn_slice {element : TypeExpr} :
    (named name mark).ShownIn (.slice element) ↔ (named name mark).ShownIn element := by
  constructor
  · intro h
    cases h with
    | slice helement => exact helement
  · exact .slice

/-- A map shows the names of its keys and values. -/
theorem shownIn_map {key value : TypeExpr} :
    (named name mark).ShownIn (.map key value)
      ↔ (named name mark).ShownIn key ∨ (named name mark).ShownIn value := by
  constructor
  · intro h
    cases h with
    | key hkey => exact Or.inl hkey
    | value hvalue => exact Or.inr hvalue
  · rintro (hkey | hvalue)
    · exact .key hkey
    · exact .value hvalue

/-- A generic type shows the names of its base and of its arguments. -/
theorem shownIn_generic {base : TypeExpr} {arguments : List TypeExpr} :
    (named name mark).ShownIn (.generic base arguments)
      ↔ (named name mark).ShownIn base
        ∨ ∃ argument ∈ arguments, (named name mark).ShownIn argument := by
  constructor
  · intro h
    cases h with
    | base hbase => exact Or.inl hbase
    | argument hmem hargument => exact Or.inr ⟨_, hmem, hargument⟩
  · rintro (hbase | ⟨argument, hmem, hargument⟩)
    · exact .base hbase
    · exact .argument hmem hargument

/-- A struct shows the names in the types of the fields that it keeps. -/
theorem shownIn_struct {fields : List Field} :
    (named name mark).ShownIn (.struct fields)
      ↔ ∃ field ∈ fields, field.IsKept ∧ (named name mark).ShownIn field.type := by
  constructor
  · intro h
    cases h with
    | member hfield hkept hshown => exact ⟨_, hfield, hkept, hshown⟩
  · rintro ⟨field, hfield, hkept, hshown⟩
    exact .member hfield hkept hshown

end

section

variable {P : TypeExpr → Prop}

/-- Whether a type has no parts. -/
def isLeaf : TypeExpr → Bool
  | .named .. | .bytes | .selector .. | .any => true
  | _ => false

theorem forall_shownIn_leaf {leaf : TypeExpr} (h : leaf.isLeaf = true) :
    (∀ part : TypeExpr, part.ShownIn leaf → P part) ↔ P leaf := by
  refine ⟨fun hall => hall leaf .here, fun hself part hpart => ?_⟩
  cases hpart with
  | here => exact hself
  | _ => cases h

/-- A pointer shows itself and what its target shows. -/
theorem forall_shownIn_pointer {inner : TypeExpr} :
    (∀ part : TypeExpr, part.ShownIn (.pointer inner) → P part)
      ↔ P (.pointer inner) ∧ ∀ part : TypeExpr, part.ShownIn inner → P part := by
  refine ⟨fun h => ⟨h _ .here, fun part hpart => h part (.pointer hpart)⟩, ?_⟩
  rintro ⟨hself, hinner⟩ part hpart
  cases hpart with
  | here => exact hself
  | pointer hshown => exact hinner part hshown

/-- A slice shows itself and what its elements show. -/
theorem forall_shownIn_slice {element : TypeExpr} :
    (∀ part : TypeExpr, part.ShownIn (.slice element) → P part)
      ↔ P (.slice element) ∧ ∀ part : TypeExpr, part.ShownIn element → P part := by
  refine ⟨fun h => ⟨h _ .here, fun part hpart => h part (.slice hpart)⟩, ?_⟩
  rintro ⟨hself, helement⟩ part hpart
  cases hpart with
  | here => exact hself
  | slice hshown => exact helement part hshown

/-- A map shows itself and what its keys and values show. -/
theorem forall_shownIn_map {key value : TypeExpr} :
    (∀ part : TypeExpr, part.ShownIn (.map key value) → P part)
      ↔ P (.map key value) ∧ (∀ part : TypeExpr, part.ShownIn key → P part)
        ∧ ∀ part : TypeExpr, part.ShownIn value → P part := by
  refine ⟨fun h => ⟨h _ .here, fun part hpart => h part (.key hpart),
    fun part hpart => h part (.value hpart)⟩, ?_⟩
  rintro ⟨hself, hkey, hvalue⟩ part hpart
  cases hpart with
  | here => exact hself
  | key hshown => exact hkey part hshown
  | value hshown => exact hvalue part hshown

/-- A generic type shows itself and what its base and arguments show. -/
theorem forall_shownIn_generic {base : TypeExpr} {arguments : List TypeExpr} :
    (∀ part : TypeExpr, part.ShownIn (.generic base arguments) → P part)
      ↔ P (.generic base arguments) ∧ (∀ part : TypeExpr, part.ShownIn base → P part)
        ∧ ∀ argument ∈ arguments, ∀ part : TypeExpr, part.ShownIn argument → P part := by
  refine ⟨fun h => ⟨h _ .here, fun part hpart => h part (.base hpart),
    fun argument hmem part hpart => h part (.argument hmem hpart)⟩, ?_⟩
  rintro ⟨hself, hbase, harguments⟩ part hpart
  cases hpart with
  | here => exact hself
  | base hshown => exact hbase part hshown
  | argument hmem hshown => exact harguments _ hmem part hshown

end

end TypeExpr

/-! ## Fields that are kept -/

/-- A field is kept with its type if and only if it gives a member of that type that is no
    string. -/
theorem Field.isKept_iff {field : Field} {here : List Member} (h : field.members = .ok here)
    {P : TypeExpr → Prop} :
    (field.IsKept ∧ P (Member.target field.type))
      ↔ ∃ member ∈ here, member.asString = false ∧ P member.type := by
  by_cases hexported : field.exported = []
  · rw [Field.members_of_unexported hexported] at h
    cases h
    refine iff_of_false (fun hkept => hkept.1.1 hexported) ?_
    rintro ⟨member, hmember, -⟩
    cases hmember
  · rw [Field.members_of_exported hexported] at h
    split at h
    · next json hjson =>
        have hentry := labelled_eq_ok.mp hjson
        split at h
        · next hsuppressed =>
            cases h
            refine iff_of_false ?_ ?_
            · rintro ⟨⟨-, found, hfound, hnot, -⟩, -⟩
              cases hentry.symm.trans hfound
              cases hsuppressed.symm.trans hnot
            · rintro ⟨member, hmember, -⟩
              cases hmember
        · next hsuppressed =>
            cases h
            constructor
            · rintro ⟨⟨-, found, hfound, -, hstring⟩, hP⟩
              cases hentry.symm.trans hfound
              obtain ⟨name, hname⟩ := List.exists_mem_of_ne_nil _ hexported
              exact ⟨_, List.mem_map_of_mem hname, hstring, hP⟩
            · rintro ⟨member, hmember, hstring, hP⟩
              obtain ⟨name, -, rfl⟩ := List.mem_map.mp hmember
              exact ⟨⟨hexported, json, hentry, Bool.eq_false_iff.mpr hsuppressed, hstring⟩, hP⟩
    · cases h

/-- The fields that are kept are those of the members that are not written as strings. -/
theorem exists_kept_iff {fields : List Field} {members : List Member}
    (h : collectMembers fields = .ok members) {P : TypeExpr → Prop} :
    (∃ field ∈ fields, field.IsKept ∧ P (Member.target field.type))
      ↔ ∃ member ∈ members, member.asString = false ∧ P member.type := by
  induction fields generalizing members with
  | nil =>
      cases h
      simp
  | cons field rest ih =>
      rw [collectMembers] at h
      split at h
      · next here hhere =>
          obtain ⟨others, hothers, rfl⟩ := map_eq_ok.mp h
          simp only [List.mem_cons, exists_eq_or_imp]
          rw [Field.isKept_iff hhere, ih hothers]
          simp only [List.mem_append, or_and_right, exists_or]
      · cases h

/-- What the target of a type shows, the type shows. -/
theorem TypeExpr.ShownIn.of_target {part type : TypeExpr} (h : part.ShownIn (Member.target type)) :
    part.ShownIn type := by
  cases type with
  | pointer inner => exact .pointer h
  | _ => exact h

/-- What holds of all kept fields holds of all members that are no strings. -/
theorem forall_kept_iff {fields : List Field} {members : List Member}
    (h : collectMembers fields = .ok members) {P : TypeExpr → Prop} :
    (∀ field ∈ fields, field.IsKept → P (Member.target field.type))
      ↔ ∀ member ∈ members, member.asString = false → P member.type := by
  have hexists := not_congr (exists_kept_iff h (P := fun type => ¬ P type))
  simpa only [not_exists, not_and, Classical.not_not] using hexists

/-- What holds of pointers anyway holds of all that is shown in a struct if it holds of the
    struct and of all that is shown in the types of its members. -/
theorem forall_shownIn_struct {P : TypeExpr → Prop} (hpointer : ∀ inner, P (.pointer inner))
    {fields : List Field} {members : List Member} (h : collectMembers fields = .ok members) :
    (∀ part : TypeExpr, part.ShownIn (.struct fields) → P part)
      ↔ P (.struct fields) ∧ ∀ member ∈ members, member.asString = false →
        ∀ part : TypeExpr, part.ShownIn member.type → P part := by
  have htarget : ∀ type : TypeExpr, (∀ part : TypeExpr, part.ShownIn (Member.target type) → P part)
      → ∀ part : TypeExpr, part.ShownIn type → P part := by
    intro type hshown
    cases type with
    | pointer inner => exact TypeExpr.forall_shownIn_pointer.mpr ⟨hpointer inner, hshown⟩
    | _ => exact hshown
  rw [← forall_kept_iff h (P := fun type => ∀ part : TypeExpr, part.ShownIn type → P part)]
  constructor
  · intro hall
    exact ⟨hall _ .here, fun field hfield hkept part hpart =>
      hall part (.member hfield hkept hpart.of_target)⟩
  · rintro ⟨hself, hfields⟩ part hpart
    cases hpart with
    | here => exact hself
    | member hfield hkept hshown => exact htarget _ (hfields _ hfield hkept) part hshown

/-- Where all members are expressed, the type of each is. -/
theorem exists_express_of_mem {options : Options} {members : List Member} {body : ExpressedBody}
    (h : expressEach options members = .ok body) {member : Member} (hmember : member ∈ members)
    (hstring : member.asString = false) : ∃ e, member.type.express options = .ok e := by
  refine expressEach_induction (P := fun members _ => member ∈ members →
    ∃ e, member.type.express options = .ok e) (fun hnone => by cases hnone) ?_ h hmember
  intro first _ type htype rest properties hrest hin
  rcases List.mem_cons.mp hin with rfl | hlater
  · obtain ⟨hyes, -⟩ | ⟨-, e, he, -⟩ := htype
    · cases hstring.symm.trans hyes
    · exact ⟨e, he⟩
  · exact hrest hlater

/-- Where all arguments are expressed, each is. -/
theorem exists_express_of_arguments {options : Options} {arguments : List TypeExpr}
    {imports : ImportSet} {found : List ScriptType × ImportSet}
    (h : expressArguments options imports arguments = .ok found) {argument : TypeExpr}
    (hargument : argument ∈ arguments) : ∃ e, argument.express options = .ok e := by
  refine expressArguments_induction (P := fun arguments _ => argument ∈ arguments →
    ∃ e, argument.express options = .ok e) (fun hnone => by cases hnone) ?_ h hargument
  intro first _ e he rest types hrest hin
  rcases List.mem_cons.mp hin with rfl | hlater
  · exact ⟨e, he⟩
  · exact hrest hlater

/-! ## Names that are imported -/

/-- Whether a type has to import a name, as the places that it shows tell. -/
def TypeExpr.Needs (options : Options) (name : String) (type : TypeExpr) : Prop :=
  isExported name = true ∧ name ≠ options.placeholder ∧ (TypeExpr.named name false).ShownIn type

/-- A type uses the exported names of the own package that it shows, but for the
    placeholder. -/
theorem TypeExpr.own_mem_uses_iff {options : Options} {name : String} :
    ∀ (type : TypeExpr) (e : Expressed), type.express options = .ok e →
      (Use.own name ∈ type.uses options ↔ type.Needs options name) := by
  refine TypeExpr.express_induction
    (P := fun type _ => Use.own name ∈ type.uses options ↔ type.Needs options name) ?_
  unfold TypeExpr.Needs
  constructor
  case bytes =>
    rw [TypeExpr.uses]
    refine iff_of_false List.not_mem_nil ?_
    rintro ⟨-, -, ⟨⟩⟩
  case any =>
    rw [TypeExpr.uses]
    refine iff_of_false List.not_mem_nil ?_
    rintro ⟨-, -, ⟨⟩⟩
  case named =>
    intro other isLocal
    rw [TypeExpr.uses, shownIn_named]
    split
    · next himported =>
        simp only [Bool.and_eq_true, Bool.not_eq_true', bne_iff_ne] at himported
        simp only [List.mem_singleton, Use.own.injEq]
        constructor
        · rintro rfl
          exact ⟨himported.1.1, himported.2, rfl, himported.1.2.symm⟩
        · exact fun h => h.2.2.1
    · next hkept =>
        refine iff_of_false List.not_mem_nil ?_
        rintro ⟨hexported, hne, rfl, rfl⟩
        exact hkept (by simp [hexported, hne])
  case selector =>
    intro package other
    refine iff_of_false ?_ (by rintro ⟨-, -, ⟨⟩⟩)
    rw [TypeExpr.uses]
    split
    · exact List.not_mem_nil
    · simp
  case pointer =>
    intro inner e hinner
    rw [TypeExpr.uses, shownIn_pointer]
    exact hinner
  case slice =>
    intro element e helement
    rw [TypeExpr.uses, shownIn_slice]
    exact helement
  case map =>
    intro key value k v hkey hvalue
    rw [TypeExpr.uses, List.mem_append, hkey, hvalue, shownIn_map, and_or_left, and_or_left]
  case generic =>
    intro base arguments b found _ hbase hargument hfound
    rw [uses_generic, List.mem_append, hbase, shownIn_generic, List.mem_flatMap, and_or_left,
      and_or_left]
    refine or_congr_right ⟨?_, ?_⟩
    · rintro ⟨argument, hmem, huse⟩
      obtain ⟨e, he⟩ := exists_express_of_arguments hfound hmem
      obtain ⟨hexported, hne, hshown⟩ := (hargument argument hmem e he).mp huse
      exact ⟨hexported, hne, argument, hmem, hshown⟩
    · rintro ⟨hexported, hne, argument, hmem, hshown⟩
      obtain ⟨e, he⟩ := exists_express_of_arguments hfound hmem
      exact ⟨argument, hmem, (hargument argument hmem e he).mpr ⟨hexported, hne, hshown⟩⟩
  case struct =>
    intro fields members body hmembers hmember hbody
    have hshown : (TypeExpr.named name false).ShownIn (.struct fields)
        ↔ ∃ member ∈ members, member.asString = false
          ∧ (TypeExpr.named name false).ShownIn member.type := by
      rw [← exists_kept_iff hmembers, shownIn_struct]
      simp only [shownIn_target]
    rw [uses_struct hmembers, List.mem_flatMap, hshown]
    constructor
    · rintro ⟨member, hmem, huse⟩
      unfold Member.uses at huse
      split at huse
      · cases huse
      · next hstring =>
          rw [Bool.not_eq_true] at hstring
          obtain ⟨e, he⟩ := exists_express_of_mem hbody hmem hstring
          obtain ⟨hexported, hne, hin⟩ := (hmember member hmem e he).mp huse
          exact ⟨hexported, hne, member, hmem, hstring, hin⟩
    · rintro ⟨hexported, hne, member, hmem, hstring, hin⟩
      obtain ⟨e, he⟩ := exists_express_of_mem hbody hmem hstring
      refine ⟨member, hmem, ?_⟩
      unfold Member.uses
      rw [hstring]
      exact (hmember member hmem e he).mpr ⟨hexported, hne, hin⟩

/-- An embedded name is imported even if it is the placeholder. -/
theorem own_mem_supertypeUses_iff {options : Options} {type : TypeExpr} {found : Option Supertype}
    (h : supertype? options type = .ok found) {name : String} :
    Use.own name ∈ supertypeUses options type
      ↔ (isExported name = true ∧ Member.target type = .named name false)
        ∨ type.Needs options name := by
  unfold TypeExpr.Needs
  rw [← TypeExpr.shownIn_target]
  unfold supertype? at h
  split at h
  · next other isLocal htarget =>
      simp only [supertypeUses, htarget, TypeExpr.shownIn_named]
      split
      · next hused =>
          rw [Bool.and_eq_true, Bool.not_eq_true'] at hused
          simp only [List.mem_singleton, Use.own.injEq]
          constructor
          · rintro rfl
            exact Or.inl ⟨hused.1, by rw [hused.2]⟩
          · rintro (⟨-, hsame⟩ | ⟨-, -, rfl, -⟩)
            · cases hsame
              rfl
            · rfl
      · next hunused =>
          refine iff_of_false List.not_mem_nil ?_
          rintro (⟨hexported, hsame⟩ | ⟨hexported, -, rfl, rfl⟩)
          · cases hsame
            exact hunused (by rw [hexported]; rfl)
          · exact hunused (by rw [hexported]; rfl)
  · next package other htarget =>
      simp only [supertypeUses, htarget]
      refine iff_of_false (by simp) ?_
      rintro (⟨-, ⟨⟩⟩ | ⟨-, -, ⟨⟩⟩)
  · next base arguments htarget =>
      obtain ⟨e, he, -⟩ := map_eq_ok.mp h
      simp only [supertypeUses, htarget]
      rw [TypeExpr.own_mem_uses_iff _ e he, TypeExpr.Needs]
      refine ⟨Or.inr, ?_⟩
      rintro (⟨-, ⟨⟩⟩ | hneeds)
      exact hneeds
  · cases h

/-- Where all supertypes are found, each embedded field has its own. -/
theorem exists_supertype_of_mem {options : Options} {fields : List Field}
    {parents : List Supertype} (h : supertypes options fields = .ok parents) {field : Field}
    (hfield : field ∈ fields) (hembedded : field.isEmbedded = true) :
    ∃ found, supertype? options field.type = .ok found := by
  induction fields generalizing parents with
  | nil => cases hfield
  | cons first rest ih =>
      rw [supertypes] at h
      by_cases hfirst : first.isEmbedded = true
      · rw [if_pos hfirst] at h
        split at h
        · next found hfound =>
            obtain ⟨others, hothers, -⟩ := map_eq_ok.mp h
            rcases List.mem_cons.mp hfield with rfl | hrest
            · exact ⟨found, hfound⟩
            · exact ih hothers hrest
        · cases h
      · rw [if_neg hfirst] at h
        rcases List.mem_cons.mp hfield with rfl | hrest
        · exact absurd hembedded hfirst
        · exact ih h hrest

/-- The type of a declaration that is written out can be expressed, and if it is a struct, so
    can its supertypes. -/
theorem Declaration.exists_of_emit {options : Options} {declaration : Declaration}
    {emitted : Emitted} (h : declaration.emit options = .ok emitted) :
    (∃ e, declaration.type.express options = .ok e)
      ∧ ∀ fields, declaration.type = .struct fields →
        ∃ parents, supertypes options fields = .ok parents := by
  obtain ⟨name, type, typeParams, isAlias⟩ := declaration
  unfold Declaration.emit at h
  cases type with
  | struct fields =>
      simp only at h ⊢
      split at h
      · next parents hparents =>
          obtain ⟨body, hbody, -⟩ := map_eq_ok.mp h
          have hexpress : (TypeExpr.struct fields).express options
              = .ok { type := .object body.properties, imports := body.imports } := by
            rw [express_struct, hbody]
            rfl
          refine ⟨⟨_, hexpress⟩, ?_⟩
          rintro _ ⟨⟩
          exact ⟨parents, hparents⟩
      · cases h
  | map key value =>
      simp only at h ⊢
      split at h
      · next k hk =>
          obtain ⟨v, hv, -⟩ := map_eq_ok.mp h
          have hexpress : (TypeExpr.map key value).express options
              = .ok { type := .index k.type v.type, imports := k.imports.union v.imports } := by
            rw [TypeExpr.express, hk, hv]
            rfl
          exact ⟨⟨_, hexpress⟩, by rintro _ ⟨⟩⟩
      · cases h
  | _ =>
      obtain ⟨e, he, -⟩ := map_eq_ok.mp h
      exact ⟨⟨e, he⟩, by rintro _ ⟨⟩⟩

/-- A declaration uses the exported names of the own package that it embeds, and those that
    it shows elsewhere, but for the placeholder. -/
theorem Declaration.own_mem_uses_iff {options : Options} {declaration : Declaration}
    {emitted : Emitted} (h : declaration.emit options = .ok emitted) {name : String} :
    Use.own name ∈ declaration.uses options
      ↔ isExported name = true
        ∧ (declaration.Embeds (.named name false)
          ∨ name ≠ options.placeholder ∧ declaration.Shows (.named name false)) := by
  obtain ⟨⟨e, he⟩, hsupertypes⟩ := Declaration.exists_of_emit h
  unfold Declaration.uses
  split
  · next fields htype =>
      obtain ⟨parents, hparents⟩ := hsupertypes fields htype
      rw [htype] at he
      have hembedded : Use.own name ∈ (fields.filter (·.isEmbedded)).flatMap
            (fun field => supertypeUses options field.type)
          ↔ ∃ field ∈ fields, field.isEmbedded = true
            ∧ ((isExported name = true ∧ Member.target field.type = .named name false)
              ∨ field.type.Needs options name) := by
        simp only [List.mem_flatMap, List.mem_filter, and_assoc]
        refine exists_congr fun field => and_congr_right fun hfield =>
          and_congr_right fun hflag => ?_
        obtain ⟨found, hfound⟩ := exists_supertype_of_mem hparents hfield hflag
        exact own_mem_supertypeUses_iff hfound
      rw [List.mem_append, hembedded, TypeExpr.own_mem_uses_iff _ e he]
      constructor
      · rintro (⟨field, hfield, hflag, ⟨hexported, htarget⟩ | ⟨hexported, hne, hshown⟩⟩
          | ⟨hexported, hne, hshown⟩)
        · exact ⟨hexported, Or.inl ⟨fields, htype, field, hfield, hflag, htarget⟩⟩
        · exact ⟨hexported, Or.inr ⟨hne, Or.inr ⟨fields, htype, field, hfield, hflag, hshown⟩⟩⟩
        · exact ⟨hexported, Or.inr ⟨hne, Or.inl (htype ▸ hshown)⟩⟩
      · rintro ⟨hexported, ⟨found, hfound, field, hfield, hflag, htarget⟩
          | ⟨hne, hshown | ⟨found, hfound, field, hfield, hflag, hshown⟩⟩⟩
        · cases htype.symm.trans hfound
          exact Or.inl ⟨field, hfield, hflag, Or.inl ⟨hexported, htarget⟩⟩
        · exact Or.inr ⟨hexported, hne, htype ▸ hshown⟩
        · cases htype.symm.trans hfound
          exact Or.inl ⟨field, hfield, hflag, Or.inr ⟨hexported, hne, hshown⟩⟩
  · next hother =>
      rw [TypeExpr.own_mem_uses_iff _ e he]
      constructor
      · rintro ⟨hexported, hne, hshown⟩
        exact ⟨hexported, Or.inr ⟨hne, Or.inl hshown⟩⟩
      · rintro ⟨hexported, ⟨fields, htype, -⟩ | ⟨hne, hshown | ⟨fields, htype, -⟩⟩⟩
        · exact absurd htype (hother fields)
        · exact ⟨hexported, hne, hshown⟩
        · exact absurd htype (hother fields)

/-! ## Names that are type parameters -/

/-- What a declaration shows lies within its type. -/
theorem Declaration.Shows.within {declaration : Declaration} {part : TypeExpr}
    (h : declaration.Shows part) : part.Within declaration.type := by
  rcases h with hshown | ⟨fields, htype, field, hfield, -, hshown⟩
  · exact hshown.within
  · rw [htype]
    exact .member hfield hshown.within

/-- A name without a mark is a type parameter only as the placeholder. -/
theorem mem_typeParams_iff {options : Options} {declaration : Declaration} {emitted : Emitted}
    (h : declaration.emit options = .ok emitted) {name : String}
    (hshows : declaration.Shows (.named name false)) (hfree : name ∉ declaration.typeParams) :
    name ∈ emitted.typeParams ↔ declaration.typeParams = [] ∧ name = options.placeholder := by
  have hmention := TypeExpr.within_iff_mention.mp hshows.within
  rw [(header_of_emit h).2, Declaration.genericParams]
  cases hparams : declaration.typeParams with
  | cons first rest =>
      rw [hparams] at hfree
      exact iff_of_false hfree fun hnone => List.cons_ne_nil _ _ hnone.1
  | nil =>
      rw [List.isEmpty_nil, if_pos rfl]
      by_cases hplaceholder : name = options.placeholder
      · -- the declaration mentions the placeholder
        have hany : (declaration.type.mentions.any (·.1 == options.placeholder)) = true :=
          List.any_eq_true.mpr ⟨_, hmention, beq_iff_eq.mpr hplaceholder⟩
        rw [if_pos hany, List.mem_singleton]
        exact ⟨fun hname => ⟨rfl, hname⟩, fun hname => hname.2⟩
      · refine iff_of_false ?_ fun hname => hplaceholder hname.2
        split
        · rwa [List.mem_singleton]
        · exact List.not_mem_nil

/-- Imports and type parameters bind every name once, but for the placeholder.  For every
    declaration of a file that was read, all options, and every exported name at a place
    that is written out: the name is imported exactly if it is not bound in the file and
    is no type parameter, if and only if it is bound in the file, or is not the
    placeholder, or the declaration embeds it exactly if it has type parameters of its
    own. -/
theorem bound_once_unless_placeholder {source path : String} {unit : SourceUnit}
    (hparse : Go.parse source path = .ok unit) {declaration : Declaration}
    (hdeclaration : declaration ∈ unit.declarations) {options : Options} {emitted : Emitted}
    (hemit : declaration.emit options = .ok emitted) {name : String} {mark : Bool}
    (hexported : isExported name = true) (hshows : declaration.Shows (.named name mark)) :
    (name ∈ emitted.imports.internal ↔ mark = false ∧ name ∉ emitted.typeParams)
      ↔ (mark = false → name = options.placeholder →
        (declaration.Embeds (.named name false) ↔ declaration.typeParams ≠ [])) := by
  obtain ⟨items, -, rfl⟩ := Go.parse_eq_ok.mp hparse
  have hmark := Go.mark_of_within hdeclaration hshows.within
  rw [Declaration.emit_imports hemit, mem_internal_ofUses]
  cases mark with
  | true =>
      -- a name that is imported has no mark, and all its marks are the same
      have hunused : Use.own name ∉ declaration.uses options := by
        intro huse
        have hwithin := TypeExpr.within_iff_mention.mpr (Declaration.mention_of_use huse)
        cases (Go.mark_of_within hdeclaration hwithin).mpr (hmark.mp rfl)
      refine iff_of_true (iff_of_false hunused ?_) ?_
      · rintro ⟨⟨⟩, -⟩
      · rintro ⟨⟩
  | false =>
      have hfree : name ∉ declaration.typeParams := fun hparam => by
        cases hmark.mpr (Or.inr hparam)
      rw [Declaration.own_mem_uses_iff hemit, mem_typeParams_iff hemit hshows hfree]
      simp only [hexported, hshows, true_and, and_true, forall_const]
      by_cases hplaceholder : name = options.placeholder
      · simp only [hplaceholder, ne_eq, not_true, or_false, and_true, forall_const]
      · simp only [hplaceholder, ne_eq, not_false_iff, or_true, and_false, false_implies]

/-- A name that is imported is shown. -/
theorem shows_of_mem_internal {options : Options} {declaration : Declaration} {emitted : Emitted}
    (h : declaration.emit options = .ok emitted) {name : String}
    (hname : name ∈ emitted.imports.internal) :
    isExported name = true ∧ declaration.Shows (.named name false) := by
  rw [Declaration.emit_imports h, mem_internal_ofUses, Declaration.own_mem_uses_iff h] at hname
  obtain ⟨hexported, ⟨fields, htype, field, hfield, hflag, htarget⟩ | ⟨-, hshows⟩⟩ := hname
  · refine ⟨hexported, Or.inr ⟨fields, htype, field, hfield, hflag, ?_⟩⟩
    rw [← TypeExpr.shownIn_target, htarget]
    exact .here
  · exact ⟨hexported, hshows⟩

/-- What the first declaration of a file binds: its own type parameters, those that are
    written out, its imports, and what it would import if there were no placeholder. -/
def bindings? (source : String) :
    Option (List String × List String × List String × List String) := do
  let unit ← (Go.parse source "p.go").toOption
  let declaration ← unit.declarations.head?
  let emitted ← (declaration.emit {}).toOption
  let other ← (declaration.emit { placeholder := "" }).toOption
  return (declaration.typeParams, emitted.typeParams, emitted.imports.internal,
    other.imports.internal)

theorem exists_emitted_of_bindings {source : String} {own bound imports shown : List String}
    (h : bindings? source = some (own, bound, imports, shown)) :
    ∃ unit declaration emitted, Go.parse source "p.go" = .ok unit
      ∧ declaration ∈ unit.declarations ∧ declaration.emit {} = .ok emitted
      ∧ declaration.typeParams = own ∧ emitted.typeParams = bound
      ∧ emitted.imports.internal = imports
      ∧ ∀ name ∈ shown, isExported name = true ∧ declaration.Shows (.named name false) := by
  obtain ⟨unit, hunit, hfound⟩ := Option.bind_eq_some_iff.mp h
  obtain ⟨declaration, hhead, hfound⟩ := Option.bind_eq_some_iff.mp hfound
  obtain ⟨emitted, hemitted, hfound⟩ := Option.bind_eq_some_iff.mp hfound
  obtain ⟨other, hother, hlists⟩ := Option.bind_eq_some_iff.mp hfound
  obtain ⟨hown, hlists⟩ := Prod.mk.inj (Option.some.inj hlists)
  obtain ⟨hbound, hlists⟩ := Prod.mk.inj hlists
  obtain ⟨himports, hshown⟩ := Prod.mk.inj hlists
  refine ⟨unit, declaration, emitted, toOption_eq_some.mp hunit, List.mem_of_mem_head? hhead,
    toOption_eq_some.mp hemitted, hown, hbound, himports, fun name hname => ?_⟩
  exact shows_of_mem_internal (toOption_eq_some.mp hother) (hshown ▸ hname)

/-- A file with a type that shows the placeholder in the argument of a supertype and in a
    member, and other names beside it. -/
def catalogSource : String :=
  "package p\n\ntype Catalog struct \x7b\n\tList[T]\n\tItems map[Key]*T\n\tnote Hidden\n\x7d\n"

theorem bound_once_unless_placeholder_in_catalog :
    ∃ unit catalog emitted, Go.parse catalogSource "p.go" = .ok unit
      ∧ catalog ∈ unit.declarations ∧ catalog.emit {} = .ok emitted
      ∧ catalog.Shows (.named "T" false) ∧ "T" ∈ emitted.typeParams
      ∧ "T" ∉ emitted.imports.internal
      ∧ catalog.Shows (.named "Key" false) ∧ "Key" ∈ emitted.imports.internal := by
  have hbindings : bindings? catalogSource
      = some ([], ["T"], ["List", "Key"], ["List", "T", "Key"]) := by
    decide +kernel
  obtain ⟨unit, catalog, emitted, hparse, hcatalog, hemit, hown, hbound, himports, hshown⟩ :=
    exists_emitted_of_bindings hbindings
  obtain ⟨hexportedT, hshowsT⟩ := hshown "T" (by decide)
  obtain ⟨hexportedKey, hshowsKey⟩ := hshown "Key" (by decide)
  have hembeds : ¬ catalog.Embeds (.named "T" false) := by
    intro hembeds
    have huse := (Declaration.own_mem_uses_iff hemit).mpr ⟨hexportedT, Or.inl hembeds⟩
    rw [← mem_internal_ofUses, ← Declaration.emit_imports hemit, himports] at huse
    exact absurd huse (by decide)
  have hT := (bound_once_unless_placeholder hparse hcatalog hemit hexportedT hshowsT).mpr
    fun _ _ => iff_of_false hembeds fun hne => hne hown
  have hKey := (bound_once_unless_placeholder hparse hcatalog hemit hexportedKey hshowsKey).mpr
    fun _ hsame => absurd hsame (by decide)
  refine ⟨unit, catalog, emitted, hparse, hcatalog, hemit, hshowsT, ?_, ?_, hshowsKey, ?_⟩
  · rw [hbound]
    exact List.mem_singleton.mpr rfl
  · rw [hT, hbound]
    exact fun hnot => hnot.2 (List.mem_singleton.mpr rfl)
  · rw [hKey, hbound]
    exact ⟨rfl, by decide⟩

/-- A file with a type without parameters that embeds the placeholder. -/
def twiceSource : String :=
  "package p\n\ntype Page struct \x7b\n\tT\n\tItems []T\n\x7d\n"

/-- A file with a type that has parameters and shows the placeholder beside them. -/
def neverSource : String :=
  "package p\n\ntype Pair[K any] struct \x7b\n\tKey K\n\tValue T\n\x7d\n"

/-- The placeholder may be bound twice, by an import and as a type parameter, and it may not
    be bound at all. -/
theorem placeholder_bound_twice_or_never :
    (∃ unit page emitted, Go.parse twiceSource "p.go" = .ok unit
      ∧ page ∈ unit.declarations ∧ page.emit {} = .ok emitted
      ∧ page.Shows (.named "T" false)
      ∧ "T" ∈ emitted.imports.internal ∧ "T" ∈ emitted.typeParams)
    ∧ ∃ unit pair emitted, Go.parse neverSource "p.go" = .ok unit
      ∧ pair ∈ unit.declarations ∧ pair.emit {} = .ok emitted
      ∧ pair.Shows (.named "T" false)
      ∧ "T" ∉ emitted.imports.internal ∧ "T" ∉ emitted.typeParams := by
  have htwice : bindings? twiceSource = some ([], ["T"], ["T"], ["T"]) := by decide +kernel
  have hnever : bindings? neverSource = some (["K"], ["K"], [], ["T"]) := by decide +kernel
  constructor
  · obtain ⟨unit, page, emitted, hparse, hpage, hemit, -, hbound, himports, hshown⟩ :=
      exists_emitted_of_bindings htwice
    refine ⟨unit, page, emitted, hparse, hpage, hemit, (hshown "T" (by decide)).2, ?_⟩
    rw [hbound, himports]
    decide
  · obtain ⟨unit, pair, emitted, hparse, hpair, hemit, -, hbound, himports, hshown⟩ :=
      exists_emitted_of_bindings hnever
    refine ⟨unit, pair, emitted, hparse, hpair, hemit, (hshown "T" (by decide)).2, ?_⟩
    rw [hbound, himports]
    decide

end StructScript
