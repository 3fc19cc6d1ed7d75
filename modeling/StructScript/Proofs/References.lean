import StructScript.Script.Declaration
import StructScript.Proofs.Memberwise

/-! # What the imports of a type are

    `TypeExpr.uses` reads a type from left to right and lists the names of other
    modules that it uses, as often as it uses them.  The imports that are
    collected while the type is expressed are that list with each name kept
    where it stands first:

    * `expressArguments_imports` and `expressEach_imports` are the two loops, over
      the arguments of a generic type and over the members of a struct;
    * `TypeExpr.express_imports` puts them together along the type;
    * `supertypeImports_eq` does the same for embedded members, whose names follow
      a rule of their own: neither the placeholder nor the table of scalars
      matters for them. -/

namespace StructScript

/-- The names of other modules that a type uses, from left to right.  A member
    that is written as a string uses none. -/
def TypeExpr.uses (options : Options) : TypeExpr → List Use
  | .named name isLocal =>
      if isExported name && !isLocal && name != options.placeholder then [.own name] else []
  | .selector package name =>
      match options.scalar? package name with
      | some _ => []
      | none => [.foreign ⟨package, name⟩]
  | .map key value => key.uses options ++ value.uses options
  | .generic base arguments =>
      base.uses options
        ++ arguments.attach.flatMap fun ⟨argument, _⟩ => argument.uses options
  | .pointer inner => inner.uses options
  | .slice element => element.uses options
  | .struct fields =>
      match h : collectMembers fields with
      | .ok members =>
          members.attach.flatMap fun ⟨member, hmember⟩ =>
            have := Member.sizeOf_type_lt h hmember
            if member.asString then [] else member.type.uses options
      | .error _ => []
  | .bytes | .any | .other _ _ => []
termination_by type => sizeOf type

/-- The names that a member of a struct uses. -/
def Member.uses (options : Options) (member : Member) : List Use :=
  if member.asString then [] else member.type.uses options

/-- The names that the type of an embedded member uses as a supertype. -/
def supertypeUses (options : Options) (type : TypeExpr) : List Use :=
  match Member.target type with
  | .named name isLocal => if isExported name && !isLocal then [.own name] else []
  | .selector package name => [.foreign ⟨package, name⟩]
  | .generic base arguments => (TypeExpr.generic base arguments).uses options
  | _ => []

/-- The names that a declaration uses: those of its supertypes, then those of
    its body. -/
def Declaration.uses (options : Options) (declaration : Declaration) : List Use :=
  match declaration.type with
  | .struct fields =>
      (fields.filter (·.isEmbedded)).flatMap (fun field => supertypeUses options field.type)
        ++ (TypeExpr.struct fields).uses options
  | type => type.uses options

-- the equations of `uses` are made here once, and not by each of the proofs that open it
attribute [local simp] TypeExpr.uses

/-- A generic type uses what its base and its arguments use. -/
theorem uses_generic (options : Options) (base : TypeExpr) (arguments : List TypeExpr) :
    (TypeExpr.generic base arguments).uses options
      = base.uses options ++ arguments.flatMap (TypeExpr.uses options) := by
  rw [TypeExpr.uses, List.flatMap_subtype (g := TypeExpr.uses options) (fun _ _ => rfl),
    List.unattach_attach]

/-- A struct uses what its members use. -/
theorem uses_struct {options : Options} {fields : List Field} {members : List Member}
    (h : collectMembers fields = .ok members) :
    (TypeExpr.struct fields).uses options = members.flatMap (Member.uses options) := by
  rw [TypeExpr.uses]
  split
  · next found hfound =>
      cases h.symm.trans hfound
      rw [List.flatMap_subtype (g := Member.uses options) (fun _ _ => rfl),
        List.unattach_attach]
  · next fault hfault => cases h.symm.trans hfault

/-! ## Types -/

/-- A name needs the imports of what it uses. -/
theorem expressName_imports (options : Options) (name : String) (isLocal : Bool) :
    (expressName options name isLocal).imports
      = .ofUses ((TypeExpr.named name isLocal).uses options) := by
  have hneeds : needsImport options name isLocal
      = (isExported name && !isLocal && name != options.placeholder) := by
    rw [needsImport, Bool.and_comm (!isLocal)]
  rw [TypeExpr.uses, ← hneeds]
  unfold expressName
  by_cases h : needsImport options name isLocal = true
  · simp only [if_pos h]
    exact (ImportSet.ofUses_own name).symm
  · simp only [if_neg h]
    exact ImportSet.ofUses_nil.symm

theorem expressSelector_imports (options : Options) (package name : String) :
    (expressSelector options package name).imports
      = .ofUses ((TypeExpr.selector package name).uses options) := by
  rw [TypeExpr.uses]
  unfold expressSelector
  cases options.scalar? package name with
  | some text => exact ImportSet.ofUses_nil.symm
  | none => exact (ImportSet.ofUses_foreign package name).symm

/-- The imports that arguments add to those collected before them. -/
theorem expressArguments_imports {options : Options} {arguments : List TypeExpr}
    (hargument : ∀ argument ∈ arguments, ∀ e, argument.express options = .ok e →
      e.imports = .ofUses (argument.uses options))
    {before : List Use} {found : List ScriptType × ImportSet}
    (h : expressArguments options (.ofUses before) arguments = .ok found) :
    found.2 = .ofUses (before ++ arguments.flatMap (TypeExpr.uses options)) := by
  induction arguments generalizing before found with
  | nil =>
      rw [expressArguments] at h
      cases h
      simp
  | cons argument rest ih =>
      obtain ⟨e, others, he, hothers, rfl⟩ := expressArguments_cons h
      -- the imports before the rest are again those of a list of uses
      rw [hargument argument List.mem_cons_self e he, ImportSet.union_ofUses] at hothers
      have hrest := ih (fun other hother => hargument other (List.mem_cons_of_mem _ hother))
        hothers
      show others.2 = _
      rw [hrest, List.flatMap_cons, List.append_assoc]

theorem Member.express_imports {options : Options} {member : Member}
    (htype : ∀ e, member.type.express options = .ok e →
      e.imports = .ofUses (member.type.uses options))
    {body : ExpressedBody} (h : member.express options = .ok body) :
    body.imports = .ofUses (member.uses options) := by
  unfold Member.express at h
  unfold Member.uses
  by_cases hstring : member.asString = true
  · rw [if_pos hstring] at h ⊢
    cases h
    rfl
  · rw [if_neg hstring] at h ⊢
    split at h
    · next e he =>
        cases h
        exact htype e (labelled_eq_ok.mp he)
    · cases h

/-- The imports of the members of a struct. -/
theorem expressEach_imports {options : Options} {members : List Member}
    (hmember : ∀ member ∈ members, ∀ e, member.type.express options = .ok e →
      e.imports = .ofUses (member.type.uses options))
    {body : ExpressedBody} (h : expressEach options members = .ok body) :
    body.imports = .ofUses (members.flatMap (Member.uses options)) := by
  induction members generalizing body with
  | nil =>
      cases h
      rfl
  | cons member rest ih =>
      obtain ⟨first, others, hfirst, hothers, rfl⟩ := expressEach_cons h
      have hhere := Member.express_imports (hmember member List.mem_cons_self) hfirst
      have hrest := ih (fun other hother => hmember other (List.mem_cons_of_mem _ hother))
        hothers
      show first.imports.union others.imports = _
      rw [hhere, hrest, ImportSet.union_ofUses, List.flatMap_cons]

/-- The imports of a type are its uses, each name where it stands first. -/
theorem TypeExpr.express_imports (options : Options) :
    ∀ (type : TypeExpr) (e : Expressed), type.express options = .ok e →
      e.imports = .ofUses (type.uses options) := by
  refine TypeExpr.express_induction ?_
  constructor
  case bytes =>
    rw [TypeExpr.uses]
    rfl
  case any =>
    rw [TypeExpr.uses]
    rfl
  case named => exact expressName_imports options
  case selector => exact expressSelector_imports options
  case pointer =>
    intro inner e hinner
    rw [TypeExpr.uses]
    exact hinner
  case slice =>
    intro element e helement
    rw [TypeExpr.uses]
    exact helement
  case map =>
    intro key value k v hkey hvalue
    rw [TypeExpr.uses, ← ImportSet.union_ofUses, ← hkey, ← hvalue]
  case generic =>
    intro base arguments b found _ hbase hargument hfound
    rw [hbase] at hfound
    rw [uses_generic]
    exact expressArguments_imports hargument hfound
  case struct =>
    intro fields members body hmembers hmember hbody
    rw [uses_struct hmembers]
    exact expressEach_imports hmember hbody

/-- The imports of the fields of a struct. -/
theorem expressStruct_imports {options : Options} {fields : List Field} {body : ExpressedBody}
    (h : expressStruct options fields = .ok body) :
    body.imports = .ofUses ((TypeExpr.struct fields).uses options) := by
  refine TypeExpr.express_imports options (.struct fields)
    { type := .object body.properties, imports := body.imports } ?_
  rw [express_struct, h]
  rfl

/-! ## Declarations -/

theorem supertype?_imports {options : Options} {type : TypeExpr} {found : Option Supertype}
    (h : supertype? options type = .ok found) :
    ImportSet.ofUses (supertypeUses options type)
      = (found.map (·.imports)).getD {} := by
  unfold supertype? at h
  split at h
  · next name isLocal htarget =>
      simp only [supertypeUses, htarget]
      by_cases hexported : isExported name = true
      · rw [if_pos hexported] at h
        cases h
        cases isLocal with
        | true =>
            rw [Bool.not_true, Bool.and_false]
            rfl
        | false =>
            rw [hexported]
            rfl
      · rw [if_neg hexported] at h
        cases h
        rw [Bool.eq_false_iff.mpr hexported]
        rfl
  · next package name htarget =>
      cases h
      simp only [supertypeUses, htarget]
      rfl
  · next base arguments htarget =>
      obtain ⟨e, he, rfl⟩ := map_eq_ok.mp h
      simp only [supertypeUses, htarget]
      exact (TypeExpr.express_imports options (.generic base arguments) e he).symm
  · cases h

/-- The imports collected from supertypes behind those collected before. -/
theorem foldl_imports_supertypes {options : Options} {fields : List Field}
    {parents : List Supertype} (h : supertypes options fields = .ok parents)
    (before : List Use) :
    parents.foldl (fun imports parent => imports.union parent.imports) (ImportSet.ofUses before)
      = ImportSet.ofUses (before
          ++ (fields.filter (·.isEmbedded)).flatMap fun field =>
            supertypeUses options field.type) := by
  induction fields generalizing parents before with
  | nil =>
      cases h
      simp
  | cons field rest ih =>
      rw [supertypes] at h
      by_cases hembedded : field.isEmbedded = true
      · rw [if_pos hembedded] at h
        split at h
        · next found hfound =>
            obtain ⟨others, hothers, rfl⟩ := map_eq_ok.mp h
            have hhere := supertype?_imports hfound
            have hnext : found.toList.foldl
                (fun imports parent => imports.union parent.imports) (ImportSet.ofUses before)
                = ImportSet.ofUses (before ++ supertypeUses options field.type) := by
              rw [← ImportSet.union_ofUses, hhere]
              cases found with
              | none => rfl
              | some parent => rfl
            rw [List.foldl_append, hnext, ih hothers, List.filter_cons_of_pos hembedded,
              List.flatMap_cons, List.append_assoc]
        · cases h
      · rw [if_neg hembedded] at h
        rw [ih h, List.filter_cons_of_neg hembedded]

theorem supertypeImports_eq {options : Options} {fields : List Field} {parents : List Supertype}
    (h : supertypes options fields = .ok parents) :
    supertypeImports parents
      = .ofUses ((fields.filter (·.isEmbedded)).flatMap fun field =>
          supertypeUses options field.type) :=
  foldl_imports_supertypes h []

/-- The imports of a declaration are its uses, each name where it stands
    first. -/
theorem Declaration.emit_imports {options : Options} {declaration : Declaration}
    {emitted : Emitted} (h : declaration.emit options = .ok emitted) :
    emitted.imports = .ofUses (declaration.uses options) := by
  obtain ⟨name, type, typeParams, isAlias⟩ := declaration
  unfold Declaration.emit at h
  unfold Declaration.uses
  cases type with
  | struct fields =>
      simp only at h ⊢
      split at h
      · next parents hparents =>
          obtain ⟨body, hbody, rfl⟩ := map_eq_ok.mp h
          rw [← ImportSet.union_ofUses, ← supertypeImports_eq hparents,
            ← expressStruct_imports hbody]
      · cases h
  | map key value =>
      simp only at h ⊢
      split at h
      · next k hk =>
          obtain ⟨v, hv, rfl⟩ := map_eq_ok.mp h
          rw [TypeExpr.uses, ← ImportSet.union_ofUses, key.express_imports options k hk,
            value.express_imports options v hv, ImportSet.empty_union_ofUses]
      · cases h
  | _ =>
      obtain ⟨e, he, rfl⟩ := map_eq_ok.mp h
      -- any other type adds its imports to an empty set
      rw [← TypeExpr.express_imports options _ e he]
      exact (TypeExpr.express_distinct options _ e he).empty_union

/-- Imports are exact and in the order of first uses, for a type, for the fields
    of a struct and for a declaration. -/
theorem imports_are_first_uses (options : Options) :
    (∀ (type : TypeExpr) (e : Expressed), type.express options = .ok e →
      e.imports = .ofUses (type.uses options))
    ∧ (∀ (fields : List Field) (body : ExpressedBody), expressStruct options fields = .ok body →
      body.imports = .ofUses ((TypeExpr.struct fields).uses options))
    ∧ (∀ (declaration : Declaration) (emitted : Emitted), declaration.emit options = .ok emitted →
      emitted.imports = .ofUses (declaration.uses options)) :=
  ⟨TypeExpr.express_imports options, fun _ _ => expressStruct_imports,
    fun _ _ => Declaration.emit_imports⟩

/-- Fields with supertypes, a scalar of another package, a number written as a
    string, and names that are used again at another depth. -/
def pageFields : List Field :=
  [⟨[], .named "Base" false, none⟩,
   ⟨[], .pointer (.selector "geo" "Point"), none⟩,
   ⟨["Items"], .slice (.pointer (.named "Item" false)), none⟩,
   ⟨["Meta"], .map (.named "string" false) (.struct
      [⟨["At"], .selector "time" "Time", none⟩,
       ⟨["Count"], .named "int" false, some "\x60json:\"count,string\"\x60"⟩,
       ⟨["By"], .generic (.selector "geo" "Point") [.named "Base" false, .named "Owner" false],
         none⟩]), none⟩]

theorem imports_are_first_uses_of_page :
    ∃ e body emitted,
      (TypeExpr.struct pageFields).express {} = .ok e
      ∧ e.imports = .ofUses ((TypeExpr.struct pageFields).uses {})
      ∧ expressStruct {} pageFields = .ok body
      ∧ body.imports = .ofUses ((TypeExpr.struct pageFields).uses {})
      ∧ Declaration.emit {} { name := "Page", type := .struct pageFields } = .ok emitted
      ∧ emitted.imports
        = .ofUses (Declaration.uses {} { name := "Page", type := .struct pageFields })
      ∧ emitted.imports
        = { external := [⟨"geo", "Point"⟩], internal := ["Base", "Item", "Owner"] } := by
  obtain ⟨htype, hfields, hdeclaration⟩ := imports_are_first_uses {}
  have hemitted : ((Declaration.emit {} { name := "Page", type := .struct pageFields }).toOption.map
      (·.imports)) = some ⟨[⟨"geo", "Point"⟩], ["Base", "Item", "Owner"]⟩ := by
    decide +kernel
  have hbody : (expressStruct {} pageFields).isOk = true := by decide +kernel
  cases hb : expressStruct {} pageFields with
  | error fault =>
      rw [hb] at hbody
      cases hbody
  | ok body =>
      cases he : Declaration.emit {} { name := "Page", type := .struct pageFields } with
      | error fault =>
          rw [he] at hemitted
          cases hemitted
      | ok emitted =>
          rw [he] at hemitted
          have hstruct : (TypeExpr.struct pageFields).express {}
              = .ok { type := .object body.properties, imports := body.imports } := by
            rw [express_struct, hb]
            rfl
          exact ⟨_, body, emitted, hstruct, htype _ _ hstruct, rfl, hfields _ _ hb, rfl,
            hdeclaration _ _ he, Option.some.inj hemitted⟩

end StructScript
