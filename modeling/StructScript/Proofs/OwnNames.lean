import StructScript.Script.Module
import StructScript.Proofs.Marks
import StructScript.Proofs.References

/-! # Names that a module both declares and imports

    A name of a type is imported from the own package when it is not marked as local.
    The marks are set when a file is read, from the types that the file declares.

    * `Declaration.mention_of_use` says that every imported name is a mention without a
      mark, wherever in the type it stands;
    * `Go.marksNames_of_parse` says that a file that was read has no such mention of a
      name that it declares;
    * companions come later, and have the marks of the fields that they come from.  So
      the only names that a module both declares and imports are those of companions
      that were made for it while its own declarations mention them already. -/

namespace StructScript

/-! ## Uses are mentions without a mark -/

theorem mem_mentionsOfFields {fields : List Field} {mention : String × Bool} :
    mention ∈ mentionsOfFields fields ↔ ∃ field ∈ fields, mention ∈ field.type.mentions := by
  induction fields with
  | nil => simp [mentionsOfFields]
  | cons field rest ih =>
      obtain ⟨names, type, tag⟩ := field
      rw [mentionsOfFields, List.mem_append, ih]
      simp only [List.mem_cons, exists_eq_or_imp]

/-- Types mention what each of them mentions. -/
theorem mem_mentionsOfTypes {types : List TypeExpr} {mention : String × Bool} :
    mention ∈ mentionsOfTypes types ↔ ∃ type ∈ types, mention ∈ type.mentions := by
  induction types with
  | nil => simp [mentionsOfTypes]
  | cons type rest ih =>
      rw [mentionsOfTypes, List.mem_append, ih]
      simp only [List.mem_cons, exists_eq_or_imp]

/-- The target of a type mentions what the type does. -/
theorem mentions_target (type : TypeExpr) : (Member.target type).mentions = type.mentions := by
  cases type with
  | pointer inner => rw [Member.target, TypeExpr.mentions]
  | _ => rfl

/-- A name of the own package that a type uses is mentioned in it without a mark. -/
theorem TypeExpr.mention_of_use (options : Options) {name : String} :
    ∀ (type : TypeExpr), Use.own name ∈ type.uses options → (name, false) ∈ type.mentions
  | .named found isLocal, h => by
      rw [TypeExpr.uses] at h
      split at h
      · next himported =>
          simp only [List.mem_singleton, Use.own.injEq] at h
          simp only [Bool.and_eq_true, Bool.not_eq_true'] at himported
          rw [TypeExpr.mentions, h, himported.1.2]
          exact List.mem_singleton.mpr rfl
      · cases h
  | .selector _ _, h => by
      rw [TypeExpr.uses] at h
      split at h
      · cases h
      · simp at h
  | .pointer inner, h => by
      rw [TypeExpr.uses] at h
      rw [TypeExpr.mentions]
      exact inner.mention_of_use options h
  | .slice element, h => by
      rw [TypeExpr.uses] at h
      rw [TypeExpr.mentions]
      exact element.mention_of_use options h
  | .map key value, h => by
      rw [TypeExpr.uses, List.mem_append] at h
      rw [TypeExpr.mentions, List.mem_append]
      exact h.imp (key.mention_of_use options) (value.mention_of_use options)
  | .generic base arguments, h => by
      rw [uses_generic, List.mem_append] at h
      rw [TypeExpr.mentions, List.mem_append]
      refine h.imp (base.mention_of_use options) fun harguments => ?_
      obtain ⟨argument, hargument, huse⟩ := List.mem_flatMap.mp harguments
      exact mem_mentionsOfTypes.mpr ⟨argument, hargument, argument.mention_of_use options huse⟩
  | .struct fields, h => by
      rw [TypeExpr.mentions, mem_mentionsOfFields]
      cases hmembers : collectMembers fields with
      | error fault =>
          -- a struct whose tags are malformed uses nothing
          rw [TypeExpr.uses] at h
          split at h
          · next members hfound => cases hmembers.symm.trans hfound
          · cases h
      | ok members =>
          rw [uses_struct hmembers] at h
          obtain ⟨member, hmember, huse⟩ := List.mem_flatMap.mp h
          unfold Member.uses at huse
          split at huse
          · cases huse
          · have hsize := Member.sizeOf_type_lt hmembers hmember
            have hmention := member.type.mention_of_use options huse
            obtain ⟨field, hfield, htype⟩ := Member.exists_field hmembers hmember
            rw [htype, mentions_target] at hmention
            exact ⟨field, hfield, hmention⟩
  | .bytes, h => by
      rw [TypeExpr.uses] at h
      cases h
  | .any, h => by
      rw [TypeExpr.uses] at h
      cases h
  | .other _ _, h => by
      rw [TypeExpr.uses] at h
      cases h
termination_by type => sizeOf type

/-- A supertype that is used is mentioned without a mark. -/
theorem mention_of_supertypeUse {options : Options} {type : TypeExpr} {name : String}
    (h : Use.own name ∈ supertypeUses options type) : (name, false) ∈ type.mentions := by
  unfold supertypeUses at h
  rw [← mentions_target type]
  split at h
  · next other isLocal htarget =>
      split at h
      · next himported =>
          simp only [List.mem_singleton, Use.own.injEq] at h
          simp only [Bool.and_eq_true, Bool.not_eq_true'] at himported
          rw [htarget, TypeExpr.mentions, h, himported.2]
          exact List.mem_singleton.mpr rfl
      · cases h
  · simp at h
  · next base arguments htarget =>
      rw [htarget]
      exact TypeExpr.mention_of_use options _ h
  · cases h

/-- A name of the own package that a declaration uses is mentioned in it without a
    mark. -/
theorem Declaration.mention_of_use {options : Options} {declaration : Declaration} {name : String}
    (h : Use.own name ∈ declaration.uses options) : (name, false) ∈ declaration.type.mentions := by
  unfold Declaration.uses at h
  split at h
  · next fields htype =>
      rw [htype]
      rcases List.mem_append.mp h with hsuper | hbody
      · obtain ⟨field, hfield, huse⟩ := List.mem_flatMap.mp hsuper
        rw [TypeExpr.mentions, mem_mentionsOfFields]
        exact ⟨field, (List.mem_filter.mp hfield).1, mention_of_supertypeUse huse⟩
      · exact TypeExpr.mention_of_use options _ hbody
  · exact TypeExpr.mention_of_use options _ h

/-! ## What a module declares and imports -/

/-- Whether a declaration can be written out. -/
def Declaration.Written (options : Options) (declaration : Declaration) : Prop :=
  ∃ emitted, declaration.emit options = .ok emitted

/-- A declaration is written out under its own name and with the type parameters it is
    generic in, whatever its type. -/
theorem header_of_emit {options : Options} {declaration : Declaration} {emitted : Emitted}
    (h : declaration.emit options = .ok emitted) :
    emitted.name = declaration.name ∧ emitted.typeParams = declaration.genericParams options := by
  unfold Declaration.emit at h
  simp only at h
  split at h
  · split at h
    · obtain ⟨body, -, rfl⟩ := map_eq_ok.mp h
      exact ⟨rfl, rfl⟩
    · cases h
  · split at h
    · obtain ⟨value, -, rfl⟩ := map_eq_ok.mp h
      exact ⟨rfl, rfl⟩
    · cases h
  · obtain ⟨e, -, rfl⟩ := map_eq_ok.mp h
    exact ⟨rfl, rfl⟩

/-- A declaration is written under its own name. -/
theorem name_of_emit {options : Options} {declaration : Declaration} {emitted : Emitted}
    (h : declaration.emit options = .ok emitted) : emitted.name = declaration.name :=
  (header_of_emit h).1

/-- What is written is what can be written of the declarations. -/
theorem SourceUnit.mem_emitted {options : Options} {unit : SourceUnit} {emitted : Emitted} :
    emitted ∈ unit.emitted options
      ↔ ∃ declaration ∈ unit.declarations, declaration.emit options = .ok emitted := by
  unfold SourceUnit.emitted SourceUnit.emitOne
  simp only [List.mem_filterMap, toOption_eq_some, labelled_eq_ok]

/-- The own names of several are those of each. -/
theorem mem_foldl_internal {name : String} {emitted : List Emitted} {imports : ImportSet} :
    name ∈ (emitted.foldl (fun imports one => imports.union one.imports) imports).internal
      ↔ name ∈ imports.internal ∨ ∃ one ∈ emitted, name ∈ one.imports.internal := by
  induction emitted generalizing imports with
  | nil => simp
  | cons first rest ih =>
      rw [List.foldl_cons, ih]
      show name ∈ appendAllNew _ _ ∨ _ ↔ _
      rw [mem_appendAllNew, or_assoc]
      simp only [List.mem_cons, exists_eq_or_imp]

/-- The own names among uses are those that are used. -/
theorem mem_internal_ofUses {name : String} {uses : List Use} :
    name ∈ (ImportSet.ofUses uses).internal ↔ Use.own name ∈ uses := by
  unfold ImportSet.ofUses
  simp only [List.mem_eraseDups, List.mem_filterMap]
  constructor
  · rintro ⟨use, huse, hname⟩
    cases use with
    | own other =>
        cases hname
        exact huse
    | foreign reference => cases hname
  · intro h
    exact ⟨_, h, rfl⟩

/-- A module needs the own names that a declaration in it uses. -/
theorem SourceUnit.mem_internal_convert {options : Options} {unit : SourceUnit}
    {synthesized : List Declaration} {priorErrors : List Fault} {name : String} :
    name ∈ (unit.convert options synthesized priorErrors).internal
      ↔ ∃ declaration ∈ unit.declarations, declaration.Written options
        ∧ Use.own name ∈ declaration.uses options := by
  show name ∈ (emittedImports (unit.emitted options)).internal ↔ _
  unfold emittedImports
  rw [mem_foldl_internal]
  constructor
  · rintro (hnone | ⟨emitted, hemitted, hname⟩)
    · cases hnone
    · obtain ⟨declaration, hdeclaration, hemit⟩ := SourceUnit.mem_emitted.mp hemitted
      rw [Declaration.emit_imports hemit, mem_internal_ofUses] at hname
      exact ⟨declaration, hdeclaration, ⟨emitted, hemit⟩, hname⟩
  · rintro ⟨declaration, hdeclaration, ⟨emitted, hemit⟩, huse⟩
    refine Or.inr ⟨emitted, SourceUnit.mem_emitted.mpr ⟨declaration, hdeclaration, hemit⟩, ?_⟩
    rw [Declaration.emit_imports hemit, mem_internal_ofUses]
    exact huse

/-- A module has the names of the declarations in it. -/
theorem SourceUnit.mem_names_convert {options : Options} {unit : SourceUnit}
    {synthesized : List Declaration} {priorErrors : List Fault} {name : String} :
    name ∈ (unit.convert options synthesized priorErrors).names
      ↔ ∃ declaration ∈ unit.declarations, declaration.Written options
        ∧ declaration.name = name := by
  show name ∈ (unit.emitted options).map (·.name) ↔ _
  rw [List.mem_map]
  constructor
  · rintro ⟨emitted, hemitted, rfl⟩
    obtain ⟨declaration, hdeclaration, hemit⟩ := SourceUnit.mem_emitted.mp hemitted
    exact ⟨declaration, hdeclaration, ⟨emitted, hemit⟩, (name_of_emit hemit).symm⟩
  · rintro ⟨declaration, hdeclaration, ⟨emitted, hemit⟩, rfl⟩
    exact ⟨emitted, SourceUnit.mem_emitted.mpr ⟨declaration, hdeclaration, hemit⟩,
      name_of_emit hemit⟩

/-! ## Marks of units -/

/-- Whether a unit mentions none of its own names without a mark. -/
def SourceUnit.MarksNames (unit : SourceUnit) : Prop :=
  ∀ declaration ∈ unit.declarations, ∀ name, (name, false) ∈ declaration.type.mentions →
    name ∉ unit.names

/-- A file that was read has its own names marked. -/
theorem Go.marksNames_of_parse {source path : String} {unit : SourceUnit}
    (h : parse source path = .ok unit) : unit.MarksNames := by
  obtain ⟨found, -, rfl⟩ := Go.parse_eq_ok.mp h
  intro declaration hdeclaration name hmention hname
  obtain ⟨spec, -, rfl⟩ := List.mem_map.mp hdeclaration
  have hdeclared : name ∈ (specsOf found).map (·.name) := by
    obtain ⟨other, hother, rfl⟩ := List.mem_map.mp hname
    obtain ⟨otherSpec, hotherSpec, rfl⟩ := List.mem_map.mp hother
    exact List.mem_map_of_mem (List.mem_filter.mp hotherSpec).1
  -- every mention of a declared name gets its mark
  have hmark := (TypeExpr.mark_of_mention_bind hmention).mpr (List.mem_append_left _ hdeclared)
  cases hmark

/-- A companion mentions what the fields mention that it comes from. -/
theorem mention_of_companion {declaration companion : Declaration}
    (h : declaration.companion? = .ok (some companion)) {mention : String × Bool}
    (hmention : mention ∈ companion.type.mentions) : mention ∈ declaration.type.mentions := by
  obtain ⟨fields, updates, htype, hupdates, -, rfl⟩ := companion?_eq_some h
  rw [TypeExpr.mentions, mem_mentionsOfFields] at hmention
  obtain ⟨update, hupdate, hmention⟩ := hmention
  obtain ⟨field, hfield, jsonName, name, -, -, -, rfl⟩ := mem_collectUpdates hupdates hupdate
  rw [htype, TypeExpr.mentions, mem_mentionsOfFields]
  refine ⟨field, hfield, ?_⟩
  rw [updateField, TypeExpr.mentions] at hmention
  exact hmention

namespace SourceUnit

/-- An expanded unit holds what was there or was made. -/
theorem mem_declarations_expand {unit : SourceUnit} {declaration : Declaration}
    (h : declaration ∈ unit.expand.unit.declarations) :
    declaration ∈ unit.declarations ∨ declaration ∈ unit.expand.synthesized := by
  obtain ⟨⟨origin, outcome⟩, horigin, hmem⟩ := List.mem_flatMap.mp h
  obtain ⟨found, hfound, heq⟩ := List.mem_map.mp horigin
  cases heq
  cases houtcome : origin.outcome unit.names with
  | kept =>
      rw [houtcome] at hmem
      exact Or.inl (List.mem_singleton.mp hmem ▸ hfound)
  | dropped fault =>
      rw [houtcome] at hmem
      cases hmem
  | extended companion =>
      rw [houtcome] at hmem
      rcases List.mem_cons.mp hmem with rfl | hcompanion
      · exact Or.inl hfound
      · cases List.mem_singleton.mp hcompanion
        refine Or.inr (List.mem_filterMap.mpr ⟨_, List.mem_map_of_mem hfound, ?_⟩)
        rw [houtcome]
        rfl

/-- What was made is in the expanded unit. -/
theorem mem_expand_of_mem_synthesized {unit : SourceUnit} {companion : Declaration}
    (h : companion ∈ unit.expand.synthesized) : companion ∈ unit.expand.unit.declarations := by
  obtain ⟨⟨origin, outcome⟩, horigin, hcompanion⟩ := List.mem_filterMap.mp h
  refine List.mem_flatMap.mpr ⟨_, horigin, ?_⟩
  cases outcome with
  | kept => cases hcompanion
  | dropped fault => cases hcompanion
  | extended found =>
      cases hcompanion
      exact List.mem_cons_of_mem _ (List.mem_singleton.mpr rfl)

/-- Expansion adds no mention of a name of the unit without a mark. -/
theorem MarksNames.expand {unit : SourceUnit} (h : unit.MarksNames) {declaration : Declaration}
    (hdeclaration : declaration ∈ unit.expand.unit.declarations) {name : String}
    (hmention : (name, false) ∈ declaration.type.mentions) : name ∉ unit.names := by
  rcases mem_declarations_expand hdeclaration with hown | hmade
  · exact h declaration hown name hmention
  · obtain ⟨origin, horigin, -, hcompanion⟩ := mem_synthesized.mp hmade
    exact h origin horigin name (mention_of_companion hcompanion hmention)

end SourceUnit

/-- The names that a module both declares and imports from its own package are those
    of companions.  For every file that can be read, all options, and with or without
    expansion: a name is declared and imported by the module if and only if the file
    was expanded, a companion of that name was made and written out, and a declaration
    that was written out uses the name as one of the own package. -/
theorem declared_and_imported_iff_companion_used {source path : String} {unit : SourceUnit}
    (hparse : Go.parse source path = .ok unit) (options : Options) (expand : Bool)
    (name : String) :
    let conversion := unit.convertExpanding options expand
    name ∈ conversion.names ∧ name ∈ conversion.internal
      ↔ expand = true
        ∧ (∃ companion ∈ unit.expand.synthesized, companion.Written options
          ∧ companion.name = name)
        ∧ ∃ declaration ∈ unit.expand.unit.declarations, declaration.Written options
          ∧ Use.own name ∈ declaration.uses options := by
  have hmarks := Go.marksNames_of_parse hparse
  intro conversion
  cases expand with
  | false =>
      refine iff_of_false ?_ (fun h => by cases h.1)
      rintro ⟨hname, hinternal⟩
      obtain ⟨declared, hdeclared, -, rfl⟩ := SourceUnit.mem_names_convert.mp hname
      obtain ⟨declaration, hdeclaration, -, huse⟩ := SourceUnit.mem_internal_convert.mp hinternal
      exact hmarks declaration hdeclaration _ (Declaration.mention_of_use huse)
        (List.mem_map_of_mem hdeclared)
  | true =>
      constructor
      · rintro ⟨hname, hinternal⟩
        obtain ⟨declaration, hdeclaration, -, huse⟩ := SourceUnit.mem_internal_convert.mp hinternal
        have hforeign := hmarks.expand hdeclaration (Declaration.mention_of_use huse)
        obtain ⟨declared, hdeclared, hwritten, rfl⟩ := SourceUnit.mem_names_convert.mp hname
        -- the name is none of the file's own, so it is that of a companion
        rcases SourceUnit.mem_declarations_expand hdeclared with hown | hmade
        · exact absurd (List.mem_map_of_mem hown) hforeign
        · exact ⟨rfl, ⟨declared, hmade, hwritten, rfl⟩,
            SourceUnit.mem_internal_convert.mp hinternal⟩
      · rintro ⟨-, ⟨companion, hmade, hwritten, hname⟩, huses⟩
        refine ⟨SourceUnit.mem_names_convert.mpr ⟨companion, ?_, hwritten, hname⟩,
          SourceUnit.mem_internal_convert.mpr huses⟩
        exact SourceUnit.mem_expand_of_mem_synthesized hmade

/-- A struct that gets a companion, and one that mentions the companion before it is
    made. -/
def requestSource : String :=
  "package p\n\ntype User struct \x7b\n\tName string \x60update:\"\"\x60\n\x7d\n\n"
    ++ "type Request struct \x7b\n\tBody UserUpdate\n\x7d\n"

theorem declared_and_imported_iff_companion_used_in_request :
    ∃ unit, Go.parse requestSource "request.go" = .ok unit
      ∧ (unit.convertExpanding {} false).internal = ["UserUpdate"]
      ∧ (∀ name ∈ (unit.convertExpanding {} false).names,
        name ∉ (unit.convertExpanding {} false).internal)
      ∧ ∃ companion ∈ unit.expand.synthesized, companion.Written {}
        ∧ companion.name = "UserUpdate" := by
  have hlists : (Go.parse requestSource "request.go").toOption.map (fun unit =>
      ((unit.convertExpanding {} false).internal, (unit.convertExpanding {} true).names,
        (unit.convertExpanding {} true).internal))
      = some (["UserUpdate"], ["User", "UserUpdate", "Request"], ["UserUpdate"]) := by
    decide +kernel
  obtain ⟨unit, hunit, hfound⟩ := Option.map_eq_some_iff.mp hlists
  have hparse := toOption_eq_some.mp hunit
  obtain ⟨hinternal, hexpanded⟩ := Prod.mk.inj hfound
  obtain ⟨hnames, himported⟩ := Prod.mk.inj hexpanded
  refine ⟨unit, hparse, hinternal, fun name hname hfalse => ?_, ?_⟩
  · cases ((declared_and_imported_iff_companion_used hparse {} false name).mp ⟨hname, hfalse⟩).1
  · refine ((declared_and_imported_iff_companion_used hparse {} true "UserUpdate").mp ?_).2.1
    rw [hnames, himported]
    decide

/-- A module may import a name that it declares itself. -/
theorem companion_declared_and_imported :
    ∃ unit, Go.parse requestSource "request.go" = .ok unit
      ∧ "UserUpdate" ∈ (unit.convertExpanding {} true).names
      ∧ "UserUpdate" ∈ (unit.convertExpanding {} true).internal := by
  have hboth : (Go.parse requestSource "request.go").toOption.map (fun unit =>
      decide ("UserUpdate" ∈ (unit.convertExpanding {} true).names
        ∧ "UserUpdate" ∈ (unit.convertExpanding {} true).internal)) = some true := by
    decide +kernel
  obtain ⟨unit, hunit, hmem⟩ := Option.map_eq_some_iff.mp hboth
  exact ⟨unit, toOption_eq_some.mp hunit, of_decide_eq_true hmem⟩

end StructScript
