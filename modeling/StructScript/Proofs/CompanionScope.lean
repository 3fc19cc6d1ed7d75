import StructScript.Proofs.ExpansionOutcomes

/-! # The scope of companions

    The members of a companion have the types of the fields that they come from, with their
    marks.  A mark says that a name is bound: by a type of the file, or by a type parameter
    of the declaration.  The companion is declared in the same file, but has no type
    parameters.

    * `within_companion_iff` says which names stand in a companion;
    * `Go.closes_of_parse` says that every declaration of a file that was read is closed;
    * `SourceUnit.closes_companion_iff` says when its companion is closed too: a type
      parameter of the declaration is bound by nothing in the companion. -/

namespace StructScript

/-- Whether a name with a mark stands in the type of a field that asks for an update. -/
def Declaration.Updates (declaration : Declaration) (name : String) : Prop :=
  ∃ fields, declaration.type = .struct fields
    ∧ ∃ field ∈ fields, field.AsksUpdate ∧ (TypeExpr.named name true).Within field.type

/-- What a field gives to the companion is among all that is collected. -/
theorem exists_updates_of_mem {fields updates : List Field} {field : Field}
    (h : collectUpdates fields = .ok updates) (hfield : field ∈ fields) :
    ∃ here, field.updates = .ok here ∧ here ⊆ updates := by
  induction fields generalizing updates with
  | nil => cases hfield
  | cons first rest ih =>
      rw [collectUpdates] at h
      split at h
      · next found hfound =>
          obtain ⟨others, hothers, rfl⟩ := map_eq_ok.mp h
          rcases List.mem_cons.mp hfield with rfl | hrest
          · exact ⟨found, labelled_eq_ok.mp hfound, List.subset_append_left _ _⟩
          · obtain ⟨here, hhere, hsubset⟩ := ih hothers hrest
            exact ⟨here, hhere, List.subset_append_of_subset_right _ hsubset⟩
      · cases h

/-- A field that asks for an update has a member in the companion, with its type. -/
theorem exists_update_of_asks {fields updates : List Field} {field : Field}
    (h : collectUpdates fields = .ok updates) (hfield : field ∈ fields)
    (hasks : field.AsksUpdate) : ∃ update ∈ updates, update.type = .pointer field.type := by
  obtain ⟨here, hhere, hsubset⟩ := exists_updates_of_mem h hfield
  rcases field.updates_spec with ⟨-, fault, hfault, -⟩ | ⟨-, found, hfound, hnone⟩
  · cases hhere.symm.trans hfault
  · cases hhere.symm.trans hfound
    obtain ⟨update, hupdate⟩ := List.exists_mem_of_ne_nil here (mt hnone.mp (not_not_intro hasks))
    obtain ⟨jsonName, name, -, -, -, rfl⟩ := isUpdateOf_of_mem_updates hhere hupdate
    exact ⟨_, hsubset hupdate, rfl⟩

/-- A field that gives an update asks for it. -/
theorem Field.IsUpdateOf.asksUpdate {update field : Field} (h : update.IsUpdateOf field) :
    field.AsksUpdate := by
  obtain ⟨jsonName, -, hjson, -⟩ := h
  obtain ⟨literal, hliteral, hfound⟩ := Option.bind_eq_some_iff.mp hjson
  obtain ⟨tag, htag, hhas⟩ := Option.bind_eq_some_iff.mp hfound
  refine ⟨literal, tag, hliteral, toOption_eq_some.mp htag, ?_⟩
  split at hhas
  · next hupdate => exact hupdate
  · cases hhas

/-- The names with a mark in a companion are those in the fields that ask for an update. -/
theorem within_companion_iff {declaration companion : Declaration}
    (h : declaration.companion? = .ok (some companion)) {name : String} :
    (TypeExpr.named name true).Within companion.type ↔ declaration.Updates name := by
  obtain ⟨fields, updates, htype, hupdates, -, rfl⟩ := companion?_eq_some h
  constructor
  · intro hwithin
    cases hwithin with
    | @member _ update hupdate hin =>
        obtain ⟨field, hfield, hof⟩ := mem_collectUpdates hupdates hupdate
        refine ⟨fields, htype, field, hfield, hof.asksUpdate, ?_⟩
        obtain ⟨jsonName, shown, -, -, -, rfl⟩ := hof
        cases hin with
        | pointer hinner => exact hinner
  · rintro ⟨found, hfound, field, hfield, hasks, hwithin⟩
    cases htype.symm.trans hfound
    obtain ⟨update, hupdate, hpointer⟩ := exists_update_of_asks hupdates hfield hasks
    refine .member hupdate ?_
    rw [hpointer]
    exact .pointer hwithin

/-- Companions have no parameters. -/
theorem typeParams_companion {declaration companion : Declaration}
    (h : declaration.companion? = .ok (some companion)) : companion.typeParams = [] := by
  obtain ⟨fields, updates, -, -, -, rfl⟩ := companion?_eq_some h
  rfl

/-- A declaration whose names with a mark are types of the file or its own type
    parameters. -/
def SourceUnit.Closes (unit : SourceUnit) (declaration : Declaration) : Prop :=
  ∀ name, (TypeExpr.named name true).Within declaration.type →
    (name ∈ unit.names ∨ name ∈ unit.skipped) ∨ name ∈ declaration.typeParams

/-- Every declaration of a file that was read is closed. -/
theorem Go.closes_of_parse {source path : String} {unit : SourceUnit}
    (hparse : Go.parse source path = .ok unit) {declaration : Declaration}
    (hdeclaration : declaration ∈ unit.declarations) : unit.Closes declaration := by
  obtain ⟨items, -, rfl⟩ := Go.parse_eq_ok.mp hparse
  intro name hwithin
  exact ((Go.mark_of_within hdeclaration hwithin).mp rfl).imp_left Go.declares_iff_mem_unitOf.mp

/-- A name that the companion needs lies within the type of the declaration. -/
theorem Declaration.Updates.within {declaration : Declaration} {name : String}
    (h : declaration.Updates name) : (TypeExpr.named name true).Within declaration.type := by
  obtain ⟨fields, htype, field, hfield, -, hwithin⟩ := h
  rw [htype]
  exact .member hfield hwithin

/-- A companion has no type parameters, so it is closed unless a parameter of its
    declaration, under the name of no type of the file, stands in an updated field. -/
theorem SourceUnit.closes_companion_iff {unit : SourceUnit} {declaration companion : Declaration}
    (hcloses : unit.Closes declaration) (h : declaration.companion? = .ok (some companion)) :
    unit.Closes companion ↔ ∀ parameter ∈ declaration.typeParams, declaration.Updates parameter →
      parameter ∈ unit.names ∨ parameter ∈ unit.skipped := by
  constructor
  · intro hcompanion parameter _ hupdates
    rcases hcompanion parameter ((within_companion_iff h).mpr hupdates) with hdeclared | hown
    · exact hdeclared
    · rw [typeParams_companion h] at hown
      cases hown
  · intro hparameters name hwithin
    have hupdates := (within_companion_iff h).mp hwithin
    rcases hcloses name hupdates.within with hdeclared | hparameter
    · exact Or.inl hdeclared
    · exact Or.inl (hparameters name hparameter hupdates)

/-- For every file that was read and every companion made for it: the names with a mark
    in it are types of the file or type parameters of the declaration that it comes from,
    it has no type parameters itself, and it is closed exactly if no such parameter, under
    the name of no type of the file, stands in an updated field. -/
theorem companions_closed_unless_parameter_updated {source path : String} {unit : SourceUnit}
    (hparse : Go.parse source path = .ok unit) {companion : Declaration}
    (hcompanion : companion ∈ unit.expand.synthesized) :
    companion.typeParams = []
      ∧ ∃ declaration ∈ unit.declarations, declaration.companion? = .ok (some companion)
        ∧ (∀ name, (TypeExpr.named name true).Within companion.type →
          (name ∈ unit.names ∨ name ∈ unit.skipped) ∨ name ∈ declaration.typeParams)
        ∧ (unit.Closes companion ↔ ∀ parameter ∈ declaration.typeParams,
          declaration.Updates parameter → parameter ∈ unit.names ∨ parameter ∈ unit.skipped) := by
  obtain ⟨declaration, hdeclaration, -, hmade⟩ := SourceUnit.mem_synthesized.mp hcompanion
  have hcloses := Go.closes_of_parse hparse hdeclaration
  refine ⟨typeParams_companion hmade, declaration, hdeclaration, hmade, fun name hwithin => ?_,
    SourceUnit.closes_companion_iff hcloses hmade⟩
  exact hcloses name ((within_companion_iff hmade).mp hwithin).within

/-- A file with a companion of a type with a parameter, which no updated field mentions. -/
def shelfSource : String :=
  "package p\n\ntype Shelf[K any] struct \x7b\n\tKey K\n\tLabel string \x60update:\"\"\x60\n"
    ++ "\tBooks []Book \x60update:\"\"\x60\n\x7d\n\ntype Book string\n"

theorem companions_closed_unless_parameter_updated_on_shelf :
    ∃ unit companion, Go.parse shelfSource "shelf.go" = .ok unit
      ∧ unit.expand.synthesized.head? = some companion ∧ companion.name = "ShelfUpdate"
      ∧ (TypeExpr.named "Book" true).Within companion.type ∧ companion.typeParams = []
      ∧ unit.Closes companion := by
  have hlists : (Go.parse shelfSource "shelf.go").toOption.bind (fun unit =>
      unit.expand.synthesized.head?.map fun companion =>
        (companion.name, companion.type.mentions, unit.names))
      = some ("ShelfUpdate", [("string", false), ("Book", true)], ["Shelf", "Book"]) := by
    decide +kernel
  obtain ⟨unit, hunit, hfound⟩ := Option.bind_eq_some_iff.mp hlists
  obtain ⟨companion, hcompanion, hvalues⟩ := Option.map_eq_some_iff.mp hfound
  obtain ⟨hname, hvalues⟩ := Prod.mk.inj hvalues
  obtain ⟨hmentions, hnames⟩ := Prod.mk.inj hvalues
  have hparse := toOption_eq_some.mp hunit
  obtain ⟨hparams, declaration, -, hmade, -, hcloses⟩ :=
    companions_closed_unless_parameter_updated hparse (List.mem_of_mem_head? hcompanion)
  refine ⟨unit, companion, hparse, hcompanion, hname, ?_, hparams, hcloses.mpr ?_⟩
  · rw [TypeExpr.within_iff_mention, hmentions]
    decide
  · intro parameter _ hupdates
    have hwithin := (within_companion_iff hmade).mpr hupdates
    rw [TypeExpr.within_iff_mention, hmentions] at hwithin
    have hbook : parameter = "Book" := by simpa using hwithin
    rw [hbook, hnames]
    exact Or.inl (by decide)

/-- A file with a companion of a type with a parameter, which an updated field mentions. -/
def boxSource : String :=
  "package p\n\ntype Box[K any] struct \x7b\n\tValue K \x60update:\"\"\x60\n\x7d\n"

/-- A companion may mention a type parameter that nothing binds. -/
theorem companion_of_box_not_closed :
    ∃ unit, Go.parse boxSource "box.go" = .ok unit
      ∧ ∃ companion ∈ unit.expand.synthesized, ¬ unit.Closes companion := by
  have hlists : (Go.parse boxSource "box.go").toOption.bind (fun unit =>
      unit.expand.synthesized.head?.map fun companion =>
        (companion.type.mentions, companion.typeParams, unit.names, unit.skipped))
      = some ([("K", true)], [], ["Box"], []) := by
    decide +kernel
  obtain ⟨unit, hunit, hfound⟩ := Option.bind_eq_some_iff.mp hlists
  obtain ⟨companion, hcompanion, hvalues⟩ := Option.map_eq_some_iff.mp hfound
  obtain ⟨hmentions, hvalues⟩ := Prod.mk.inj hvalues
  obtain ⟨hparams, hvalues⟩ := Prod.mk.inj hvalues
  obtain ⟨hnames, hskipped⟩ := Prod.mk.inj hvalues
  refine ⟨unit, toOption_eq_some.mp hunit, companion, List.mem_of_mem_head? hcompanion, ?_⟩
  intro hcloses
  have hwithin : (TypeExpr.named "K" true).Within companion.type := by
    rw [TypeExpr.within_iff_mention, hmentions]
    decide
  have hbound := hcloses "K" hwithin
  rw [hnames, hskipped, hparams] at hbound
  revert hbound
  decide

end StructScript
