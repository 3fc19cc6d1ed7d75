import StructScript.Proofs.ExpansionOnce
import StructScript.Proofs.Scopes

/-! # Whether expansion declares a name twice

    Expansion looks for the name of a companion among the declarations of the unit, and
    nowhere else.  A type that describes behaviour is none of them, though the file
    declares it.

    * `SourceUnit.perm_expand` says what an expanded unit declares: what is left of the
      unit, and the companions;
    * `SourceUnit.nodup_names_companions` says that the companions have names of their own
      among the declarations, since no two declarations have companions of one name;
    * so a name can only be declared twice if a type of that name was skipped, which is the
      condition of `names_stay_distinct_unless_companion_skipped`. -/

namespace StructScript

/-- Different declarations have companions of different names. -/
theorem companionName_inj {first second : String} :
    companionName first = companionName second ↔ first = second :=
  String.append_left_inj "Update"

/-- A companion has the name that belongs to its declaration. -/
theorem Declaration.name_companion {declaration companion : Declaration}
    (h : declaration.companion? = .ok (some companion)) :
    companion.name = companionName declaration.name := by
  obtain ⟨fields, updates, -, -, -, rfl⟩ := companion?_eq_some h
  rfl

/-- Whether a declaration with this outcome stays in its unit. -/
def Expansion.Outcome.stays (outcome : Expansion.Outcome) : Bool :=
  outcome.fault?.isNone

namespace SourceUnit

/-! ## What an expanded unit declares -/

/-- The declarations that stay, and the companions, in some order. -/
theorem perm_declarations (outcomes : List (Declaration × Expansion.Outcome)) :
    (outcomes.flatMap fun entry => entry.2.declarations entry.1).Perm
      ((outcomes.filter fun entry => entry.2.stays).map (·.1)
        ++ outcomes.filterMap fun entry => entry.2.companion?) := by
  induction outcomes with
  | nil => exact .nil
  | cons entry rest ih =>
      obtain ⟨declaration, outcome⟩ := entry
      cases outcome with
      | kept => exact ih.cons declaration
      | dropped fault => exact ih
      | extended companion =>
          -- the companion moves behind the declarations that stay
          exact ((ih.cons companion).trans List.perm_middle.symm).cons declaration

/-- An expanded unit holds declarations that were there and the companions. -/
theorem perm_expand (unit : SourceUnit) :
    ∃ left : List Declaration, left.Sublist unit.declarations
      ∧ unit.expand.unit.declarations.Perm (left ++ unit.expand.synthesized) := by
  refine ⟨_, ?_, perm_declarations unit.outcomes⟩
  have hfirst : unit.outcomes.map (·.1) = unit.declarations := by
    simp [outcomes, Function.comp_def]
  have hsublist : ((unit.outcomes.filter fun entry => entry.2.stays).map (·.1)).Sublist
      (unit.outcomes.map (·.1)) := List.filter_sublist.map _
  rwa [hfirst] at hsublist

/-! ## The names of companions -/

/-- No companion has the name of a declaration that was there. -/
theorem name_companion_not_mem {unit : SourceUnit} {companion : Declaration}
    (h : companion ∈ unit.expand.synthesized) : companion.name ∉ unit.names := by
  obtain ⟨declaration, -, hfresh, horigin⟩ := mem_synthesized.mp h
  rw [Declaration.name_companion horigin]
  exact hfresh

/-- Companions have names of their own: none is declared, and no two are the same. -/
theorem nodup_names_companions {unit : SourceUnit} (h : unit.names.Nodup) :
    (unit.names ++ unit.expand.synthesized.map (·.name)).Nodup := by
  refine List.nodup_append.mpr ⟨h, ?_, ?_⟩
  · have hdeclarations : unit.declarations.Pairwise fun first second => first.name ≠ second.name :=
      List.pairwise_map.mp h
    have hsynthesized : unit.expand.synthesized
        = unit.declarations.filterMap fun declaration =>
          (declaration.outcome unit.names).companion? := by
      show List.filterMap _ (List.map _ _) = _
      rw [List.filterMap_map]
      rfl
    rw [hsynthesized]
    refine List.pairwise_map.mpr (hdeclarations.filterMap _ ?_)
    intro first second hne companion hcompanion other hother heq
    have hfirst := ((first.outcome_companion? _ _).mp hcompanion).2
    have hsecond := ((second.outcome_companion? _ _).mp hother).2
    rw [Declaration.name_companion hfirst, Declaration.name_companion hsecond] at heq
    exact hne (companionName_inj.mp heq)
  · rintro name hname _ hcompanion rfl
    obtain ⟨companion, hmade, rfl⟩ := List.mem_map.mp hcompanion
    exact name_companion_not_mem hmade hname

/-- Whether no skipped type has the name of a companion that a declaration asks for. -/
def CompanionsFree (unit : SourceUnit) : Prop :=
  ∀ declaration ∈ unit.declarations, declaration.Asks →
    companionName declaration.name ∉ unit.skipped

/-- A companion of a skipped name is made if a declaration asks for it. -/
theorem companionsFree_iff {unit : SourceUnit} (h : (unit.names ++ unit.skipped).Nodup) :
    unit.CompanionsFree ↔ ∀ companion ∈ unit.expand.synthesized, companion.name ∉ unit.skipped := by
  constructor
  · intro hfree companion hcompanion
    obtain ⟨declaration, hdeclaration, -, hmade⟩ := mem_synthesized.mp hcompanion
    rw [Declaration.name_companion hmade]
    exact hfree declaration hdeclaration ⟨companion, hmade⟩
  · rintro hmade declaration hdeclaration ⟨companion, hcompanion⟩ hskipped
    -- a name that is skipped is not declared, so the companion is made
    have hfresh : companionName declaration.name ∉ unit.names := fun hname =>
      (List.nodup_append.mp h).2.2 _ hname _ hskipped rfl
    refine hmade companion (mem_synthesized.mpr ⟨declaration, hdeclaration, hfresh, hcompanion⟩) ?_
    rw [Declaration.name_companion hcompanion]
    exact hskipped

/-- All types of a file and its companions have different names if no companion has the
    name of a skipped type. -/
theorem nodup_types_companions_iff {unit : SourceUnit} (h : (unit.names ++ unit.skipped).Nodup) :
    (unit.names ++ unit.skipped ++ unit.expand.synthesized.map (·.name)).Nodup
      ↔ unit.CompanionsFree := by
  rw [companionsFree_iff h]
  obtain ⟨hnames, hskipped, happart⟩ := List.nodup_append.mp h
  obtain ⟨-, hcompanions, hfresh⟩ := List.nodup_append.mp (nodup_names_companions hnames)
  constructor
  · intro hall companion hcompanion hname
    exact (List.nodup_append.mp hall).2.2 _ (List.mem_append_right _ hname) _
      (List.mem_map_of_mem hcompanion) rfl
  · intro hfree
    refine List.nodup_append.mpr ⟨h, hcompanions, ?_⟩
    rintro name hname _ hcompanion rfl
    rcases List.mem_append.mp hname with hdeclared | hskip
    · exact hfresh name hdeclared name hcompanion rfl
    · obtain ⟨companion, hmade, rfl⟩ := List.mem_map.mp hcompanion
      exact hfree companion hmade hskip

/-- The names of an expanded unit, together with those that were skipped, are different
    under the same condition. -/
theorem nodup_expand_iff {unit : SourceUnit} (h : (unit.names ++ unit.skipped).Nodup) :
    (unit.expand.unit.names ++ unit.skipped).Nodup ↔ unit.CompanionsFree := by
  constructor
  · intro hexpanded
    rw [companionsFree_iff h]
    intro companion hcompanion hname
    exact (List.nodup_append.mp hexpanded).2.2 _
      (List.mem_map_of_mem (mem_expand_of_mem_synthesized hcompanion)) _ hname rfl
  · intro hfree
    obtain ⟨left, hleft, hperm⟩ := unit.perm_expand
    have hall := (nodup_types_companions_iff h).mpr hfree
    -- what an expanded unit declares is a part of what the file then declares
    have hpart : (left.map (·.name) ++ unit.skipped
        ++ unit.expand.synthesized.map (·.name)).Nodup :=
      hall.sublist (((hleft.map _).append_right _).append_right _)
    have hnames : unit.expand.unit.names.Perm
        (left.map (·.name) ++ unit.expand.synthesized.map (·.name)) := by
      rw [← List.map_append]
      exact hperm.map _
    refine ((hnames.append_right _).nodup_iff).mpr ?_
    refine (List.Perm.nodup_iff ?_).mp hpart
    rw [List.append_assoc, List.append_assoc]
    exact List.perm_append_comm.append_left _

end SourceUnit

namespace Go

/-- The types that a file declares are the declarations of its unit and those that are
    skipped. -/
theorem perm_specsOf (path : String) (items : List Item) :
    ((specsOf items).map (·.name)).Perm
      ((unitOf path items).names ++ (unitOf path items).skipped) := by
  have hnames : (unitOf path items).names
      = ((specsOf items).filter (·.isData)).map (·.name) := by
    show List.map _ (List.map _ _) = _
    rw [List.map_map]
    rfl
  rw [hnames]
  show List.Perm _ (List.map _ _ ++ List.map _ _)
  rw [← List.map_append]
  exact (List.filter_append_perm _ _).symm.map _

end Go

/-- Expansion declares no name twice, unless a struct asks for a companion that has the
    name of a skipped type.  For every file that can be read and whose types all have
    different names: the names of the expanded unit are different from each other and from
    those of the skipped types if and only if no struct asks for such a companion, and so
    are the names of the types of the file, once the companions are appended to it. -/
theorem names_stay_distinct_unless_companion_skipped {source path : String} {unit : SourceUnit}
    (hparse : Go.parse source path = .ok unit) (hdistinct : (unit.names ++ unit.skipped).Nodup) :
    ((unit.expand.unit.names ++ unit.skipped).Nodup ↔ unit.CompanionsFree)
    ∧ ∃ items, Go.items source = some items
      ∧ (((Go.specsOf items).map (·.name) ++ unit.expand.synthesized.map (·.name)).Nodup
        ↔ unit.CompanionsFree) := by
  refine ⟨SourceUnit.nodup_expand_iff hdistinct, ?_⟩
  obtain ⟨items, hitems, rfl⟩ := Go.parse_eq_ok.mp hparse
  refine ⟨items, hitems, ?_⟩
  rw [((Go.perm_specsOf path items).append_right _).nodup_iff]
  exact SourceUnit.nodup_types_companions_iff hdistinct

/-- A file with a struct that gets a companion, a type with the name that a companion of the
    companion would have, and a type that describes behaviour, under a name. -/
def keeperSource (name : String) : String :=
  "package p\n\ntype User struct \x7b\n\tName string \x60update:\"\"\x60\n\x7d\n\n"
    ++ "type UserUpdateUpdate string\n\ntype " ++ name ++ " interface \x7b\n\tKeep()\n\x7d\n"

theorem names_stay_distinct_unless_companion_skipped_beside_keeper :
    ∃ unit, Go.parse (keeperSource "Keeper") "user.go" = .ok unit
      ∧ unit.names = ["User", "UserUpdateUpdate"] ∧ unit.skipped = ["Keeper"]
      ∧ unit.expand.unit.names = ["User", "UserUpdate", "UserUpdateUpdate"]
      ∧ (unit.names ++ unit.skipped).Nodup ∧ unit.CompanionsFree := by
  have hlists : (Go.parse (keeperSource "Keeper") "user.go").toOption.map (fun unit =>
      (unit.names, unit.skipped, unit.expand.unit.names))
      = some (["User", "UserUpdateUpdate"], ["Keeper"],
        ["User", "UserUpdate", "UserUpdateUpdate"]) := by
    decide +kernel
  obtain ⟨unit, hunit, hfound⟩ := Option.map_eq_some_iff.mp hlists
  obtain ⟨hnames, hothers⟩ := Prod.mk.inj hfound
  obtain ⟨hskipped, hexpanded⟩ := Prod.mk.inj hothers
  have hparse := toOption_eq_some.mp hunit
  have hdistinct : (unit.names ++ unit.skipped).Nodup := by
    rw [hnames, hskipped]
    decide
  refine ⟨unit, hparse, hnames, hskipped, hexpanded, hdistinct, ?_⟩
  refine (names_stay_distinct_unless_companion_skipped hparse hdistinct).1.mp ?_
  rw [hexpanded, hskipped]
  decide

/-- The companion of a struct may be declared beside a skipped type of its name. -/
theorem companion_declared_beside_skipped :
    ∃ unit, Go.parse (keeperSource "UserUpdate") "user.go" = .ok unit
      ∧ (unit.names ++ unit.skipped).Nodup
      ∧ ¬ (unit.expand.unit.names ++ unit.skipped).Nodup := by
  have hboth : (Go.parse (keeperSource "UserUpdate") "user.go").toOption.map (fun unit =>
      decide ((unit.names ++ unit.skipped).Nodup
        ∧ ¬ (unit.expand.unit.names ++ unit.skipped).Nodup)) = some true := by
    decide +kernel
  obtain ⟨unit, hunit, hnames⟩ := Option.map_eq_some_iff.mp hboth
  exact ⟨unit, toOption_eq_some.mp hunit, of_decide_eq_true hnames⟩

end StructScript
