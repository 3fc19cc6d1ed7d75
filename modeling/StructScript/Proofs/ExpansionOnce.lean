import StructScript.Generation.Job
import StructScript.Proofs.Marks

/-! # Companions are made once

    Once the companions of a unit are declared in it, expanding it makes no
    others.  The second expansion meets two kinds of declarations:

    * those of the first unit: each has its companion beside it now, or had it
      before, or asks for none;
    * the companions of the first expansion.  The tag of a companion's member is
      pasted together from a name that nobody escapes, so it may well have the key
      `update`; but the member is a pointer, and a pointer cannot be updated
      (`not_asks_of_companion`).

    Marks of local names do not matter, by the laws of `Marks`. -/

namespace StructScript

/-- Whether a declaration asks for a companion that can be made. -/
def Declaration.Asks (declaration : Declaration) : Prop :=
  ∃ companion, declaration.companion? = .ok (some companion)

/-- Binding names changes nothing about what a declaration asks for. -/
theorem Declaration.asks_bind (scope : List String) (declaration : Declaration) :
    (declaration.bind scope).Asks ↔ declaration.Asks := by
  have hbind := declaration.companion?_bind scope
  constructor
  · rintro ⟨companion, h⟩
    rw [h] at hbind
    cases hhere : declaration.companion? with
    | error fault =>
        rw [hhere] at hbind
        cases hbind
    | ok found =>
        cases found with
        | none =>
            rw [hhere] at hbind
            cases hbind
        | some own => exact ⟨own, hhere⟩
  · rintro ⟨companion, h⟩
    rw [h] at hbind
    exact ⟨companion.bind scope, toOption_eq_some.mp hbind⟩

/-- A declaration without any marks. -/
def Declaration.unmarked (declaration : Declaration) : Declaration :=
  declaration.bind []

theorem Declaration.asks_of_unmarked_eq {first second : Declaration}
    (h : first.unmarked = second.unmarked) (hasks : first.Asks) : second.Asks := by
  have hunmarked : first.unmarked.Asks := (first.asks_bind []).mpr hasks
  rw [h] at hunmarked
  exact (second.asks_bind []).mp hunmarked

/-- Marks are not part of a declaration's own name. -/
theorem Declaration.name_of_unmarked_eq {first second : Declaration}
    (h : first.unmarked = second.unmarked) : first.name = second.name :=
  congrArg (·.name) h

/-! ## The companion of a companion -/

/-- Every member of a companion is a named pointer. -/
theorem pointer_of_mem_collectUpdates {fields updates : List Field} {update : Field}
    (h : collectUpdates fields = .ok updates) (hupdate : update ∈ updates) :
    ∃ name type, update.names = [name] ∧ update.type = .pointer type := by
  obtain ⟨field, -, jsonName, name, -, -, -, rfl⟩ := mem_collectUpdates h hupdate
  exact ⟨name, field.type, rfl, rfl⟩

/-- A named pointer gives nothing to a companion, whatever its tag says. -/
theorem updates_of_pointer {field : Field} {name : String} {type : TypeExpr}
    (hnames : field.names = [name]) (htype : field.type = .pointer type)
    {updates : List Field} (h : field.updates = .ok updates) : updates = [] := by
  obtain ⟨names, fieldType, tag⟩ := field
  simp only at hnames htype
  subst hnames htype
  have hoption := toOption_eq_some.mpr h
  rw [Field.toOption_updates] at hoption
  cases tag with
  | none => exact (Option.some.inj hoption).symm
  | some literal =>
      -- the tag may have the key, but then the pointer is refused
      obtain ⟨found, -, hfound⟩ := Option.bind_eq_some_iff.mp hoption
      split at hfound
      · exact (Option.some.inj hfound).symm
      · cases hfound

/-- Fields of pointers with one name each ask for no updates. -/
theorem collectUpdates_of_pointers {fields : List Field}
    (hfields : ∀ field ∈ fields, ∃ name type, field.names = [name] ∧ field.type = .pointer type)
    {updates : List Field} (h : collectUpdates fields = .ok updates) : updates = [] := by
  induction fields generalizing updates with
  | nil =>
      cases h
      rfl
  | cons field rest ih =>
      rw [collectUpdates] at h
      split at h
      · next here hhere =>
          obtain ⟨others, hothers, rfl⟩ := map_eq_ok.mp h
          obtain ⟨name, type, hnames, htype⟩ := hfields field List.mem_cons_self
          rw [updates_of_pointer hnames htype (labelled_eq_ok.mp hhere),
            ih (fun other hother => hfields other (List.mem_cons_of_mem _ hother)) hothers]
          rfl
      · cases h

/-- A companion does not ask for a companion of its own. -/
theorem not_asks_of_companion {declaration companion : Declaration}
    (h : declaration.companion? = .ok (some companion)) : ¬ companion.Asks := by
  rintro ⟨next, hnext⟩
  obtain ⟨fields, updates, -, hupdates, -, rfl⟩ := companion?_eq_some h
  -- the fields that are searched for updates are the updates of the first struct
  obtain ⟨members, nextUpdates, htype, hnextUpdates, hne, -⟩ := companion?_eq_some hnext
  cases htype
  exact hne (collectUpdates_of_pointers
    (fun member hmember => pointer_of_mem_collectUpdates hupdates hmember) hnextUpdates)

/-! ## The second expansion -/

/-- A unit that declares, up to marks, what another unit and its companions
    declare has all their names. -/
theorem mem_names_of_perm {later : SourceUnit} {declarations : List Declaration}
    (h : (later.declarations.map Declaration.unmarked).Perm
      (declarations.map Declaration.unmarked))
    {declaration : Declaration} (hdeclaration : declaration ∈ declarations) :
    declaration.name ∈ later.names := by
  have hmem := h.mem_iff.mpr (List.mem_map_of_mem hdeclaration)
  obtain ⟨same, hsame, heq⟩ := List.mem_map.mp hmem
  rw [← Declaration.name_of_unmarked_eq heq]
  exact List.mem_map_of_mem hsame

/-- A unit that declares, in any order and with any marks, what another unit
    declares together with its companions asks for no companion, and an
    expansion that is written back leaves its file alone. -/
theorem companions_are_made_once (unit later : SourceUnit)
    (h : (later.declarations.map Declaration.unmarked).Perm
      ((unit.declarations ++ unit.expand.synthesized).map Declaration.unmarked)) :
    later.expand.synthesized = []
    ∧ ∀ (disk : Disk) (path : Path),
        appendCompanions disk path later.expand.synthesized = .ok disk := by
  have hnone : later.expand.synthesized = [] := by
    refine List.eq_nil_iff_forall_not_mem.mpr fun companion hcompanion => ?_
    obtain ⟨second, hsecond, hfresh, hasks⟩ := SourceUnit.mem_synthesized.mp hcompanion
    obtain ⟨first, hfirst, hsame⟩ :=
      List.mem_map.mp (h.mem_iff.mp (List.mem_map_of_mem hsecond))
    have hfirstAsks : first.Asks := Declaration.asks_of_unmarked_eq hsame.symm ⟨companion, hasks⟩
    rw [← Declaration.name_of_unmarked_eq hsame] at hfresh
    rcases List.mem_append.mp hfirst with hold | hnew
    · -- a declaration of the first unit has its companion by now
      obtain ⟨own, hown⟩ := hfirstAsks
      by_cases hexists : companionName first.name ∈ unit.names
      · obtain ⟨declared, hdeclared, hname⟩ := List.mem_map.mp hexists
        exact hfresh (hname ▸ mem_names_of_perm h (List.mem_append_left _ hdeclared))
      · have hmade : own ∈ unit.expand.synthesized :=
          SourceUnit.mem_synthesized.mpr ⟨first, hold, hexists, hown⟩
        obtain ⟨fields, updates, -, -, -, hshape⟩ := companion?_eq_some hown
        have hname : own.name = companionName first.name := congrArg (·.name) hshape
        exact hfresh (hname ▸ mem_names_of_perm h (List.mem_append_right _ hmade))
    · -- a companion asks for nothing
      obtain ⟨origin, -, -, horigin⟩ := SourceUnit.mem_synthesized.mp hnew
      exact not_asks_of_companion horigin hfirstAsks
  refine ⟨hnone, fun disk path => ?_⟩
  rw [hnone]
  rfl

/-- A struct with a name in JSON that smuggles the key `update` into its
    companion, declared twice. -/
def smugglingUnit : SourceUnit :=
  let smuggler : Declaration :=
    { name := "User"
      type := .struct
        [⟨["ID"], .named "int" false, some "\x60json:\"id\" update:\"\"\x60"⟩,
         ⟨["Note"], .named "string" false,
           some "\x60json:\"x\\\" update:\\\"\" update:\"\"\x60"⟩] }
  { path := "user.go", package := some "models", declarations := [smuggler, smuggler] }

/-- The unit with its companions in front. -/
def smugglingUnitExtended : SourceUnit :=
  { smugglingUnit with
    declarations := smugglingUnit.expand.synthesized ++ smugglingUnit.declarations }

theorem companions_are_made_once_when_smuggled :
    smugglingUnit.expand.synthesized.map (·.name) = ["UserUpdate", "UserUpdate"]
    ∧ smugglingUnitExtended.expand.synthesized = [] :=
  ⟨by decide +kernel,
    (companions_are_made_once smugglingUnit smugglingUnitExtended
      (List.perm_append_comm.map _)).1⟩

end StructScript
