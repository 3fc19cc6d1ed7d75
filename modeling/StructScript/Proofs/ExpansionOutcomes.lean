import StructScript.Proofs.DistinctNames
import StructScript.Proofs.FaultPlaces

/-! # What becomes of each declaration

    Expansion looks at one declaration after the other.  What becomes of a declaration is
    said here in terms of its fields, without the steps in which a companion is made:

    * `Field.Blocks` are the fields of which no companion can be made, and
      `Field.blocks_iff` says that they are those that fail;
    * `Declaration.Becomes` lists the cases, and `Declaration.becomes_iff` says that they
      leave no choice and that expansion keeps to them;
    * `Expansion.filter_declarations` takes the companions out of an expanded unit again. -/

namespace StructScript

open SourceUnit (fault?)

/-! ## Fields -/

/-- Whether the tag of a field, if it has one, can be read. -/
def Field.TagReads (field : Field) : Prop :=
  ∀ literal, field.tag = some literal → ∃ tag, StructTag.parseLiteral literal = .ok tag

/-- Whether the tag of a field can be read and has the key that asks for an update. -/
def Field.AsksUpdate (field : Field) : Prop :=
  ∃ literal tag, field.tag = some literal ∧ StructTag.parseLiteral literal = .ok tag
    ∧ tag.has "update" = true

/-- Whether a field stands in the way of a companion: its tag cannot be read, or it asks for
    an update though it is embedded or has a type that cannot be updated. -/
def Field.Blocks (field : Field) : Prop :=
  ¬ field.TagReads ∨ field.AsksUpdate ∧ (field.names = [] ∨ field.type.isUpdatable = false)

/-- A type that can be updated passes the check. -/
theorem checkUpdateType_of_isUpdatable {type : TypeExpr} (h : type.isUpdatable = true) :
    checkUpdateType type = .ok () := by
  have hcheck := toOption_checkUpdateType type
  rw [h] at hcheck
  exact toOption_eq_some.mp hcheck

/-- A type that cannot be updated is a fault in no place yet. -/
theorem exists_fault_checkUpdateType {type : TypeExpr} (h : type.isUpdatable = false) :
    ∃ fault, checkUpdateType type = .error fault ∧ fault.context = [] := by
  cases type with
  | named name isLocal => cases h
  | selector package name => cases h
  | bytes => cases h
  | slice element =>
      cases element with
      | named name isLocal => cases h
      | _ => exact ⟨_, rfl, rfl⟩
  | _ => exact ⟨_, rfl, rfl⟩

/-- A field without a tag asks for nothing. -/
theorem Field.updates_of_no_tag {field : Field} (h : field.tag = none) : field.updates = .ok [] := by
  unfold Field.updates
  rw [h]

/-- What a field gives to a companion, once its tag is read. -/
theorem Field.updates_of_tag {field : Field} {literal : String} {tag : StructTag}
    (hliteral : field.tag = some literal) (htag : StructTag.parseLiteral literal = .ok tag) :
    field.updates
      = if !tag.has updateKey then .ok []
        else if field.isEmbedded then
          .error
            { cause := .unsupported field.type.describe "embedded"
                "embedded members cannot be updated" }
        else
          (checkUpdateType field.type).map fun _ =>
            field.names.map (updateField field.type (((tag.get? "json").map (·.name)).getD "")) := by
  unfold Field.updates
  rw [hliteral]
  simp only [htag]
  cases checkUpdateType field.type with
  | ok done => rfl
  | error fault => rfl

/-- A field with a tag asks for an update if the tag has the key. -/
theorem Field.asksUpdate_of_tag {field : Field} {literal : String} {tag : StructTag}
    (hliteral : field.tag = some literal) (htag : StructTag.parseLiteral literal = .ok tag) :
    field.AsksUpdate ↔ tag.has updateKey = true := by
  constructor
  · rintro ⟨other, found, hother, hfound, hhas⟩
    cases hliteral.symm.trans hother
    cases htag.symm.trans hfound
    exact hhas
  · exact fun hhas => ⟨literal, tag, hliteral, htag, hhas⟩

/-- A field whose tag can be read stands in the way only if it asks for an update. -/
theorem Field.blocks_of_tag {field : Field} {literal : String} {tag : StructTag}
    (hliteral : field.tag = some literal) (htag : StructTag.parseLiteral literal = .ok tag) :
    field.Blocks
      ↔ tag.has updateKey = true ∧ (field.names = [] ∨ field.type.isUpdatable = false) := by
  have hreads : field.TagReads := by
    intro other hother
    cases hliteral.symm.trans hother
    exact ⟨tag, htag⟩
  rw [← Field.asksUpdate_of_tag hliteral htag]
  exact ⟨fun h => h.resolve_left fun hunread => hunread hreads, Or.inr⟩

/-- What a field gives to a companion: a fault if it stands in the way, and else something
    if and only if it asks for an update. -/
theorem Field.updates_spec (field : Field) :
    (field.Blocks ∧ ∃ fault, field.updates = .error fault ∧ fault.context = [])
      ∨ ¬ field.Blocks ∧ ∃ updates, field.updates = .ok updates
        ∧ (updates = [] ↔ ¬ field.AsksUpdate) := by
  cases hliteral : field.tag with
  | none =>
      have hsilent : ¬ field.AsksUpdate := by
        rintro ⟨literal, -, hfound, -⟩
        cases hliteral.symm.trans hfound
      have hreads : field.TagReads := by
        intro literal hfound
        cases hliteral.symm.trans hfound
      refine Or.inr ⟨?_, [], Field.updates_of_no_tag hliteral, iff_of_true rfl hsilent⟩
      rintro (hunread | ⟨hasks, -⟩)
      · exact hunread hreads
      · exact hsilent hasks
  | some literal =>
      cases htag : StructTag.parseLiteral literal with
      | error fault =>
          refine Or.inl ⟨Or.inl fun hreads => ?_, fault, ?_, (explains_of_parseLiteral htag).2⟩
          · obtain ⟨tag, hfound⟩ := hreads literal hliteral
            cases htag.symm.trans hfound
          · unfold Field.updates
            rw [hliteral]
            simp only [htag]
      | ok tag =>
          rw [Field.blocks_of_tag hliteral htag, Field.asksUpdate_of_tag hliteral htag,
            Field.updates_of_tag hliteral htag]
          -- the key is looked for before the names, and these before the type
          cases hhas : tag.has updateKey with
          | false => exact Or.inr ⟨by simp, [], rfl, by simp⟩
          | true =>
              cases hnames : field.names with
              | nil =>
                  refine Or.inl ⟨⟨rfl, Or.inl rfl⟩, ?_⟩
                  simp [Field.isEmbedded, hnames]
              | cons first others =>
                  cases hupdatable : field.type.isUpdatable with
                  | false =>
                      obtain ⟨fault, hfault, hcontext⟩ := exists_fault_checkUpdateType hupdatable
                      refine Or.inl ⟨⟨rfl, Or.inr rfl⟩, fault, ?_, hcontext⟩
                      simp [Field.isEmbedded, hnames, hfault, Except.map]
                  | true =>
                      refine Or.inr ⟨by simp, ?_⟩
                      simp [Field.isEmbedded, hnames, checkUpdateType_of_isUpdatable hupdatable,
                        Except.map]

/-! ## Declarations -/

/-- The fault of a struct is that of its first field with one, in the place of the field. -/
theorem fault?_collectUpdates (fields : List Field) :
    fault? (collectUpdates fields)
      = fields.findSome? fun field => (fault? field.updates).map (Fault.within field.updateLabel) := by
  induction fields with
  | nil => rfl
  | cons field rest ih =>
      rw [collectUpdates, List.findSome?_cons, ← fault?_labelled]
      cases labelled field.updateLabel field.updates with
      | ok updates =>
          rw [← ih]
          exact fault?_map _ _
      | error fault => rfl

/-- No updates are collected if and only if no field asks for one. -/
theorem collectUpdates_eq_nil_iff {fields updates : List Field}
    (h : collectUpdates fields = .ok updates) :
    updates = [] ↔ ∀ field ∈ fields, ¬ field.AsksUpdate := by
  induction fields generalizing updates with
  | nil =>
      cases h
      exact iff_of_true rfl (fun _ hnone => by cases hnone)
  | cons field rest ih =>
      rw [collectUpdates] at h
      split at h
      · next here hhere =>
          obtain ⟨others, hothers, rfl⟩ := map_eq_ok.mp h
          rw [List.append_eq_nil_iff, ih hothers, List.forall_mem_cons]
          rcases field.updates_spec with ⟨-, fault, hfault, -⟩ | ⟨-, found, hfound, hasks⟩
          · cases (labelled_eq_ok.mp hhere).symm.trans hfault
          · cases (labelled_eq_ok.mp hhere).symm.trans hfound
            rw [hasks]
      · cases h

/-- A field stands in the way if and only if it fails. -/
theorem Field.blocks_iff {field : Field} : field.Blocks ↔ ∃ fault, fault? field.updates = some fault := by
  rcases field.updates_spec with ⟨hblocks, fault, hfault, -⟩ | ⟨hfree, updates, hupdates, -⟩
  · exact iff_of_true hblocks ⟨fault, by rw [hfault]; rfl⟩
  · refine iff_of_false hfree ?_
    rintro ⟨fault, hfault⟩
    rw [hupdates] at hfault
    cases hfault

/-- A field blocks nothing if it has no fault. -/
theorem Field.not_blocks_iff {field : Field} : ¬ field.Blocks ↔ fault? field.updates = none := by
  rw [Field.blocks_iff, Option.eq_none_iff_forall_ne_some]
  exact not_exists

/-- The fault of a field has no place yet. -/
theorem Field.context_updates {field : Field} {fault : Fault} (h : field.updates = .error fault) :
    fault.context = [] := by
  rcases field.updates_spec with ⟨-, found, hfound, hcontext⟩ | ⟨-, updates, hupdates, -⟩
  · cases h.symm.trans hfound
    exact hcontext
  · cases h.symm.trans hupdates

/-- Collecting updates fails at the first field that stands in the way. -/
theorem collectUpdates_eq_error {fields : List Field} {fault : Fault} :
    collectUpdates fields = .error fault
      ↔ ∃ before field after inner, fields = before ++ field :: after
        ∧ (∀ other ∈ before, ¬ other.Blocks) ∧ field.updates = .error inner
        ∧ fault = { inner with context := [field.updateLabel] } := by
  rw [← SourceUnit.fault?_eq_some, fault?_collectUpdates, List.findSome?_eq_some_iff]
  simp only [Option.map_eq_some_iff, Option.map_eq_none_iff, SourceUnit.fault?_eq_some,
    ← Field.not_blocks_iff]
  have hwithin : ∀ {field : Field} {inner : Fault}, field.updates = .error inner →
      inner.within field.updateLabel = { inner with context := [field.updateLabel] } := by
    intro field inner hinner
    show Fault.mk inner.cause (field.updateLabel :: inner.context) = _
    rw [Field.context_updates hinner]
  constructor
  · rintro ⟨before, field, after, rfl, ⟨inner, hinner, rfl⟩, hbefore⟩
    exact ⟨before, field, after, inner, rfl, hbefore, hinner, hwithin hinner⟩
  · rintro ⟨before, field, after, inner, rfl, hbefore, hinner, rfl⟩
    exact ⟨before, field, after, rfl, ⟨inner, hinner, hwithin hinner⟩, hbefore⟩

/-- Updates are collected if and only if no field stands in the way. -/
theorem exists_collectUpdates_iff {fields : List Field} :
    (∃ updates, collectUpdates fields = .ok updates) ↔ ∀ field ∈ fields, ¬ field.Blocks := by
  have hnone := fault?_collectUpdates fields
  cases hupdates : collectUpdates fields with
  | ok updates =>
      refine iff_of_true ⟨updates, rfl⟩ fun field hfield => ?_
      rw [hupdates] at hnone
      have hfault := List.findSome?_eq_none_iff.mp hnone.symm field hfield
      rw [Option.map_eq_none_iff] at hfault
      exact Field.not_blocks_iff.mpr hfault
  | error fault =>
      obtain ⟨before, field, after, inner, rfl, -, hinner, -⟩ := collectUpdates_eq_error.mp hupdates
      refine iff_of_false (by rintro ⟨updates, ⟨⟩⟩) fun hfree => ?_
      refine hfree field (List.mem_append_right _ List.mem_cons_self) (Field.blocks_iff.mpr ?_)
      exact ⟨inner, by rw [hinner]; rfl⟩

/-- What becomes of a declaration, given the names that its unit declares. -/
inductive Declaration.Becomes (existing : List String) (declaration : Declaration) :
    Expansion.Outcome → Prop where
  /-- Its companion is there already. -/
  | expanded : companionName declaration.name ∈ existing → Becomes existing declaration .kept
  /-- It is no struct. -/
  | shapeless : (∀ fields, declaration.type ≠ .struct fields) → Becomes existing declaration .kept
  /-- All tags can be read, and none asks for an update. -/
  | plain {fields : List Field} :
      declaration.type = .struct fields →
      (∀ field ∈ fields, field.TagReads ∧ ¬ field.AsksUpdate) →
      Becomes existing declaration .kept
  /-- A field stands in the way; the fault is that of the first such field. -/
  | dropped {before after : List Field} {field : Field} {fault : Fault} :
      companionName declaration.name ∉ existing →
      declaration.type = .struct (before ++ field :: after) →
      (∀ other ∈ before, ¬ other.Blocks) → field.Blocks → field.updates = .error fault →
      Becomes existing declaration (.dropped
        { fault with
          context := ["declaration " ++ declaration.name,
            "field " ++ field.names.headD "embedded member"] })
  /-- No field stands in the way, and some field asks for an update. -/
  | extended {fields : List Field} {companion : Declaration} :
      companionName declaration.name ∉ existing → declaration.type = .struct fields →
      (∀ field ∈ fields, ¬ field.Blocks) → (∃ field ∈ fields, field.AsksUpdate) →
      declaration.companion? = .ok (some companion) →
      Becomes existing declaration (.extended companion)

/-- The companion of a struct has the updates of its fields, if there are any. -/
theorem companion?_struct {declaration : Declaration} {fields : List Field}
    (h : declaration.type = .struct fields) :
    declaration.companion?
      = (labelled ("declaration " ++ declaration.name) (collectUpdates fields)).map fun updates =>
          if updates.isEmpty then none
          else some { name := companionName declaration.name, type := .struct updates } := by
  unfold Declaration.companion?
  rw [h]
  simp only
  cases collectUpdates fields with
  | error fault => rfl
  | ok updates =>
      cases updates with
      | nil => rfl
      | cons first rest => rfl

/-- A declaration without a companion is kept. -/
theorem Declaration.outcome_of_none {declaration : Declaration} (existing : List String)
    (h : declaration.companion? = .ok none) : declaration.outcome existing = .kept := by
  unfold Declaration.outcome
  rw [h]
  split
  · rfl
  · rfl

/-- Every case gives the outcome of the expansion. -/
theorem Declaration.Becomes.outcome_eq {existing : List String} {declaration : Declaration}
    {outcome : Expansion.Outcome} (h : declaration.Becomes existing outcome) :
    declaration.outcome existing = outcome := by
  cases h with
  | expanded hexists =>
      unfold Declaration.outcome
      rw [if_pos (List.contains_iff_mem.mpr hexists)]
  | shapeless hshape =>
      refine Declaration.outcome_of_none existing ?_
      unfold Declaration.companion?
      split
      · next fields htype => exact absurd htype (hshape fields)
      · rfl
  | @plain fields htype hplain =>
      have hfree : ∀ field ∈ fields, ¬ field.Blocks := by
        rintro field hfield (hunread | ⟨hasks, -⟩)
        · exact hunread (hplain field hfield).1
        · exact (hplain field hfield).2 hasks
      obtain ⟨updates, hupdates⟩ := exists_collectUpdates_iff.mpr hfree
      refine Declaration.outcome_of_none existing ?_
      rw [companion?_struct htype, hupdates,
        (collectUpdates_eq_nil_iff hupdates).mpr fun field hfield => (hplain field hfield).2]
      rfl
  | @dropped before after field fault hfresh htype hbefore _ hfault =>
      have hupdates := collectUpdates_eq_error.mpr
        ⟨before, field, after, fault, rfl, hbefore, hfault, rfl⟩
      unfold Declaration.outcome
      rw [if_neg fun hmem => hfresh (List.contains_iff_mem.mp hmem), companion?_struct htype, hupdates]
      rfl
  | @extended fields companion hfresh htype hfree hasks hcompanion =>
      unfold Declaration.outcome
      rw [if_neg fun hmem => hfresh (List.contains_iff_mem.mp hmem), hcompanion]

/-- A struct without its companion falls under one of the last three cases. -/
theorem Declaration.exists_becomes_of_struct {existing : List String} {declaration : Declaration}
    {fields : List Field} (hfresh : companionName declaration.name ∉ existing)
    (htype : declaration.type = .struct fields) :
    ∃ outcome, declaration.Becomes existing outcome := by
  cases hupdates : collectUpdates fields with
  | error fault =>
      obtain ⟨before, field, after, inner, rfl, hbefore, hinner, -⟩ :=
        collectUpdates_eq_error.mp hupdates
      have hblocks : field.Blocks := Field.blocks_iff.mpr ⟨inner, by rw [hinner]; rfl⟩
      exact ⟨_, .dropped hfresh htype hbefore hblocks hinner⟩
  | ok updates =>
      have hfree := exists_collectUpdates_iff.mp ⟨updates, hupdates⟩
      by_cases hnone : updates = []
      · have hsilent := (collectUpdates_eq_nil_iff hupdates).mp hnone
        refine ⟨_, .plain htype fun field hfield => ⟨?_, hsilent field hfield⟩⟩
        exact Classical.byContradiction fun hunread => hfree field hfield (Or.inl hunread)
      · have hasks : ∃ field ∈ fields, field.AsksUpdate := by
          refine Classical.byContradiction fun hsilent => hnone ?_
          refine (collectUpdates_eq_nil_iff hupdates).mpr fun field hfield hasks => ?_
          exact hsilent ⟨field, hfield, hasks⟩
        have hcompanion : declaration.companion?
            = .ok (some { name := companionName declaration.name, type := .struct updates }) := by
          rw [companion?_struct htype, hupdates]
          exact congrArg Except.ok (if_neg fun hempty => hnone (List.isEmpty_iff.mp hempty))
        exact ⟨_, .extended hfresh htype hfree hasks hcompanion⟩

/-- Every declaration falls under one of the cases. -/
theorem Declaration.becomes_outcome (existing : List String) (declaration : Declaration) :
    declaration.Becomes existing (declaration.outcome existing) := by
  by_cases hexists : companionName declaration.name ∈ existing
  · rw [(Declaration.Becomes.expanded hexists).outcome_eq]
    exact .expanded hexists
  · by_cases hshape : ∀ fields, declaration.type ≠ .struct fields
    · rw [(Declaration.Becomes.shapeless hshape : declaration.Becomes existing _).outcome_eq]
      exact .shapeless hshape
    · obtain ⟨fields, htype⟩ := Classical.not_forall_not.mp hshape
      obtain ⟨outcome, hbecomes⟩ := Declaration.exists_becomes_of_struct hexists htype
      rw [hbecomes.outcome_eq]
      exact hbecomes

/-- What becomes of a declaration is its outcome. -/
theorem Declaration.becomes_iff {existing : List String} {declaration : Declaration}
    {outcome : Expansion.Outcome} :
    declaration.Becomes existing outcome ↔ outcome = declaration.outcome existing := by
  constructor
  · exact fun h => h.outcome_eq.symm
  · rintro rfl
    exact declaration.becomes_outcome existing

/-! ## Units -/

/-- Without the declarations of some names, an expanded unit declares what it declared
    before, less what was dropped, if these are the names of its companions. -/
theorem Expansion.filter_declarations {names : List String}
    {outcomes : List (Declaration × Expansion.Outcome)}
    (hold : ∀ entry ∈ outcomes, entry.1.name ∉ names)
    (hnew : ∀ entry ∈ outcomes, ∀ companion, entry.2.companion? = some companion →
      companion.name ∈ names) :
    (outcomes.flatMap fun entry => entry.2.declarations entry.1).filter
        (fun declaration => !names.contains declaration.name)
      = (outcomes.filter fun entry => entry.2.stays).map (·.1) := by
  induction outcomes with
  | nil => rfl
  | cons entry rest ih =>
      obtain ⟨hentry, hrest⟩ := List.forall_mem_cons.mp hold
      obtain ⟨hmade, hothers⟩ := List.forall_mem_cons.mp hnew
      obtain ⟨declaration, outcome⟩ := entry
      rw [List.flatMap_cons, List.filter_append, ih hrest hothers]
      cases outcome with
      | kept =>
          show [declaration].filter _ ++ _ = declaration :: _
          rw [List.filter_cons_of_pos (by simpa using hentry)]
          rfl
      | dropped fault => rfl
      | extended companion =>
          show [declaration, companion].filter _ ++ _ = declaration :: _
          rw [List.filter_cons_of_pos (by simpa using hentry),
            List.filter_cons_of_neg (by simpa using hmade companion rfl)]
          rfl

/-- Expansion inserts companions and drops what fails, and does nothing else.  For every
    unit: the path, the package and the skipped names stay; every declaration has one
    outcome, which its fields and the names of the unit decide; the expanded unit declares
    what the outcomes say, one after the other, and the companions and the faults are those
    of the outcomes, in order.  If the companions are deleted, the declarations that were
    not dropped are left. -/
theorem expansion_inserts_companions_and_drops_faults (unit : SourceUnit) :
    unit.expand.unit.path = unit.path ∧ unit.expand.unit.package = unit.package
    ∧ unit.expand.unit.skipped = unit.skipped
    ∧ ∃ outcomes : List (Declaration × Expansion.Outcome),
      outcomes.map (·.1) = unit.declarations
      ∧ (∀ entry ∈ outcomes, ∀ outcome,
        entry.1.Becomes unit.names outcome ↔ outcome = entry.2)
      ∧ unit.expand.unit.declarations = outcomes.flatMap (fun entry => entry.2.declarations entry.1)
      ∧ unit.expand.synthesized = outcomes.filterMap (·.2.companion?)
      ∧ unit.expand.errors = outcomes.filterMap (·.2.fault?)
      ∧ unit.expand.unit.declarations.filter (fun declaration =>
          !(unit.expand.synthesized.map (·.name)).contains declaration.name)
        = (outcomes.filter (·.2.stays)).map (·.1) := by
  refine ⟨rfl, rfl, rfl, unit.outcomes, ?_, ?_, rfl, rfl, rfl, ?_⟩
  · simp [SourceUnit.outcomes, Function.comp_def]
  · intro entry hentry outcome
    obtain ⟨declaration, -, rfl⟩ := List.mem_map.mp hentry
    exact Declaration.becomes_iff
  · refine Expansion.filter_declarations ?_ ?_
    · intro entry hentry hname
      obtain ⟨declaration, hdeclaration, rfl⟩ := List.mem_map.mp hentry
      obtain ⟨companion, hcompanion, heq⟩ := List.mem_map.mp hname
      refine SourceUnit.name_companion_not_mem hcompanion ?_
      rw [heq]
      exact List.mem_map_of_mem hdeclaration
    · intro entry hentry companion hcompanion
      exact List.mem_map_of_mem (List.mem_filterMap.mpr ⟨entry, hentry, hcompanion⟩)

end StructScript
