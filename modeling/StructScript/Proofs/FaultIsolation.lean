import StructScript.Proofs.OwnNames

/-! # Failing declarations are left out and leave nothing behind

    A declaration may fail deep inside its type, when supertypes, members and imports
    of it have been found already.  None of these reaches the module:

    * `exists_pairs` takes a pass that keeps some items apart into the items that are
      kept and what becomes of each of them;
    * `SourceUnit.convert_sound` compares two conversions, that of a unit and that of
      the unit without its failing declarations: they differ in the faults alone;
    * `emittedImports_eq` says what the imports of a module are without looking at how
      they were put together. -/

namespace StructScript

/-- A pass that keeps some items, in order: the items that it keeps, each with what was
    found about it, and what is made of both. -/
theorem exists_pairs {α β γ : Type} (f : α → Option β) (g : α → β → γ) (items : List α) :
    ∃ pairs : List (α × β), pairs.map (·.1) = items.filter (fun item => (f item).isSome)
      ∧ pairs.map (fun pair => g pair.1 pair.2) = items.filterMap (fun item => (f item).map (g item))
      ∧ ∀ pair ∈ pairs, f pair.1 = some pair.2 := by
  induction items with
  | nil => exact ⟨[], rfl, rfl, by simp⟩
  | cons item rest ih =>
      obtain ⟨pairs, hitems, hmade, hpairs⟩ := ih
      cases hfound : f item with
      | none =>
          refine ⟨pairs, ?_, ?_, hpairs⟩
          · rw [List.filter_cons_of_neg (by simp [hfound]), hitems]
          · rw [List.filterMap_cons_none (by rw [hfound]; rfl), hmade]
      | some found =>
          refine ⟨(item, found) :: pairs, ?_, ?_, List.forall_mem_cons.mpr ⟨hfound, hpairs⟩⟩
          · rw [List.filter_cons_of_pos (by simp [hfound]), ← hitems, List.map_cons]
          · rw [List.filterMap_cons_some (by rw [hfound]; rfl), ← hmade, List.map_cons]

namespace SourceUnit

/-- The fault of an outcome is the one it failed with. -/
theorem fault?_eq_some {α : Type} {outcome : Except Fault α} {fault : Fault} :
    fault? outcome = some fault ↔ outcome = .error fault := by
  cases outcome with
  | ok value =>
      constructor
      · intro h
        cases h
      · intro h
        cases h
  | error found =>
      constructor
      · intro h
        exact congrArg Except.error (Option.some.inj h)
      · intro h
        exact congrArg some (Except.error.inj h)

/-- A label changes no declaration that is written. -/
theorem toOption_emitOne (options : Options) (declaration : Declaration) :
    (emitOne options declaration).toOption = (declaration.emit options).toOption := by
  unfold emitOne labelled
  cases declaration.emit options with
  | ok emitted => rfl
  | error fault => rfl

/-- A fault gets the label of its declaration. -/
theorem fault?_emitOne (options : Options) (declaration : Declaration) :
    fault? (emitOne options declaration)
      = (fault? (declaration.emit options)).map (Fault.within (declarationLabel declaration.name)) := by
  unfold emitOne labelled
  cases declaration.emit options with
  | ok emitted => rfl
  | error fault => rfl

/-- A unit without the declarations that cannot be written. -/
def sound (options : Options) (unit : SourceUnit) : SourceUnit :=
  { unit with
    declarations := unit.declarations.filter fun declaration => (declaration.emit options).isOk }

/-- The declarations of a unit that cannot be written. -/
def failing (options : Options) (unit : SourceUnit) : List Declaration :=
  unit.declarations.filter fun declaration => !(declaration.emit options).isOk

/-- An outcome is good if it has a value. -/
theorem isOk_eq_isSome_toOption {α : Type} (outcome : Except Fault α) :
    outcome.isOk = outcome.toOption.isSome := by
  cases outcome with
  | ok value => rfl
  | error fault => rfl

/-- An outcome is good if it has no fault. -/
theorem isOk_eq_isNone_fault? {α : Type} (outcome : Except Fault α) :
    outcome.isOk = (fault? outcome).isNone := by
  cases outcome with
  | ok value => rfl
  | error fault => rfl

/-- Leaving out what fails anyway leaves what is written as it is. -/
theorem emitted_sound (options : Options) (unit : SourceUnit) :
    (unit.sound options).emitted options = unit.emitted options := by
  show (unit.declarations.filter _).filterMap _ = unit.declarations.filterMap _
  rw [List.filterMap_filter]
  congr 1
  funext declaration
  rw [toOption_emitOne]
  cases declaration.emit options with
  | ok emitted => rfl
  | error fault => rfl

/-- The sound declarations of a unit have no faults. -/
theorem emitFaults_sound (options : Options) (unit : SourceUnit) :
    (unit.sound options).emitFaults options = [] := by
  refine List.filterMap_eq_nil_iff.mpr fun declaration hdeclaration => ?_
  have hok := (List.mem_filter.mp hdeclaration).2
  rw [fault?_emitOne]
  cases hemit : declaration.emit options with
  | ok emitted => rfl
  | error fault =>
      rw [hemit] at hok
      cases hok

/-- Without its failing declarations a unit has no faults of its own, and nothing else
    about its conversion is different. -/
theorem convert_sound (options : Options) (unit : SourceUnit) (synthesized : List Declaration)
    (priorErrors : List Fault) :
    (unit.sound options).convert options synthesized priorErrors
      = { unit.convert options synthesized priorErrors with errors := priorErrors } := by
  unfold convert
  simp only [emitted_sound, emitFaults_sound, List.append_nil]
  rfl

/-- The declarations that are written out, each with what is written. -/
theorem exists_written (options : Options) (unit : SourceUnit) :
    ∃ written : List (Declaration × Emitted),
      written.map (·.1) = (unit.sound options).declarations
      ∧ written.map (·.2) = unit.emitted options
      ∧ ∀ entry ∈ written, entry.1.emit options = .ok entry.2 := by
  obtain ⟨written, hkept, hemitted, hwritten⟩ :=
    exists_pairs (fun declaration => (declaration.emit options).toOption)
      (fun _ emitted => emitted) unit.declarations
  refine ⟨written, ?_, ?_, fun entry hentry => toOption_eq_some.mp (hwritten entry hentry)⟩
  · rw [hkept]
    exact List.filter_congr fun declaration _ => (isOk_eq_isSome_toOption _).symm
  · rw [hemitted]
    unfold SourceUnit.emitted
    simp only [Option.map_id_fun', id, toOption_emitOne]

/-- The declarations that fail, each with its fault. -/
theorem exists_failed (options : Options) (unit : SourceUnit) :
    ∃ failed : List (Declaration × Fault),
      failed.map (·.1) = unit.failing options
      ∧ failed.map (fun entry => entry.2.within (declarationLabel entry.1.name))
        = unit.emitFaults options
      ∧ ∀ entry ∈ failed, entry.1.emit options = .error entry.2 := by
  obtain ⟨failed, hfailing, hfaults, hfailed⟩ :=
    exists_pairs (fun declaration => fault? (declaration.emit options))
      (fun declaration fault => fault.within (declarationLabel declaration.name)) unit.declarations
  refine ⟨failed, ?_, ?_, fun entry hentry => fault?_eq_some.mp (hfailed entry hentry)⟩
  · rw [hfailing]
    unfold failing
    simp only [isOk_eq_isNone_fault?, Option.not_isNone]
  · rw [hfaults]
    unfold emitFaults
    simp only [fault?_emitOne]

/-- The imports of a module are those of the uses in its declarations, in order. -/
theorem emittedImports_eq {options : Options} {written : List (Declaration × Emitted)}
    (h : ∀ entry ∈ written, entry.1.emit options = .ok entry.2) :
    emittedImports (written.map (·.2))
      = ImportSet.ofUses (written.flatMap fun entry => entry.1.uses options) := by
  have hfold : ∀ uses, (written.map (·.2)).foldl
      (fun imports emitted => imports.union emitted.imports) (ImportSet.ofUses uses)
      = ImportSet.ofUses (uses ++ written.flatMap fun entry => entry.1.uses options) := by
    induction written with
    | nil =>
        intro uses
        rw [List.flatMap_nil, List.append_nil]
        rfl
    | cons entry rest ih =>
        intro uses
        obtain ⟨hentry, hrest⟩ := List.forall_mem_cons.mp h
        rw [List.map_cons, List.foldl_cons, Declaration.emit_imports hentry,
          ImportSet.union_ofUses, ih hrest, List.flatMap_cons, List.append_assoc]
  exact hfold []

end SourceUnit

/-- Failing declarations are isolated.  The conversion of a unit and that of the unit
    without the declarations that cannot be written differ in their faults alone.  What
    can be written gives the names, in order, the texts with an empty line between
    neighbours, and the imports, each where it is used first; what cannot be written
    gives one fault each, in order, behind those from before, and the fault names the
    declaration first. -/
theorem failing_declarations_are_isolated (options : Options) (unit : SourceUnit)
    (synthesized : List Declaration) (priorErrors : List Fault) :
    let whole := unit.convert options synthesized priorErrors
    (unit.sound options).convert options synthesized priorErrors
        = { whole with errors := priorErrors }
      ∧ whole.names = (unit.sound options).names
      ∧ (∃ written : List (Declaration × Emitted),
        written.map (·.1) = (unit.sound options).declarations
        ∧ (∀ entry ∈ written, entry.1.emit options = .ok entry.2)
        ∧ whole.text = String.intercalate "\n\n" (written.map (·.2.text)))
      ∧ ImportSet.mk whole.external whole.internal
        = ImportSet.ofUses ((unit.sound options).declarations.flatMap (·.uses options))
      ∧ ∃ failed : List (Declaration × Fault),
        failed.map (·.1) = unit.failing options
        ∧ (∀ entry ∈ failed, entry.1.emit options = .error entry.2)
        ∧ whole.errors = priorErrors ++ failed.map fun entry =>
          { entry.2 with context := ("declaration " ++ entry.1.name) :: entry.2.context } := by
  intro whole
  obtain ⟨written, hkept, hemitted, hwritten⟩ := unit.exists_written options
  obtain ⟨failed, hfailing, hfaults, hfailed⟩ := unit.exists_failed options
  have hnames : whole.names = (unit.sound options).names := by
    calc (unit.emitted options).map (·.name)
        = written.map (·.2.name) := by rw [← hemitted, List.map_map]; rfl
      _ = written.map (·.1.name) :=
          List.map_congr_left fun entry hentry => name_of_emit (hwritten entry hentry)
      _ = (unit.sound options).names := by rw [SourceUnit.names, ← hkept, List.map_map]; rfl
  have himports : SourceUnit.emittedImports (unit.emitted options)
      = ImportSet.ofUses ((unit.sound options).declarations.flatMap (·.uses options)) := by
    rw [← hemitted, SourceUnit.emittedImports_eq hwritten, ← hkept, List.flatMap_map]
  refine ⟨unit.convert_sound options synthesized priorErrors, hnames,
    ⟨written, hkept, hwritten, ?_⟩, himports, failed, hfailing, hfailed, ?_⟩
  · show String.intercalate "\n\n" ((unit.emitted options).map (·.text)) = _
    rw [← hemitted, List.map_map]
    rfl
  · show priorErrors ++ unit.emitFaults options = _
    rw [← hfaults]
    rfl

end StructScript
