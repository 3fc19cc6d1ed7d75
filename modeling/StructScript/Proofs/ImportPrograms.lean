import StructScript.Proofs.Memberwise

/-! # Programs over import sets

    Import sets are filled step by step: a name is added to one of them, or the names of one
    go into another.  Sets may feed each other in circles, and a set may be fed to itself.

    * `ImportSets.step_eq` is what a step can do: it unites one set with what it adds, and the
      names that an update adds are those of the other set before the step;
    * `ImportSets.distinct_run` and `ImportSets.grows_run` are what a whole program keeps, from
      what a step keeps;
    * `ImportSets.updateEach_eq` says that it does not matter that an update is made name by
      name, on a set that is perhaps the one whose names are gone through. -/

namespace StructScript

/-- A step of a program over import sets that have names. -/
inductive ImportStep where
  /-- A reference into another package is added to a set. -/
  | external (target package symbol : String)
  /-- A name of the own package is added to a set. -/
  | internal (target symbol : String)
  /-- The names of a set are added to a set, which may be the same. -/
  | update (target other : String)
deriving DecidableEq, Repr

/-- Import sets by their names.  A set that no step has named is empty. -/
def ImportSets : Type := String → ImportSet

namespace ImportSets

/-- The sets before the first step. -/
def empty : ImportSets := fun _ => {}

/-- Sets with another one under a name. -/
def put (sets : ImportSets) (name : String) (imports : ImportSet) : ImportSets :=
  fun other => if other = name then imports else sets other

/-- The sets after a step. -/
def step (sets : ImportSets) : ImportStep → ImportSets
  | .external target package symbol => sets.put target ((sets target).addExternal package symbol)
  | .internal target symbol => sets.put target ((sets target).addInternal symbol)
  | .update target other => sets.put target ((sets target).union (sets other))

/-- The sets after a program. -/
def run (sets : ImportSets) (steps : List ImportStep) : ImportSets :=
  steps.foldl step sets

end ImportSets

namespace ImportStep

/-- The set that a step changes. -/
def target : ImportStep → String
  | .external target _ _ => target
  | .internal target _ => target
  | .update target _ => target

/-- What a step adds to its set, given the sets before it. -/
def added (sets : ImportSets) : ImportStep → ImportSet
  | .external _ package symbol => { external := [⟨package, symbol⟩] }
  | .internal _ symbol => { internal := [symbol] }
  | .update _ other => sets other

/-- Whether sets become others by a step as ordered sets do: what the step adds is put behind
    what its set has, each name stays where it stands first, and no other set changes. -/
structure Extends (step : ImportStep) (sets next : ImportSets) : Prop where
  external : (next step.target).external
    = ((sets step.target).external ++ (step.added sets).external).eraseDups
  internal : (next step.target).internal
    = ((sets step.target).internal ++ (step.added sets).internal).eraseDups
  others : ∀ name, name ≠ step.target → next name = sets name

end ImportStep

/-- Whether both lists of an import set start as those of another. -/
structure ImportSet.GrowsFrom (later imports : ImportSet) : Prop where
  external : imports.external <+: later.external
  internal : imports.internal <+: later.internal

/-! ## Unions of ordered sets -/

/-- Appending what is new to distinct items leaves the items of both without repetitions. -/
theorem appendAllNew_eq_eraseDups {α : Type} [DecidableEq α] {items : List α} (h : items.Nodup)
    (others : List α) : appendAllNew items others = (items ++ others).eraseDups := by
  rw [← appendAllNew_nil, appendAllNew_append, appendAllNew_nil_of_nodup h]

theorem appendAllNew_of_subset {α : Type} [DecidableEq α] {items others : List α}
    (h : ∀ item ∈ others, item ∈ items) : appendAllNew items others = items := by
  induction others with
  | nil => rfl
  | cons item rest ih =>
      obtain ⟨hitem, hrest⟩ := List.forall_mem_cons.mp h
      rw [appendAllNew, appendNew_of_mem hitem, ih hrest]

namespace ImportSet

/-- A union grows from its first part. -/
theorem growsFrom_union (imports other : ImportSet) : (imports.union other).GrowsFrom imports :=
  ⟨⟨_, (appendAllNew_eq_append_eraseDups _ _).symm⟩,
    ⟨_, (appendAllNew_eq_append_eraseDups _ _).symm⟩⟩

theorem GrowsFrom.trans {first second third : ImportSet} (h : third.GrowsFrom second)
    (hfirst : second.GrowsFrom first) : third.GrowsFrom first :=
  ⟨hfirst.external.trans h.external, hfirst.internal.trans h.internal⟩

/-- Adding names that are there already changes nothing. -/
theorem GrowsFrom.union_eq {later imports : ImportSet} (h : later.GrowsFrom imports) :
    later.union imports = later := by
  unfold union
  rw [appendAllNew_of_subset fun _ hitem => h.external.subset hitem,
    appendAllNew_of_subset fun _ hitem => h.internal.subset hitem]

theorem growsFrom_refl (imports : ImportSet) : imports.GrowsFrom imports :=
  ⟨List.prefix_refl _, List.prefix_refl _⟩

theorem union_self (imports : ImportSet) : imports.union imports = imports :=
  imports.growsFrom_refl.union_eq

theorem union_union_self (imports other : ImportSet) :
    (imports.union other).union other = imports.union other := by
  rw [← union_assoc, union_self]

end ImportSet

/-! ## Steps and programs -/

namespace ImportSets

/-- What is put under a name is found there. -/
theorem put_self (sets : ImportSets) (name : String) (imports : ImportSet) :
    sets.put name imports name = imports :=
  if_pos rfl

theorem put_of_ne {name other : String} (h : other ≠ name) (sets : ImportSets)
    (imports : ImportSet) : sets.put name imports other = sets other :=
  if_neg h

theorem put_eq_self (sets : ImportSets) (name : String) : sets.put name (sets name) = sets := by
  funext other
  by_cases h : other = name
  · rw [h, put_self]
  · rw [put_of_ne h]

/-- Of two sets that are put under a name, the last stays. -/
theorem put_put (sets : ImportSets) (name : String) (first second : ImportSet) :
    (sets.put name first).put name second = sets.put name second := by
  funext other
  by_cases h : other = name
  · rw [h, put_self, put_self]
  · rw [put_of_ne h, put_of_ne h, put_of_ne h]

/-- A step unites its set with what it adds. -/
theorem step_eq (sets : ImportSets) (step : ImportStep) :
    sets.step step = sets.put step.target ((sets step.target).union (step.added sets)) := by
  cases step with
  | external target package symbol => rfl
  | internal target symbol => rfl
  | update target other => rfl

theorem run_concat (sets : ImportSets) (steps : List ImportStep) (step : ImportStep) :
    sets.run (steps ++ [step]) = (sets.run steps).step step := by
  rw [run, List.foldl_append]
  rfl

theorem step_target (sets : ImportSets) (step : ImportStep) :
    sets.step step step.target = (sets step.target).union (step.added sets) := by
  rw [step_eq, put_self]

/-- A step changes no other set. -/
theorem step_of_ne {name : String} {step : ImportStep} (h : name ≠ step.target)
    (sets : ImportSets) : sets.step step name = sets name := by
  rw [step_eq, put_of_ne h]

/-- A step keeps sets distinct. -/
theorem distinct_step {sets : ImportSets} (h : ∀ name, (sets name).Distinct) (step : ImportStep)
    (name : String) : (sets.step step name).Distinct := by
  by_cases hname : name = step.target
  · rw [hname, step_target]
    exact (h _).union _
  · rw [step_of_ne hname]
    exact h name

/-- A step takes nothing away. -/
theorem grows_step (sets : ImportSets) (step : ImportStep) (name : String) :
    (sets.step step name).GrowsFrom (sets name) := by
  by_cases hname : name = step.target
  · rw [hname, step_target]
    exact ImportSet.growsFrom_union _ _
  · rw [step_of_ne hname]
    exact ImportSet.growsFrom_refl _

/-- A program keeps sets distinct. -/
theorem distinct_run {sets : ImportSets} (h : ∀ name, (sets name).Distinct)
    (steps : List ImportStep) (name : String) : (sets.run steps name).Distinct := by
  induction steps generalizing sets with
  | nil => exact h name
  | cons step rest ih => exact ih (distinct_step h step)

/-- A program takes nothing away. -/
theorem grows_run (sets : ImportSets) (steps : List ImportStep) (name : String) :
    (sets.run steps name).GrowsFrom (sets name) := by
  induction steps generalizing sets with
  | nil => exact ImportSet.growsFrom_refl _
  | cons step rest ih => exact (ih (sets.step step)).trans (sets.grows_step step name)

/-- On sets without duplicates every step is one of ordered sets. -/
theorem extends_step {sets : ImportSets} (h : ∀ name, (sets name).Distinct) (step : ImportStep) :
    step.Extends sets (sets.step step) := by
  refine ⟨?_, ?_, fun name hname => step_of_ne hname sets⟩
  · rw [step_target]
    exact appendAllNew_eq_eraseDups (h _).external _
  · rw [step_target]
    exact appendAllNew_eq_eraseDups (h _).internal _

/-! ## Updates -/

/-- An update name by name: first the references of the other set, then the names of the own
    package that it has after that. -/
def updateEach (sets : ImportSets) (target other : String) : ImportSets :=
  let halfway := sets.run ((sets other).external.map fun reference =>
    .external target reference.package reference.symbol)
  halfway.run ((halfway other).internal.map (.internal target))

/-- A program that goes through items and puts each into one set leaves all of them there. -/
theorem run_map {α : Type} {target : String} (stepOf : α → ImportStep)
    (whole : List α → ImportSet) (htarget : ∀ item, (stepOf item).target = target)
    (hnil : ∀ imports : ImportSet, imports.union (whole []) = imports)
    (hcons : ∀ (imports : ImportSet) (sets : ImportSets) (item : α) (rest : List α),
      (imports.union ((stepOf item).added sets)).union (whole rest)
        = imports.union (whole (item :: rest)))
    (sets : ImportSets) (items : List α) :
    sets.run (items.map stepOf) = sets.put target ((sets target).union (whole items)) := by
  induction items generalizing sets with
  | nil =>
      rw [hnil, put_eq_self]
      rfl
  | cons item rest ih =>
      show (sets.step (stepOf item)).run (rest.map stepOf) = _
      rw [ih, step_eq, htarget, put_put, put_self, hcons]

/-- Adding references one by one adds all of them. -/
theorem run_external (sets : ImportSets) (target : String) (references : List Reference) :
    sets.run (references.map fun reference =>
        .external target reference.package reference.symbol)
      = sets.put target ((sets target).union { external := references }) :=
  run_map (fun reference => .external target reference.package reference.symbol)
    (fun references => { external := references }) (fun _ => rfl) (fun _ => rfl)
    (fun _ _ _ _ => rfl) sets references

theorem run_internal (sets : ImportSets) (target : String) (symbols : List String) :
    sets.run (symbols.map (.internal target))
      = sets.put target ((sets target).union { internal := symbols }) :=
  run_map (.internal target) (fun symbols => { internal := symbols }) (fun _ => rfl)
    (fun _ => rfl) (fun _ _ _ _ => rfl) sets symbols

/-- An update name by name adds what the other set had before, even if it is the same set. -/
theorem updateEach_eq (sets : ImportSets) (target other : String) :
    sets.updateEach target other = sets.step (.update target other) := by
  have hinternal : (sets.put target
      ((sets target).union { external := (sets other).external }) other).internal
        = (sets other).internal := by
    by_cases h : other = target
    · rw [h, put_self]
      rfl
    · rw [put_of_ne h]
  simp only [updateEach, run_external, hinternal, run_internal, put_put, put_self]
  rfl

/-- What holds of updates of ordered sets, whichever of the sets are the same. -/
structure ObeysUpdateLaws (sets : ImportSets) : Prop where
  associative : ∀ first second third,
    sets.run [.update second third, .update first second] first
      = sets.run [.update first second, .update first third] first
  idempotent : ∀ first second,
    sets.run [.update first second, .update first second] = sets.run [.update first second]
  self : ∀ name, sets.run [.update name name] = sets
  empty_right : ∀ first second, sets second = {} → sets.run [.update first second] = sets
  empty_left : ∀ first second, sets first = {} →
    sets.run [.update first second] first = sets second

/-- Two updates of one set add both, in order. -/
theorem run_update_update (sets : ImportSets) (first second third : String) :
    sets.run [.update first second, .update first third] first
      = ((sets first).union (sets second)).union (sets third) := by
  show (sets.put first _).put first ((sets.put first _ first).union (sets.put first _ third)) first
    = _
  rw [put_self, put_self]
  by_cases h : third = first
  · -- the set is fed to itself, and has all that it had before
    rw [h, put_self, ImportSet.union_self, (ImportSet.growsFrom_union _ _).union_eq]
  · rw [put_of_ne h]

theorem run_update_through (sets : ImportSets) (first second third : String) :
    sets.run [.update second third, .update first second] first
      = (sets first).union ((sets second).union (sets third)) := by
  show (sets.put second _).put first
    ((sets.put second _ first).union (sets.put second _ second)) first = _
  rw [put_self, put_self]
  by_cases h : first = second
  · rw [h, put_self, ImportSet.union_self, ImportSet.union_assoc, ImportSet.union_self]
  · rw [put_of_ne h]

theorem obeysUpdateLaws {sets : ImportSets} (h : ∀ name, (sets name).Distinct) :
    sets.ObeysUpdateLaws where
  associative := by
    intro first second third
    rw [run_update_through, run_update_update, ImportSet.union_assoc]
  idempotent := by
    intro first second
    show (sets.put first _).put first
      ((sets.put first _ first).union (sets.put first _ second)) = sets.put first _
    rw [put_put, put_self]
    by_cases hsame : second = first
    · rw [hsame, put_self, ImportSet.union_self, ImportSet.union_self]
    · rw [put_of_ne hsame, ImportSet.union_union_self]
  self := by
    intro name
    show sets.put name ((sets name).union (sets name)) = sets
    rw [ImportSet.union_self, put_eq_self]
  empty_right := by
    intro first second hempty
    show sets.put first ((sets first).union (sets second)) = sets
    rw [hempty]
    exact sets.put_eq_self first
  empty_left := by
    intro first second hempty
    show sets.put first ((sets first).union (sets second)) first = sets second
    rw [put_self, hempty, (h second).empty_union]

end ImportSets

/-- Import sets are ordered sets under every program. -/
theorem import_sets_stay_ordered_sets (steps : List ImportStep) :
    (∀ name, (ImportSets.empty.run steps name).Distinct)
    ∧ (∀ step : ImportStep,
      step.Extends (ImportSets.empty.run steps) (ImportSets.empty.run (steps ++ [step])))
    ∧ (∀ target other, (ImportSets.empty.run steps).updateEach target other
      = ImportSets.empty.run (steps ++ [.update target other]))
    ∧ (ImportSets.empty.run steps).ObeysUpdateLaws
    ∧ ∀ (later : List ImportStep) (name : String),
      (ImportSets.empty.run (steps ++ later) name).GrowsFrom
        (ImportSets.empty.run steps name) := by
  have hdistinct : ∀ name, (ImportSets.empty.run steps name).Distinct :=
    ImportSets.distinct_run (fun _ => ImportSet.distinct_empty) steps
  refine ⟨hdistinct, fun step => ?_, fun target other => ?_,
    ImportSets.obeysUpdateLaws hdistinct, fun later name => ?_⟩
  · rw [ImportSets.run_concat]
    exact ImportSets.extends_step hdistinct step
  · rw [ImportSets.run_concat]
    exact ImportSets.updateEach_eq _ target other
  · rw [ImportSets.run, List.foldl_append]
    exact ImportSets.grows_run (ImportSets.empty.run steps) later name

-- two sets that feed each other, and one that is fed to itself
example : ImportSets.empty.run
    [.internal "a" "Item", .external "b" "geo" "Point", .internal "b" "Owner", .update "a" "b",
      .update "b" "a", .internal "b" "Item", .update "b" "b"] "b"
    = { external := [⟨"geo", "Point"⟩], internal := ["Owner", "Item"] } := by
  decide

end StructScript
