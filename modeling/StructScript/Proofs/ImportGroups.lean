import StructScript.Script.Module
import StructScript.Proofs.PropertyNames

/-! # Imports grouped by package

    A module has one import line for each package that it refers to.  The references come
    as one sequence in which packages are mixed and names repeated, and the groups are made
    by going through it once.

    * `firstSeen` says what the groups are without going through the sequence: the packages
      where they are first met, and with each its symbols where they are first met;
    * `addToGroup_firstSeen` is the step for one reference more, and
      `groupByPackage_eq_firstSeen` the whole sequence;
    * `ungrouped` takes groups apart again, and `IsGrouped` is what the groups of any
      sequence have in common: no package twice, no symbol twice in a group, no group
      without a symbol.  `groupByPackage_ungrouped` rebuilds exactly such groups;
    * `moduleUnder_eq_lines` gives the text of a module line by line. -/

namespace StructScript

open Script (OneLine unbroken_append)

section

variable {α : Type} [DecidableEq α]

/-- What comes last is new, or is dropped. -/
theorem eraseDups_concat (items : List α) (item : α) :
    (items ++ [item]).eraseDups = appendNew items.eraseDups item := by
  rw [← appendAllNew_nil, appendAllNew_append, appendAllNew_nil]
  rfl

theorem nodup_eraseDups (items : List α) : items.eraseDups.Nodup := by
  rw [← appendAllNew_nil]
  exact nodup_appendAllNew List.nodup_nil items

end

/-! ## First appearances -/

/-- The packages of references, in the order in which they are first met. -/
def packagesOf (references : List Reference) : List String :=
  (references.map (·.package)).eraseDups

/-- The symbols that references take from a package, in the order in which they are first
    met. -/
def symbolsFrom (package : String) (references : List Reference) : List String :=
  ((references.filter (·.package = package)).map (·.symbol)).eraseDups

/-- Every package of references with its symbols, both where they are first met. -/
def firstSeen (references : List Reference) : List (String × List String) :=
  (packagesOf references).map fun package => (package, symbolsFrom package references)

/-- The groups have the packages in the order in which they are first seen. -/
theorem packages_firstSeen (references : List Reference) :
    (firstSeen references).map (·.1) = packagesOf references := by
  rw [firstSeen, List.map_map]
  exact List.map_id _

/-- No package is named twice. -/
theorem nodup_packagesOf (references : List Reference) : (packagesOf references).Nodup :=
  nodup_eraseDups _

/-- The packages are those of the references. -/
theorem mem_packagesOf {references : List Reference} {package : String} :
    package ∈ packagesOf references ↔ ∃ reference ∈ references, reference.package = package := by
  rw [packagesOf, List.mem_eraseDups, List.mem_map]

/-- The symbols from a package are those of its references. -/
theorem mem_symbolsFrom {references : List Reference} {package symbol : String} :
    symbol ∈ symbolsFrom package references ↔ ⟨package, symbol⟩ ∈ references := by
  rw [symbolsFrom, List.mem_eraseDups, List.mem_map]
  constructor
  · rintro ⟨reference, hreference, rfl⟩
    obtain ⟨hmem, hpackage⟩ := List.mem_filter.mp hreference
    cases of_decide_eq_true hpackage
    exact hmem
  · intro hmem
    exact ⟨⟨package, symbol⟩, List.mem_filter.mpr ⟨hmem, decide_eq_true rfl⟩, rfl⟩

/-- A further reference brings its package, if it is new. -/
theorem packagesOf_concat (references : List Reference) (reference : Reference) :
    packagesOf (references ++ [reference])
      = appendNew (packagesOf references) reference.package := by
  rw [packagesOf, List.map_append]
  exact eraseDups_concat _ _

/-- A further reference brings its symbol to its package, if it is new. -/
theorem symbolsFrom_concat_self (references : List Reference) (reference : Reference) :
    symbolsFrom reference.package (references ++ [reference])
      = appendNew (symbolsFrom reference.package references) reference.symbol := by
  have hself : [reference].filter (·.package = reference.package) = [reference] :=
    List.filter_cons_of_pos (decide_eq_true rfl)
  rw [symbolsFrom, List.filter_append, hself, List.map_append]
  exact eraseDups_concat _ _

/-- A further reference brings nothing to other packages. -/
theorem symbolsFrom_concat_of_ne {package : String} {reference : Reference}
    (h : package ≠ reference.package) (references : List Reference) :
    symbolsFrom package (references ++ [reference]) = symbolsFrom package references := by
  have hnone : [reference].filter (·.package = package) = [] :=
    List.filter_cons_of_neg (by simpa using fun heq => h heq.symm)
  rw [symbolsFrom, List.filter_append, hnone, List.append_nil, symbolsFrom]

/-- Only the package of a reference gets a symbol from it. -/
theorem map_symbolsFrom_concat {packages : List String} {reference : Reference}
    (h : reference.package ∉ packages) (references : List Reference) :
    packages.map (fun package => (package, symbolsFrom package (references ++ [reference])))
      = packages.map fun package => (package, symbolsFrom package references) := by
  refine List.map_congr_left fun package hpackage => ?_
  rw [symbolsFrom_concat_of_ne fun heq => h (heq ▸ hpackage)]

/-- A package that was not met has no symbols. -/
theorem symbolsFrom_eq_nil {references : List Reference} {package : String}
    (h : package ∉ packagesOf references) : symbolsFrom package references = [] := by
  refine List.eq_nil_iff_forall_not_mem.mpr fun symbol hsymbol => h ?_
  exact mem_packagesOf.mpr ⟨_, mem_symbolsFrom.mp hsymbol, rfl⟩

/-! ## One reference more -/

/-- Groups of other packages are passed by. -/
theorem addToGroup_append {before : List (String × List String)} {reference : Reference}
    (h : reference.package ∉ before.map (·.1)) (rest : List (String × List String)) :
    addToGroup (before ++ rest) reference = before ++ addToGroup rest reference := by
  induction before with
  | nil => rfl
  | cons group others ih =>
      obtain ⟨package, symbols⟩ := group
      rw [List.map_cons, List.mem_cons, not_or] at h
      obtain ⟨hother, hothers⟩ := h
      rw [List.cons_append, addToGroup, if_neg fun heq => hother heq.symm, ih hothers]
      rfl

/-- A reference of a new package makes a group. -/
theorem addToGroup_of_not_mem {groups : List (String × List String)} {reference : Reference}
    (h : reference.package ∉ groups.map (·.1)) :
    addToGroup groups reference = groups ++ [(reference.package, [reference.symbol])] := by
  have hend := addToGroup_append h []
  rw [List.append_nil] at hend
  exact hend

/-- Where the package of a reference has one group, the symbol goes there. -/
theorem addToGroup_between {before after : List (String × List String)} (reference : Reference)
    (h : reference.package ∉ before.map (·.1)) (symbols : List String) :
    addToGroup (before ++ (reference.package, symbols) :: after) reference
      = before ++ (reference.package, appendNew symbols reference.symbol) :: after := by
  rw [addToGroup_append h, addToGroup, if_pos rfl]

/-- One reference more: first appearances stay where they are. -/
theorem addToGroup_firstSeen (references : List Reference) (reference : Reference) :
    addToGroup (firstSeen references) reference = firstSeen (references ++ [reference]) := by
  show addToGroup (firstSeen references) reference
    = (packagesOf (references ++ [reference])).map fun package =>
        (package, symbolsFrom package (references ++ [reference]))
  rw [packagesOf_concat]
  by_cases hmet : reference.package ∈ packagesOf references
  · -- the package stands between others, which are different from it
    obtain ⟨before, after, hsplit⟩ := List.append_of_mem hmet
    have hdistinct := nodup_packagesOf references
    rw [hsplit, List.nodup_append, List.nodup_cons] at hdistinct
    obtain ⟨-, ⟨hafter, -⟩, hbefore⟩ := hdistinct
    have hnot : reference.package ∉ before := fun hmem =>
      hbefore _ hmem _ List.mem_cons_self rfl
    rw [appendNew_of_mem hmet, firstSeen, hsplit, List.map_append, List.map_cons, List.map_append,
      List.map_cons, map_symbolsFrom_concat hnot, map_symbolsFrom_concat hafter,
      symbolsFrom_concat_self]
    refine addToGroup_between reference ?_ _
    rw [List.map_map]
    exact fun hmem => hnot (List.map_id before ▸ hmem)
  · rw [appendNew_of_not_mem hmet, List.map_append, map_symbolsFrom_concat hmet,
      addToGroup_of_not_mem (packages_firstSeen references ▸ hmet)]
    show _ = firstSeen references ++ [(reference.package, symbolsFrom _ _)]
    rw [symbolsFrom_concat_self, symbolsFrom_eq_nil hmet]
    rfl

/-- The fold goes on behind references that were met before. -/
theorem foldl_addToGroup_firstSeen (before rest : List Reference) :
    rest.foldl addToGroup (firstSeen before) = firstSeen (before ++ rest) := by
  induction rest generalizing before with
  | nil =>
      rw [List.append_nil]
      rfl
  | cons reference others ih =>
      rw [List.foldl_cons, addToGroup_firstSeen, ih, List.append_assoc]
      rfl

/-- The groups of any sequence of references are its first appearances. -/
theorem groupByPackage_eq_firstSeen (references : List Reference) :
    groupByPackage references = firstSeen references :=
  foldl_addToGroup_firstSeen [] references

example : groupByPackage [⟨"geo", "Point"⟩, ⟨"auth", "User"⟩, ⟨"geo", "Line"⟩, ⟨"geo", "Point"⟩]
    = [("geo", ["Point", "Line"]), ("auth", ["User"])] := by
  decide

/-! ## Groups taken apart -/

/-- The references that groups stand for, group by group. -/
def ungrouped (groups : List (String × List String)) : List Reference :=
  groups.flatMap fun group => group.2.map (Reference.mk group.1)

/-- What the groups of any references have in common. -/
structure IsGrouped (groups : List (String × List String)) : Prop where
  packages : (groups.map (·.1)).Nodup
  symbols : ∀ group ∈ groups, group.2.Nodup
  filled : ∀ group ∈ groups, group.2 ≠ []

/-- The references of groups are their symbols with their packages. -/
theorem mem_ungrouped {groups : List (String × List String)} {reference : Reference} :
    reference ∈ ungrouped groups
      ↔ ∃ group ∈ groups, group.1 = reference.package ∧ reference.symbol ∈ group.2 := by
  obtain ⟨package, symbol⟩ := reference
  simp only [ungrouped, List.mem_flatMap, List.mem_map, Reference.mk.injEq]
  constructor
  · rintro ⟨group, hgroup, found, hfound, hpackage, rfl⟩
    exact ⟨group, hgroup, hpackage, hfound⟩
  · rintro ⟨group, hgroup, hpackage, hsymbol⟩
    exact ⟨group, hgroup, symbol, hsymbol, hpackage, rfl⟩

/-- The groups are those of the packages that are seen, each with its symbols. -/
theorem mem_firstSeen {references : List Reference} {group : String × List String} :
    group ∈ firstSeen references
      ↔ group.1 ∈ packagesOf references ∧ group.2 = symbolsFrom group.1 references := by
  rw [firstSeen, List.mem_map]
  constructor
  · rintro ⟨package, hpackage, rfl⟩
    exact ⟨hpackage, rfl⟩
  · rintro ⟨hpackage, hsymbols⟩
    exact ⟨group.1, hpackage, hsymbols ▸ rfl⟩

/-- References that are grouped are in groups. -/
theorem isGrouped_firstSeen (references : List Reference) : IsGrouped (firstSeen references) := by
  constructor
  · rw [packages_firstSeen]
    exact nodup_packagesOf references
  · intro group hgroup
    rw [(mem_firstSeen.mp hgroup).2]
    exact nodup_eraseDups _
  · intro group hgroup
    obtain ⟨hpackage, hsymbols⟩ := mem_firstSeen.mp hgroup
    obtain ⟨reference, hreference, hsame⟩ := mem_packagesOf.mp hpackage
    rw [hsymbols, ← hsame]
    exact List.ne_nil_of_mem (mem_symbolsFrom.mpr hreference)

/-- Groups taken apart have no reference twice. -/
theorem IsGrouped.nodup_ungrouped {groups : List (String × List String)} (h : IsGrouped groups) :
    (ungrouped groups).Nodup := by
  refine List.pairwise_flatMap.mpr ⟨?_, ?_⟩
  · intro group hgroup
    refine List.pairwise_map.mpr ((h.symbols group hgroup).imp ?_)
    intro symbol other hne heq
    exact hne (Reference.mk.inj heq).2
  · -- references of two groups differ in their packages
    refine (List.pairwise_map.mp h.packages).imp ?_
    intro group other hne reference hreference found hfound heq
    obtain ⟨symbol, -, rfl⟩ := List.mem_map.mp hreference
    obtain ⟨second, -, rfl⟩ := List.mem_map.mp hfound
    exact hne (Reference.mk.inj heq).1

/-- Grouping loses no reference and makes none. -/
theorem mem_ungrouped_firstSeen {references : List Reference} {reference : Reference} :
    reference ∈ ungrouped (firstSeen references) ↔ reference ∈ references := by
  rw [mem_ungrouped]
  constructor
  · rintro ⟨group, hgroup, hpackage, hsymbol⟩
    rw [(mem_firstSeen.mp hgroup).2, hpackage] at hsymbol
    exact mem_symbolsFrom.mp hsymbol
  · intro hmem
    exact ⟨(reference.package, symbolsFrom reference.package references),
      mem_firstSeen.mpr ⟨mem_packagesOf.mpr ⟨reference, hmem, rfl⟩, rfl⟩, rfl,
      mem_symbolsFrom.mpr hmem⟩

/-- The symbols of one package go one after the other into the group at the end. -/
theorem foldl_addToGroup_symbols {before : List (String × List String)} {package : String}
    (h : package ∉ before.map (·.1)) (symbols held : List String) :
    (symbols.map (Reference.mk package)).foldl addToGroup (before ++ [(package, held)])
      = before ++ [(package, appendAllNew held symbols)] := by
  induction symbols generalizing held with
  | nil => rfl
  | cons symbol rest ih =>
      have hstep : addToGroup (before ++ [(package, held)]) ⟨package, symbol⟩
          = before ++ [(package, appendNew held symbol)] :=
        addToGroup_between ⟨package, symbol⟩ h held
      rw [List.map_cons, List.foldl_cons, hstep, ih]
      rfl

/-- A group is rebuilt behind groups of other packages. -/
theorem foldl_addToGroup_group {before : List (String × List String)} {package : String}
    (h : package ∉ before.map (·.1)) {symbols : List String} (hdistinct : symbols.Nodup)
    (hfilled : symbols ≠ []) :
    (symbols.map (Reference.mk package)).foldl addToGroup before
      = before ++ [(package, symbols)] := by
  cases symbols with
  | nil => exact absurd rfl hfilled
  | cons symbol rest =>
      have hfirst : addToGroup before ⟨package, symbol⟩ = before ++ [(package, [symbol])] :=
        addToGroup_of_not_mem h
      have hall : appendAllNew [symbol] rest = symbol :: rest :=
        appendAllNew_nil_of_nodup hdistinct
      rw [List.map_cons, List.foldl_cons, hfirst, foldl_addToGroup_symbols h, hall]

/-- Groups are built up again from their references. -/
theorem foldl_addToGroup_ungrouped {before groups : List (String × List String)}
    (h : IsGrouped (before ++ groups)) :
    (ungrouped groups).foldl addToGroup before = before ++ groups := by
  induction groups generalizing before with
  | nil => rw [List.append_nil]; rfl
  | cons group rest ih =>
      obtain ⟨package, symbols⟩ := group
      have hgroup : (package, symbols) ∈ before ++ (package, symbols) :: rest :=
        List.mem_append_right _ List.mem_cons_self
      have hfresh : package ∉ before.map (·.1) := by
        intro hmem
        have hpackages := h.packages
        rw [List.map_append, List.nodup_append] at hpackages
        exact hpackages.2.2 _ hmem _ (List.mem_map_of_mem List.mem_cons_self) rfl
      have hnext : before ++ (package, symbols) :: rest
          = (before ++ [(package, symbols)]) ++ rest := by
        rw [List.append_assoc]
        rfl
      rw [ungrouped, List.flatMap_cons, List.foldl_append,
        foldl_addToGroup_group hfresh (h.symbols _ hgroup) (h.filled _ hgroup), ← ungrouped,
        ih (hnext ▸ h), ← hnext]

/-- Groups that are taken apart and grouped again are what they were. -/
theorem IsGrouped.groupByPackage_ungrouped {groups : List (String × List String)}
    (h : IsGrouped groups) : groupByPackage (ungrouped groups) = groups := by
  have hrun : (ungrouped groups).foldl addToGroup [] = [] ++ groups :=
    foldl_addToGroup_ungrouped h
  exact hrun

/-! ## The text of a module -/

/-- A statement that imports symbols from a module. -/
def importStatement (symbols : List String) (location : String) : String :=
  "import \x7b " ++ String.intercalate ", " symbols ++ " \x7d from \"" ++ location ++ "\";"

/-- A line of imports is a statement and its end. -/
theorem importLine_eq (symbols : List String) (location : String) :
    importLine symbols location = importStatement symbols location ++ "\n" := by
  rw [importStatement, String.append_assoc]
  rfl

/-- A statement is on one line if what it names is. -/
theorem oneLine_importStatement {symbols : List String} {location : String} :
    OneLine (importStatement symbols location)
      ↔ (∀ symbol ∈ symbols, OneLine symbol) ∧ OneLine location := by
  have hopen : OneLine "import \x7b " := by decide
  have hcomma : OneLine ", " := by decide
  have hfrom : OneLine " \x7d from \"" := by decide
  have hend : OneLine "\";" := by decide
  unfold OneLine
  rw [importStatement, unbroken_append, unbroken_append, unbroken_append, unbroken_append,
    Script.unbroken_intercalate hcomma, and_iff_left hend, and_iff_left hfrom, and_iff_right hopen]

/-- Lines with an empty line behind them; nothing where there are none. -/
def closedBlock (lines : List String) : List String :=
  if lines.isEmpty then [] else lines ++ [""]

namespace Conversion

/-- The import statements of a module for other packages, which lie under `base`: one for
    each package, in the order in which they are first met. -/
def externalImports (base : String) (conversion : Conversion) : List String :=
  (packagesOf conversion.external).map fun package =>
    importStatement (symbolsFrom package conversion.external) (base ++ package)

/-- The import statement of a module for its own package. -/
def internalImports (conversion : Conversion) : List String :=
  if conversion.internal.isEmpty then [] else [importStatement conversion.internal "."]

/-- What a module is made of, from its first line to its text. -/
def lines (base : String) (conversion : Conversion) : List String :=
  closedBlock (conversion.externalImports base) ++ closedBlock conversion.internalImports
    ++ if conversion.text.isEmpty then [] else [conversion.text]

end Conversion

/-- A block of lines ends with an empty one. -/
theorem join_closedBlock {lines : List String} (h : lines ≠ []) :
    String.join ((closedBlock lines).map (· ++ "\n"))
      = String.join (lines.map (· ++ "\n")) ++ "\n" := by
  rw [closedBlock, if_neg (by simpa using h), List.map_append, String.join_append]
  rfl

/-- The imports from other packages are written line by line. -/
theorem externalLines_eq_lines (base : String) (conversion : Conversion) :
    externalLines base conversion.external
      = String.join ((closedBlock (conversion.externalImports base)).map (· ++ "\n")) := by
  unfold externalLines Conversion.externalImports
  cases hexternal : conversion.external with
  | nil => rfl
  | cons reference rest =>
      have hmet : packagesOf (reference :: rest) ≠ [] :=
        List.ne_nil_of_mem (mem_packagesOf.mpr ⟨reference, List.mem_cons_self, rfl⟩)
      rw [join_closedBlock (by simpa using hmet), groupByPackage_eq_firstSeen, firstSeen,
        List.map_map, List.map_map]
      simp only [Function.comp_def, importLine_eq]
      rfl

theorem internalLines_eq_lines (conversion : Conversion) :
    internalLines conversion.internal
      = String.join ((closedBlock conversion.internalImports).map (· ++ "\n")) := by
  unfold internalLines Conversion.internalImports
  cases hinternal : conversion.internal with
  | nil => rfl
  | cons symbol rest =>
      show importLine (symbol :: rest) "." ++ "\n"
        = String.join ((closedBlock [importStatement (symbol :: rest) "."]).map (· ++ "\n"))
      rw [join_closedBlock (List.cons_ne_nil _ _), importLine_eq, List.map_singleton,
        String.join_cons, String.join_nil, String.append_empty]

/-- A module is its import statements and its text, each with a line end. -/
theorem Conversion.moduleUnder_eq_lines (base : String) (conversion : Conversion) :
    conversion.moduleUnder base
      = String.join ((conversion.lines base).map (· ++ "\n")) := by
  have htext : (if conversion.text.isEmpty then "" else conversion.text ++ "\n")
      = String.join ((if conversion.text.isEmpty then [] else [conversion.text]).map
          (· ++ "\n")) := by
    by_cases h : conversion.text.isEmpty = true
    · rw [if_pos h, if_pos h]
      rfl
    · rw [if_neg h, if_neg h, List.map_singleton, String.join_cons, String.join_nil,
        String.append_empty]
  rw [moduleUnder, lines, List.map_append, List.map_append, String.join_append,
    String.join_append, externalLines_eq_lines, internalLines_eq_lines, htext]

/-- Each import statement takes one line exactly if no name in it has a line end. -/
theorem Conversion.oneLine_imports_iff (base : String) (conversion : Conversion) :
    (∀ statement ∈ conversion.externalImports base ++ conversion.internalImports,
        OneLine statement)
      ↔ (∀ reference ∈ conversion.external,
          OneLine (base ++ reference.package) ∧ OneLine reference.symbol)
        ∧ ∀ symbol ∈ conversion.internal, OneLine symbol := by
  have hexternal : (∀ statement ∈ conversion.externalImports base, OneLine statement)
      ↔ ∀ reference ∈ conversion.external,
          OneLine (base ++ reference.package) ∧ OneLine reference.symbol := by
    rw [externalImports, List.forall_mem_map]
    simp only [oneLine_importStatement]
    constructor
    · intro h reference hreference
      obtain ⟨hsymbols, hpackage⟩ :=
        h reference.package (mem_packagesOf.mpr ⟨reference, hreference, rfl⟩)
      exact ⟨hpackage, hsymbols _ (mem_symbolsFrom.mpr hreference)⟩
    · intro h package hpackage
      obtain ⟨reference, hreference, rfl⟩ := mem_packagesOf.mp hpackage
      exact ⟨fun symbol hsymbol => (h _ (mem_symbolsFrom.mp hsymbol)).2, (h _ hreference).1⟩
  have hinternal : (∀ statement ∈ conversion.internalImports, OneLine statement)
      ↔ ∀ symbol ∈ conversion.internal, OneLine symbol := by
    have hdot : OneLine "." := by decide
    unfold internalImports
    cases conversion.internal with
    | nil => exact iff_of_true (List.forall_mem_nil _) (List.forall_mem_nil _)
    | cons symbol rest =>
        show (∀ statement ∈ [importStatement (symbol :: rest) "."], OneLine statement) ↔ _
        rw [List.forall_mem_singleton, oneLine_importStatement, and_iff_left hdot]
  rw [List.forall_mem_append, hexternal, hinternal]

/-- Grouping references by package loses, repeats and reorders nothing, and a module imports
    from every package that it refers to on one line. -/
theorem imports_grouped_by_first_appearance (references : List Reference)
    (conversion : Conversion) (base : String) :
    (groupByPackage references).map (·.1) = packagesOf references
    ∧ (∀ group ∈ groupByPackage references, group.2 = symbolsFrom group.1 references)
    ∧ IsGrouped (groupByPackage references)
    ∧ (ungrouped (groupByPackage references)).Nodup
    ∧ (∀ reference, reference ∈ ungrouped (groupByPackage references) ↔ reference ∈ references)
    ∧ groupByPackage (ungrouped (groupByPackage references)) = groupByPackage references
    ∧ conversion.moduleUnder base = String.join ((conversion.lines base).map (· ++ "\n"))
    ∧ ((∀ statement ∈ conversion.externalImports base ++ conversion.internalImports,
        OneLine statement)
      ↔ (∀ reference ∈ conversion.external,
          OneLine (base ++ reference.package) ∧ OneLine reference.symbol)
        ∧ ∀ symbol ∈ conversion.internal, OneLine symbol) := by
  have hgrouped := isGrouped_firstSeen references
  rw [groupByPackage_eq_firstSeen references]
  exact ⟨packages_firstSeen references, fun group hgroup => (mem_firstSeen.mp hgroup).2, hgrouped,
    hgrouped.nodup_ungrouped, fun reference => mem_ungrouped_firstSeen,
    hgrouped.groupByPackage_ungrouped, conversion.moduleUnder_eq_lines base,
    conversion.oneLine_imports_iff base⟩

end StructScript
