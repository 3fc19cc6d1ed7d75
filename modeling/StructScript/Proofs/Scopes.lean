import StructScript.Proofs.OwnNames

/-! # Which names of a file are marked as local

    A name in a type may stand at any depth: behind a pointer, in a list, as the key
    or the value of a map, in a member of a struct with or without a name of its own,
    as a generic type or as one of its arguments.  `TypeExpr.Within` lists these
    positions, one rule for each.

    * `TypeExpr.within_iff_mention` says that the mentions of a type are the bare names
      at all of these positions, so that no position is forgotten;
    * `Go.mark_of_within` says that the marks of a declared type are those of its scope:
      the names of all types of the file, and its own parameters. -/

namespace StructScript

/-- Whether a type expression stands in another one, at any depth. -/
inductive TypeExpr.Within (part : TypeExpr) : TypeExpr → Prop where
  | here : part.Within part
  | pointer {inner : TypeExpr} : part.Within inner → part.Within (.pointer inner)
  | slice {element : TypeExpr} : part.Within element → part.Within (.slice element)
  | key {key value : TypeExpr} : part.Within key → part.Within (.map key value)
  | value {key value : TypeExpr} : part.Within value → part.Within (.map key value)
  | member {fields : List Field} {field : Field} :
      field ∈ fields → part.Within field.type → part.Within (.struct fields)
  | base {base : TypeExpr} {arguments : List TypeExpr} :
      part.Within base → part.Within (.generic base arguments)
  | argument {base : TypeExpr} {arguments : List TypeExpr} {argument : TypeExpr} :
      argument ∈ arguments → part.Within argument → part.Within (.generic base arguments)

namespace TypeExpr

/-- A name within a type is mentioned by it. -/
theorem mention_of_within {name : String} {mark : Bool} {type : TypeExpr}
    (h : (named name mark).Within type) : (name, mark) ∈ type.mentions := by
  induction h with
  | here =>
      rw [mentions]
      exact List.mem_singleton.mpr rfl
  | pointer _ ih =>
      rw [mentions]
      exact ih
  | slice _ ih =>
      rw [mentions]
      exact ih
  | key _ ih =>
      rw [mentions]
      exact List.mem_append_left _ ih
  | value _ ih =>
      rw [mentions]
      exact List.mem_append_right _ ih
  | member hfield _ ih =>
      rw [mentions]
      exact mem_mentionsOfFields.mpr ⟨_, hfield, ih⟩
  | base _ ih =>
      rw [mentions]
      exact List.mem_append_left _ ih
  | argument hargument _ ih =>
      rw [mentions]
      exact List.mem_append_right _ (mem_mentionsOfTypes.mpr ⟨_, hargument, ih⟩)

/-- A name that a type mentions is within it. -/
theorem within_of_mention {name : String} {mark : Bool} :
    ∀ (type : TypeExpr), (name, mark) ∈ type.mentions → (named name mark).Within type
  | .named found isLocal, h => by
      rw [mentions, List.mem_singleton] at h
      obtain ⟨rfl, rfl⟩ := Prod.mk.inj h
      exact .here
  | .pointer inner, h => by
      rw [mentions] at h
      exact .pointer (within_of_mention inner h)
  | .slice element, h => by
      rw [mentions] at h
      exact .slice (within_of_mention element h)
  | .map key value, h => by
      rw [mentions] at h
      rcases List.mem_append.mp h with hkey | hvalue
      · exact .key (within_of_mention key hkey)
      · exact .value (within_of_mention value hvalue)
  | .struct fields, h => by
      rw [mentions] at h
      obtain ⟨field, hfield, hmention⟩ := mem_mentionsOfFields.mp h
      have hsize : sizeOf field.type < sizeOf field := by
        cases field
        simp only [Field.mk.sizeOf_spec]
        omega
      have hfields := List.sizeOf_lt_of_mem hfield
      exact .member hfield (within_of_mention field.type hmention)
  | .generic base arguments, h => by
      rw [mentions] at h
      rcases List.mem_append.mp h with hbase | harguments
      · exact .base (within_of_mention base hbase)
      · obtain ⟨argument, hargument, hmention⟩ := mem_mentionsOfTypes.mp harguments
        have hsize := List.sizeOf_lt_of_mem hargument
        exact .argument hargument (within_of_mention argument hmention)
  | .bytes, h => by
      rw [mentions] at h
      cases h
  | .selector _ _, h => by
      rw [mentions] at h
      cases h
  | .any, h => by
      rw [mentions] at h
      cases h
  | .other _ _, h => by
      rw [mentions] at h
      cases h
termination_by type => sizeOf type

/-- The mentions of a type are the bare names that stand in it. -/
theorem within_iff_mention {name : String} {mark : Bool} {type : TypeExpr} :
    (named name mark).Within type ↔ (name, mark) ∈ type.mentions :=
  ⟨mention_of_within, within_of_mention type⟩

/-- After marks are set, every name that stands in a type has the mark of the scope. -/
theorem mark_of_within_bind {scope : List String} {type : TypeExpr} {name : String} {mark : Bool}
    (h : (named name mark).Within (type.bind scope)) : mark = true ↔ name ∈ scope := by
  rw [within_iff_mention] at h
  exact mark_of_mention_bind h

end TypeExpr

namespace Go

/-- Whether one of the items of a file declares a type of a name. -/
def Declares (items : List Item) (name : String) : Prop :=
  ∃ specs, Item.types specs ∈ items ∧ ∃ spec ∈ specs, spec.name = name

/-- The specifications of items are those in their declarations of types. -/
theorem mem_specsOf {items : List Item} {spec : Spec} :
    spec ∈ specsOf items ↔ ∃ specs, Item.types specs ∈ items ∧ spec ∈ specs := by
  induction items with
  | nil => simp [specsOf]
  | cons item rest ih =>
      cases item with
      | types specs =>
          rw [specsOf, List.mem_append, ih]
          constructor
          · rintro (hfirst | ⟨found, hfound, hspec⟩)
            · exact ⟨specs, List.mem_cons_self, hfirst⟩
            · exact ⟨found, List.mem_cons_of_mem _ hfound, hspec⟩
          · rintro ⟨found, hfound, hspec⟩
            rcases List.mem_cons.mp hfound with heq | hrest
            · cases heq
              exact Or.inl hspec
            · exact Or.inr ⟨found, hrest, hspec⟩
      | package name => simp [specsOf, ih]
      | other => simp [specsOf, ih]

/-- Items declare the names of their specifications. -/
theorem declares_iff_mem_specsOf {items : List Item} {name : String} :
    Declares items name ↔ name ∈ (specsOf items).map (·.name) := by
  rw [List.mem_map]
  constructor
  · rintro ⟨specs, hspecs, spec, hspec, rfl⟩
    exact ⟨spec, mem_specsOf.mpr ⟨specs, hspecs, hspec⟩, rfl⟩
  · rintro ⟨spec, hspec, rfl⟩
    obtain ⟨specs, hspecs, hmem⟩ := mem_specsOf.mp hspec
    exact ⟨specs, hspecs, spec, hmem, rfl⟩

/-- Every type that a file declares is a declaration of its unit or is skipped. -/
theorem declares_iff_mem_unitOf {path : String} {items : List Item} {name : String} :
    Declares items name ↔ name ∈ (unitOf path items).names ∨ name ∈ (unitOf path items).skipped := by
  have hnames : name ∈ (unitOf path items).names
      ↔ ∃ spec ∈ specsOf items, spec.isData = true ∧ spec.name = name := by
    show name ∈ List.map _ (List.map _ _) ↔ _
    rw [List.map_map, List.mem_map]
    simp only [List.mem_filter, and_assoc]
    exact Iff.rfl
  have hskipped : name ∈ (unitOf path items).skipped
      ↔ ∃ spec ∈ specsOf items, spec.isData = false ∧ spec.name = name := by
    show name ∈ List.map _ _ ↔ _
    rw [List.mem_map]
    simp only [List.mem_filter, and_assoc, Bool.not_eq_true']
  rw [declares_iff_mem_specsOf, hnames, hskipped, List.mem_map]
  constructor
  · rintro ⟨spec, hspec, hname⟩
    cases hdata : spec.isData with
    | true => exact Or.inl ⟨spec, hspec, hdata, hname⟩
    | false => exact Or.inr ⟨spec, hspec, hdata, hname⟩
  · rintro (⟨spec, hspec, -, hname⟩ | ⟨spec, hspec, -, hname⟩)
    · exact ⟨spec, hspec, hname⟩
    · exact ⟨spec, hspec, hname⟩

/-- The scope of a declaration are the types of its file and its own parameters. -/
theorem mark_of_within {path : String} {items : List Item} {declaration : Declaration}
    (hdeclaration : declaration ∈ (unitOf path items).declarations) {name : String} {mark : Bool}
    (h : (TypeExpr.named name mark).Within declaration.type) :
    mark = true ↔ Declares items name ∨ name ∈ declaration.typeParams := by
  obtain ⟨spec, -, rfl⟩ := List.mem_map.mp hdeclaration
  rw [TypeExpr.mark_of_within_bind h, List.mem_append, declares_iff_mem_specsOf]
  exact Iff.rfl

/-- The marks of a file that was read are exact.  Wherever a bare name stands in the
    type of a declaration, it is marked as local if and only if the file declares a type
    of that name, before or behind it, or the declaration has it as a type parameter.
    The types that the file declares are those that its unit declares or skips. -/
theorem marks_are_exact {source path : String} {unit : SourceUnit}
    (hparse : parse source path = .ok unit) :
    ∃ items, Go.items source = some items
      ∧ (∀ name, Declares items name ↔ name ∈ unit.names ∨ name ∈ unit.skipped)
      ∧ ∀ declaration ∈ unit.declarations, ∀ name mark,
        (TypeExpr.named name mark).Within declaration.type →
        (mark = true ↔ Declares items name ∨ name ∈ declaration.typeParams) := by
  obtain ⟨items, hitems, rfl⟩ := parse_eq_ok.mp hparse
  refine ⟨items, hitems, fun name => declares_iff_mem_unitOf, ?_⟩
  intro declaration hdeclaration name mark hwithin
  exact mark_of_within hdeclaration hwithin

/-- A file whose first type mentions a parameter, a type that is declared later, one
    that is skipped, and one that is declared elsewhere. -/
def pageSource : String :=
  "package p\n\ntype Page[K any] struct \x7b\n\t*Base\n\tItems map[K][]*List[Item]\n"
    ++ "\tNext struct \x7b Run Handler \x7d\n\x7d\n\ntype Handler func()\n\ntype Item string\n"

theorem marks_are_exact_for_page :
    ∃ unit page, parse pageSource "page.go" = .ok unit ∧ unit.declarations.head? = some page
      ∧ (TypeExpr.named "Handler" true).Within page.type ∧ "Handler" ∈ unit.skipped
      ∧ (TypeExpr.named "Item" true).Within page.type ∧ "Item" ∈ unit.names
      ∧ (TypeExpr.named "K" true).Within page.type ∧ "K" ∈ page.typeParams
      ∧ (TypeExpr.named "Base" false).Within page.type
      ∧ "Base" ∉ unit.names ∧ "Base" ∉ unit.skipped := by
  have hlists : (parse pageSource "page.go").toOption.bind (fun unit =>
      unit.declarations.head?.map fun page => (page.type.mentions, page.typeParams))
      = some ([("Base", false), ("K", true), ("List", false), ("Item", true), ("Handler", true)],
        ["K"]) := by
    decide +kernel
  have hskipped : (parse pageSource "page.go").toOption.map (·.skipped) = some ["Handler"] := by
    decide +kernel
  obtain ⟨unit, hunit, hfound⟩ := Option.bind_eq_some_iff.mp hlists
  obtain ⟨page, hpage, hmentions⟩ := Option.map_eq_some_iff.mp hfound
  obtain ⟨hmentions, hparams⟩ := Prod.mk.inj hmentions
  rw [hunit, Option.map_some] at hskipped
  have hparse := toOption_eq_some.mp hunit
  have hwithin : ∀ name mark, (name, mark) ∈ [("Base", false), ("K", true), ("List", false),
      ("Item", true), ("Handler", true)] → (TypeExpr.named name mark).Within page.type := by
    intro name mark hmem
    exact TypeExpr.within_iff_mention.mpr (hmentions ▸ hmem)
  obtain ⟨items, -, hdeclared, hmarks⟩ := marks_are_exact hparse
  have hexact := fun name mark hmem =>
    hmarks page (List.mem_of_mem_head? hpage) name mark (hwithin name mark hmem)
  -- a mark decides where its name is declared
  have hbase := mt (hexact "Base" false (by decide)).mpr (by decide)
  have hitem := (hexact "Item" true (by decide)).mp rfl
  rw [hdeclared, hparams, Option.some.inj hskipped] at hbase hitem
  refine ⟨unit, page, hparse, hpage, hwithin _ _ (by decide), ?_, hwithin _ _ (by decide), ?_,
    hwithin _ _ (by decide), ?_, hwithin _ _ (by decide), ?_, ?_⟩
  · rw [Option.some.inj hskipped]
    exact List.mem_singleton.mpr rfl
  · simpa using hitem
  · rw [hparams]
    exact List.mem_singleton.mpr rfl
  · exact fun hmem => hbase (Or.inl (Or.inl hmem))
  · rw [Option.some.inj hskipped]
    exact fun hmem => hbase (Or.inl (Or.inr hmem))

end Go

end StructScript
