import StructScript.Proofs.Memberwise
import StructScript.Proofs.ScriptWriting

/-! # A written type means what the Go type says

    `TypeExpr.image` gives the structure that a Go type has in TypeScript, straight
    from the Go type: a pointer is the union of its whole target with `undefined`,
    a slice is an array of its whole element, and a struct is an object with the
    members that it keeps.

    * `TypeExpr.tree_express` says that the type made for a Go type has this
      structure, by recursion into types, arguments and members;
    * `TypeExpr.legible_express` carries the conditions on names over to it;
    * what is written for it then has this meaning and no other, because written
      types mean their trees and the grammar is unambiguous.

    The indentation is written as it is given, so all this needs an indentation of
    blanks: `indented_type_means_nothing` shows what another one does. -/

namespace StructScript

open Script (Tree)

/-- The name of a tree that is only a name. -/
def Script.Tree.baseName : Tree → String
  | .name text => text
  | _ => ""

/-- The structure that a Go type has in TypeScript. -/
def TypeExpr.image (options : Options) : TypeExpr → Tree
  | .named name _ => .name (primitiveName name)
  | .selector package name => .name ((options.scalar? package name).getD name)
  | .pointer inner => .union (inner.image options) (.name "undefined")
  | .slice element => .array (element.image options)
  | .bytes => .name "string"
  | .any => .name "any"
  | .map key value => .index (key.image options) (value.image options)
  | .generic base arguments =>
      .apply (base.image options).baseName
        (arguments.attach.map fun ⟨argument, _⟩ => argument.image options)
  | .struct fields =>
      match h : collectMembers fields with
      | .ok members =>
          .object (members.attach.map fun ⟨member, hmember⟩ =>
            have := Member.sizeOf_type_lt h hmember
            let type := if member.asString then .name "string" else member.type.image options
            (member.name, member.optional,
              type.widened (member.pointer && options.widenPointers)))
      | .error _ => .object []
  | .other text _ => .name text
termination_by type => sizeOf type

/-- The structure of a member: its name, whether it may be absent, and its type. -/
def Member.image (options : Options) (member : Member) : String × Bool × Tree :=
  let type := if member.asString then .name "string" else member.type.image options
  (member.name, member.optional, type.widened (member.pointer && options.widenPointers))

/-- Whether a type is a name, of its own package or of another. -/
def TypeExpr.isReference : TypeExpr → Bool
  | .named _ _ => true
  | .selector _ _ => true
  | _ => false

/-- Whether the texts in a type fit their places: names are words, only a name is
    applied, to one argument at least, and the names of members are on one line. -/
def TypeExpr.Legible : TypeExpr → Prop
  | .named name _ => Script.isWord name = true
  | .selector _ name => Script.isWord name = true
  | .pointer inner => inner.Legible
  | .slice element => element.Legible
  | .map key value => key.Legible ∧ value.Legible
  | .generic base arguments =>
      base.isReference = true ∧ base.Legible ∧ arguments ≠ []
        ∧ ∀ argument ∈ arguments, argument.Legible
  | .struct fields =>
      ∀ members, (h : collectMembers fields = .ok members) → ∀ member, (hmember : member ∈ members) →
        have := Member.sizeOf_type_lt h hmember
        Script.OneLine member.name ∧ member.type.Legible
  | .bytes | .any | .other _ _ => True
termination_by type => sizeOf type

/-- The image of a generic type applies its base to the images of its arguments. -/
theorem image_generic (options : Options) (base : TypeExpr) (arguments : List TypeExpr) :
    (TypeExpr.generic base arguments).image options
      = .apply (base.image options).baseName (arguments.map (TypeExpr.image options)) := by
  rw [TypeExpr.image, List.map_subtype (g := TypeExpr.image options) (fun _ _ => rfl),
    List.unattach_attach]

/-- The image of a struct has the images of its members. -/
theorem image_struct {options : Options} {fields : List Field} {members : List Member}
    (h : collectMembers fields = .ok members) :
    (TypeExpr.struct fields).image options = .object (members.map (Member.image options)) := by
  rw [TypeExpr.image]
  split
  · next found hfound =>
      cases h.symm.trans hfound
      rw [List.map_subtype (g := Member.image options) (fun _ _ => rfl), List.unattach_attach]
  · next fault hfault => cases h.symm.trans hfault

/-- A struct is legible if its members are, in names and types. -/
theorem legible_struct {fields : List Field} {members : List Member}
    (h : collectMembers fields = .ok members) :
    (TypeExpr.struct fields).Legible
      ↔ ∀ member ∈ members, Script.OneLine member.name ∧ member.type.Legible := by
  rw [TypeExpr.Legible]
  constructor
  · intro hlegible
    exact hlegible members h
  · intro hmember found hfound
    cases h.symm.trans hfound
    exact hmember

/-! ## The structure is kept -/

/-- The base of a type is the base of its tree. -/
theorem baseName_tree (type : ScriptType) : type.tree.baseName = type.baseName := by
  cases type with
  | named text => rw [ScriptType.tree]; rfl
  | orUndefined inner => rw [ScriptType.tree]; rfl
  | array element => rw [ScriptType.tree]; rfl
  | index key value => rw [ScriptType.tree]; rfl
  | apply base arguments => rw [ScriptType.tree]; rfl
  | object properties => rw [ScriptType.tree]; rfl

/-- Arguments that are expressed have the images as their trees. -/
theorem trees_expressArguments {options : Options} {arguments : List TypeExpr}
    (hargument : ∀ argument ∈ arguments, ∀ e, argument.express options = .ok e →
      e.type.tree = argument.image options)
    {imports : ImportSet} {found : List ScriptType × ImportSet}
    (h : expressArguments options imports arguments = .ok found) :
    ScriptType.treesOfArguments found.1 = arguments.map (TypeExpr.image options) := by
  refine expressArguments_induction (P := fun arguments types =>
    ScriptType.treesOfArguments types = arguments.map (TypeExpr.image options)) rfl ?_ h
  intro argument hmem e he rest types hrest
  rw [ScriptType.treesOfArguments, hargument argument hmem e he, hrest, List.map_cons]

/-- The members of a struct keep their structure. -/
theorem trees_expressEach {options : Options} {members : List Member}
    (hmember : ∀ member ∈ members, ∀ e, member.type.express options = .ok e →
      e.type.tree = member.type.image options)
    {body : ExpressedBody} (h : expressEach options members = .ok body) :
    ScriptType.treesOfProperties body.properties = members.map (Member.image options) := by
  refine expressEach_induction (P := fun members properties =>
    ScriptType.treesOfProperties properties = members.map (Member.image options)) rfl ?_ h
  intro member hmem type htype rest properties hrest
  -- a member that is written as a string has that type, any other its own
  have himage : type.tree
      = if member.asString then .name "string" else member.type.image options := by
    rcases htype with ⟨hstring, rfl⟩ | ⟨hstring, e, he, rfl⟩
    · rw [if_pos hstring, ScriptType.tree]
    · rw [if_neg (Bool.eq_false_iff.mp hstring), hmember member hmem e he]
  rw [Member.property, ScriptType.treesOfProperties, hrest, himage]
  rfl

/-- The type made for a Go type has the structure of the Go type. -/
theorem TypeExpr.tree_express (options : Options) :
    ∀ (type : TypeExpr) (e : Expressed), type.express options = .ok e →
      e.type.tree = type.image options := by
  refine TypeExpr.express_induction ?_
  constructor
  case bytes => rw [TypeExpr.image, ScriptType.tree]
  case any => rw [TypeExpr.image, ScriptType.tree]
  case named =>
    intro name isLocal
    rw [TypeExpr.image, expressName, ScriptType.tree]
  case selector =>
    intro package name
    rw [TypeExpr.image, expressSelector]
    cases options.scalar? package name with
    | some text => exact ScriptType.tree.eq_1 text
    | none => exact ScriptType.tree.eq_1 name
  case pointer =>
    intro inner e hinner
    rw [TypeExpr.image, ScriptType.tree, hinner]
  case slice =>
    intro element e helement
    rw [TypeExpr.image, ScriptType.tree, helement]
  case map =>
    intro key value k v hkey hvalue
    rw [TypeExpr.image, ScriptType.tree, hkey, hvalue]
  case generic =>
    intro base arguments b found _ hbase hargument hfound
    rw [image_generic, ScriptType.tree, trees_expressArguments hargument hfound, ← baseName_tree,
      hbase]
  case struct =>
    intro fields members body hmembers hmember hbody
    rw [image_struct hmembers, ScriptType.tree]
    exact congrArg Tree.object (trees_expressEach hmember hbody)

/-! ## The conditions on texts are kept -/

/-- A primitive name is a word if the name that it stands for is. -/
theorem isWord_primitiveName {name : String} (h : Script.isWord name = true) :
    Script.isWord (primitiveName name) = true := by
  unfold primitiveName
  split
  · exact Script.isWord_of_mem_fixedWords "boolean" (by decide)
  · split
    · exact Script.isWord_of_mem_fixedWords "number" (by decide)
    · exact h

/-- What is written for a type of another package is a word. -/
theorem isWord_expressSelector {options : Options}
    (hscalars : ∀ entry ∈ options.scalars, Script.isWord entry.2 = true) {name : String}
    (h : Script.isWord name = true) (package : String) :
    ∃ text, (expressSelector options package name).type = .named text
      ∧ Script.isWord text = true := by
  unfold expressSelector
  cases hscalar : options.scalar? package name with
  | none => exact ⟨name, rfl, h⟩
  | some text =>
      rw [Options.scalar?, List.lookup_eq_some_iff] at hscalar
      obtain ⟨before, behind, hsplit, -⟩ := hscalar
      refine ⟨text, rfl, hscalars (package ++ "." ++ name, text) ?_⟩
      rw [hsplit]
      exact List.mem_append_right before List.mem_cons_self

/-- What is written for the base of an application is a word. -/
theorem isWord_of_isReference {options : Options}
    (hscalars : ∀ entry ∈ options.scalars, Script.isWord entry.2 = true) {base : TypeExpr}
    (hbase : base.isReference = true) (h : base.Legible) {e : Expressed}
    (he : base.express options = .ok e) :
    ∃ text, e.type = .named text ∧ Script.isWord text = true := by
  cases base with
  | named name isLocal =>
      rw [TypeExpr.Legible] at h
      rw [TypeExpr.express] at he
      cases he
      exact ⟨primitiveName name, rfl, isWord_primitiveName h⟩
  | selector package name =>
      rw [TypeExpr.Legible] at h
      rw [TypeExpr.express] at he
      cases he
      exact isWord_expressSelector hscalars h package
  | pointer inner => cases hbase
  | slice element => cases hbase
  | bytes => cases hbase
  | map key value => cases hbase
  | struct fields => cases hbase
  | generic base arguments => cases hbase
  | any => cases hbase
  | other text form => cases hbase

/-- Arguments that are expressed are legible if each is. -/
theorem legible_expressArguments {options : Options} {arguments : List TypeExpr}
    (hargument : ∀ argument ∈ arguments, ∀ e, argument.express options = .ok e →
      e.type.Legible)
    {imports : ImportSet} {found : List ScriptType × ImportSet}
    (h : expressArguments options imports arguments = .ok found) :
    ScriptType.LegibleArguments found.1 ∧ found.1.length = arguments.length := by
  refine expressArguments_induction (P := fun arguments types =>
    ScriptType.LegibleArguments types ∧ types.length = arguments.length) ?_ ?_ h
  · rw [ScriptType.LegibleArguments]
    exact ⟨trivial, rfl⟩
  · intro argument hmem e he rest types hrest
    rw [ScriptType.LegibleArguments, List.length_cons, List.length_cons, hrest.2]
    exact ⟨⟨hargument argument hmem e he, hrest.1⟩, rfl⟩

theorem legible_expressEach {options : Options} {members : List Member}
    (hline : ∀ member ∈ members, Script.OneLine member.name)
    (hmember : ∀ member ∈ members, ∀ e, member.type.express options = .ok e → e.type.Legible)
    {body : ExpressedBody} (h : expressEach options members = .ok body) :
    ScriptType.LegibleProperties body.properties := by
  refine expressEach_induction (P := fun _ properties =>
    ScriptType.LegibleProperties properties) ?_ ?_ h
  · rw [ScriptType.LegibleProperties]
    exact trivial
  · intro member hmem type htype rest properties hrest
    have hlegible : type.Legible := by
      rcases htype with ⟨-, rfl⟩ | ⟨-, e, he, rfl⟩
      · rw [ScriptType.Legible]
        exact Script.isWord_of_mem_fixedWords "string" (by decide)
      · exact hmember member hmem e he
    rw [Member.property, ScriptType.LegibleProperties]
    exact ⟨hline member hmem, hlegible, hrest⟩

/-- The type made for a legible Go type is legible. -/
theorem TypeExpr.legible_express {options : Options}
    (hscalars : ∀ entry ∈ options.scalars, Script.isWord entry.2 = true) :
    ∀ (type : TypeExpr) (e : Expressed), type.express options = .ok e → type.Legible →
      e.type.Legible := by
  refine TypeExpr.express_induction (P := fun type e => type.Legible → e.type.Legible) ?_
  constructor
  case bytes =>
    intro _
    rw [ScriptType.Legible]
    exact Script.isWord_of_mem_fixedWords "string" (by decide)
  case any =>
    intro _
    rw [ScriptType.Legible]
    exact Script.isWord_of_mem_fixedWords "any" (by decide)
  case named =>
    intro name isLocal hlegible
    rw [TypeExpr.Legible] at hlegible
    rw [expressName, ScriptType.Legible]
    exact isWord_primitiveName hlegible
  case selector =>
    intro package name hlegible
    rw [TypeExpr.Legible] at hlegible
    obtain ⟨text, htext, hword⟩ := isWord_expressSelector hscalars hlegible package
    rw [htext, ScriptType.Legible]
    exact hword
  case pointer =>
    intro inner e hinner hlegible
    rw [TypeExpr.Legible] at hlegible
    rw [ScriptType.Legible]
    exact hinner hlegible
  case slice =>
    intro element e helement hlegible
    rw [TypeExpr.Legible] at hlegible
    rw [ScriptType.Legible]
    exact helement hlegible
  case map =>
    intro key value k v hkey hvalue hlegible
    rw [TypeExpr.Legible] at hlegible
    rw [ScriptType.Legible]
    exact ⟨hkey hlegible.1, hvalue hlegible.2⟩
  case generic =>
    intro base arguments b found hb _ hargument hfound hlegible
    rw [TypeExpr.Legible] at hlegible
    obtain ⟨hreference, hbase, hne, hlegibleArguments⟩ := hlegible
    -- the base stays a word, and there are as many arguments as before
    obtain ⟨harguments, hlength⟩ := legible_expressArguments
      (fun argument hmem e he => hargument argument hmem e he (hlegibleArguments argument hmem))
      hfound
    rw [ScriptType.Legible]
    refine ⟨isWord_of_isReference hscalars hreference hbase hb, ?_, harguments⟩
    intro hempty
    rw [hempty] at hlength
    exact hne (List.length_eq_zero_iff.mp hlength.symm)
  case struct =>
    intro fields members body hmembers hmember hbody hlegible
    have hall := (legible_struct hmembers).mp hlegible
    rw [ScriptType.Legible]
    exact legible_expressEach (fun member hmem => (hall member hmem).1)
      (fun member hmem e he => hmember member hmem e he (hall member hmem).2) hbody

/-- What is written for a Go type derives to the structure of the Go type and to
    nothing else, and in a tight place it is an array or closed in itself. -/
theorem written_type_means_image {options : Options}
    (hscalars : ∀ entry ∈ options.scalars, Script.isWord entry.2 = true)
    (hindent : ∀ c ∈ options.indent.toList, c ∈ Script.blanks) {type : TypeExpr}
    (hlegible : type.Legible) {e : Expressed} (h : type.express options = .ok e) (depth : Int)
    (tight : Bool) :
    (∀ tree, Script.Means .union (e.type.render options.indent depth tight) tree
      ↔ tree = type.image options)
    ∧ (tight = true →
      Script.Means .array (e.type.render options.indent depth tight) (type.image options)) := by
  have hplace := ScriptType.means_render hindent e.type (type.legible_express hscalars e h hlegible)
    depth tight
  rw [type.tree_express options e h] at hplace
  have hunion : Script.Means .union (e.type.render options.indent depth tight)
      (type.image options) := by
    cases tight with
    | true => exact hplace.union_of_array
    | false => exact hplace
  refine ⟨fun tree => ⟨fun htree => htree.unique hunion, ?_⟩, ?_⟩
  · rintro rfl
    exact hunion
  · rintro rfl
    exact hplace

/-- A type in which every construct stands inside another, with a member whose name
    needs quotes. -/
def ledgerType : TypeExpr :=
  .slice (.pointer (.slice (.pointer (.map (.named "string" false) (.struct
    [⟨["Entries"],
      .pointer (.slice (.pointer (.generic (.named "Page" false)
        [.selector "time" "Time", .pointer .any]))),
      some "\x60json:\"owner's\"\x60"⟩])))))

/-- The member of the struct in `ledgerType`. -/
def ledgerMember : Member :=
  { sourceName := "Entries", name := "owner's", optional := true
    type := .slice (.pointer (.generic (.named "Page" false)
      [.selector "time" "Time", .pointer .any]))
    pointer := true, asString := false }

theorem collectMembers_ledger :
    collectMembers
      [⟨["Entries"],
        .pointer (.slice (.pointer (.generic (.named "Page" false)
          [.selector "time" "Time", .pointer .any]))),
        some "\x60json:\"owner's\"\x60"⟩]
      = .ok [ledgerMember] := by
  have hjson : jsonEntry (some "\x60json:\"owner's\"\x60")
      = .ok (some ⟨"json", "owner's", []⟩) := by
    have hoption : (jsonEntry (some "\x60json:\"owner's\"\x60")).toOption
        = some (some ⟨"json", "owner's", []⟩) := by
      decide +kernel
    exact toOption_eq_some.mp hoption
  have hexported : isExported "Entries" = true := by decide +kernel
  simp only [collectMembers, Field.members, Field.exported, List.filter_cons_of_pos hexported,
    List.filter_nil, hjson]
  rfl

theorem legible_ledger : ledgerType.Legible := by
  have hmember : ledgerMember.type.Legible := by
    rw [ledgerMember, TypeExpr.Legible, TypeExpr.Legible, TypeExpr.Legible]
    refine ⟨rfl, ?_, List.cons_ne_nil _ _, ?_⟩
    · rw [TypeExpr.Legible]
      decide +kernel
    · simp only [List.forall_mem_cons, TypeExpr.Legible]
      exact ⟨by decide +kernel, trivial, List.forall_mem_nil _⟩
  have hstruct := (legible_struct collectMembers_ledger).mpr
    (List.forall_mem_singleton.mpr ⟨by decide +kernel, hmember⟩)
  rw [ledgerType, TypeExpr.Legible, TypeExpr.Legible, TypeExpr.Legible, TypeExpr.Legible,
    TypeExpr.Legible]
  refine ⟨?_, hstruct⟩
  rw [TypeExpr.Legible]
  decide +kernel

/-- What `ledgerType` means where pointer members are widened. -/
def ledgerTree : Tree :=
  .array (.union (.array (.union
    (.index (.name "string") (.object
      [("owner's", true,
        .union (.array (.union (.apply "Page"
          [.name "string", .union (.name "any") (.name "undefined")]) (.name "undefined")))
          (.name "undefined"))]))
    (.name "undefined"))) (.name "undefined"))

theorem image_ledger : ledgerType.image { widenPointers := true } = ledgerTree := by
  have hscalar : Options.scalar? { widenPointers := true } "time" "Time" = some "string" := by
    decide +kernel
  have hmember : Member.image { widenPointers := true } ledgerMember
      = ("owner's", true,
        .union (.array (.union (.apply "Page"
          [.name "string", .union (.name "any") (.name "undefined")]) (.name "undefined")))
          (.name "undefined")) := by
    simp only [Member.image, ledgerMember, TypeExpr.image, image_generic, List.map_cons,
      List.map_nil, hscalar]
    rfl
  rw [ledgerType, TypeExpr.image, TypeExpr.image, TypeExpr.image, TypeExpr.image, TypeExpr.image,
    TypeExpr.image, image_struct collectMembers_ledger, List.map_singleton, hmember]
  rfl

theorem written_type_means_image_of_ledger :
    ledgerType.Legible
    ∧ ∃ e, ledgerType.express { widenPointers := true } = .ok e
      ∧ (∀ tree, Script.Means .union (e.type.render "    " 0 true) tree ↔ tree = ledgerTree)
      ∧ Script.Means .array (e.type.render "    " 0 true) ledgerTree := by
  refine ⟨legible_ledger, ?_⟩
  cases he : ledgerType.express { widenPointers := true } with
  | error fault =>
      have hok : (ledgerType.express { widenPointers := true }).isOk = true := by decide +kernel
      rw [he] at hok
      cases hok
  | ok e =>
      have hblank : "    ".toList.all Script.blanks.contains = true := rfl
      have hmeans := written_type_means_image (by decide +kernel)
        (fun c hc => List.contains_iff_mem.mp (List.all_eq_true.mp hblank c hc))
        legible_ledger he 0 true
      rw [image_ledger] at hmeans
      exact ⟨e, rfl, hmeans.1, hmeans.2 rfl⟩

/-- Options whose indentation is no blank. -/
def dashedOptions : Options := { indent := "-" }

/-- With an indentation that is no blank, what is written may mean nothing. -/
theorem indented_type_means_nothing :
    (∀ entry ∈ dashedOptions.scalars, Script.isWord entry.2 = true)
    ∧ (TypeExpr.struct [⟨["A"], .named "int" false, none⟩]).Legible
    ∧ ∃ e, (TypeExpr.struct [⟨["A"], .named "int" false, none⟩]).express dashedOptions = .ok e
      ∧ ∀ tree, ¬ Script.Means .union (e.type.render dashedOptions.indent 0 false) tree := by
  have hmembers : collectMembers [⟨["A"], .named "int" false, none⟩]
      = .ok [⟨"A", "A", false, .named "int" false, false, false⟩] := rfl
  refine ⟨by decide +kernel, (legible_struct hmembers).mpr ?_,
    ⟨.object [⟨"A", false, .named "number", false⟩], {}⟩, rfl, ?_⟩
  · rw [List.forall_mem_singleton, TypeExpr.Legible]
    decide +kernel
  · rintro tree ⟨tokens, hscan, -⟩
    have hnothing : Script.scan .gap
        (ScriptType.render "-" 0 false (.object [⟨"A", false, .named "number", false⟩])).toList
        = none := by
      decide +kernel
    cases hnothing.symm.trans hscan

end StructScript
