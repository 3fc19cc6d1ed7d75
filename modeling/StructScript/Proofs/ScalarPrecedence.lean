import StructScript.Proofs.LineLayout

/-! # Configured texts and their precedence

    A type of another package may be written as a configured text, which can be any type and
    so a union as well.  Where an array is made of it, the brackets are written right behind
    the text, as behind a name.

    * `Script.Splits` says that a text has a bar outside of all parentheses; brackets behind
      such a text go to its last alternative (`Script.Splits.array`);
    * `ScriptType.reads_render` reads what is written for a type, and compares it with what
      is meant: they are the same if brackets stand only behind texts that bind tightly
      enough (`ScriptType.Whole`);
    * `TypeExpr.whole_express` finds these texts in the Go type: they are those of types of
      other packages right under a slice. -/

namespace StructScript

namespace Script

/-! ## Brackets behind a text -/

/-- Whether a text is a union by a bar outside of all parentheses, with the alternatives
    before the last bar and the one behind it. -/
def Splits (text : String) (left right : Tree) : Prop :=
  ∃ first second, Scanned text (first ++ .mark '|' :: second) ∧ Derives .union first left
    ∧ Derives .array second right

namespace Splits

variable {text : String} {left right : Tree}

/-- A text that splits means the union of its sides. -/
theorem means (h : Splits text left right) : Means .union text (.union left right) := by
  obtain ⟨first, second, hscan, hleft, hright⟩ := h
  exact ⟨_, hscan, .union hleft hright⟩

/-- Brackets behind a union are brackets behind its last alternative. -/
theorem array (h : Splits text left right) : Splits (text ++ "[]") left (.array right) := by
  obtain ⟨first, second, hscan, hleft, hright⟩ := h
  have hbrackets : Joint "[]" [.mark '[', .mark ']'] := ⟨rfl, rfl⟩
  have htext := hbrackets.behind hscan
  rw [List.append_assoc, List.cons_append] at htext
  exact ⟨first, _, htext, hleft, .array hright⟩

/-- A text that splits is too loose for the element of an array. -/
theorem not_means_array (h : Splits text left right) {tree : Tree} :
    ¬ Means .array text tree := by
  intro hmeans
  cases hmeans.array.union_of_array.unique h.array.means

end Splits

/-- What means a type is tight enough for the element of an array or splits. -/
theorem Means.array_or_splits {text : String} {tree : Tree} (h : Means .union text tree) :
    Means .array text tree ∨ ∃ left right, tree = .union left right ∧ Splits text left right := by
  obtain ⟨tokens, hscan, hderives⟩ := h
  cases hderives with
  | single harray => exact Or.inl ⟨tokens, hscan, harray⟩
  | union hleft hright => exact Or.inr ⟨_, _, rfl, _, _, hscan, hleft, hright⟩

/-- Brackets behind a text make an array of all of it only if it binds as tightly as they. -/
theorem Means.brackets_iff {text : String} {tree : Tree} (h : Means .union text tree) :
    Means .union (text ++ "[]") (.array tree) ↔ Means .array text tree := by
  constructor
  · intro hbrackets
    rcases h.array_or_splits with harray | ⟨left, right, rfl, hsplits⟩
    · exact harray
    · cases hbrackets.unique hsplits.array.means
  · exact fun harray => harray.array.union_of_array

/-! ## Names that stand for types -/

mutual

/-- A tree with what its names mean in their places. -/
def Tree.expand (meaning : String → Tree) : Tree → Tree
  | .name text => meaning text
  | .union left right => .union (left.expand meaning) (right.expand meaning)
  | .array element => .array (element.expand meaning)
  | .apply name arguments => .apply name (expandArguments meaning arguments)
  | .index key value => .index (key.expand meaning) (value.expand meaning)
  | .object members => .object (expandMembers meaning members)

/-- Arguments with what their names mean. -/
def expandArguments (meaning : String → Tree) : List Tree → List Tree
  | [] => []
  | tree :: rest => tree.expand meaning :: expandArguments meaning rest

/-- Members with what the names in their types mean. -/
def expandMembers (meaning : String → Tree) :
    List (String × Bool × Tree) → List (String × Bool × Tree)
  | [] => []
  | (name, optional, tree) :: rest =>
      (name, optional, tree.expand meaning) :: expandMembers meaning rest

end

/-- Whether a word means itself. -/
def KeepsWords (meaning : String → Tree) : Prop :=
  ∀ word, isWord word = true → meaning word = .name word

section

variable {meaning : String → Tree} (hwords : KeepsWords meaning)

include hwords

theorem expand_undefined : Tree.expand meaning (.name "undefined") = .name "undefined" := by
  rw [Tree.expand]
  exact hwords "undefined" (isWord_of_mem_fixedWords "undefined" (by decide))

/-- Widening and the expansion of names can be done in either order. -/
theorem expand_widened (wanted : Bool) (tree : Tree) :
    (tree.widened wanted).expand meaning = (tree.expand meaning).widened wanted := by
  cases wanted with
  | false => rfl
  | true =>
      show Tree.expand meaning (.union tree (.name "undefined")) = _
      rw [Tree.expand, expand_undefined hwords]
      rfl

end

/-- Widening forgets nothing. -/
theorem widened_inj {wanted : Bool} {tree other : Tree} :
    tree.widened wanted = other.widened wanted ↔ tree = other := by
  cases wanted with
  | false => exact Iff.rfl
  | true => exact ⟨fun h => (Tree.union.inj h).1, fun h => h ▸ rfl⟩

end Script

/-! ## What is written and what is meant -/

namespace ScriptType

open Script

mutual

/-- Whether every text in a type is what its place asks for: names are types, only a word is
    applied, to one argument at least, and the names of properties are on one line. -/
def Readable (meaning : String → Tree) : ScriptType → Prop
  | .named text => Means .union text (meaning text)
  | .orUndefined inner => inner.Readable meaning
  | .array element => element.Readable meaning
  | .index key value => key.Readable meaning ∧ value.Readable meaning
  | .apply base arguments =>
      (∃ text, base = .named text ∧ isWord text = true) ∧ arguments ≠ []
        ∧ ReadableArguments meaning arguments
  | .object properties => ReadableProperties meaning properties

/-- Whether arguments are readable. -/
def ReadableArguments (meaning : String → Tree) : List ScriptType → Prop
  | [] => True
  | type :: rest => type.Readable meaning ∧ ReadableArguments meaning rest

/-- Whether properties are readable. -/
def ReadableProperties (meaning : String → Tree) : List Property → Prop
  | [] => True
  | ⟨name, _, type, _⟩ :: rest =>
      Script.OneLine name ∧ type.Readable meaning
        ∧ ReadableProperties meaning rest

end

mutual

/-- Whether each text in a tight place binds as tightly as brackets do. -/
def Whole (meaning : String → Tree) (tight : Bool) : ScriptType → Prop
  | .named text => tight = true → Means .array text (meaning text)
  | .orUndefined inner => inner.Whole meaning false
  | .array element => element.Whole meaning true
  | .index key value => key.Whole meaning false ∧ value.Whole meaning false
  | .apply _ arguments => WholeArguments meaning arguments
  | .object properties => WholeProperties meaning properties

/-- Whether this holds in arguments. -/
def WholeArguments (meaning : String → Tree) : List ScriptType → Prop
  | [] => True
  | type :: rest => type.Whole meaning false ∧ WholeArguments meaning rest

/-- Whether this holds in the types of properties. -/
def WholeProperties (meaning : String → Tree) : List Property → Prop
  | [] => True
  | ⟨_, _, type, _⟩ :: rest => type.Whole meaning false ∧ WholeProperties meaning rest

end

/-- How a text for a type reads: as a phrase of its place, and as what is meant exactly if
    the type is whole; or in a tight place as alternatives, which a whole type never gives. -/
def Reads (meaning : String → Tree) (tight : Bool) (type : ScriptType) (text : String) : Prop :=
  (∃ tree, Means (level tight) text tree
    ∧ (tree = type.tree.expand meaning ↔ type.Whole meaning tight))
  ∨ (tight = true ∧ ¬ type.Whole meaning true ∧ ∃ left right, Splits text left right)

/-- A closed text is read as what it means, whatever stands around it. -/
theorem Reads.of_closed {meaning : String → Tree} {type : ScriptType} {text : String} {tree : Tree}
    (h : Means .closed text tree) {tight : Bool}
    (hiff : tree = type.tree.expand meaning ↔ type.Whole meaning tight) :
    type.Reads meaning tight text :=
  Or.inl ⟨tree, means_level_of_closed h tight, hiff⟩

/-- In a place that is not tight there is a reading. -/
theorem Reads.exists_means {meaning : String → Tree} {type : ScriptType} {text : String}
    (h : type.Reads meaning false text) :
    ∃ tree, Means .union text tree
      ∧ (tree = type.tree.expand meaning ↔ type.Whole meaning false) := by
  rcases h with hmeans | ⟨htight, -⟩
  · exact hmeans
  · cases htight

/-- A scalar is read as its text means. -/
theorem reads_named {meaning : String → Tree} {text : String}
    (h : Means .union text (meaning text)) (tight : Bool) :
    (ScriptType.named text).Reads meaning tight text := by
  unfold Reads
  rw [tree, Tree.expand, Whole, Whole]
  cases tight with
  | false => exact Or.inl ⟨meaning text, h, iff_of_true rfl fun htight => absurd htight (by decide)⟩
  | true =>
      rcases h.array_or_splits with harray | ⟨left, right, -, hsplits⟩
      · exact Or.inl ⟨meaning text, harray, iff_of_true rfl fun _ => harray⟩
      · exact Or.inr ⟨rfl, fun hwhole => hsplits.not_means_array (hwhole rfl), left, right, hsplits⟩

/-- Brackets go to the whole element if it reads as a phrase of a tight place, and to its last
    alternative otherwise. -/
theorem reads_array {meaning : String → Tree} {element : ScriptType} {text : String}
    (h : element.Reads meaning true text) (tight : Bool) :
    (ScriptType.array element).Reads meaning tight (text ++ "[]") := by
  unfold Reads
  rw [ScriptType.tree, Tree.expand, Whole, Whole]
  rcases h with ⟨tree, hmeans, hiff⟩ | ⟨-, hnot, left, right, hsplits⟩
  · have harray : Means .array (text ++ "[]") (.array tree) := Means.array hmeans
    refine Or.inl ⟨.array tree, ?_, by rw [Tree.array.injEq, hiff]⟩
    cases tight with
    | false => exact harray.union_of_array
    | true => exact harray
  · cases tight with
    | false =>
        refine Or.inl ⟨_, hsplits.array.means, iff_of_false (fun heq => ?_) hnot⟩
        cases heq
    | true => exact Or.inr ⟨rfl, hnot, left, .array right, hsplits.array⟩

mutual

/-- What is written for a type reads as what is meant exactly if the type is whole. -/
theorem reads_render {meaning : String → Tree} (hwords : KeepsWords meaning) {indent : String}
    (hindent : ∀ c ∈ indent.toList, c ∈ blanks) : ∀ type : ScriptType, type.Readable meaning →
      ∀ (depth : Int) (tight : Bool), type.Reads meaning tight (type.render indent depth tight)
  | .named text, h, _, tight => by
      rw [Readable] at h
      rw [render]
      exact reads_named h tight
  | .orUndefined inner, h, depth, tight => by
      rw [Readable] at h
      obtain ⟨tree, hmeans, hiff⟩ := (reads_render hwords hindent inner h depth false).exists_means
      have hsame : Tree.union tree (.name "undefined")
          = (ScriptType.orUndefined inner).tree.expand meaning
          ↔ (ScriptType.orUndefined inner).Whole meaning tight := by
        rw [ScriptType.tree, Tree.expand, expand_undefined hwords, Whole, Tree.union.injEq, hiff]
        exact and_iff_left rfl
      rw [render]
      by_cases hparentheses : (tight || inner.isArray) = true
      · rw [hparentheses]
        exact .of_closed hmeans.orUndefined.parentheses hsame
      · rw [Bool.not_eq_true, Bool.or_eq_false_iff] at hparentheses
        obtain ⟨rfl, harray⟩ := hparentheses
        rw [harray]
        exact Or.inl ⟨_, hmeans.orUndefined, hsame⟩
  | .array element, h, depth, tight => by
      rw [Readable] at h
      rw [render]
      exact reads_array (reads_render hwords hindent element h depth true) tight
  | .index key value, h, depth, tight => by
      rw [Readable] at h
      obtain ⟨first, hfirst, hkey⟩ := (reads_render hwords hindent key h.1 depth false).exists_means
      obtain ⟨second, hsecond, hvalue⟩ :=
        (reads_render hwords hindent value h.2 depth false).exists_means
      rw [render]
      refine .of_closed (hfirst.index hsecond) ?_
      rw [ScriptType.tree, Tree.expand, Whole, Tree.index.injEq, hkey, hvalue]
  | .apply base arguments, h, depth, tight => by
      rw [Readable] at h
      obtain ⟨⟨text, rfl, htext⟩, hne, harguments⟩ := h
      obtain ⟨trees, hmeans, hiff⟩ :=
        reads_renderArguments hwords hindent arguments harguments depth hne
      rw [render, render]
      refine .of_closed (.apply htext hmeans) ?_
      rw [ScriptType.tree, Tree.expand, Whole, Tree.apply.injEq, hiff]
      exact and_iff_right rfl
  | .object properties, h, depth, tight => by
      rw [Readable] at h
      obtain ⟨members, hmeans, hiff⟩ :=
        reads_renderProperties hwords hindent properties h (depth + 1)
      rw [render]
      refine .of_closed (.object hmeans (mem_blanks_of_repeated hindent _)) ?_
      rw [ScriptType.tree, Tree.expand, Whole, Tree.object.injEq, hiff]

/-- Arguments are read one by one, and whole if each is. -/
theorem reads_renderArguments {meaning : String → Tree} (hwords : KeepsWords meaning)
    {indent : String} (hindent : ∀ c ∈ indent.toList, c ∈ blanks) : ∀ arguments : List ScriptType,
    ReadableArguments meaning arguments → ∀ depth : Int, arguments ≠ [] →
      ∃ trees, MeansArguments (String.intercalate ", " (renderArguments indent depth arguments)) trees
        ∧ (trees = expandArguments meaning (treesOfArguments arguments)
          ↔ WholeArguments meaning arguments)
  | [], _, _, hne => absurd rfl hne
  | [type], h, depth, _ => by
      rw [ReadableArguments] at h
      obtain ⟨tree, ⟨tokens, hscan, hderives⟩, hiff⟩ :=
        (reads_render hwords hindent type h.1 depth false).exists_means
      refine ⟨[tree], ⟨tokens, hscan, .one hderives⟩, ?_⟩
      rw [treesOfArguments, treesOfArguments, expandArguments, expandArguments, WholeArguments,
        WholeArguments, List.cons.injEq, hiff]
      exact and_congr_right fun _ => iff_of_true rfl trivial
  | type :: next :: rest, h, depth, _ => by
      rw [ReadableArguments] at h
      obtain ⟨tree, hmeans, hiff⟩ := (reads_render hwords hindent type h.1 depth false).exists_means
      obtain ⟨trees, hrest, hothers⟩ :=
        reads_renderArguments hwords hindent (next :: rest) h.2 depth (List.cons_ne_nil next rest)
      have hmore := MeansArguments.more hmeans hrest
      rw [renderArguments] at hmore
      rw [renderArguments, renderArguments, String.intercalate_cons_cons]
      refine ⟨tree :: trees, hmore, ?_⟩
      rw [treesOfArguments, expandArguments, WholeArguments, List.cons.injEq, hiff, hothers]

theorem reads_renderProperties {meaning : String → Tree} (hwords : KeepsWords meaning)
    {indent : String} (hindent : ∀ c ∈ indent.toList, c ∈ blanks) : ∀ properties : List Property,
    ReadableProperties meaning properties → ∀ depth : Int,
      ∃ members, MeansMembers (renderProperties indent depth properties) members
        ∧ (members = expandMembers meaning (treesOfProperties properties)
          ↔ WholeProperties meaning properties)
  | [], _, _ => ⟨[], ⟨[], rfl, .none⟩, by
      rw [treesOfProperties, expandMembers, WholeProperties]
      exact iff_of_true rfl trivial⟩
  | ⟨name, optional, type, widened⟩ :: rest, h, depth => by
      rw [ReadableProperties] at h
      obtain ⟨hline, htype, hrest⟩ := h
      obtain ⟨tree, hmeans, hiff⟩ :=
        (reads_render hwords hindent type htype depth false).exists_means
      obtain ⟨members, hmembers, hothers⟩ := reads_renderProperties hwords hindent rest hrest depth
      have hmore := MeansMembers.more (mem_blanks_of_repeated hindent (depth + 1).toNat) hline
        optional (hmeans.widened widened) hmembers
      refine ⟨(name, optional, tree.widened widened) :: members, ?_, ?_⟩
      · rw [renderProperties, propertyLine, indentation]
        simpa only [String.append_assoc] using hmore
      · rw [treesOfProperties, expandMembers, WholeProperties, List.cons.injEq, Prod.mk.injEq,
          Prod.mk.injEq, expand_widened hwords, widened_inj, hiff, hothers]
        simp only [true_and]

end

end ScriptType

open Script (Tree Means KeepsWords)

/-! ## Texts right under a slice -/

/-- Whether the text for a type, if it is a configured one, binds as tightly as brackets. -/
def TypeExpr.Binds (options : Options) (meaning : String → Tree) : TypeExpr → Prop
  | .selector package name =>
      ∀ text, options.scalar? package name = some text → Means .array text (meaning text)
  | _ => True

/-- Whether this holds of the element, if a type is a slice. -/
def TypeExpr.ElementBinds (options : Options) (meaning : String → Tree) : TypeExpr → Prop
  | .slice element => element.Binds options meaning
  | _ => True

/-- Whether a word is written for the base, if a type is generic. -/
def TypeExpr.AppliesWord (options : Options) : TypeExpr → Prop
  | .generic (.selector package name) _ =>
      Script.isWord ((options.scalar? package name).getD name) = true
  | _ => True

section

variable {options : Options} {meaning : String → Tree}

/-- A word means what the meanings say of it. -/
theorem means_word (hwords : KeepsWords meaning) {word : String}
    (h : Script.isWord word = true) : Means .closed word (meaning word) := by
  rw [hwords word h]
  exact .word h

/-- A scalar that is found is one of the options. -/
theorem mem_scalars {package name text : String} (h : options.scalar? package name = some text) :
    (package ++ "." ++ name, text) ∈ options.scalars := by
  rw [Options.scalar?, List.lookup_eq_some_iff] at h
  obtain ⟨before, behind, hsplit, -⟩ := h
  rw [hsplit]
  exact List.mem_append_right before List.mem_cons_self

/-- Arguments that are expressed are readable if each is. -/
theorem readable_expressArguments {arguments : List TypeExpr}
    (hargument : ∀ argument ∈ arguments, ∀ e, argument.express options = .ok e →
      e.type.Readable meaning)
    {imports : ImportSet} {found : List ScriptType × ImportSet}
    (h : expressArguments options imports arguments = .ok found) :
    ScriptType.ReadableArguments meaning found.1 ∧ found.1.length = arguments.length := by
  refine expressArguments_induction (P := fun arguments types =>
    ScriptType.ReadableArguments meaning types ∧ types.length = arguments.length) ?_ ?_ h
  · rw [ScriptType.ReadableArguments]
    exact ⟨trivial, rfl⟩
  · intro argument hmem e he rest types hrest
    rw [ScriptType.ReadableArguments, List.length_cons, List.length_cons, hrest.2]
    exact ⟨⟨hargument argument hmem e he, hrest.1⟩, rfl⟩

theorem readable_expressEach (hwords : KeepsWords meaning) {members : List Member}
    (hline : ∀ member ∈ members, Script.OneLine member.name)
    (hmember : ∀ member ∈ members, member.asString = false → ∀ e,
      member.type.express options = .ok e → e.type.Readable meaning)
    {body : ExpressedBody} (h : expressEach options members = .ok body) :
    ScriptType.ReadableProperties meaning body.properties := by
  refine expressEach_induction (P := fun _ properties =>
    ScriptType.ReadableProperties meaning properties) ?_ ?_ h
  · rw [ScriptType.ReadableProperties]
    exact trivial
  · intro member hmem type htype rest properties hrest
    have hreadable : type.Readable meaning := by
      rcases htype with ⟨-, rfl⟩ | ⟨hstring, e, he, rfl⟩
      · rw [ScriptType.Readable]
        exact (means_word hwords (Script.isWord_of_mem_fixedWords "string"
          (by decide))).array_of_closed.union_of_array
      · exact hmember member hmem hstring e he
    rw [Member.property, ScriptType.ReadableProperties]
    exact ⟨hline member hmem, hreadable, hrest⟩

/-- What is written for the base of a generic type is a word. -/
theorem isWord_of_appliesWord {base : TypeExpr} {arguments : List TypeExpr}
    (hbase : base.isReference = true) (hlegible : base.Legible)
    (hword : (TypeExpr.generic base arguments).AppliesWord options) {e : Expressed}
    (he : base.express options = .ok e) :
    ∃ text, e.type = .named text ∧ Script.isWord text = true := by
  unfold TypeExpr.isReference at hbase
  split at hbase
  · next name isLocal =>
      rw [TypeExpr.Legible] at hlegible
      rw [TypeExpr.express] at he
      cases he
      exact ⟨primitiveName name, rfl, isWord_primitiveName hlegible⟩
  · next package name =>
      rw [TypeExpr.express] at he
      cases he
      refine ⟨_, ?_, hword⟩
      unfold expressSelector
      cases options.scalar? package name with
      | none => rfl
      | some text => rfl
  · cases hbase

/-- The type made for a legible Go type is readable. -/
theorem TypeExpr.readable_express (hwords : KeepsWords meaning)
    (hscalars : ∀ entry ∈ options.scalars, Means .union entry.2 (meaning entry.2)) :
    ∀ (type : TypeExpr) (e : Expressed), type.express options = .ok e → type.Legible →
      (∀ part : TypeExpr, part.ShownIn type → part.AppliesWord options) →
        e.type.Readable meaning := by
  have hword : ∀ {word : String}, Script.isWord word = true →
      (ScriptType.named word).Readable meaning := by
    intro word h
    rw [ScriptType.Readable]
    exact (means_word hwords h).array_of_closed.union_of_array
  refine TypeExpr.express_induction (P := fun type e => type.Legible →
    (∀ part : TypeExpr, part.ShownIn type → part.AppliesWord options) →
      e.type.Readable meaning) ?_
  constructor
  case bytes =>
    intro _ _
    exact hword (Script.isWord_of_mem_fixedWords "string" (by decide))
  case any =>
    intro _ _
    exact hword (Script.isWord_of_mem_fixedWords "any" (by decide))
  case named =>
    intro name isLocal hlegible _
    rw [TypeExpr.Legible] at hlegible
    exact hword (isWord_primitiveName hlegible)
  case selector =>
    intro package name hlegible _
    rw [TypeExpr.Legible] at hlegible
    unfold expressSelector
    cases hscalar : options.scalar? package name with
    | none => exact hword hlegible
    | some text =>
        show (ScriptType.named text).Readable meaning
        rw [ScriptType.Readable]
        exact hscalars _ (mem_scalars hscalar)
  case pointer =>
    intro inner e hinner hlegible happlies
    rw [TypeExpr.Legible] at hlegible
    rw [ScriptType.Readable]
    exact hinner hlegible (forall_shownIn_pointer.mp happlies).2
  case slice =>
    intro element e helement hlegible happlies
    rw [TypeExpr.Legible] at hlegible
    rw [ScriptType.Readable]
    exact helement hlegible (forall_shownIn_slice.mp happlies).2
  case map =>
    intro key value k v hkey hvalue hlegible happlies
    rw [TypeExpr.Legible] at hlegible
    obtain ⟨-, hkeys, hvalues⟩ := forall_shownIn_map.mp happlies
    rw [ScriptType.Readable]
    exact ⟨hkey hlegible.1 hkeys, hvalue hlegible.2 hvalues⟩
  case generic =>
    intro base arguments b found hb _ hargument hfound hlegible happlies
    rw [TypeExpr.Legible] at hlegible
    obtain ⟨hreference, hbase, hne, hlegibles⟩ := hlegible
    obtain ⟨hself, -, happlied⟩ := forall_shownIn_generic.mp happlies
    obtain ⟨harguments, hlength⟩ := readable_expressArguments (fun argument hmem e he =>
      hargument argument hmem e he (hlegibles argument hmem) (happlied argument hmem)) hfound
    rw [ScriptType.Readable]
    refine ⟨isWord_of_appliesWord hreference hbase hself hb, ?_, harguments⟩
    intro hempty
    rw [hempty] at hlength
    exact hne (List.length_eq_zero_iff.mp hlength.symm)
  case struct =>
    intro fields members body hmembers hmember hbody hlegible happlies
    have hall := (legible_struct hmembers).mp hlegible
    have hshown := ((forall_shownIn_struct (fun _ => trivial) hmembers).mp happlies).2
    rw [ScriptType.Readable]
    exact readable_expressEach hwords (fun member hmem => (hall member hmem).1)
      (fun member hmem hstring e he =>
        hmember member hmem e he (hall member hmem).2 (hshown member hmem hstring)) hbody

/-- Arguments that are expressed are whole if each is. -/
theorem whole_expressArguments {arguments : List TypeExpr} {Q : TypeExpr → Prop}
    (hargument : ∀ argument ∈ arguments, ∀ e, argument.express options = .ok e →
      (e.type.Whole meaning false ↔ Q argument))
    {imports : ImportSet} {found : List ScriptType × ImportSet}
    (h : expressArguments options imports arguments = .ok found) :
    ScriptType.WholeArguments meaning found.1 ↔ ∀ argument ∈ arguments, Q argument := by
  refine expressArguments_induction (P := fun arguments types =>
    ScriptType.WholeArguments meaning types ↔ ∀ argument ∈ arguments, Q argument) ?_ ?_ h
  · rw [ScriptType.WholeArguments]
    exact iff_of_true trivial (List.forall_mem_nil _)
  · intro argument hmem e he rest types hrest
    rw [ScriptType.WholeArguments, List.forall_mem_cons, hargument argument hmem e he, hrest]

/-- So are members, but for those that are written as strings. -/
theorem whole_expressEach {members : List Member} {Q : TypeExpr → Prop}
    (hmember : ∀ member ∈ members, ∀ e, member.type.express options = .ok e →
      (e.type.Whole meaning false ↔ Q member.type))
    {body : ExpressedBody} (h : expressEach options members = .ok body) :
    ScriptType.WholeProperties meaning body.properties
      ↔ ∀ member ∈ members, member.asString = false → Q member.type := by
  refine expressEach_induction (P := fun members properties =>
    ScriptType.WholeProperties meaning properties
      ↔ ∀ member ∈ members, member.asString = false → Q member.type) ?_ ?_ h
  · rw [ScriptType.WholeProperties]
    exact iff_of_true trivial (List.forall_mem_nil _)
  · intro member hmem type htype rest properties hrest
    have hwhole : type.Whole meaning false ↔ (member.asString = false → Q member.type) := by
      rcases htype with ⟨hstring, rfl⟩ | ⟨hstring, e, he, rfl⟩
      · rw [ScriptType.Whole, hstring]
        exact iff_of_true (fun hno => absurd hno (by decide)) (fun hno => absurd hno (by decide))
      · rw [hmember member hmem e he]
        exact ⟨fun h _ => h, fun h => h hstring⟩
    rw [Member.property, ScriptType.WholeProperties, List.forall_mem_cons, hwhole, hrest]

/-- The type made for a Go type is whole if configured texts right under slices bind tightly
    enough, and so does the text for the type itself in a tight place. -/
theorem TypeExpr.whole_express (hwords : KeepsWords meaning) :
    ∀ (type : TypeExpr) (e : Expressed), type.express options = .ok e → type.Legible →
      ∀ tight : Bool, (e.type.Whole meaning tight
        ↔ (tight = true → type.Binds options meaning)
          ∧ ∀ part : TypeExpr, part.ShownIn type → part.ElementBinds options meaning) := by
  have hword : ∀ {word : String} (tight : Bool), Script.isWord word = true →
      (ScriptType.named word).Whole meaning tight := by
    intro word tight h
    rw [ScriptType.Whole]
    exact fun _ => (means_word hwords h).array_of_closed
  refine TypeExpr.express_induction (P := fun type e => type.Legible →
    ∀ tight : Bool, (e.type.Whole meaning tight
      ↔ (tight = true → type.Binds options meaning)
        ∧ ∀ part : TypeExpr, part.ShownIn type → part.ElementBinds options meaning)) ?_
  constructor
  case bytes =>
    intro _ tight
    exact iff_of_true (hword tight (Script.isWord_of_mem_fixedWords "string" (by decide)))
      ⟨fun _ => trivial, (forall_shownIn_leaf rfl).mpr trivial⟩
  case any =>
    intro _ tight
    exact iff_of_true (hword tight (Script.isWord_of_mem_fixedWords "any" (by decide)))
      ⟨fun _ => trivial, (forall_shownIn_leaf rfl).mpr trivial⟩
  case named =>
    intro name isLocal hlegible tight
    rw [TypeExpr.Legible] at hlegible
    exact iff_of_true (hword tight (isWord_primitiveName hlegible))
      ⟨fun _ => trivial, (forall_shownIn_leaf rfl).mpr trivial⟩
  case selector =>
    intro package name hlegible tight
    rw [TypeExpr.Legible] at hlegible
    rw [and_iff_left ((forall_shownIn_leaf rfl).mpr trivial), TypeExpr.Binds]
    unfold expressSelector
    cases options.scalar? package name with
    | none => exact iff_of_true (hword tight hlegible) fun _ text htext => by cases htext
    | some text =>
        show (ScriptType.named text).Whole meaning tight ↔ _
        rw [ScriptType.Whole]
        exact ⟨fun h htight found hfound => Option.some.inj hfound ▸ h htight,
          fun h htight => h htight text rfl⟩
  case pointer =>
    intro inner e hinner hlegible tight
    rw [TypeExpr.Legible] at hlegible
    rw [ScriptType.Whole, hinner hlegible false, forall_shownIn_pointer]
    exact ⟨fun h => ⟨fun _ => trivial, trivial, h.2⟩,
      fun h => ⟨fun hno => absurd hno (by decide), h.2.2⟩⟩
  case slice =>
    intro element e helement hlegible tight
    rw [TypeExpr.Legible] at hlegible
    rw [ScriptType.Whole, helement hlegible true, forall_shownIn_slice]
    exact ⟨fun h => ⟨fun _ => trivial, h.1 rfl, h.2⟩, fun h => ⟨fun _ => h.2.1, h.2.2⟩⟩
  case map =>
    intro key value k v hkey hvalue hlegible tight
    rw [TypeExpr.Legible] at hlegible
    rw [ScriptType.Whole, hkey hlegible.1 false, hvalue hlegible.2 false, forall_shownIn_map]
    exact ⟨fun h => ⟨fun _ => trivial, trivial, h.1.2, h.2.2⟩,
      fun h => ⟨⟨fun hno => absurd hno (by decide), h.2.2.1⟩,
        fun hno => absurd hno (by decide), h.2.2.2⟩⟩
  case generic =>
    intro base arguments b found hb hbase hargument hfound hlegible tight
    rw [TypeExpr.Legible] at hlegible
    obtain ⟨hreference, hbaseLegible, -, hlegibles⟩ := hlegible
    have hwhole := whole_expressArguments (fun argument hmem e he =>
      hargument argument hmem e he (hlegibles argument hmem) false) hfound
    -- the base is a name, in which no slice is shown
    have hnone : ∀ part : TypeExpr, part.ShownIn base → part.ElementBinds options meaning := by
      unfold TypeExpr.isReference at hreference
      split at hreference
      · exact (forall_shownIn_leaf rfl).mpr trivial
      · exact (forall_shownIn_leaf rfl).mpr trivial
      · cases hreference
    rw [ScriptType.Whole, hwhole, forall_shownIn_generic]
    exact ⟨fun h => ⟨fun _ => trivial, trivial, hnone, fun argument hmem => (h argument hmem).2⟩,
      fun h argument hmem => ⟨fun hno => absurd hno (by decide), h.2.2.2 argument hmem⟩⟩
  case struct =>
    intro fields members body hmembers hmember hbody hlegible tight
    have hall := (legible_struct hmembers).mp hlegible
    have hwhole := whole_expressEach (Q := fun type => (false = true → type.Binds options meaning)
      ∧ ∀ part : TypeExpr, part.ShownIn type → part.ElementBinds options meaning)
      (fun member hmem e he => hmember member hmem e he (hall member hmem).2 false) hbody
    rw [ScriptType.Whole, hwhole, forall_shownIn_struct (fun _ => trivial) hmembers]
    exact ⟨fun h => ⟨fun _ => trivial, trivial, fun member hmem hstring =>
      (h member hmem hstring).2⟩, fun h member hmem hstring =>
        ⟨fun hno => absurd hno (by decide), h.2.2 member hmem hstring⟩⟩

end

/-! ## Slices where they are written -/

/-- Whether a text has a piece in it. -/
def Script.Holds (text piece : String) : Prop :=
  ∃ before behind, text = before ++ piece ++ behind

namespace Script.Holds

variable {text piece : String}

/-- What a text holds is held if more follows. -/
theorem append_right (h : Holds text piece) (other : String) : Holds (text ++ other) piece := by
  obtain ⟨before, behind, rfl⟩ := h
  exact ⟨before, behind ++ other, String.append_assoc⟩

theorem append_left (h : Holds text piece) (other : String) : Holds (other ++ text) piece := by
  obtain ⟨before, behind, rfl⟩ := h
  exact ⟨other ++ before, behind, by simp only [String.append_assoc]⟩

theorem parenthesized (h : Holds text piece) (wanted : Bool) :
    Holds (ScriptType.parenthesized wanted text) piece := by
  cases wanted with
  | false => exact h
  | true => exact (h.append_left "(").append_right ")"

theorem intercalate (h : Holds text piece) (separator : String) {texts : List String}
    (hmem : text ∈ texts) : Holds (String.intercalate separator texts) piece := by
  induction texts with
  | nil => cases hmem
  | cons first rest ih =>
      cases rest with
      | nil =>
          rw [String.intercalate_singleton]
          exact List.mem_singleton.mp hmem ▸ h
      | cons next others =>
          rw [String.intercalate_cons_cons]
          rcases List.mem_cons.mp hmem with rfl | hrest
          · exact (h.append_right separator).append_right _
          · exact (ih hrest).append_left _

end Script.Holds

open Script (Holds)

section

open ScriptType (render renderArguments renderProperties propertyLine)

variable {options : Options}

/-- An argument is rendered among the arguments. -/
theorem mem_renderArguments {arguments : List TypeExpr} {argument : TypeExpr}
    (hmem : argument ∈ arguments) {e : Expressed} (he : argument.express options = .ok e)
    {imports : ImportSet} {found : List ScriptType × ImportSet}
    (h : expressArguments options imports arguments = .ok found) (indent : String) (depth : Int) :
    render indent depth false e.type ∈ renderArguments indent depth found.1 := by
  refine expressArguments_induction (P := fun arguments types => argument ∈ arguments →
    render indent depth false e.type ∈ renderArguments indent depth types)
    (fun hnone => by cases hnone) ?_ h hmem
  intro first _ here hhere rest types hrest hin
  rw [renderArguments]
  rcases List.mem_cons.mp hin with rfl | hlater
  · cases he.symm.trans hhere
    exact List.mem_cons_self
  · exact List.mem_cons_of_mem _ (hrest hlater)

/-- What the type of a member holds is held by the properties. -/
theorem holds_renderProperties {members : List Member} {member : Member} (hmem : member ∈ members)
    (hstring : member.asString = false) {e : Expressed} (he : member.type.express options = .ok e)
    {body : ExpressedBody} (h : expressEach options members = .ok body) {indent : String}
    {depth : Int} {piece : String} (hpiece : Holds (render indent depth false e.type) piece) :
    Holds (renderProperties indent depth body.properties) piece := by
  refine expressEach_induction (P := fun members properties => member ∈ members →
    Holds (renderProperties indent depth properties) piece) (fun hnone => by cases hnone) ?_ h hmem
  intro first _ type htype rest properties hrest hin
  rw [Member.property, renderProperties]
  rcases List.mem_cons.mp hin with rfl | hlater
  · obtain ⟨hyes, -⟩ | ⟨-, found, hfound, rfl⟩ := htype
    · cases hstring.symm.trans hyes
    · cases he.symm.trans hfound
      rw [propertyLine]
      exact (((hpiece.append_left _).append_right _).append_right _).append_right _
  · exact (hrest hlater).append_left _

/-- Brackets are written right behind a configured text wherever a slice of it is shown. -/
theorem TypeExpr.holds_express {package name text : String}
    (hscalar : options.scalar? package name = some text) :
    ∀ (type : TypeExpr) (e : Expressed), type.express options = .ok e →
      (type = .selector package name → e.type = .named text)
      ∧ ((TypeExpr.slice (.selector package name)).ShownIn type →
        ∀ (indent : String) (depth : Int) (tight : Bool),
          Holds (render indent depth tight e.type) (text ++ "[]")) := by
  refine TypeExpr.express_induction ?_
  constructor
  case bytes => exact ⟨TypeExpr.noConfusion, fun hshown => by cases hshown⟩
  case any => exact ⟨TypeExpr.noConfusion, fun hshown => by cases hshown⟩
  case named =>
    intro other isLocal
    exact ⟨TypeExpr.noConfusion, fun hshown => by cases hshown⟩
  case selector =>
    intro other found
    refine ⟨fun heq => ?_, fun hshown => by cases hshown⟩
    cases heq
    rw [expressSelector, hscalar]
  case pointer =>
    intro inner e hinner
    refine ⟨TypeExpr.noConfusion, fun hshown indent depth tight => ?_⟩
    cases hshown with
    | pointer hshown =>
        rw [render]
        exact ((hinner.2 hshown indent depth false).append_right _).parenthesized _
  case slice =>
    intro element e helement
    refine ⟨TypeExpr.noConfusion, fun hshown indent depth tight => ?_⟩
    rw [render]
    cases hshown with
    | here =>
        rw [helement.1 rfl, render]
        exact ⟨"", "", by rw [String.empty_append, String.append_empty]⟩
    | slice hshown => exact (helement.2 hshown indent depth true).append_right _
  case map =>
    intro key value k v hkey hvalue
    refine ⟨TypeExpr.noConfusion, fun hshown indent depth tight => ?_⟩
    rw [render]
    cases hshown with
    | key hshown =>
        have hholds := (hkey.2 hshown indent depth false).append_left "\x7b [key: "
        exact ((hholds.append_right _).append_right _).append_right _
    | value hshown => exact ((hvalue.2 hshown indent depth false).append_left _).append_right _
  case generic =>
    intro base arguments b found hb hbase hargument hfound
    refine ⟨TypeExpr.noConfusion, fun hshown indent depth tight => ?_⟩
    rw [render]
    cases hshown with
    | base hshown =>
        have hholds := hbase.2 hshown indent depth false
        exact ((hholds.append_right _).append_right _).append_right _
    | argument hmem hshown =>
        obtain ⟨e, he⟩ := exists_express_of_arguments hfound hmem
        have hholds := (hargument _ hmem e he).2 hshown indent depth false
        have hjoined := hholds.intercalate ", " (mem_renderArguments hmem he hfound indent depth)
        exact (hjoined.append_left _).append_right _
  case struct =>
    intro fields members body hmembers hmember hbody
    refine ⟨TypeExpr.noConfusion, fun hshown indent depth tight => ?_⟩
    cases hshown with
    | @member _ field hfield hkept hshown =>
        -- the pointer of a field is not written, but a slice is none
        have htarget : (TypeExpr.slice (.selector package name)).ShownIn
            (Member.target field.type) := by
          revert hshown
          cases field.type with
          | pointer inner =>
              intro hshown
              cases hshown with
              | pointer hinner => exact hinner
          | _ => exact id
        obtain ⟨member, hmem, hstring, hinside⟩ :=
          (exists_kept_iff hmembers).mp ⟨field, hfield, hkept, htarget⟩
        obtain ⟨e, he⟩ := exists_express_of_mem hbody hmem hstring
        have hholds := (hmember member hmem e he).2 hinside indent (depth + 1) false
        rw [render]
        exact (((holds_renderProperties hmem hstring he hbody hholds).append_left _).append_right
          _).append_right _

end

/-- Configured texts keep their precedence inside slices exactly if they bind tightly enough
    by themselves.  Wherever a slice of a type with a configured text is shown, brackets stand
    right behind the text; they make an array of all of it if it is an array or closed in
    itself, and go to its last alternative only if it is not.  So what is written for a type
    means what the Go type says exactly if the texts right under slices are like that. -/
theorem scalars_keep_precedence_iff_bound {options : Options} {meaning : String → Tree}
    (hwords : KeepsWords meaning)
    (hscalars : ∀ entry ∈ options.scalars, Means .union entry.2 (meaning entry.2))
    {type : TypeExpr} {e : Expressed} (h : type.express options = .ok e) :
    (∀ package name text, (TypeExpr.slice (.selector package name)).ShownIn type →
      options.scalar? package name = some text →
        (∀ (depth : Int) (tight : Bool),
          Holds (e.type.render options.indent depth tight) (text ++ "[]"))
        ∧ (Means .union (text ++ "[]") (.array (meaning text)) ↔ Means .array text (meaning text))
        ∧ (¬ Means .array text (meaning text) → ∃ left right, meaning text = .union left right
          ∧ Means .union (text ++ "[]") (.union left (.array right))))
    ∧ (type.Legible → (∀ part : TypeExpr, part.ShownIn type → part.AppliesWord options) →
      (∀ c ∈ options.indent.toList, c ∈ Script.blanks) → ∀ depth : Int,
        (Means .union (e.type.render options.indent depth false)
            ((type.image options).expand meaning)
          ↔ ∀ package name text, (TypeExpr.slice (.selector package name)).ShownIn type →
            options.scalar? package name = some text → Means .array text (meaning text))) := by
  constructor
  · intro package name text hshown hscalar
    have hmeans := hscalars _ (mem_scalars hscalar)
    refine ⟨((type.holds_express hscalar e h).2 hshown options.indent), hmeans.brackets_iff,
      fun hnot => ?_⟩
    rcases hmeans.array_or_splits with harray | ⟨left, right, htree, hsplits⟩
    · exact absurd harray hnot
    · exact ⟨left, right, htree, hsplits.array.means⟩
  · intro hlegible happlies hindent depth
    have hreadable := type.readable_express hwords hscalars e h hlegible happlies
    obtain ⟨tree, hmeans, hiff⟩ :=
      (ScriptType.reads_render hwords hindent e.type hreadable depth false).exists_means
    rw [type.tree_express options e h, type.whole_express hwords e h hlegible] at hiff
    -- a text has one reading, so it means what is meant if the two are the same
    have hread : Means .union (e.type.render options.indent depth false)
        ((type.image options).expand meaning) ↔ tree = (type.image options).expand meaning :=
      ⟨fun hmeant => hmeans.unique hmeant, fun heq => heq ▸ hmeans⟩
    rw [hread, hiff]
    constructor
    · rintro ⟨-, hparts⟩ package name text hshown hscalar
      exact hparts _ hshown text hscalar
    · intro hall
      refine ⟨fun hno => absurd hno (by decide), fun part hpart => ?_⟩
      unfold TypeExpr.ElementBinds
      split
      · next element =>
          unfold TypeExpr.Binds
          split
          · next package name => exact fun text hscalar => hall package name text hpart hscalar
          · trivial
      · trivial

theorem splits_nullable :
    Script.Splits "string | null" (.name "string") (.name "null") := by
  have hscan : Script.scan .gap "string | null".toList
      = some [.word "string", .mark '|', .word "null"] := by
    decide
  exact ⟨[.word "string"], [.word "null"], hscan, .single (.closed (.name _)), .closed (.name _)⟩

/-- Options with a union in parentheses for a type of another package. -/
def wrappedOptions : Options :=
  { scalars := [("sql.NullString", "(string | null)"), ("time.Time", "string")] }

/-- What the texts of these options mean. -/
def wrappedMeaning (text : String) : Tree :=
  if text = "(string | null)" then .union (.name "string") (.name "null") else .name text

theorem keepsWords_wrapped : KeepsWords wrappedMeaning := by
  intro word hword
  refine if_neg ?_
  rintro rfl
  -- a parenthesis is in no word
  have hopen := (Script.isWord_iff.mp hword).2 '(' (by decide)
  cases hopen.symm.trans (Script.isWordChar_of_separator (by decide))

theorem means_wrapped : ∀ entry ∈ wrappedOptions.scalars,
    Means .closed entry.2 (wrappedMeaning entry.2) := by
  refine List.forall_mem_cons.mpr ⟨splits_nullable.means.parentheses,
    List.forall_mem_singleton.mpr (means_word keepsWords_wrapped ?_)⟩
  exact Script.isWord_of_mem_fixedWords "string" (by decide)

/-- A slice with a slice of a configured type further down. -/
def wrappedType : TypeExpr :=
  .slice (.pointer (.map (.named "string" false) (.slice (.selector "sql" "NullString"))))

theorem scalars_keep_precedence_iff_bound_of_wrapped :
    ∃ e, wrappedType.express wrappedOptions = .ok e
      ∧ e.type.render wrappedOptions.indent 0 false
        = "(\x7b [key: string]: (string | null)[] \x7d | undefined)[]"
      ∧ Holds (e.type.render wrappedOptions.indent 0 false) "(string | null)[]"
      ∧ Means .union (e.type.render wrappedOptions.indent 0 false)
        (.array (.union (.index (.name "string")
          (.array (.union (.name "string") (.name "null")))) (.name "undefined"))) := by
  have htext : (wrappedType.express wrappedOptions).toOption.map
      (fun e => e.type.render wrappedOptions.indent 0 false)
      = some "(\x7b [key: string]: (string | null)[] \x7d | undefined)[]" := by
    decide
  obtain ⟨e, he, hrender⟩ := Option.map_eq_some_iff.mp htext
  have hlegible : wrappedType.Legible := by
    simp only [wrappedType, TypeExpr.Legible]
    exact ⟨by decide, by decide⟩
  have happlies : ∀ part : TypeExpr, part.ShownIn wrappedType →
      part.AppliesWord wrappedOptions := by
    rw [wrappedType, TypeExpr.forall_shownIn_slice, TypeExpr.forall_shownIn_pointer,
      TypeExpr.forall_shownIn_map, TypeExpr.forall_shownIn_slice]
    exact ⟨trivial, trivial, trivial, (TypeExpr.forall_shownIn_leaf rfl).mpr trivial, trivial,
      (TypeExpr.forall_shownIn_leaf rfl).mpr trivial⟩
  have hblank : wrappedOptions.indent.toList.all Script.blanks.contains = true := by
    decide
  have himage : (wrappedType.image wrappedOptions).expand wrappedMeaning
      = .array (.union (.index (.name "string")
          (.array (.union (.name "string") (.name "null")))) (.name "undefined")) := by
    simp only [wrappedType, TypeExpr.image, Tree.expand]
    rfl
  obtain ⟨hslices, hwhole⟩ := scalars_keep_precedence_iff_bound keepsWords_wrapped
    (fun entry hentry => (means_wrapped entry hentry).array_of_closed.union_of_array)
    (toOption_eq_some.mp he)
  have hmeans := (hwhole hlegible happlies
    (fun c hc => List.contains_iff_mem.mp (List.all_eq_true.mp hblank c hc)) 0).mpr
    (fun package name text _ hscalar => (means_wrapped _ (mem_scalars hscalar)).array_of_closed)
  have hshown : (TypeExpr.slice (.selector "sql" "NullString")).ShownIn wrappedType :=
    .slice (.pointer (.value .here))
  exact ⟨e, toOption_eq_some.mp he, hrender,
    (hslices "sql" "NullString" "(string | null)" hshown (by decide)).1 0 false,
    himage ▸ hmeans⟩

/-- A slice of a type for which a union is configured is the union with an array of its last
    alternative. -/
theorem nullable_slice_loses_precedence :
    ∃ e, (TypeExpr.slice (.selector "sql" "NullString")).express
        { scalars := [("sql.NullString", "string | null")] } = .ok e
      ∧ e.type.render "    " 0 false = "string | null[]"
      ∧ Means .union "string | null" (.union (.name "string") (.name "null"))
      ∧ Means .union "string | null[]" (.union (.name "string") (.array (.name "null")))
      ∧ ¬ Means .union "string | null[]" (.array (.union (.name "string") (.name "null"))) := by
  have hactual : Means .union "string | null[]" (.union (.name "string") (.array (.name "null"))) :=
    splits_nullable.array.means
  refine ⟨⟨.array (.named "string | null"), {}⟩, rfl, rfl, splits_nullable.means, hactual,
    fun hmeant => ?_⟩
  cases hmeant.unique hactual

end StructScript
