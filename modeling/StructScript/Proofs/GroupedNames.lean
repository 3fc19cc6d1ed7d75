import StructScript.Proofs.ExpansionOutcomes
import StructScript.Proofs.TypeCongruence

/-! # Grouped names are separate fields

    A field may declare several names at once.  Interfaces and companions take such a field
    apart in different ways: one looks at the exported names only and labels a fault with
    the first of them, the other goes through all names and labels a fault with the first
    of all.

    * `spread` is what the two ways have in common: an outcome that no name has a part in,
      handed out to the names that are chosen, with the first of them as its label;
    * `spread_cons` says that names may be served one at a time, so fields may be split
      (`collectMembers_split`, `collectUpdates_split`);
    * `FieldsRegrouped` relates lists of fields of which some are split, also in the inline
      structs of their types, and `FieldsRegrouped.along` goes through both lists at once. -/

namespace StructScript

/-! ## Names served one at a time -/

/-- The fields that declare the names of a field one by one. -/
def Field.separated (field : Field) : List Field :=
  field.names.map fun name => { field with names := [name] }

/-- What fields give, one after the other, up to the first fault. -/
def gathered {α : Type} (each : Field → Except Fault (List α)) :
    List Field → Except Fault (List α)
  | [] => .ok []
  | field :: rest => (each field).bind fun here => (gathered each rest).map (here ++ ·)

/-- An outcome handed out to the names that are chosen; a fault is labelled with the first
    of them, and without any the outcome is not looked at. -/
def spread {α β : Type} (chosen : String → Bool) (outcome : Except Fault β)
    (give : β → String → List α) (names : List String) : Except Fault (List α) :=
  match names.filter chosen with
  | [] => .ok []
  | first :: others =>
      (labelled (fieldLabel first) outcome).map fun found => (first :: others).flatMap (give found)

section

variable {α β : Type} {chosen : String → Bool} {give : β → String → List α}

/-- Where the outcome is no fault, it makes no difference whether names are chosen. -/
theorem spread_ok (found : β) (names : List String) :
    spread chosen (.ok found) give names = .ok ((names.filter chosen).flatMap (give found)) := by
  unfold spread
  cases names.filter chosen with
  | nil => rfl
  | cons first others => rfl

/-- Names may be served one at a time, and the first that is chosen meets the fault. -/
theorem spread_cons (outcome : Except Fault β) (name : String) (rest : List String) :
    spread chosen outcome give (name :: rest)
      = (spread chosen outcome give [name]).bind fun here =>
          (spread chosen outcome give rest).map (here ++ ·) := by
  cases outcome with
  | ok found =>
      simp only [spread_ok]
      show _ = Except.ok (_ ++ _)
      rw [← List.flatMap_append, ← List.filter_append, List.singleton_append]
  | error fault =>
      unfold spread
      by_cases hname : chosen name = true
      · rw [List.filter_cons_of_pos hname, List.filter_cons_of_pos hname]
        rfl
      · rw [List.filter_cons_of_neg hname, List.filter_cons_of_neg hname]
        cases rest.filter chosen with
        | nil => rfl
        | cons first others => rfl

/-- Fields give what they give part by part. -/
theorem gathered_append (each : Field → Except Fault (List α)) (first second : List Field) :
    gathered each (first ++ second)
      = (gathered each first).bind fun here => (gathered each second).map (here ++ ·) := by
  induction first with
  | nil =>
      show gathered each second = (gathered each second).map ([] ++ ·)
      cases gathered each second with
      | ok found => rfl
      | error fault => rfl
  | cons field rest ih =>
      rw [List.cons_append, gathered, gathered, ih]
      cases each field with
      | error fault => rfl
      | ok here =>
          cases gathered each rest with
          | error fault => rfl
          | ok more =>
              cases gathered each second with
              | error fault => rfl
              | ok others => exact congrArg Except.ok (List.append_assoc here more others).symm

/-- A field that spreads an outcome over its names may be split. -/
theorem gathered_separated {each : Field → Except Fault (List α)} {type : TypeExpr}
    {tag : Option String} {outcome : Except Fault β}
    (heach : ∀ names, names ≠ [] → each ⟨names, type, tag⟩ = spread chosen outcome give names)
    {names : List String} (hnames : names ≠ []) :
    gathered each (Field.separated ⟨names, type, tag⟩) = each ⟨names, type, tag⟩ := by
  have hgathered : ∀ names : List String,
      gathered each (names.map fun name => ⟨[name], type, tag⟩)
        = spread chosen outcome give names := by
    intro names
    induction names with
    | nil => rfl
    | cons name rest ih =>
        rw [List.map_cons, gathered, ih, heach [name] (List.cons_ne_nil name []),
          ← spread_cons outcome name rest]
  exact (hgathered names).trans (heach names hnames).symm

theorem gathered_split {each : Field → Except Fault (List α)} {type : TypeExpr}
    {tag : Option String} {outcome : Except Fault β}
    (heach : ∀ names, names ≠ [] → each ⟨names, type, tag⟩ = spread chosen outcome give names)
    {names : List String} (hnames : names ≠ []) (rest : List Field) :
    gathered each (Field.separated ⟨names, type, tag⟩ ++ rest)
      = gathered each (⟨names, type, tag⟩ :: rest) := by
  rw [gathered_append, gathered_separated heach hnames]
  rfl

end

/-! ## Members, updates and supertypes -/

/-- The member for a name, unless it is suppressed. -/
def memberFor (type : TypeExpr) (json : Option StructTag.Entry) (name : String) : List Member :=
  if Member.isSuppressed json then [] else [Member.ofName json type name]

/-- A field spreads its JSON entry over its exported names. -/
theorem Field.members_eq_spread (names : List String) (type : TypeExpr) (tag : Option String) :
    Field.members ⟨names, type, tag⟩
      = spread isExported (jsonEntry tag) (memberFor type) names := by
  unfold Field.members spread
  show (match names.filter isExported with
    | [] => _
    | first :: others => _) = _
  cases names.filter isExported with
  | nil => rfl
  | cons first others =>
      dsimp only
      cases jsonEntry tag with
      | error fault => rfl
      | ok json =>
          show (if Member.isSuppressed json then Except.ok [] else _)
            = Except.ok ((first :: others).flatMap (memberFor type json))
          unfold memberFor
          cases Member.isSuppressed json with
          | true => exact congrArg Except.ok (by simp)
          | false => exact congrArg Except.ok List.map_eq_flatMap

theorem collectMembers_eq_gathered (fields : List Field) :
    collectMembers fields = gathered Field.members fields := by
  induction fields with
  | nil => rfl
  | cons field rest ih =>
      rw [collectMembers, gathered, ih]
      cases field.members with
      | ok members => rfl
      | error fault => rfl

/-- A field with names may be split before its members are taken. -/
theorem collectMembers_split {names : List String} (hnames : names ≠ []) (type : TypeExpr)
    (tag : Option String) (rest : List Field) :
    collectMembers (Field.separated ⟨names, type, tag⟩ ++ rest)
      = collectMembers (⟨names, type, tag⟩ :: rest) := by
  rw [collectMembers_eq_gathered, collectMembers_eq_gathered]
  exact gathered_split (fun names _ => Field.members_eq_spread names type tag) hnames rest

/-- The JSON name with which a field that has names asks for an update, if it does. -/
def updateRequest (type : TypeExpr) (tag : Option String) : Except Fault (Option String) :=
  match tag with
  | none => .ok none
  | some literal =>
      (StructTag.parseLiteral literal).bind fun tag =>
        if tag.has updateKey then
          (checkUpdateType type).map fun _ => some (((tag.get? "json").map (·.name)).getD "")
        else .ok none

/-- The member of the companion for a name, if it is asked for. -/
def updateFor (type : TypeExpr) (asked : Option String) (name : String) : List Field :=
  asked.toList.map fun jsonName => updateField type jsonName name

/-- A field with names has an update for each of them, if it asks for one. -/
theorem Field.updates_of_names {names : List String} (hnames : names ≠ []) (type : TypeExpr)
    (tag : Option String) :
    Field.updates ⟨names, type, tag⟩
      = (updateRequest type tag).map fun asked => names.flatMap (updateFor type asked) := by
  have hembedded : Field.isEmbedded ⟨names, type, tag⟩ = false :=
    List.isEmpty_eq_false_iff.mpr hnames
  have hnone : names.flatMap (updateFor type none) = [] := by
    simp [updateFor]
  have hsome : ∀ jsonName, names.flatMap (updateFor type (some jsonName))
      = names.map (updateField type jsonName) := fun jsonName => List.map_eq_flatMap.symm
  cases tag with
  | none =>
      rw [Field.updates_of_no_tag rfl]
      exact congrArg Except.ok hnone.symm
  | some literal =>
      cases htag : StructTag.parseLiteral literal with
      | error fault =>
          unfold Field.updates updateRequest
          simp only [htag]
          rfl
      | ok found =>
          rw [Field.updates_of_tag rfl htag, hembedded, updateRequest]
          simp only [htag, Except.bind]
          cases found.has updateKey with
          | false => exact congrArg Except.ok hnone.symm
          | true =>
              cases checkUpdateType type with
              | error fault => rfl
              | ok done => exact congrArg Except.ok (hsome _).symm

/-- What a field gives to the companion, seen from the struct. -/
def Field.labelledUpdates (field : Field) : Except Fault (List Field) :=
  labelled field.updateLabel field.updates

/-- A field with names spreads its request over all of them. -/
theorem Field.labelledUpdates_eq_spread {names : List String} (hnames : names ≠ [])
    (type : TypeExpr) (tag : Option String) :
    Field.labelledUpdates ⟨names, type, tag⟩
      = spread (fun _ => true) (updateRequest type tag) (updateFor type) names := by
  unfold Field.labelledUpdates spread
  rw [Field.updates_of_names hnames, List.filter_eq_self.mpr fun _ _ => rfl]
  cases names with
  | nil => exact absurd rfl hnames
  | cons first others =>
      dsimp only
      cases updateRequest type tag with
      | ok asked => rfl
      | error fault => rfl

theorem collectUpdates_eq_gathered (fields : List Field) :
    collectUpdates fields = gathered Field.labelledUpdates fields := by
  induction fields with
  | nil => rfl
  | cons field rest ih =>
      rw [collectUpdates, gathered, ih, Field.labelledUpdates]
      cases labelled field.updateLabel field.updates with
      | ok updates => rfl
      | error fault => rfl

/-- A field with names may be split before its updates are taken. -/
theorem collectUpdates_split {names : List String} (hnames : names ≠ []) (type : TypeExpr)
    (tag : Option String) (rest : List Field) :
    collectUpdates (Field.separated ⟨names, type, tag⟩ ++ rest)
      = collectUpdates (⟨names, type, tag⟩ :: rest) := by
  rw [collectUpdates_eq_gathered, collectUpdates_eq_gathered]
  exact gathered_split (fun _ hsome => Field.labelledUpdates_eq_spread hsome type tag) hnames rest

/-- A field with names is no supertype. -/
theorem supertypes_of_names {options : Options} {field : Field} (h : field.names ≠ [])
    (rest : List Field) : supertypes options (field :: rest) = supertypes options rest := by
  have hembedded : field.isEmbedded = false := List.isEmpty_eq_false_iff.mpr h
  rw [supertypes, hembedded]
  rfl

/-- Fields with names are no supertypes. -/
theorem supertypes_separated_append (options : Options) (field : Field) (rest : List Field) :
    supertypes options (field.separated ++ rest) = supertypes options rest := by
  unfold Field.separated
  induction field.names with
  | nil => rfl
  | cons name names ih =>
      have hname : ({ field with names := [name] } : Field).names ≠ [] := List.cons_ne_nil name []
      rw [List.map_cons, List.cons_append, supertypes_of_names hname, ih]

/-- Split fields mention what the field did. -/
theorem mem_mentions_separated {field : Field} (h : field.names ≠ []) {mention : String × Bool} :
    mention ∈ mentionsOfFields field.separated ↔ mention ∈ field.type.mentions := by
  rw [mem_mentionsOfFields, Field.separated]
  constructor
  · rintro ⟨single, hsingle, hmention⟩
    obtain ⟨name, -, rfl⟩ := List.mem_map.mp hsingle
    exact hmention
  · intro hmention
    obtain ⟨name, hname⟩ := List.exists_mem_of_ne_nil _ h
    exact ⟨_, List.mem_map_of_mem hname, hmention⟩

theorem mem_mentions_append {first second : List Field} {mention : String × Bool} :
    mention ∈ mentionsOfFields (first ++ second)
      ↔ mention ∈ mentionsOfFields first ∨ mention ∈ mentionsOfFields second := by
  simp only [mem_mentionsOfFields, List.mem_append, or_and_right, exists_or]

/-! ## Lists of which some fields are split -/

/-- Whether the second of two lists of fields has fields with one name each in the place of
    some fields of the first that have names, also in inline structs, if that is allowed. -/
inductive FieldsRegrouped (inside : Bool) : List Field → List Field → Prop where
  | nil : FieldsRegrouped inside [] []
  | same (field : Field) {rest rest' : List Field} :
      FieldsRegrouped inside rest rest' →
      FieldsRegrouped inside (field :: rest) (field :: rest')
  | whole {names : List String} {type type' : TypeExpr} {tag : Option String}
      {rest rest' : List Field} :
      names ≠ [] → TypeExpr.Congruent inside (FieldsRegrouped inside) type type' →
      FieldsRegrouped inside rest rest' →
      FieldsRegrouped inside (⟨names, type, tag⟩ :: rest) (⟨names, type', tag⟩ :: rest')
  | split {names : List String} {type type' : TypeExpr} {tag : Option String}
      {rest rest' : List Field} :
      names ≠ [] → TypeExpr.Congruent inside (FieldsRegrouped inside) type type' →
      FieldsRegrouped inside rest rest' →
      FieldsRegrouped inside (⟨names, type, tag⟩ :: rest)
        (Field.separated ⟨names, type', tag⟩ ++ rest')

namespace FieldsRegrouped

variable {inside : Bool} {fields fields' : List Field}

/-- What holds along two lists of fields, given that it holds of the fields of the structs
    inside their types. -/
theorem along {P : List Field → List Field → Prop} (hnil : P [] [])
    (hsame : ∀ field rest rest', P rest rest' → P (field :: rest) (field :: rest'))
    (hwhole : ∀ names type type' tag rest rest', names ≠ [] → type.Congruent inside P type' →
      P rest rest' → P (⟨names, type, tag⟩ :: rest) (⟨names, type', tag⟩ :: rest'))
    (hsplit : ∀ names type type' tag rest rest', names ≠ [] → type.Congruent inside P type' →
      P rest rest' →
        P (⟨names, type, tag⟩ :: rest) (Field.separated ⟨names, type', tag⟩ ++ rest'))
    (h : FieldsRegrouped inside fields fields') : P fields fields' := by
  -- types over the relation are types over what holds, constructor by constructor
  refine @FieldsRegrouped.rec inside (fun fields fields' _ => P fields fields')
    (fun type type' _ => type.Congruent inside P type')
    (fun types types' _ => TypesCongruent inside P types types') hnil ?_ ?_ ?_ .same
    (fun _ => .pointer) (fun _ => .slice) (fun _ _ => .map) (fun _ _ => .generic)
    (fun hinside _ => .struct hinside) .nil (fun _ _ => .cons) fields fields' h
  · intro field rest rest' _ hrest
    exact hsame field rest rest' hrest
  · intro names type type' tag rest rest' hnames _ _ htype hrest
    exact hwhole names type type' tag rest rest' hnames htype hrest
  · intro names type type' tag rest rest' hnames _ _ htype hrest
    exact hsplit names type type' tag rest rest' hnames htype hrest

/-- Lists of which some fields are split have the same outcomes. -/
theorem outcomes_eq (options : Options) (h : FieldsRegrouped inside fields fields') :
    outcomes options (collectMembers fields) = outcomes options (collectMembers fields') := by
  refine h.along (P := fun fields fields' =>
    outcomes options (collectMembers fields) = outcomes options (collectMembers fields')) rfl
    ?_ ?_ ?_
  · intro field rest rest' hrest
    rw [outcomes_collectMembers_cons, outcomes_collectMembers_cons, hrest]
  · intro names type type' tag rest rest' _ htype hrest
    rw [outcomes_collectMembers_cons, outcomes_collectMembers_cons, htype.outcomes_eq, hrest]
  · intro names type type' tag rest rest' hnames htype hrest
    rw [collectMembers_split hnames, outcomes_collectMembers_cons, outcomes_collectMembers_cons,
      htype.outcomes_eq, hrest]

/-- They mention the same names. -/
theorem mentions_iff {mention : String × Bool} (h : FieldsRegrouped inside fields fields') :
    mention ∈ mentionsOfFields fields ↔ mention ∈ mentionsOfFields fields' := by
  refine h.along (P := fun fields fields' =>
    (mention ∈ mentionsOfFields fields ↔ mention ∈ mentionsOfFields fields')) Iff.rfl ?_ ?_ ?_
  · rintro ⟨names, type, tag⟩ rest rest' hrest
    rw [mentionsOfFields, mentionsOfFields, List.mem_append, List.mem_append]
    exact or_congr_right hrest
  · intro names type type' tag rest rest' _ htype hrest
    rw [mentionsOfFields, mentionsOfFields, List.mem_append, List.mem_append]
    exact or_congr (htype.mentions_iff id) hrest
  · intro names type type' tag rest rest' hnames htype hrest
    rw [mentionsOfFields, List.mem_append, mem_mentions_append, mem_mentions_separated hnames]
    exact or_congr (htype.mentions_iff id) hrest

/-- They extend the same types. -/
theorem supertypes_eq (options : Options) (h : FieldsRegrouped inside fields fields') :
    supertypes options fields = supertypes options fields' := by
  refine h.along (P := fun fields fields' =>
    supertypes options fields = supertypes options fields') rfl ?_ ?_ ?_
  · intro field rest rest' hrest
    rw [supertypes, supertypes, hrest]
  · intro names type type' tag rest rest' hnames _ hrest
    rw [supertypes_of_names hnames, supertypes_of_names hnames, hrest]
  · intro names type type' tag rest rest' hnames _ hrest
    rw [supertypes_of_names hnames, supertypes_separated_append, hrest]

/-- Where inline structs are left alone, they ask for the same updates. -/
theorem collectUpdates_eq (h : FieldsRegrouped false fields fields') :
    collectUpdates fields = collectUpdates fields' := by
  refine h.along (P := fun fields fields' => collectUpdates fields = collectUpdates fields') rfl
    ?_ ?_ ?_
  · intro field rest rest' hrest
    rw [collectUpdates, collectUpdates, hrest]
  · intro names type type' tag rest rest' _ htype hrest
    rw [htype.eq, collectUpdates, collectUpdates, hrest]
  · intro names type type' tag rest rest' hnames htype hrest
    rw [collectUpdates_split hnames, htype.eq, collectUpdates, collectUpdates, hrest]

/-- Declarations that hold them have the same parameters. -/
theorem genericParams_eq (h : FieldsRegrouped inside fields fields') (options : Options)
    (name : String) (typeParams : List String) (isAlias : Bool) :
    Declaration.genericParams options ⟨name, .struct fields, typeParams, isAlias⟩
      = Declaration.genericParams options ⟨name, .struct fields', typeParams, isAlias⟩ := by
  have hmentions : (TypeExpr.struct fields).mentions.any (·.1 == options.placeholder)
      = (TypeExpr.struct fields').mentions.any (·.1 == options.placeholder) := by
    rw [Bool.eq_iff_iff, List.any_eq_true, List.any_eq_true, TypeExpr.mentions, TypeExpr.mentions]
    exact exists_congr fun mention => and_congr_left fun _ => h.mentions_iff
  unfold Declaration.genericParams
  simp only [hmentions]

end FieldsRegrouped

/-- Grouped names mean the same as separate fields.  Let some fields with names be replaced
    by fields with one name each, of the same type and with the same tag.  The lines of the
    fields and the declaration as it is written out stay the same, with their imports or the
    fault and its place, also if fields of inline structs are replaced; and where these are
    left alone, so does the companion.  (A companion's fault may quote a whole type, with the
    fields of its inline structs as they are.) -/
theorem grouped_names_are_separate_fields {inside : Bool} {fields fields' : List Field}
    (h : FieldsRegrouped inside fields fields') :
    (∀ (options : Options) (depth : Int),
      writeFields options depth fields = writeFields options depth fields')
    ∧ ∀ (name : String) (typeParams : List String) (isAlias : Bool),
      let grouped : Declaration := ⟨name, .struct fields, typeParams, isAlias⟩
      let separate : Declaration := ⟨name, .struct fields', typeParams, isAlias⟩
      (∀ options : Options, grouped.emit options = separate.emit options)
      ∧ (inside = false → grouped.companion? = separate.companion?) := by
  have hstruct : ∀ options, expressStruct options fields = expressStruct options fields' :=
    fun options => expressStruct_congr (h.outcomes_eq options)
  refine ⟨fun options depth => ?_, fun name typeParams isAlias => ⟨fun options => ?_, ?_⟩⟩
  · unfold writeFields
    rw [hstruct]
  · unfold Declaration.emit
    simp only [hstruct, h.supertypes_eq options, h.genericParams_eq options]
  · rintro rfl
    unfold Declaration.companion?
    simp only [h.collectUpdates_eq]

/-- Fields with grouped names, of which one is not exported, that share an update entry, and
    others further down. -/
def box : List Field :=
  [⟨["low", "Width", "Height"], .named "int" false, some "\x60update:\"\"\x60"⟩,
    ⟨[], .named "Shape" false, none⟩,
    ⟨["Corners", "edges"], .slice (.struct
      [⟨["X", "Y"], .named "Length" false, some "\x60json:\",omitempty\"\x60"⟩]), none⟩]

/-- The same fields with one name each. -/
def plainBox : List Field :=
  [⟨["low"], .named "int" false, some "\x60update:\"\"\x60"⟩,
    ⟨["Width"], .named "int" false, some "\x60update:\"\"\x60"⟩,
    ⟨["Height"], .named "int" false, some "\x60update:\"\"\x60"⟩,
    ⟨[], .named "Shape" false, none⟩,
    ⟨["Corners", "edges"], .slice (.struct
      [⟨["X"], .named "Length" false, some "\x60json:\",omitempty\"\x60"⟩,
        ⟨["Y"], .named "Length" false, some "\x60json:\",omitempty\"\x60"⟩]), none⟩]

theorem grouped_names_are_separate_fields_of_box :
    FieldsRegrouped true box plainBox
      ∧ FieldsRegrouped false (box.take 2) (plainBox.take 4)
      ∧ writeFields {} 0 box = writeFields {} 0 plainBox
      ∧ (writeFields {} 0 box).toOption.map (fun found => (found.1, found.2.internal))
        = some ("    Width: number;\n    Height: number;\n    Corners: \x7b\n        X?: Length;\n"
            ++ "        Y?: Length;\n    \x7d[];\n", ["Length"])
      ∧ Declaration.emit {} ⟨"Box", .struct box, [], false⟩
        = Declaration.emit {} ⟨"Box", .struct plainBox, [], false⟩
      ∧ Declaration.companion? ⟨"Box", .struct (box.take 2), [], false⟩
        = Declaration.companion? ⟨"Box", .struct (plainBox.take 4), [], false⟩ := by
  have hcorners : FieldsRegrouped true
      [⟨["X", "Y"], .named "Length" false, some "\x60json:\",omitempty\"\x60"⟩]
      [⟨["X"], .named "Length" false, some "\x60json:\",omitempty\"\x60"⟩,
        ⟨["Y"], .named "Length" false, some "\x60json:\",omitempty\"\x60"⟩] :=
    .split (by decide) (.same _) .nil
  have hbox : FieldsRegrouped true box plainBox :=
    .split (by decide) (.same _)
      (.same _ (.whole (by decide) (.slice (.struct rfl hcorners)) .nil))
  have htop : FieldsRegrouped false (box.take 2) (plainBox.take 4) :=
    .split (by decide) (.same _) (.same _ .nil)
  exact ⟨hbox, htop, (grouped_names_are_separate_fields hbox).1 {} 0, by decide +kernel,
    ((grouped_names_are_separate_fields hbox).2 "Box" [] false).1 {},
    ((grouped_names_are_separate_fields htop).2 "Box" [] false).2 rfl⟩

end StructScript
