import StructScript.Proofs.TypeCongruence

/-! # Dropped fields leave no trace

    A field without an exported name is dropped before its tag is read, and a field whose
    JSON entry is a dash without options before its type is looked at.  At any depth, such a
    field may hold anything.

    * `FieldsAlike` relates lists of fields that differ in dropped fields only, also in the
      inline structs of their types;
    * `FieldsAlike.along` goes through both lists at once, and through the types of their
      fields, and `FieldsAlike.outcomes_eq` says that the outcomes are the same. -/

namespace StructScript

/-! ## Lists that differ in dropped fields -/

/-- Whether two lists of fields are the same but for dropped fields.  A field without an
    exported name may stand in one list alone; a suppressed field may have another type; any
    other field may have other dropped fields in its type. -/
inductive FieldsAlike : List Field → List Field → Prop where
  | nil : FieldsAlike [] []
  | left {field : Field} {rest rest' : List Field} :
      field.exported = [] → FieldsAlike rest rest' → FieldsAlike (field :: rest) rest'
  | right {field : Field} {rest rest' : List Field} :
      field.exported = [] → FieldsAlike rest rest' → FieldsAlike rest (field :: rest')
  | suppressed {names : List String} {tag : Option String} {type type' : TypeExpr}
      {rest rest' : List Field} :
      Field.IsSuppressed ⟨names, type, tag⟩ → FieldsAlike rest rest' →
      FieldsAlike (⟨names, type, tag⟩ :: rest) (⟨names, type', tag⟩ :: rest')
  | shown {names : List String} {tag : Option String} {type type' : TypeExpr}
      {rest rest' : List Field} :
      TypeExpr.Congruent true FieldsAlike type type' → FieldsAlike rest rest' →
      FieldsAlike (⟨names, type, tag⟩ :: rest) (⟨names, type', tag⟩ :: rest')

/-- A suppressed field gives no members. -/
theorem Field.members_of_isSuppressed {field : Field} (h : field.IsSuppressed) :
    field.members = .ok [] := by
  obtain ⟨json, hjson, hflag⟩ := h
  by_cases hexported : field.exported = []
  · exact Field.members_of_unexported hexported
  · rw [Field.members_of_exported hexported, hjson]
    exact if_pos hflag

/-- Whether a field is suppressed, its tag alone decides. -/
theorem Field.IsSuppressed.of_type {names : List String} {tag : Option String} {type : TypeExpr}
    (h : Field.IsSuppressed ⟨names, type, tag⟩) (type' : TypeExpr) :
    Field.IsSuppressed ⟨names, type', tag⟩ :=
  h

/-! ## Both lists at once -/

/-- What holds along two lists of fields, given that it holds of the fields of the structs
    inside their types. -/
theorem FieldsAlike.along {P : List Field → List Field → Prop} (hnil : P [] [])
    (hleft : ∀ field rest rest', field.exported = [] → P rest rest' → P (field :: rest) rest')
    (hright : ∀ field rest rest', field.exported = [] → P rest rest' → P rest (field :: rest'))
    (hsuppressed : ∀ names tag type type' rest rest', Field.IsSuppressed ⟨names, type, tag⟩ →
      P rest rest' → P (⟨names, type, tag⟩ :: rest) (⟨names, type', tag⟩ :: rest'))
    (hshown : ∀ names tag type type' rest rest', type.Congruent true P type' →
      P rest rest' → P (⟨names, type, tag⟩ :: rest) (⟨names, type', tag⟩ :: rest'))
    {fields fields' : List Field} (h : FieldsAlike fields fields') : P fields fields' := by
  -- types over the relation are types over what holds, constructor by constructor
  refine @FieldsAlike.rec (fun fields fields' _ => P fields fields')
    (fun type type' _ => type.Congruent true P type')
    (fun types types' _ => TypesCongruent true P types types') hnil ?_ ?_ ?_ ?_ .same
    (fun _ => .pointer) (fun _ => .slice) (fun _ _ => .map) (fun _ _ => .generic)
    (fun _ _ => .struct rfl) .nil (fun _ _ => .cons) fields fields' h
  · intro field rest rest' hnone _ hrest
    exact hleft field rest rest' hnone hrest
  · intro field rest rest' hnone _ hrest
    exact hright field rest rest' hnone hrest
  · intro names tag type type' rest rest' hdropped _ hrest
    exact hsuppressed names tag type type' rest rest' hdropped hrest
  · intro names tag type type' rest rest' _ _ htype hrest
    exact hshown names tag type type' rest rest' htype hrest

/-- Lists that differ in dropped fields have the same outcomes. -/
theorem FieldsAlike.outcomes_eq (options : Options) {fields fields' : List Field}
    (h : FieldsAlike fields fields') :
    outcomes options (collectMembers fields) = outcomes options (collectMembers fields') := by
  refine h.along (P := fun fields fields' =>
    outcomes options (collectMembers fields) = outcomes options (collectMembers fields')) rfl
    ?_ ?_ ?_ ?_
  · intro field rest rest' hnone hrest
    rw [outcomes_of_no_members (Field.members_of_unexported hnone), hrest]
  · intro field rest rest' hnone hrest
    rw [outcomes_of_no_members (Field.members_of_unexported hnone), hrest]
  · intro names tag type type' rest rest' hsuppressed hrest
    rw [outcomes_of_no_members (Field.members_of_isSuppressed hsuppressed),
      outcomes_of_no_members (Field.members_of_isSuppressed (hsuppressed.of_type _)), hrest]
  · intro names tag type type' rest rest' htype hrest
    rw [outcomes_collectMembers_cons, outcomes_collectMembers_cons, htype.outcomes_eq, hrest]

/-- Lists of fields that differ, at any depth, in dropped fields only are written as the same
    lines with the same imports in the same order, or end at the same fault in the same
    place. -/
theorem dropped_fields_leave_no_trace {fields fields' : List Field}
    (h : FieldsAlike fields fields') (options : Options) (depth : Int) :
    writeFields options depth fields = writeFields options depth fields' := by
  unfold writeFields
  rw [expressStruct_congr (h.outcomes_eq options)]

/-- A tag that is read as one that suppresses does so. -/
theorem Field.isSuppressed_of_any {field : Field}
    (h : (jsonEntry field.tag).toOption.any Member.isSuppressed = true) : field.IsSuppressed := by
  obtain ⟨json, hjson, hflag⟩ := (Option.any_eq_true _ _).mp h
  exact ⟨json, toOption_eq_some.mp hjson, hflag⟩

/-- Fields among which some are dropped: one with a tag that cannot be read, one that would
    need an import, and two whose types are not supported, one of them further down. -/
def visit : List Field :=
  [⟨["Name", "nick"], .named "string" false, none⟩,
    ⟨["lock"], .other "chan int" "channel_type", some "\x60json\x60"⟩,
    ⟨["Steps"], .slice (.pointer (.struct
      [⟨[], .selector "log" "Logger", none⟩,
        ⟨["Token"], .named "Token" false, some "\x60json:\"token,omitempty\"\x60"⟩,
        ⟨["Hook"], .other "func()" "function_type", some "\x60json:\"-\"\x60"⟩])), none⟩,
    ⟨["Cache"], .selector "cache" "Store", some "\x60json:\"-\"\x60"⟩]

/-- The same fields with others in the place of those that are dropped. -/
def plainVisit : List Field :=
  [⟨["Name", "nick"], .named "string" false, none⟩,
    ⟨["Steps"], .slice (.pointer (.struct
      [⟨["Token"], .named "Token" false, some "\x60json:\"token,omitempty\"\x60"⟩,
        ⟨["Hook"], .any, some "\x60json:\"-\"\x60"⟩])), none⟩,
    ⟨["Cache"], .struct [⟨["At"], .other "chan int" "channel_type", none⟩],
      some "\x60json:\"-\"\x60"⟩,
    ⟨[], .named "Base" false, none⟩]

theorem dropped_fields_leave_no_trace_of_visit :
    FieldsAlike visit plainVisit
      ∧ writeFields { indent := "\t" } 0 visit = writeFields { indent := "\t" } 0 plainVisit
      ∧ (writeFields { indent := "\t" } 0 visit).toOption.map
          (fun found => (found.1, found.2.internal))
        = some ("\tName: string;\n\tSteps: (\x7b\n\t\ttoken?: Token;\n\t\x7d | undefined)[];\n",
          ["Token"]) := by
  have hhook : Field.IsSuppressed ⟨["Hook"], .other "func()" "function_type",
      some "\x60json:\"-\"\x60"⟩ := Field.isSuppressed_of_any (by decide +kernel)
  have hcache : Field.IsSuppressed ⟨["Cache"], .selector "cache" "Store",
      some "\x60json:\"-\"\x60"⟩ := Field.isSuppressed_of_any (by decide +kernel)
  have hsteps : FieldsAlike
      [⟨[], .selector "log" "Logger", none⟩,
        ⟨["Token"], .named "Token" false, some "\x60json:\"token,omitempty\"\x60"⟩,
        ⟨["Hook"], .other "func()" "function_type", some "\x60json:\"-\"\x60"⟩]
      [⟨["Token"], .named "Token" false, some "\x60json:\"token,omitempty\"\x60"⟩,
        ⟨["Hook"], .any, some "\x60json:\"-\"\x60"⟩] :=
    .left rfl (.shown (.same _) (.suppressed hhook .nil))
  have halike : FieldsAlike visit plainVisit :=
    .shown (.same _) (.left (by decide) (.shown (.slice (.pointer (.struct rfl hsteps)))
      (.suppressed hcache (.right rfl .nil))))
  exact ⟨halike, dropped_fields_leave_no_trace halike _ 0, by decide +kernel⟩

end StructScript
