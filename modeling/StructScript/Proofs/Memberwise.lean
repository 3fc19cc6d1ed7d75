import StructScript.ScriptType.Express
import StructScript.Proofs.ImportOrder

/-! # Structs member by member

    The properties of a struct are made field by field, from the type of the
    whole field.  This file gives the other view of the same thing: a struct is
    first turned into the list of its members, and every member is expressed
    from its own type.

    * `TypeExpr.express_distinct` comes first: no import set that is made on the
      way lists a name twice, so an empty body in front changes nothing;
    * `expressMember_ofName` is the step for one name of a field, where the
      pointer that the member has lost is the `undefined` that is stripped;
    * `expressArguments_induction` and `expressEach_induction` follow the lists of
      arguments and members item by item, with what is made for each;
    * `expressStruct_eq` is the equation between the two views, faults included;
    * `Member.sizeOf_type_lt` lets definitions recurse into members;
    * `TypeExpr.express_induction` is the recursion along a type that is expressed,
      with the members of a struct in the place of its fields. -/

namespace StructScript

/-! ## No import set lists a name twice -/

/-- Whether neither list of an import set has a name twice. -/
structure ImportSet.Distinct (imports : ImportSet) : Prop where
  external : imports.external.Nodup
  internal : imports.internal.Nodup

/-- Appending what is new keeps items distinct. -/
theorem nodup_appendNew {α : Type} [DecidableEq α] {items : List α} (h : items.Nodup)
    (item : α) : (appendNew items item).Nodup := by
  by_cases hmem : item ∈ items
  · rw [appendNew_of_mem hmem]
    exact h
  · rw [appendNew_of_not_mem hmem, List.nodup_append]
    refine ⟨h, List.pairwise_singleton _ _, ?_⟩
    intro other hother same hsame heq
    rw [List.mem_singleton] at hsame
    subst hsame heq
    exact hmem hother

theorem nodup_appendAllNew {α : Type} [DecidableEq α] {items : List α} (h : items.Nodup)
    (others : List α) : (appendAllNew items others).Nodup := by
  induction others generalizing items with
  | nil => exact h
  | cons item rest ih => exact ih (nodup_appendNew h item)

/-- Adding a list without duplicates to nothing gives that list. -/
theorem appendAllNew_nil_of_nodup {α : Type} [DecidableEq α] {others : List α}
    (h : others.Nodup) : appendAllNew [] others = others := by
  rw [appendAllNew_nil]
  induction others with
  | nil => rfl
  | cons item rest ih =>
      obtain ⟨hfresh, hrest⟩ := List.nodup_cons.mp h
      have hkeep : rest.filter (fun other => !other == item) = rest := by
        refine List.filter_eq_self.mpr fun other hother => ?_
        have hne : other ≠ item := fun heq => hfresh (heq ▸ hother)
        simpa using hne
      rw [List.eraseDups_cons, hkeep, ih hrest]

namespace ImportSet

theorem distinct_empty : ({} : ImportSet).Distinct :=
  ⟨List.nodup_nil, List.nodup_nil⟩

/-- A union with distinct imports is distinct. -/
theorem Distinct.union {imports : ImportSet} (h : imports.Distinct) (other : ImportSet) :
    (imports.union other).Distinct :=
  ⟨nodup_appendAllNew h.external _, nodup_appendAllNew h.internal _⟩

/-- Distinct imports are their own union with none. -/
theorem Distinct.empty_union {imports : ImportSet} (h : imports.Distinct) :
    ({} : ImportSet).union imports = imports := by
  show ImportSet.mk (appendAllNew [] imports.external) (appendAllNew [] imports.internal) = imports
  rw [appendAllNew_nil_of_nodup h.external, appendAllNew_nil_of_nodup h.internal]

/-- It makes no difference how imports are grouped that are brought together. -/
theorem union_assoc (first second third : ImportSet) :
    first.union (second.union third) = (first.union second).union third := by
  simp only [union, appendAllNew_assoc]

end ImportSet

/-- The imports of a name are distinct. -/
theorem expressName_distinct (options : Options) (name : String) (isLocal : Bool) :
    (expressName options name isLocal).imports.Distinct := by
  unfold expressName
  by_cases h : needsImport options name isLocal = true
  · simp only [h, if_true]
    exact ⟨List.nodup_nil, List.pairwise_singleton _ _⟩
  · simp only [h]
    exact ImportSet.distinct_empty

theorem expressSelector_distinct (options : Options) (package name : String) :
    (expressSelector options package name).imports.Distinct := by
  unfold expressSelector
  cases options.scalar? package name with
  | some text => exact ImportSet.distinct_empty
  | none => exact ⟨List.pairwise_singleton _ _, List.nodup_nil⟩

/-- A label makes no difference to a value. -/
theorem labelled_eq_ok {α : Type} {label : String} {outcome : Except Fault α} {value : α} :
    labelled label outcome = .ok value ↔ outcome = .ok value := by
  cases outcome with
  | ok found => exact Iff.rfl
  | error fault =>
      constructor
      · intro h
        cases h
      · intro h
        cases h

/-- A value that is made of another has that one. -/
theorem map_eq_ok {ε α β : Type} {f : α → β} {outcome : Except ε α} {value : β} :
    outcome.map f = .ok value ↔ ∃ found, outcome = .ok found ∧ f found = value := by
  cases outcome with
  | ok found =>
      constructor
      · intro h
        exact ⟨found, rfl, Except.ok.inj h⟩
      · rintro ⟨other, hother, hvalue⟩
        cases hother
        exact congrArg Except.ok hvalue
  | error fault =>
      constructor
      · intro h
        cases h
      · rintro ⟨found, hfound, -⟩
        cases hfound

/-- An outcome has a value if it is no fault. -/
theorem toOption_eq_some {ε α : Type} {outcome : Except ε α} {value : α} :
    outcome.toOption = some value ↔ outcome = .ok value := by
  cases outcome with
  | ok found =>
      constructor
      · intro h
        exact congrArg Except.ok (Option.some.inj h)
      · intro h
        exact congrArg some (Except.ok.inj h)
  | error fault =>
      constructor
      · intro h
        cases h
      · intro h
        cases h

/-- The imports of a member are distinct if those of its type are. -/
theorem expressMember_distinct {options : Options} {outcome : Except Fault Expressed}
    (houtcome : ∀ e, outcome = .ok e → e.imports.Distinct) {member : Member}
    {body : ExpressedBody} (h : expressMember options outcome member = .ok body) :
    body.imports.Distinct := by
  unfold expressMember at h
  by_cases hstring : member.asString = true
  · rw [if_pos hstring] at h
    cases h
    exact ImportSet.distinct_empty
  · rw [if_neg hstring] at h
    split at h
    · next e he =>
        cases h
        exact houtcome e (labelled_eq_ok.mp he)
    · cases h

theorem expressMembers_distinct {options : Options} {outcome : Except Fault Expressed}
    (houtcome : ∀ e, outcome = .ok e → e.imports.Distinct) {members : List Member}
    {body : ExpressedBody} (h : expressMembers options outcome members = .ok body) :
    body.imports.Distinct := by
  cases members with
  | nil =>
      cases h
      exact ImportSet.distinct_empty
  | cons member rest =>
      rw [expressMembers] at h
      split at h
      · next first hfirst =>
          obtain ⟨others, -, rfl⟩ := map_eq_ok.mp h
          exact (expressMember_distinct houtcome hfirst).union _
      · cases h

/-- Arguments are expressed from left to right, each with the imports before it. -/
theorem expressArguments_cons {options : Options} {imports : ImportSet} {argument : TypeExpr}
    {rest : List TypeExpr} {found : List ScriptType × ImportSet}
    (h : expressArguments options imports (argument :: rest) = .ok found) :
    ∃ e others, argument.express options = .ok e
      ∧ expressArguments options (imports.union e.imports) rest = .ok others
      ∧ (e.type :: others.1, others.2) = found := by
  rw [expressArguments] at h
  split at h
  · next e he =>
      obtain ⟨others, hothers, rfl⟩ := map_eq_ok.mp h
      exact ⟨e, others, he, hothers, rfl⟩
  · cases h

mutual

/-- The imports of a type have no name twice. -/
theorem TypeExpr.express_distinct (options : Options) :
    ∀ (type : TypeExpr) (e : Expressed), type.express options = .ok e → e.imports.Distinct
  | .pointer inner, e, h => by
      rw [TypeExpr.express] at h
      obtain ⟨found, hfound, rfl⟩ := map_eq_ok.mp h
      exact inner.express_distinct options found hfound
  | .bytes, e, h => by
      rw [TypeExpr.express] at h
      cases h
      exact ImportSet.distinct_empty
  | .slice element, e, h => by
      rw [TypeExpr.express] at h
      obtain ⟨found, hfound, rfl⟩ := map_eq_ok.mp h
      exact element.express_distinct options found hfound
  | .struct fields, e, h => by
      rw [TypeExpr.express] at h
      split at h
      · obtain ⟨body, hbody, rfl⟩ := map_eq_ok.mp h
        exact expressFields_distinct options fields body hbody
      · cases h
  | .named name isLocal, e, h => by
      rw [TypeExpr.express] at h
      cases h
      exact expressName_distinct options name isLocal
  | .selector package name, e, h => by
      rw [TypeExpr.express] at h
      cases h
      exact expressSelector_distinct options package name
  | .map key value, e, h => by
      rw [TypeExpr.express] at h
      split at h
      · next k hk =>
          obtain ⟨v, -, rfl⟩ := map_eq_ok.mp h
          exact (key.express_distinct options k hk).union _
      · cases h
  | .any, e, h => by
      rw [TypeExpr.express] at h
      cases h
      exact ImportSet.distinct_empty
  | .generic base arguments, e, h => by
      rw [TypeExpr.express] at h
      split at h
      · next b hb =>
          obtain ⟨⟨types, all⟩, hall, rfl⟩ := map_eq_ok.mp h
          exact expressArguments_distinct options arguments _
            (base.express_distinct options b hb) _ hall
      · cases h
  | .other text form, e, h => by
      rw [TypeExpr.express] at h
      cases h

theorem expressArguments_distinct (options : Options) :
    ∀ (arguments : List TypeExpr) (imports : ImportSet), imports.Distinct →
      ∀ found, expressArguments options imports arguments = .ok found → found.2.Distinct
  | [], imports, himports, found, h => by
      rw [expressArguments] at h
      cases h
      exact himports
  | argument :: rest, imports, himports, found, h => by
      obtain ⟨e, others, -, hothers, rfl⟩ := expressArguments_cons h
      exact expressArguments_distinct options rest _ (himports.union e.imports) others hothers

theorem expressFields_distinct (options : Options) :
    ∀ (fields : List Field) (body : ExpressedBody), expressFields options fields = .ok body →
      body.imports.Distinct
  | [], body, h => by
      rw [expressFields] at h
      cases h
      exact ImportSet.distinct_empty
  | ⟨names, type, tag⟩ :: rest, body, h => by
      rw [expressFields] at h
      split at h
      · split at h
        · next members hmembers first hfirst =>
            obtain ⟨others, -, rfl⟩ := map_eq_ok.mp h
            exact (expressMembers_distinct (type.express_distinct options) hfirst).union _
        · cases h
      · cases h

end

/-! ## The members of a struct -/

/-- The property of a member, given the text of its type. -/
def Member.property (options : Options) (member : Member) (type : ScriptType) : Property :=
  { name := member.name, optional := member.optional, type
    widened := member.pointer && options.widenPointers }

/-- The property of a member, made from the member's own type. -/
def Member.express (options : Options) (member : Member) : Except Fault ExpressedBody :=
  if member.asString then .ok { properties := [member.property options (.named "string")] }
  else
    match labelled (fieldLabel member.sourceName) (member.type.express options) with
    | .ok e => .ok { properties := [member.property options e.type], imports := e.imports }
    | .error fault => .error fault

/-- The properties of members, one after the other. -/
def expressEach (options : Options) : List Member → Except Fault ExpressedBody
  | [] => .ok {}
  | member :: rest =>
      match member.express options with
      | .ok body => (expressEach options rest).map body.append
      | .error fault => .error fault

/-- Members are expressed one after the other. -/
theorem expressEach_cons {options : Options} {member : Member} {rest : List Member}
    {body : ExpressedBody} (h : expressEach options (member :: rest) = .ok body) :
    ∃ first others, member.express options = .ok first ∧ expressEach options rest = .ok others
      ∧ first.append others = body := by
  rw [expressEach] at h
  split at h
  · next first hfirst =>
      obtain ⟨others, hothers, rfl⟩ := map_eq_ok.mp h
      exact ⟨first, others, hfirst, hothers, rfl⟩
  · cases h

/-- Whether a member has a type in its property: string if it is written as one, and what
    is made for its own type otherwise. -/
def Member.WrittenAs (options : Options) (member : Member) (type : ScriptType) : Prop :=
  (member.asString = true ∧ type = .named "string")
    ∨ (member.asString = false ∧ ∃ e, member.type.express options = .ok e ∧ type = e.type)

/-- A member that is expressed is one property, of the type that is written for it. -/
theorem Member.express_eq_ok {options : Options} {member : Member} {body : ExpressedBody}
    (h : member.express options = .ok body) :
    ∃ type, body.properties = [member.property options type] ∧ member.WrittenAs options type := by
  unfold Member.express at h
  by_cases hstring : member.asString = true
  · rw [if_pos hstring] at h
    cases h
    exact ⟨.named "string", rfl, Or.inl ⟨hstring, rfl⟩⟩
  · rw [if_neg hstring] at h
    split at h
    · next e he =>
        cases h
        exact ⟨e.type, rfl, Or.inr ⟨Bool.eq_false_iff.mpr hstring, e, labelled_eq_ok.mp he, rfl⟩⟩
    · cases h

/-- What holds of no arguments, and of one more with the type made for it, holds of all. -/
theorem expressArguments_induction {options : Options}
    {P : List TypeExpr → List ScriptType → Prop} {arguments : List TypeExpr} (nil : P [] [])
    (cons : ∀ argument ∈ arguments, ∀ e, argument.express options = .ok e →
      ∀ rest types, P rest types → P (argument :: rest) (e.type :: types))
    {imports : ImportSet} {found : List ScriptType × ImportSet}
    (h : expressArguments options imports arguments = .ok found) : P arguments found.1 := by
  induction arguments generalizing imports found with
  | nil =>
      rw [expressArguments] at h
      cases h
      exact nil
  | cons argument rest ih =>
      obtain ⟨e, others, he, hothers, rfl⟩ := expressArguments_cons h
      obtain ⟨hhere, hrest⟩ := List.forall_mem_cons.mp cons
      exact hhere e he rest others.1 (ih hrest hothers)

/-- What holds of no members, and of one more with the property made for it, holds of all. -/
theorem expressEach_induction {options : Options} {P : List Member → List Property → Prop}
    {members : List Member} (nil : P [] [])
    (cons : ∀ member ∈ members, ∀ type, member.WrittenAs options type →
      ∀ rest properties, P rest properties →
        P (member :: rest) (member.property options type :: properties))
    {body : ExpressedBody} (h : expressEach options members = .ok body) :
    P members body.properties := by
  induction members generalizing body with
  | nil =>
      cases h
      exact nil
  | cons member rest ih =>
      obtain ⟨first, others, hfirst, hothers, rfl⟩ := expressEach_cons h
      obtain ⟨hhere, hrest⟩ := List.forall_mem_cons.mp cons
      obtain ⟨type, hproperties, htype⟩ := Member.express_eq_ok hfirst
      show P (member :: rest) (first.properties ++ others.properties)
      rw [hproperties, List.singleton_append]
      exact hhere type htype rest others.properties (ih hrest hothers)

/-- For a member, the type of its field and its own type come to the same. -/
theorem expressMember_ofName (options : Options) (json : Option StructTag.Entry)
    (type : TypeExpr) (name : String) :
    expressMember options (type.express options) (Member.ofName json type name)
      = (Member.ofName json type name).express options := by
  unfold expressMember Member.express
  by_cases hstring : (Member.ofName json type name).asString = true
  · rw [if_pos hstring, if_pos hstring]
    rfl
  · rw [if_neg hstring, if_neg hstring]
    cases type with
    | pointer inner =>
        -- the field's type has an `undefined` more than the member's, and loses it again
        show (match labelled _ (TypeExpr.express options (.pointer inner)) with
            | .ok expressed => _
            | .error fault => _) = match labelled _ (inner.express options) with
            | .ok e => _
            | .error fault => _
        rw [TypeExpr.express]
        cases inner.express options with
        | ok e => rfl
        | error fault => rfl
    | named name isLocal => rfl
    | slice element => rfl
    | bytes => rfl
    | map key value => rfl
    | struct fields => rfl
    | selector package name => rfl
    | generic base arguments => rfl
    | any => rfl
    | other text form => rfl

/-- The members of one field are expressed as if each had its type alone. -/
theorem expressMembers_map_ofName (options : Options) (json : Option StructTag.Entry)
    (type : TypeExpr) (names : List String) :
    expressMembers options (type.express options) (names.map (Member.ofName json type))
      = expressEach options (names.map (Member.ofName json type)) := by
  induction names with
  | nil => rfl
  | cons name rest ih =>
      rw [List.map_cons, expressMembers, expressMember_ofName, ih]
      rfl

/-- What the members of a field are: none, or one for each exported name. -/
theorem Field.members_cases {field : Field} {members : List Member}
    (h : field.members = .ok members) :
    members = [] ∨ ∃ json, members = field.exported.map (Member.ofName json field.type) := by
  unfold Field.members at h
  split at h
  · cases h
    exact Or.inl rfl
  · next first others hexported =>
      split at h
      · next json hjson =>
          split at h
          · cases h
            exact Or.inl rfl
          · cases h
            exact Or.inr ⟨json, by rw [hexported]⟩
      · cases h

theorem expressMembers_of_members {options : Options} {field : Field} {members : List Member}
    (h : field.members = .ok members) :
    expressMembers options (field.type.express options) members
      = expressEach options members := by
  rcases Field.members_cases h with rfl | ⟨json, rfl⟩
  · rfl
  · exact expressMembers_map_ofName options json field.type field.exported

namespace ExpressedBody

/-- It makes no difference how bodies are grouped that are put together. -/
theorem append_assoc (first second third : ExpressedBody) :
    first.append (second.append third) = (first.append second).append third := by
  simp only [append, ImportSet.union_assoc, List.append_assoc]

/-- The empty body changes nothing in front of another. -/
theorem empty_append {body : ExpressedBody} (h : body.imports.Distinct) :
    ({} : ExpressedBody).append body = body := by
  show ExpressedBody.mk body.properties (({} : ImportSet).union body.imports) = body
  rw [h.empty_union]

end ExpressedBody

/-- The imports of a member are distinct. -/
theorem Member.express_distinct {options : Options} {member : Member} {body : ExpressedBody}
    (h : member.express options = .ok body) : body.imports.Distinct := by
  unfold Member.express at h
  split at h
  · cases h
    exact ImportSet.distinct_empty
  · split at h
    · next e he =>
        cases h
        exact member.type.express_distinct options e (labelled_eq_ok.mp he)
    · cases h

theorem expressEach_distinct {options : Options} {members : List Member} {body : ExpressedBody}
    (h : expressEach options members = .ok body) : body.imports.Distinct := by
  cases members with
  | nil =>
      cases h
      exact ImportSet.distinct_empty
  | cons member rest =>
      obtain ⟨first, others, hfirst, -, rfl⟩ := expressEach_cons h
      exact (Member.express_distinct hfirst).union _

/-- The properties of two lists of members. -/
theorem expressEach_append (options : Options) (first second : List Member) :
    expressEach options (first ++ second)
      = match expressEach options first with
        | .ok body => (expressEach options second).map body.append
        | .error fault => .error fault := by
  induction first with
  | nil =>
      show expressEach options second = (expressEach options second).map ({} : ExpressedBody).append
      cases hsecond : expressEach options second with
      | ok body =>
          show Except.ok body = Except.ok (({} : ExpressedBody).append body)
          -- an empty body in front is no change only because no import is listed twice
          rw [ExpressedBody.empty_append (expressEach_distinct hsecond)]
      | error fault => rfl
  | cons member rest ih =>
      rw [List.cons_append, expressEach, expressEach, ih]
      cases member.express options with
      | error fault => rfl
      | ok here =>
          cases expressEach options rest with
          | error fault => rfl
          | ok body =>
              cases expressEach options second with
              | error fault => rfl
              | ok others => exact congrArg Except.ok (ExpressedBody.append_assoc here body others)

/-- Fields whose tags are well formed are expressed member by member. -/
theorem expressFields_of_collectMembers {options : Options} {fields : List Field}
    {members : List Member} (h : collectMembers fields = .ok members) :
    expressFields options fields = expressEach options members := by
  induction fields generalizing members with
  | nil =>
      cases h
      rw [expressFields]
      rfl
  | cons field rest ih =>
      obtain ⟨names, type, tag⟩ := field
      rw [collectMembers] at h
      split at h
      · next here hhere =>
          obtain ⟨others, hothers, rfl⟩ := map_eq_ok.mp h
          have happend := expressEach_append options here others
          rw [← ih hothers, ← expressMembers_of_members hhere] at happend
          rw [expressFields, hhere]
          exact happend.symm
      · cases h

/-- A struct is expressed by its members, each from its own type. -/
theorem expressStruct_eq (options : Options) (fields : List Field) :
    expressStruct options fields
      = match collectMembers fields with
        | .ok members => expressEach options members
        | .error fault => .error fault := by
  unfold expressStruct
  cases h : collectMembers fields with
  | ok members => exact expressFields_of_collectMembers h
  | error fault => rfl

/-- An inline struct is the object of its properties. -/
theorem express_struct (options : Options) (fields : List Field) :
    (TypeExpr.struct fields).express options
      = (expressStruct options fields).map fun body =>
          { type := .object body.properties, imports := body.imports } := by
  rw [TypeExpr.express, expressStruct]
  cases collectMembers fields with
  | ok members => rfl
  | error fault => rfl

/-! ## Recursion into members -/

theorem Member.sizeOf_target_le (type : TypeExpr) : sizeOf (Member.target type) ≤ sizeOf type := by
  cases type with
  | pointer inner =>
      show sizeOf inner ≤ sizeOf (TypeExpr.pointer inner)
      simp
  | _ => exact Nat.le_refl _

/-- The type of a member is that of its field, but for a pointer. -/
theorem Member.exists_field {fields : List Field} {members : List Member}
    (h : collectMembers fields = .ok members) {member : Member} (hmember : member ∈ members) :
    ∃ field ∈ fields, member.type = Member.target field.type := by
  induction fields generalizing members with
  | nil =>
      cases h
      cases hmember
  | cons field rest ih =>
      rw [collectMembers] at h
      split at h
      · next here hhere =>
          obtain ⟨others, hothers, rfl⟩ := map_eq_ok.mp h
          rcases List.mem_append.mp hmember with hin | hin
          · refine ⟨field, List.mem_cons_self, ?_⟩
            rcases Field.members_cases hhere with rfl | ⟨json, rfl⟩
            · cases hin
            · obtain ⟨name, -, rfl⟩ := List.mem_map.mp hin
              rfl
          · obtain ⟨origin, horigin, htype⟩ := ih hothers hin
            exact ⟨origin, List.mem_cons_of_mem field horigin, htype⟩
      · cases h

/-- The type of a member is smaller than the fields it comes from. -/
theorem Member.sizeOf_type_lt {fields : List Field} {members : List Member}
    (h : collectMembers fields = .ok members) {member : Member} (hmember : member ∈ members) :
    sizeOf member.type < sizeOf fields := by
  obtain ⟨field, hfield, htype⟩ := Member.exists_field h hmember
  have hfields := List.sizeOf_lt_of_mem hfield
  have htarget := Member.sizeOf_target_le field.type
  obtain ⟨names, type, tag⟩ := field
  simp only [Field.mk.sizeOf_spec] at hfields htarget htype
  rw [htype]
  omega

/-! ## Recursion along expressed types -/

/-- The steps that carry a statement about types and what is made for them from the
    parts of a type to the type. -/
structure ExpressSteps (options : Options) (P : TypeExpr → Expressed → Prop) : Prop where
  bytes : P .bytes { type := .named "string" }
  any : P .any { type := .named "any" }
  named (name : String) (isLocal : Bool) :
    P (.named name isLocal) (expressName options name isLocal)
  selector (package name : String) :
    P (.selector package name) (expressSelector options package name)
  pointer {inner : TypeExpr} {e : Expressed} :
    P inner e → P (.pointer inner) { e with type := .orUndefined e.type }
  slice {element : TypeExpr} {e : Expressed} :
    P element e → P (.slice element) { e with type := .array e.type }
  map {key value : TypeExpr} {k v : Expressed} :
    P key k → P value v →
    P (.map key value) { type := .index k.type v.type, imports := k.imports.union v.imports }
  generic {base : TypeExpr} {arguments : List TypeExpr} {b : Expressed}
    {found : List ScriptType × ImportSet} :
    base.express options = .ok b → P base b →
    (∀ argument ∈ arguments, ∀ e, argument.express options = .ok e → P argument e) →
    expressArguments options b.imports arguments = .ok found →
    P (.generic base arguments) { type := .apply b.type found.1, imports := found.2 }
  struct {fields : List Field} {members : List Member} {body : ExpressedBody} :
    collectMembers fields = .ok members →
    (∀ member ∈ members, ∀ e, member.type.express options = .ok e → P member.type e) →
    expressEach options members = .ok body →
    P (.struct fields) { type := .object body.properties, imports := body.imports }

/-- What the steps carry on holds of every type that can be expressed. -/
theorem TypeExpr.express_induction {options : Options} {P : TypeExpr → Expressed → Prop}
    (steps : ExpressSteps options P) :
    ∀ (type : TypeExpr) (e : Expressed), type.express options = .ok e → P type e
  | .pointer inner, e, h => by
      rw [TypeExpr.express] at h
      obtain ⟨found, hfound, rfl⟩ := map_eq_ok.mp h
      exact steps.pointer (inner.express_induction steps found hfound)
  | .bytes, e, h => by
      rw [TypeExpr.express] at h
      cases h
      exact steps.bytes
  | .slice element, e, h => by
      rw [TypeExpr.express] at h
      obtain ⟨found, hfound, rfl⟩ := map_eq_ok.mp h
      exact steps.slice (element.express_induction steps found hfound)
  | .struct fields, e, h => by
      rw [express_struct, expressStruct_eq] at h
      obtain ⟨body, hbody, rfl⟩ := map_eq_ok.mp h
      split at hbody
      · next members hmembers =>
          refine steps.struct hmembers (fun member hmember => ?_) hbody
          -- the members are no parts of the fields, but their types are smaller
          have := Member.sizeOf_type_lt hmembers hmember
          exact member.type.express_induction steps
      · cases hbody
  | .named name isLocal, e, h => by
      rw [TypeExpr.express] at h
      cases h
      exact steps.named name isLocal
  | .selector package name, e, h => by
      rw [TypeExpr.express] at h
      cases h
      exact steps.selector package name
  | .map key value, e, h => by
      rw [TypeExpr.express] at h
      split at h
      · next k hk =>
          obtain ⟨v, hv, rfl⟩ := map_eq_ok.mp h
          exact steps.map (key.express_induction steps k hk) (value.express_induction steps v hv)
      · cases h
  | .any, e, h => by
      rw [TypeExpr.express] at h
      cases h
      exact steps.any
  | .generic base arguments, e, h => by
      rw [TypeExpr.express] at h
      split at h
      · next b hb =>
          obtain ⟨found, hfound, rfl⟩ := map_eq_ok.mp h
          exact steps.generic hb (base.express_induction steps b hb)
            (fun argument hargument => argument.express_induction steps) hfound
      · cases h
  | .other text form, e, h => by
      rw [TypeExpr.express] at h
      cases h
termination_by type => sizeOf type

end StructScript
