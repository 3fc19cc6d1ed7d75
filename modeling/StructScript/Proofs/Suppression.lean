import StructScript.Proofs.CompanionNames
import StructScript.Proofs.CompanionScope

/-! # Suppressed members in companions

    A member stays out of an interface if its name is not exported or its JSON entry is
    `-` without options.  The tag of a companion's member is made from the JSON name
    alone, with an option of its own, so whether the member is suppressed is decided anew.

    * `mem_sourceNames_iff` says which names of a struct become members, for the fields of
      a declaration and for those of a companion alike;
    * `exists_update_iff` finds the fields behind the members of a companion;
    * `Slot.not_isSuppressed` is what goes wrong: the option that every companion's tag has
      brings a suppressed name back. -/

namespace StructScript

/-! ## Names that become members -/

/-- Whether the JSON entry of a field keeps its names out of the interface. -/
def Field.IsSuppressed (field : Field) : Prop :=
  ∃ json, jsonEntry field.tag = .ok json ∧ Member.isSuppressed json = true

/-- The names in Go of members, in order. -/
def sourceNames (members : List Member) : List String :=
  members.map (·.sourceName)

/-- A field shows its exported names unless it is suppressed. -/
theorem Field.mem_sourceNames {field : Field} {members : List Member}
    (h : field.members = .ok members) {name : String} :
    name ∈ sourceNames members ↔ name ∈ field.exported ∧ ¬ field.IsSuppressed := by
  by_cases hexported : field.exported = []
  · rw [Field.members_of_unexported hexported] at h
    cases h
    rw [hexported]
    exact iff_of_false List.not_mem_nil fun hname => List.not_mem_nil hname.1
  · rw [Field.members_of_exported hexported] at h
    split at h
    · next json hjson =>
        have hsuppressed : field.IsSuppressed ↔ Member.isSuppressed json = true := by
          constructor
          · rintro ⟨found, hfound, hflag⟩
            cases (labelled_eq_ok.mp hjson).symm.trans hfound
            exact hflag
          · exact fun hflag => ⟨json, labelled_eq_ok.mp hjson, hflag⟩
        rw [hsuppressed]
        split at h
        · next hflag =>
            cases h
            exact iff_of_false List.not_mem_nil fun hname => hname.2 hflag
        · next hflag =>
            cases h
            -- a member has the name in Go that it is made for
            have hnames : sourceNames (field.exported.map (Member.ofName json field.type))
                = field.exported := by
              rw [sourceNames, List.map_map]
              exact List.map_id field.exported
            rw [hnames]
            exact ⟨fun hname => ⟨hname, hflag⟩, fun hname => hname.1⟩
    · cases h

/-- The members of a struct are the exported names of the fields that are not suppressed. -/
theorem mem_sourceNames_iff {fields : List Field} {members : List Member}
    (h : collectMembers fields = .ok members) {name : String} :
    name ∈ sourceNames members
      ↔ ∃ field ∈ fields, ¬ field.IsSuppressed ∧ name ∈ field.exported := by
  induction fields generalizing members with
  | nil =>
      cases h
      simp [sourceNames]
  | cons field rest ih =>
      rw [collectMembers] at h
      split at h
      · next here hhere =>
          obtain ⟨others, hothers, rfl⟩ := map_eq_ok.mp h
          rw [sourceNames, List.map_append, List.mem_append]
          show name ∈ sourceNames here ∨ name ∈ sourceNames others ↔ _
          rw [Field.mem_sourceNames hhere, ih hothers, and_comm]
          simp only [List.mem_cons, exists_eq_or_imp]
      · cases h

/-! ## Names of a companion -/

/-- An update is named by the tag that asks for it. -/
theorem Field.updateName?_eq_some {field : Field} {jsonName : String} :
    field.updateName? = some jsonName
      ↔ ∃ literal tag, field.tag = some literal ∧ StructTag.parseLiteral literal = .ok tag
        ∧ tag.has updateKey = true ∧ ((tag.get? "json").map (·.name)).getD "" = jsonName := by
  unfold Field.updateName?
  simp only [Option.bind_eq_some_iff, toOption_eq_some, Option.ite_none_right_eq_some,
    Option.some.injEq]
  constructor
  · rintro ⟨literal, hliteral, tag, htag, hhas, hname⟩
    exact ⟨literal, tag, hliteral, htag, hhas, hname⟩
  · rintro ⟨literal, tag, hliteral, htag, hhas, hname⟩
    exact ⟨literal, hliteral, tag, htag, hhas, hname⟩

/-- The JSON name of a suppressed field that asks for an update is a dash. -/
theorem Field.updateName?_of_isSuppressed {field : Field} (hasks : field.AsksUpdate)
    (hsuppressed : field.IsSuppressed) : field.updateName? = some "-" := by
  obtain ⟨literal, tag, hliteral, htag, hhas⟩ := hasks
  obtain ⟨json, hjson, hflag⟩ := hsuppressed
  refine Field.updateName?_eq_some.mpr ⟨literal, tag, hliteral, htag, hhas, ?_⟩
  have hentry : tag.get? "json" = json := by
    rw [hliteral, jsonEntry, htag] at hjson
    exact Except.ok.inj hjson
  rw [hentry]
  cases json with
  | none => cases hflag
  | some entry =>
      rw [Member.isSuppressed, Bool.and_eq_true, beq_iff_eq] at hflag
      exact hflag.1

/-- A companion's member with a harmless JSON name is not suppressed, whatever the name
    is: its tag has an option. -/
theorem Slot.not_isSuppressed {slot : Slot} (h : StructTag.isInert slot.shown = true) :
    ¬ slot.field.IsSuppressed := by
  rintro ⟨json, hjson, hflag⟩
  have hentry : jsonEntry slot.field.tag = .ok (some ⟨"json", slot.shown, ["omitempty"]⟩) := by
    show (StructTag.parseLiteral (updateTag slot.shown)).map _ = _
    rw [StructTag.parseLiteral_updateTag h]
    rfl
  cases hentry.symm.trans hjson
  rw [Member.isSuppressed, Bool.and_eq_true] at hflag
  cases hflag.2

/-- A slot exports its own name, if that is exported. -/
theorem Slot.mem_exported {slot : Slot} {name : String} :
    name ∈ slot.field.exported ↔ name = slot.name ∧ isExported name = true := by
  show name ∈ [slot.name].filter isExported ↔ _
  rw [List.mem_filter, List.mem_singleton]

/-- The exported names of a companion's members are those of the fields that ask for an
    update. -/
theorem exists_update_iff {fields updates : List Field} (h : collectUpdates fields = .ok updates)
    {name : String} {P : Field → Prop} :
    (∃ update ∈ updates, P update ∧ name ∈ update.exported)
      ↔ ∃ field ∈ fields, ∃ jsonName, field.updateName? = some jsonName ∧ name ∈ field.exported
        ∧ P (updateField field.type jsonName name) := by
  rw [collectUpdates_eq_slots h]
  constructor
  · rintro ⟨update, hupdate, hP, hname⟩
    obtain ⟨slot, hslot, rfl⟩ := List.mem_map.mp hupdate
    obtain ⟨field, hfield, hslot⟩ := List.mem_flatMap.mp hslot
    obtain ⟨rfl, hexported⟩ := Slot.mem_exported.mp hname
    unfold Field.slots at hslot
    split at hslot
    · cases hslot
    · next jsonName hjson =>
        obtain ⟨shown, hshown, rfl⟩ := List.mem_map.mp hslot
        exact ⟨field, hfield, jsonName, hjson, List.mem_filter.mpr ⟨hshown, hexported⟩, hP⟩
  · rintro ⟨field, hfield, jsonName, hjson, hname, hP⟩
    obtain ⟨hmem, hexported⟩ := List.mem_filter.mp hname
    have hslot : (⟨name, jsonName, field.type⟩ : Slot) ∈ field.slots := by
      unfold Field.slots
      rw [hjson]
      exact List.mem_map_of_mem hmem
    exact ⟨_, List.mem_map_of_mem (List.mem_flatMap.mpr ⟨field, hfield, hslot⟩), hP,
      Slot.mem_exported.mpr ⟨rfl, hexported⟩⟩

/-- What is kept out of an interface is kept out of that of its companion, if and only if
    no name of a suppressed field that asks for an update is left out of the interface.
    For every struct with a companion, and whenever the members of both can be collected:
    each name of a member of the companion is that of a member of the struct exactly if
    each exported name of a suppressed field that asks for an update is also a name of a
    field that is not suppressed.  In a struct that has no name twice, this is to say that
    no suppressed field with an exported name asks for an update. -/
theorem suppression_kept_iff_not_updated {declaration companion : Declaration}
    (h : declaration.companion? = .ok (some companion)) :
    ∃ fields updates, declaration.type = .struct fields ∧ companion.type = .struct updates
      ∧ ∀ members shown, collectMembers fields = .ok members → collectMembers updates = .ok shown →
        ((∀ name ∈ sourceNames shown, name ∈ sourceNames members)
          ↔ ∀ field ∈ fields, field.AsksUpdate → field.IsSuppressed → ∀ name ∈ field.exported,
            ∃ other ∈ fields, ¬ other.IsSuppressed ∧ name ∈ other.exported) := by
  obtain ⟨fields, updates, htype, hupdates, -, rfl⟩ := companion?_eq_some h
  refine ⟨fields, updates, htype, rfl, fun members shown hmembers hshown => ?_⟩
  simp only [mem_sourceNames_iff hmembers, mem_sourceNames_iff hshown]
  constructor
  · intro hkept field hfield hasks hsuppressed name hname
    have hdash : StructTag.isInert "-" = true := by decide
    have hback : ¬ (Slot.field ⟨name, "-", field.type⟩).IsSuppressed := Slot.not_isSuppressed hdash
    exact hkept name ((exists_update_iff hupdates).mpr
      ⟨field, hfield, "-", Field.updateName?_of_isSuppressed hasks hsuppressed, hname, hback⟩)
  · intro hnames name hname
    obtain ⟨field, hfield, jsonName, hjson, hexported, -⟩ := (exists_update_iff hupdates).mp hname
    by_cases hsuppressed : field.IsSuppressed
    · obtain ⟨literal, tag, hliteral, htag, hhas, -⟩ := Field.updateName?_eq_some.mp hjson
      exact hnames field hfield ⟨literal, tag, hliteral, htag, hhas⟩ hsuppressed name hexported
    · exact ⟨field, hfield, hsuppressed, hexported⟩

/-- A struct and its companion, given the names of the members of both. -/
theorem exists_companion_of_names {fields : List Field} {names others : List String}
    (hnames : (collectMembers fields).toOption.map sourceNames = some names)
    (hothers : ((collectUpdates fields).toOption.bind fun updates =>
      (collectMembers updates).toOption.map sourceNames) = some others)
    (hne : others ≠ []) (name : String) :
    ∃ companion updates members shown,
      Declaration.companion? ⟨name, .struct fields, [], false⟩ = .ok (some companion)
      ∧ companion.type = .struct updates
      ∧ collectMembers fields = .ok members ∧ sourceNames members = names
      ∧ collectMembers updates = .ok shown ∧ sourceNames shown = others := by
  obtain ⟨members, hmembers, hnames⟩ := Option.map_eq_some_iff.mp hnames
  obtain ⟨updates, hupdates, hshown⟩ := Option.bind_eq_some_iff.mp hothers
  obtain ⟨shown, hshown, hothers⟩ := Option.map_eq_some_iff.mp hshown
  -- without updates there would be no members
  have hsome : updates.isEmpty = false := by
    cases updates with
    | nil =>
        cases hshown
        exact absurd hothers.symm hne
    | cons first rest => rfl
  have hcompanion := toOption_companion?_struct name fields [] false
  rw [hupdates, Option.map_some, hsome] at hcompanion
  exact ⟨_, updates, members, shown, toOption_eq_some.mp hcompanion, rfl,
    toOption_eq_some.mp hmembers, hnames, toOption_eq_some.mp hshown, hothers⟩

/-- A struct with a suppressed field that asks for nothing, and a dash with an empty
    option, which is a name like any other. -/
def account : List Field :=
  [⟨["Name", "nick"], .named "string" false, some "\x60json:\"name\" update:\"\"\x60"⟩,
    ⟨["Password"], .named "string" false, some "\x60json:\"-\"\x60"⟩,
    ⟨["Rate"], .named "int" false, some "\x60json:\"-,\" update:\"\"\x60"⟩,
    ⟨["Notes"], .slice (.named "Note" true), some "\x60update:\"\"\x60"⟩]

theorem suppression_kept_iff_not_updated_of_account :
    ∃ companion updates members shown,
      Declaration.companion? ⟨"Account", .struct account, [], false⟩ = .ok (some companion)
      ∧ companion.type = .struct updates
      ∧ collectMembers account = .ok members ∧ collectMembers updates = .ok shown
      ∧ sourceNames shown = ["Name", "Rate", "Notes"]
      ∧ ∀ name ∈ sourceNames shown, name ∈ sourceNames members := by
  have hasked : (account.all fun field => !(field.updateName?.isSome
      && (jsonEntry field.tag).toOption.any Member.isSuppressed)) = true := by
    decide +kernel
  have hnames : (collectMembers account).toOption.map sourceNames
      = some ["Name", "Rate", "Notes"] := by
    decide +kernel
  have hothers : ((collectUpdates account).toOption.bind fun updates =>
      (collectMembers updates).toOption.map sourceNames) = some ["Name", "Rate", "Notes"] := by
    decide +kernel
  obtain ⟨companion, updates, members, shown, hcompanion, hupdates, hmembers, -, hshown, hlist⟩ :=
    exists_companion_of_names hnames hothers (List.cons_ne_nil _ _) "Account"
  obtain ⟨fields, found, hfields, hfound, hiff⟩ := suppression_kept_iff_not_updated hcompanion
  cases hfields
  cases hupdates.symm.trans hfound
  refine ⟨companion, updates, members, shown, hcompanion, hupdates, hmembers, hshown, hlist,
    (hiff members shown hmembers hshown).mpr ?_⟩
  intro field hfield hasks hsuppressed
  have hnot := List.all_eq_true.mp hasked field hfield
  rw [Field.updateName?_of_isSuppressed hasks hsuppressed] at hnot
  obtain ⟨json, hjson, hflag⟩ := hsuppressed
  rw [hjson] at hnot
  simp [Except.toOption, hflag] at hnot

/-- A struct with a suppressed field that asks for an update. -/
def credentials : List Field :=
  [⟨["Name"], .named "string" false, some "\x60json:\"name\" update:\"\"\x60"⟩,
    ⟨["Password"], .named "string" false, some "\x60json:\"-\" update:\"\"\x60"⟩]

/-- A suppressed member may come back in the companion. -/
theorem suppressed_password_comes_back :
    ∃ companion updates members shown,
      Declaration.companion? ⟨"User", .struct credentials, [], false⟩ = .ok (some companion)
      ∧ companion.type = .struct updates
      ∧ collectMembers credentials = .ok members ∧ sourceNames members = ["Name"]
      ∧ collectMembers updates = .ok shown ∧ sourceNames shown = ["Name", "Password"] :=
  exists_companion_of_names (by decide +kernel) (by decide +kernel) (List.cons_ne_nil _ _) "User"

end StructScript
