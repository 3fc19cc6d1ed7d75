import StructScript.Proofs.CompanionReading
import StructScript.Proofs.TagDecoding

/-! # The names in JSON of a companion's members

    A companion's tags are pasted together: the name in JSON of a field, as it was
    meant, is put between marks as if it had been written there, and is decoded once
    more when the members of the companion are collected.

    * `StructTag.inert_or_shorter` compares what goes in with what comes out: a name
      without marks, backslashes, commas, line ends and null characters stays as it is
      (`StructTag.parseLiteral_updateTag`), and any other name comes out shorter if it
      comes out at all;
    * `Slot` is a place for one member of a companion, and `collectMembers_slots_iff`
      goes through the places in order.  No place gives more than one member, so a
      member that is missing cannot be made up for by another;
    * `companion_members_iff_names_inert` says of a whole companion that its members
      are those that were asked for exactly if all its names are of the harmless
      kind. -/

namespace StructScript

namespace StructTag

/-! ## Names that are decoded twice -/

/-- Whether a character means itself in a name of a tag. -/
def isInertChar (c : Char) : Bool :=
  isBare c && c != ','

/-- Whether a name is read from a tag as it was written. -/
def isInert (name : String) : Bool :=
  name.toList.all isInertChar

/-- A character that is no comma belongs to the first part. -/
theorem splitCommas_cons {c : Char} (h : c ≠ ',') (text : List Char) :
    splitCommas (c :: text) = (c :: (splitCommas text).1, (splitCommas text).2) := by
  rw [splitCommas]
  exact h

/-- A text without a comma is the first part, up to the comma behind it. -/
theorem splitCommas_append {first : List Char} (h : ',' ∉ first) (rest : List Char) :
    splitCommas (first ++ ',' :: rest)
      = (first, (splitCommas rest).1 :: (splitCommas rest).2) := by
  induction first with
  | nil => rfl
  | cons c others ih =>
      rw [List.mem_cons, not_or] at h
      rw [List.cons_append, splitCommas_cons (Ne.symm h.1), ih h.2]

/-- A character that is not in the first of two texts lies behind it. -/
theorem exists_append_of_not_mem {used name after tail : List Char} {c : Char} (hc : c ∉ used)
    (h : name ++ c :: after = used ++ tail) :
    ∃ more, name = used ++ more ∧ more ++ c :: after = tail := by
  rcases List.append_eq_append_iff.mp h with ⟨between, rfl, hafter⟩ | ⟨more, rfl, htail⟩
  · cases between with
    | nil => exact ⟨[], by simp, hafter⟩
    | cons first others =>
        cases (List.cons.inj hafter).1
        exact absurd (List.mem_append_right _ List.mem_cons_self) hc
  · exact ⟨more, rfl, htail.symm⟩

/-- An escape ends before the next comma, so one that starts within a name ends there. -/
theorem exists_name_behind_escape {text next name after tail : List Char} {c : Char}
    (hread : Text.readEscape text = some (c, next)) (htext : name ++ ',' :: after = text ++ tail) :
    ∃ more, more.length < name.length ∧ more ++ ',' :: after = next ++ tail := by
  obtain ⟨start, digits, rfl, hstart, hdigits, -⟩ := Text.exists_of_readEscape hread
  have hcomma : ',' ∉ start :: digits := by
    have hbreak : ',' ∈ Text.escapeBreaks := by decide
    rw [List.mem_cons, not_or]
    refine ⟨?_, fun hmem => Text.not_mem_escapeBreaks_of_hex (hdigits _ hmem) hbreak⟩
    rintro rfl
    exact hstart hbreak
  have happend : name ++ ',' :: after = (start :: digits) ++ (next ++ tail) := by
    rw [← List.append_assoc]
    exact htext
  obtain ⟨more, rfl, hmore⟩ := exists_append_of_not_mem hcomma happend
  refine ⟨more, ?_, hmore⟩
  rw [List.length_append, List.length_cons]
  omega

/-- What comes of a name that is put in front of a comma and decoded: it stays as it is
    if it is inert, and gets shorter otherwise. -/
theorem inert_or_shorter {body value : List Char} (h : Denotes body value)
    {name after rest : List Char} (htext : name ++ ',' :: after = body ++ '"' :: rest) :
    (name.all isInertChar = true ∧ (splitCommas value).1 = name)
      ∨ (splitCommas value).1.length < name.length := by
  induction h generalizing name with
  | nil =>
      -- the value ends at once, so the name starts with the mark
      cases name with
      | nil => cases htext
      | cons c others => exact Or.inr (Nat.zero_lt_succ _)
  | @bare c body value hc _ ih =>
      cases name with
      | nil =>
          cases htext
          exact Or.inl ⟨rfl, rfl⟩
      | cons first others =>
          obtain ⟨rfl, htail⟩ := List.cons.inj htext
          by_cases hcomma : first = ','
          · subst hcomma
            exact Or.inr (Nat.zero_lt_succ _)
          · rw [splitCommas_cons hcomma]
            rcases ih htail with ⟨hinert, hsame⟩ | hshorter
            · refine Or.inl ⟨?_, congrArg (first :: ·) hsame⟩
              rw [List.all_cons, hinert, isInertChar, hc]
              simp [hcomma]
            · exact Or.inr (Nat.succ_lt_succ hshorter)
  | @escape c text next value hread _ ih =>
      cases name with
      | nil => cases htext
      | cons first others =>
          obtain ⟨rfl, htail⟩ := List.cons.inj htext
          obtain ⟨more, hless, hmore⟩ := exists_name_behind_escape hread htail
          have hlength : (splitCommas value).1.length ≤ more.length := by
            rcases ih hmore with ⟨-, hsame⟩ | hshorter
            · exact Nat.le_of_eq (congrArg List.length hsame)
            · exact Nat.le_of_lt hshorter
          right
          by_cases hmeant : c = ','
          · subst hmeant
            exact Nat.zero_lt_succ _
          · rw [splitCommas_cons hmeant]
            exact Nat.succ_lt_succ (Nat.lt_of_le_of_lt hlength hless)

/-- A name that starts harmlessly does not vanish. -/
theorem ne_nil_of_inert_head {body value : List Char} (h : Denotes body value) {c : Char}
    (hc : isInertChar c = true) {name rest : List Char} (htext : c :: name = body ++ '"' :: rest) :
    (splitCommas value).1 ≠ [] := by
  rw [isInertChar, Bool.and_eq_true] at hc
  cases h with
  | nil =>
      cases htext
      exact absurd hc.1 (by decide)
  | bare _ _ =>
      cases (List.cons.inj htext).1
      rw [splitCommas_cons (by simpa using hc.2)]
      exact List.cons_ne_nil _ _
  | escape _ _ =>
      cases (List.cons.inj htext).1
      exact absurd hc.1 (by decide)

/-! ## The tags of companions -/

/-- Marks around a text are taken off again. -/
theorem between?_marks (mark : Char) (body : List Char) :
    between? mark (mark :: (body ++ [mark])) = some body := by
  simp [between?]

/-- The tag of a companion's member stands between backquotes, whatever is in it. -/
theorem parseLiteral_updateTag_eq (shown : String) :
    parseLiteral (updateTag shown) = parse (tagBody shown) := by
  have hchars : (updateTag shown).toList = '\x60' :: ((tagBody shown).toList ++ ['\x60']) := by
    rw [updateTag_eq, String.toList_append, String.toList_append, List.append_assoc]
    rfl
  have hliteral : unquoteLiteral (updateTag shown) = .ok (tagBody shown) := by
    unfold unquoteLiteral
    rw [hchars, between?_marks]
    simp only [String.ofList_toList]
  unfold parseLiteral
  rw [hliteral]

/-- The part of a companion's tag behind its first key and the mark. -/
def afterFirstMark (shown : String) : List Char :=
  shown.toList ++ ',' :: ("omitempty".toList ++ '"' :: ' ' :: ("bson".toList ++ ':' :: '"'
    :: (shown.toList ++ ',' :: ("omitempty".toList ++ ['"']))))

/-- The body of an update tag, as characters. -/
theorem toList_tagBody (shown : String) :
    (tagBody shown).toList = "json".toList ++ ':' :: '"' :: afterFirstMark shown := by
  unfold tagBody afterFirstMark
  simp only [String.toList_append, List.append_assoc]
  rfl

/-- The body of an update tag is read as one entry and whatever comes behind it. -/
theorem readEntries_tagBody (shown : String) :
    readEntries (tagBody shown).toList
      = match splitLiteral (afterFirstMark shown) with
        | some (body, rest) =>
            match unquote body with
            | .ok value => (readEntries rest).map (Entry.ofValue "json".toList value :: ·)
            | .error flaw => .error flaw
        | none => .error .value := by
  rw [toList_tagBody]
  exact readEntries_pair (by decide) (List.all_eq_true.mp (by decide)) _

/-- What a companion's tag gives for `json`, if it can be read. -/
theorem exists_value_of_updateTag {shown : String} {tag : StructTag}
    (h : parseLiteral (updateTag shown) = .ok tag) :
    ∃ body value rest, Denotes body value ∧ afterFirstMark shown = body ++ '"' :: rest
      ∧ tag.get? "json" = some (Entry.ofValue "json".toList value) := by
  rw [parseLiteral_updateTag_eq, parse] at h
  split at h
  · next entries hentries =>
      cases h
      rw [readEntries_tagBody] at hentries
      split at hentries
      · next body rest hsplit =>
          obtain ⟨hsealed, htext⟩ := splitLiteral_eq_some.mp hsplit
          split at hentries
          · next value hvalue =>
              obtain ⟨others, -, rfl⟩ := map_eq_ok.mp hentries
              exact ⟨body, value, rest, (unquote_eq_ok hsealed).mp hvalue, htext, rfl⟩
          · cases hentries
      · cases hentries
  · cases h

/-- A value that is read as it is written. -/
theorem split_and_unquote_bare {text : List Char} (h : ∀ c ∈ text, isBare c = true)
    (rest : List Char) :
    splitLiteral (text ++ '"' :: rest) = some (text, rest) ∧ unquote text = .ok text := by
  have hdenotes := denotes_bare h
  exact ⟨splitLiteral_eq_some.mpr ⟨hdenotes.sealed, rfl⟩,
    (unquote_eq_ok hdenotes.sealed).mpr hdenotes⟩

/-- The tag of a companion's member gives an inert name back. -/
theorem parseLiteral_updateTag {shown : String} (h : isInert shown = true) :
    parseLiteral (updateTag shown)
      = .ok { entries := [⟨"json", shown, ["omitempty"]⟩, ⟨"bson", shown, ["omitempty"]⟩] } := by
  have hinert : ∀ c ∈ shown.toList, isBare c = true ∧ c ≠ ',' := by
    intro c hc
    have hchar := List.all_eq_true.mp h c hc
    rw [isInertChar, Bool.and_eq_true, bne_iff_ne] at hchar
    exact hchar
  have hcomma : ',' ∉ shown.toList := fun hmem => (hinert ',' hmem).2 rfl
  have hbare : ∀ c ∈ shown.toList ++ ',' :: "omitempty".toList, isBare c = true := by
    intro c hc
    rcases List.mem_append.mp hc with hname | hoption
    · exact (hinert c hname).1
    · have hall : (',' :: "omitempty".toList).all isBare = true := by decide
      exact List.all_eq_true.mp hall c hoption
  have hentry : ∀ key : String, Entry.ofValue key.toList (shown.toList ++ ',' :: "omitempty".toList)
      = ⟨key, shown, ["omitempty"]⟩ := by
    intro key
    unfold Entry.ofValue
    rw [splitCommas_append hcomma]
    simp only [String.ofList_toList]
    rfl
  -- both pairs of the tag have the same value
  generalize hvalue : shown.toList ++ ',' :: "omitempty".toList = value at hbare hentry
  have hsecond : readEntries (' ' :: ("bson".toList ++ ':' :: '"' :: (value ++ ['"'])))
      = .ok [⟨"bson", shown, ["omitempty"]⟩] := by
    obtain ⟨hsplit, hunquote⟩ := split_and_unquote_bare hbare []
    rw [readEntries_blank, readEntries_pair (by decide) (List.all_eq_true.mp (by decide)), hsplit]
    simp only [hunquote, hentry, readEntries_nil]
    rfl
  have hafter : afterFirstMark shown
      = value ++ '"' :: ' ' :: ("bson".toList ++ ':' :: '"' :: (value ++ ['"'])) := by
    rw [← hvalue]
    simp only [afterFirstMark, List.append_assoc, List.cons_append]
  have hentries : readEntries (tagBody shown).toList
      = .ok [⟨"json", shown, ["omitempty"]⟩, ⟨"bson", shown, ["omitempty"]⟩] := by
    obtain ⟨hsplit, hunquote⟩ := split_and_unquote_bare hbare
      (' ' :: ("bson".toList ++ ':' :: '"' :: (value ++ ['"'])))
    rw [readEntries_tagBody, hafter, hsplit]
    simp only [hunquote, hentry, hsecond]
    rfl
  rw [parseLiteral_updateTag_eq, parse, hentries]

end StructTag

/-! ## Places for members -/

/-- A place for one member of a companion: a name of a field, the name in JSON that
    the field's tag gives, which may be empty, and the type of the field. -/
structure Slot where
  name : String
  jsonName : String
  type : TypeExpr

namespace Slot

/-- The name in JSON that the member should have. -/
def shown (slot : Slot) : String :=
  if slot.jsonName.isEmpty then Text.lower slot.name else slot.jsonName

/-- The member of the companion as a field. -/
def field (slot : Slot) : Field :=
  updateField slot.type slot.jsonName slot.name

/-- The member that should be collected. -/
def member (slot : Slot) : Member :=
  { sourceName := slot.name, name := slot.shown, optional := true, type := slot.type
    pointer := true, asString := false }

/-- A slot whose name is not exported gives no member. -/
theorem members_of_not_exported {slot : Slot} (h : isExported slot.name = false) :
    slot.field.members = .ok [] := by
  have hexported : slot.field.exported = [] := by
    show [slot.name].filter isExported = []
    simp [h]
  unfold Field.members
  rw [hexported]

/-- A slot whose name is exported gives what its tag says. -/
theorem members_of_exported {slot : Slot} (h : isExported slot.name = true) :
    slot.field.members
      = match labelled (fieldLabel slot.name)
          ((StructTag.parseLiteral (updateTag slot.shown)).map (·.get? "json")) with
        | .ok json =>
            if Member.isSuppressed json then .ok []
            else .ok [Member.ofName json (.pointer slot.type) slot.name]
        | .error fault => .error fault := by
  have hexported : slot.field.exported = [slot.name] := by
    show [slot.name].filter isExported = [slot.name]
    simp [h]
  unfold Field.members
  rw [hexported]
  rfl

/-- An exported name starts with a letter, which means itself in a tag. -/
theorem exists_inert_head {name : String} (h : isExported name = true) :
    ∃ c rest, name.toList = c :: rest ∧ StructTag.isInertChar c = true := by
  unfold isExported at h
  split at h
  · cases h
  · next c rest hname =>
      refine ⟨c, rest, hname, ?_⟩
      rw [StructTag.isInertChar, Bool.and_eq_true, StructTag.isBare_iff, bne_iff_ne]
      refine ⟨⟨?_, ?_, ?_, ?_, ?_⟩, ?_⟩
      all_goals
        rintro rfl
        exact absurd h (by decide +kernel)

/-- Lowering a text keeps it from being empty. -/
theorem lowerAfter_ne_nil (before : List Char) (c : Char) (after : List Char) :
    Text.lowerAfter before (c :: after) ≠ [] := by
  rw [Text.lowerAfter]
  intro h
  have hhere := (List.append_eq_nil_iff.mp h).1
  split at hhere
  · split at hhere <;> cases hhere
  · split at hhere <;> cases hhere

/-- The member of an exported name has a name in JSON. -/
theorem shown_ne_empty {slot : Slot} (h : isExported slot.name = true) : slot.shown ≠ "" := by
  obtain ⟨c, rest, hname, -⟩ := exists_inert_head h
  unfold shown
  split
  · intro hempty
    have hchars := congrArg String.toList hempty
    rw [Text.lower, String.toList_ofList, hname] at hchars
    exact lowerAfter_ne_nil [] c rest hchars
  · next hjson =>
      intro hempty
      rw [hempty] at hjson
      exact hjson rfl

/-- The member of an inert name is the one that should be collected. -/
theorem members_of_inert {slot : Slot} (h : isExported slot.name = true)
    (hinert : StructTag.isInert slot.shown = true) : slot.field.members = .ok [slot.member] := by
  have hshown : slot.shown.isEmpty = false := by
    rw [Bool.eq_false_iff, ne_eq, String.isEmpty_iff]
    exact shown_ne_empty h
  have hmember : Member.ofName (some ⟨"json", slot.shown, ["omitempty"]⟩) (.pointer slot.type)
      slot.name = slot.member := by
    simp only [Member.ofName, hshown, Bool.false_eq_true, if_false]
    rfl
  have hkept : Member.isSuppressed (some ⟨"json", slot.shown, ["omitempty"]⟩) = false := by
    simp [Member.isSuppressed]
  rw [members_of_exported h, StructTag.parseLiteral_updateTag hinert]
  show (if Member.isSuppressed (some ⟨"json", slot.shown, ["omitempty"]⟩) then _ else _) = _
  rw [hkept, ← hmember]
  rfl

/-- Any other name gives no member or one with another name. -/
theorem ne_of_not_inert {slot : Slot} (h : isExported slot.name = true)
    (hinert : StructTag.isInert slot.shown = false) {members : List Member}
    (hmembers : slot.field.members = .ok members) :
    members = [] ∨ ∃ other, members = [other] ∧ other ≠ slot.member := by
  rw [members_of_exported h] at hmembers
  split at hmembers
  · next json hjson =>
      obtain ⟨tag, htag, rfl⟩ := map_eq_ok.mp (labelled_eq_ok.mp hjson)
      obtain ⟨body, value, rest, hdenotes, htext, hentry⟩ :=
        StructTag.exists_value_of_updateTag htag
      rw [hentry] at hmembers
      split at hmembers
      · exact Or.inl (Except.ok.inj hmembers).symm
      · refine Or.inr ⟨_, (Except.ok.inj hmembers).symm, fun heq => ?_⟩
        -- the name that comes out is shorter than the one that went in
        have hshorter : (StructTag.splitCommas value).1.length < slot.shown.toList.length := by
          rcases StructTag.inert_or_shorter hdenotes htext with ⟨hsame, -⟩ | hless
          · cases hinert.symm.trans hsame
          · exact hless
        have hname : (if (String.ofList (StructTag.splitCommas value).1).isEmpty then slot.name
            else String.ofList (StructTag.splitCommas value).1) = slot.shown :=
          congrArg Member.name heq
        split at hname
        · next hempty =>
            -- an empty name lets the field's own name through, but that one starts harmlessly
            obtain ⟨c, others, hchars, hc⟩ := exists_inert_head h
            rw [StructTag.afterFirstMark, ← hname, hchars, List.cons_append] at htext
            refine StructTag.ne_nil_of_inert_head hdenotes hc htext ?_
            have hnil := congrArg String.toList (String.isEmpty_iff.mp hempty)
            rwa [String.toList_ofList] at hnil
        · rw [← hname, String.toList_ofList] at hshorter
          exact Nat.lt_irrefl _ hshorter
  · cases hmembers

end Slot

/-! ## Members in order -/

/-- A field gives at most one member for each exported name. -/
theorem length_members_le {field : Field} {members : List Member}
    (h : field.members = .ok members) : members.length ≤ field.exported.length := by
  rcases Field.members_cases h with rfl | ⟨json, rfl⟩
  · exact Nat.zero_le _
  · exact Nat.le_of_eq (List.length_map _)

/-- There are never more members than exported names. -/
theorem length_collectMembers_le {fields : List Field} {members : List Member}
    (h : collectMembers fields = .ok members) :
    members.length ≤ (fields.flatMap Field.exported).length := by
  induction fields generalizing members with
  | nil =>
      cases h
      exact Nat.le_refl 0
  | cons field rest ih =>
      rw [collectMembers] at h
      split at h
      · next here hhere =>
          obtain ⟨others, hothers, rfl⟩ := map_eq_ok.mp h
          have hfirst := length_members_le hhere
          have hrest := ih hothers
          rw [List.flatMap_cons, List.length_append, List.length_append]
          omega
      · cases h

/-- The members that should be collected from places, in order. -/
def slotMembers (slots : List Slot) : List Member :=
  (slots.filter fun slot => isExported slot.name).map Slot.member

theorem slotMembers_of_exported {slot : Slot} (h : isExported slot.name = true)
    (rest : List Slot) : slotMembers (slot :: rest) = slot.member :: slotMembers rest := by
  rw [slotMembers, List.filter_cons_of_pos (p := fun slot : Slot => isExported slot.name) h]
  rfl

/-- A slot that is not exported gives none. -/
theorem slotMembers_of_not_exported {slot : Slot} (h : isExported slot.name = false)
    (rest : List Slot) : slotMembers (slot :: rest) = slotMembers rest := by
  rw [slotMembers, List.filter_cons_of_neg (by rw [h]; exact Bool.false_ne_true)]
  rfl

/-- There are as many exported names as members. -/
theorem length_exported_slots (slots : List Slot) :
    ((slots.map Slot.field).flatMap Field.exported).length = (slotMembers slots).length := by
  induction slots with
  | nil => rfl
  | cons slot rest ih =>
      rw [List.map_cons, List.flatMap_cons, List.length_append, ih]
      show ([slot.name].filter isExported).length + _ = _
      cases h : isExported slot.name with
      | true =>
          rw [slotMembers_of_exported h, List.filter_cons_of_pos h, List.length_cons]
          exact Nat.add_comm _ _
      | false =>
          rw [slotMembers_of_not_exported h,
            List.filter_cons_of_neg (by rw [h]; exact Bool.false_ne_true)]
          exact Nat.zero_add _

/-- The members are those that should be collected exactly if all names are inert. -/
theorem collectMembers_slots_iff (slots : List Slot) :
    collectMembers (slots.map Slot.field) = .ok (slotMembers slots)
      ↔ ∀ slot ∈ slots, isExported slot.name = true → StructTag.isInert slot.shown = true := by
  induction slots with
  | nil => simp [collectMembers, slotMembers]
  | cons slot rest ih =>
      rw [List.forall_mem_cons, ← ih, List.map_cons, collectMembers]
      cases hexported : isExported slot.name with
      | false =>
          rw [Slot.members_of_not_exported hexported, slotMembers_of_not_exported hexported]
          simp only [map_eq_ok, List.nil_append, exists_eq_right]
          simp
      | true =>
          rw [slotMembers_of_exported hexported]
          cases hinert : StructTag.isInert slot.shown with
          | true =>
              rw [Slot.members_of_inert hexported hinert]
              simp only [map_eq_ok, List.singleton_append, List.cons.injEq, true_and,
                exists_eq_right]
              simp
          | false =>
              refine iff_of_false (fun h => ?_) (fun h => by cases h.1 rfl)
              split at h
              · next here hhere =>
                  obtain ⟨others, hothers, heq⟩ := map_eq_ok.mp h
                  rcases Slot.ne_of_not_inert hexported hinert hhere with rfl | ⟨other, rfl, hne⟩
                  · -- the places that are left cannot give one member more
                    have hlength := length_collectMembers_le hothers
                    rw [length_exported_slots] at hlength
                    have hmore := congrArg List.length heq
                    rw [List.nil_append, List.length_cons] at hmore
                    omega
                  · exact hne (List.cons.inj heq).1
              · cases h

/-! ## Companions -/

/-- The places that a field has in a companion. -/
def Field.slots (field : Field) : List Slot :=
  match field.updateName? with
  | none => []
  | some jsonName => field.names.map fun name => ⟨name, jsonName, field.type⟩

/-- The members that a field should have in a companion: one for each exported name,
    with the name in JSON that its tag gives, or its own name in lower case. -/
def Field.updateMembers (field : Field) : List Member :=
  match field.updateName? with
  | none => []
  | some jsonName =>
      field.exported.map fun name =>
        { sourceName := name, name := if jsonName.isEmpty then Text.lower name else jsonName
          optional := true, type := field.type, pointer := true, asString := false }

/-- The members of the slots of fields are those that updates of the fields give. -/
theorem slotMembers_slots (fields : List Field) :
    slotMembers (fields.flatMap Field.slots) = fields.flatMap Field.updateMembers := by
  induction fields with
  | nil => rfl
  | cons field rest ih =>
      have happend : slotMembers (field.slots ++ rest.flatMap Field.slots)
          = slotMembers field.slots ++ slotMembers (rest.flatMap Field.slots) := by
        simp only [slotMembers, List.filter_append, List.map_append]
      rw [List.flatMap_cons, happend, ih, List.flatMap_cons]
      congr 1
      unfold Field.slots Field.updateMembers slotMembers
      cases field.updateName? with
      | none => rfl
      | some jsonName =>
          simp only [List.filter_map, List.map_map]
          rfl

/-- The updates of a field are its slots. -/
theorem updates_eq_slots {field : Field} {updates : List Field}
    (h : field.updates = .ok updates) : updates = field.slots.map Slot.field := by
  unfold Field.slots
  rcases Field.updates_cases h with ⟨hjson, rfl⟩ | ⟨jsonName, hjson, -, rfl⟩
  · rw [hjson]
    rfl
  · rw [hjson]
    simp only [List.map_map]
    rfl

/-- The updates of fields are their slots, in order. -/
theorem collectUpdates_eq_slots {fields updates : List Field}
    (h : collectUpdates fields = .ok updates) :
    updates = (fields.flatMap Field.slots).map Slot.field := by
  induction fields generalizing updates with
  | nil =>
      cases h
      rfl
  | cons field rest ih =>
      rw [collectUpdates] at h
      split at h
      · next here hhere =>
          obtain ⟨others, hothers, rfl⟩ := map_eq_ok.mp h
          rw [updates_eq_slots (labelled_eq_ok.mp hhere), ih hothers, List.flatMap_cons,
            List.map_append]
      · cases h

/-- The members of a companion are collected as they were asked for if and only if
    the names in JSON that go into its tags are inert: they have no quote, backslash,
    comma, line end or null character.  The members are one for each exported name of
    each field that asks to be updated, in order; they have the name in JSON of the
    field, or its own name in lower case, and its type, and they may be absent. -/
theorem companion_members_iff_names_inert {declaration companion : Declaration}
    (h : declaration.companion? = .ok (some companion)) :
    ∃ fields updates, declaration.type = .struct fields ∧ companion.type = .struct updates
      ∧ (collectMembers updates = .ok (fields.flatMap Field.updateMembers)
        ↔ ∀ field ∈ fields, ∀ jsonName, field.updateName? = some jsonName →
          ∀ name ∈ field.exported,
            StructTag.isInert (if jsonName.isEmpty then Text.lower name else jsonName) = true) := by
  obtain ⟨fields, updates, htype, hupdates, -, rfl⟩ := companion?_eq_some h
  refine ⟨fields, updates, htype, rfl, ?_⟩
  rw [collectUpdates_eq_slots hupdates, ← slotMembers_slots, collectMembers_slots_iff]
  constructor
  · intro hslots field hfield jsonName hjson name hname
    obtain ⟨hmem, hexported⟩ := List.mem_filter.mp hname
    refine hslots ⟨name, jsonName, field.type⟩ (List.mem_flatMap.mpr ⟨field, hfield, ?_⟩) hexported
    unfold Field.slots
    rw [hjson]
    exact List.mem_map_of_mem hmem
  · intro hfields slot hslot hexported
    obtain ⟨field, hfield, hslot⟩ := List.mem_flatMap.mp hslot
    unfold Field.slots at hslot
    cases hjson : field.updateName? with
    | none =>
        rw [hjson] at hslot
        cases hslot
    | some jsonName =>
        rw [hjson] at hslot
        obtain ⟨name, hname, rfl⟩ := List.mem_map.mp hslot
        exact hfields field hfield jsonName hjson name (List.mem_filter.mpr ⟨hname, hexported⟩)

/-- A struct with a name in JSON that is written with an escape, for two names and one
    that is not exported, and a field that has no name in JSON. -/
def profile : List Field :=
  [⟨["Name", "nick", "Alias"], .named "string" false,
      some "\x60json:\"caf\\u00e9\" update:\"\"\x60"⟩,
    ⟨["ID"], .named "int" false, none⟩,
    ⟨["Tags"], .slice (.named "Tag" true), some "\x60update:\"\"\x60"⟩]

theorem companion_members_iff_names_inert_for_profile :
    ∃ companion updates members,
      Declaration.companion? ⟨"Profile", .struct profile, [], false⟩ = .ok (some companion)
      ∧ companion.type = .struct updates
      ∧ collectMembers updates = .ok members
      ∧ members.map (fun member => (member.sourceName, member.name))
        = [("Name", "café"), ("Alias", "café"), ("Tags", "tags")] := by
  have hmade : (Declaration.companion? ⟨"Profile", .struct profile, [], false⟩).toOption.map
      Option.isSome = some true := by
    decide +kernel
  have hinert : (profile.all fun field => field.updateName?.all fun jsonName =>
      field.exported.all fun name =>
        StructTag.isInert (if jsonName.isEmpty then Text.lower name else jsonName)) = true := by
    decide +kernel
  have hnames : (profile.flatMap Field.updateMembers).map
      (fun member => (member.sourceName, member.name))
      = [("Name", "café"), ("Alias", "café"), ("Tags", "tags")] := by
    decide +kernel
  obtain ⟨found, hfound, hsome⟩ := Option.map_eq_some_iff.mp hmade
  obtain ⟨companion, rfl⟩ := Option.isSome_iff_exists.mp hsome
  obtain ⟨fields, updates, hfields, hupdates, hiff⟩ :=
    companion_members_iff_names_inert (toOption_eq_some.mp hfound)
  cases hfields
  refine ⟨companion, updates, _, toOption_eq_some.mp hfound, hupdates, hiff.mpr ?_, hnames⟩
  intro field hfield jsonName hjson name hname
  have hall := List.all_eq_true.mp hinert field hfield
  rw [hjson] at hall
  exact List.all_eq_true.mp hall name hname

/-- A name in JSON with a backslash, which its tag has as an escape. -/
def tabbed : List Field :=
  [⟨["Name"], .named "string" false, some "\x60json:\"a\\\\tb\" update:\"\"\x60"⟩]

/-- A backslash in a name is taken for an escape when the name is decoded again, and
    with the letter behind it gives a tab. -/
theorem companion_name_decoded_twice :
    ∃ companion updates members,
      Declaration.companion? ⟨"User", .struct tabbed, [], false⟩ = .ok (some companion)
      ∧ companion.type = .struct updates
      ∧ collectMembers updates = .ok members
      ∧ members.map (·.name) = ["a\tb"]
      ∧ (tabbed.flatMap Field.updateMembers).map (·.name) = ["a\\tb"] := by
  have hmade : (collectUpdates tabbed).toOption.bind (fun updates =>
      (collectMembers updates).toOption.map fun members => members.map (·.name))
      = some ["a\tb"] := by
    decide +kernel
  have hasked : (tabbed.flatMap Field.updateMembers).map (·.name) = ["a\\tb"] := by
    decide +kernel
  obtain ⟨updates, hupdates, hcollected⟩ := Option.bind_eq_some_iff.mp hmade
  obtain ⟨members, hmembers, hnames⟩ := Option.map_eq_some_iff.mp hcollected
  have hne : updates.isEmpty = false := by
    cases updates with
    | nil =>
        cases hmembers
        cases hnames
    | cons first rest => rfl
  have hcompanion := toOption_companion?_struct "User" tabbed [] false
  rw [hupdates, Option.map_some, hne] at hcompanion
  exact ⟨_, updates, members, toOption_eq_some.mp hcompanion, rfl, toOption_eq_some.mp hmembers,
    hnames, hasked⟩

end StructScript
