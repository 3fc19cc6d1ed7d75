import StructScript.Proofs.CompanionTokens
import StructScript.Proofs.GoNames

/-! # Written companions are read back

    * `readItem_struct` reads a companion from its tokens, member by member, and
      `parse_appendix` reads a file that has companions only;
    * `exists_updateStructs` shows that the companions of every file have the form
      that this needs: their names are names because they were read, and their tags
      hold names in JSON, or names in lower case, which have no backquote;
    * the two together say that writing companions and reading them is undoing
      one by the other. -/

namespace StructScript

open Go

/-! ## Reading the tokens -/

/-- A list of names other than bytes is a slice. -/
theorem listType_name {name : String} (h : name ≠ "byte") (isLocal : Bool) :
    listType (.named name isLocal) = .slice (.named name isLocal) := by
  rw [listType]
  rintro other hbyte
  cases hbyte
  exact h rfl

/-- A type before a tag, which cannot go on with it. -/
theorem type_update (depth : Nat) (type : UpdateType) (literal gap : String)
    (rest : List Token) :
    (phrases (depth + 2)).type true (type.tokens ++ (textPiece literal).after gap :: rest)
      = some ({ type := type.expr.bind [] }, (textPiece literal).after gap :: rest) := by
  cases type with
  | named name isLocal h => rfl
  | selector package name hpackage hname => rfl
  | bytes => rfl
  | list name isLocal h hbyte =>
      -- a slice of a name is kept, because the name is not the one of bytes
      have hslice : (UpdateType.list name isLocal h hbyte).expr.bind []
          = listType (.named name false) := by
        rw [listType_name hbyte]
        rfl
      rw [hslice]
      rfl

/-- A member before a token on another line. -/
theorem fieldChoices_update (depth : Nat) (update : Update) (rest : List Token) :
    fieldChoices (phrases (depth + 3)) (update.tokens ++ rest)
      = [(update.field.bind [], rest)] := by
  have htype := type_update depth update.type update.literal "\t\t" rest
  rw [Update.tokens, List.cons_append, List.cons_append, List.append_assoc, List.singleton_append]
  have hpointer : (phrases (depth + 3)).type true ((markPiece "*").after "\t\t"
      :: (update.type.tokens ++ (textPiece update.literal).after "\t\t" :: rest))
      = some ({ type := .pointer (update.type.expr.bind []) },
        (textPiece update.literal).after "\t\t" :: rest) := by
    show Option.map _ (Option.map _ ((phrases (depth + 2)).type true _)) = _
    rw [htype]
    rfl
  -- a word before a star leaves one choice, a field with names
  show (readNamedField (phrases (depth + 3)) _).toList = _
  have hfield : readNamedField (phrases (depth + 3))
      ((namePiece update.name update.isName_name).after "\n\t" :: (markPiece "*").after "\t\t"
        :: (update.type.tokens ++ (textPiece update.literal).after "\t\t" :: rest))
      = some (update.field.bind [], rest) := by
    show Option.map _ ((phrases (depth + 3)).type true _) = _
    rw [hpointer]
    rfl
  rw [hfield]
  rfl

/-- The tokens of members stand one after the other. -/
theorem bodyTokens_cons (update : Update) (others : List Update) :
    UpdateStruct.bodyTokens (update :: others)
      = update.tokens ++ UpdateStruct.bodyTokens others := by
  rw [UpdateStruct.bodyTokens, List.flatMap_cons, List.append_assoc]
  rfl

/-- Behind a member a new line starts. -/
theorem afterTerminator_updates (updates : List Update) (rest : List Token) :
    afterTerminator false "\x7d" (UpdateStruct.bodyTokens updates ++ rest)
      = some (UpdateStruct.bodyTokens updates ++ rest) := by
  cases updates with
  | nil => rfl
  | cons update others => rfl

/-- The members of a struct up to its closing brace. -/
theorem readFields_updates (depth : Nat) (updates : List Update) (rest : List Token) (count : Nat)
    (hcount : updates.length < count) :
    readFields (phrases (depth + 3)) count (UpdateStruct.bodyTokens updates ++ rest)
      = some (updates.map fun update => update.field.bind [], rest) := by
  induction updates generalizing count with
  | nil =>
      obtain ⟨bound, rfl⟩ : ∃ bound, count = bound + 1 := ⟨count - 1, by omega⟩
      rfl
  | cons update others ih =>
      obtain ⟨bound, rfl⟩ : ∃ bound, count = bound + 1 := ⟨count - 1, by omega⟩
      rw [List.length_cons] at hcount
      have hrest := ih bound (by omega)
      have hopen : nextIs false "\x7d"
          (update.tokens ++ (UpdateStruct.bodyTokens others ++ rest)) = false := rfl
      rw [bodyTokens_cons, List.append_assoc, readFields, hopen, fieldChoices_update]
      simp only [Bool.false_eq_true, if_false, List.findSome?_cons, afterTerminator_updates, hrest]
      rfl

/-- A body has more tokens than members. -/
theorem length_bodyTokens (updates : List Update) :
    updates.length < (UpdateStruct.bodyTokens updates).length := by
  induction updates with
  | nil => decide
  | cons update others ih =>
      rw [bodyTokens_cons, List.length_append, List.length_cons, Update.tokens, List.length_cons]
      omega

/-- The type of a companion. -/
theorem type_struct (depth : Nat) (updates : List Update) (rest : List Token) :
    (phrases (depth + 4)).type true
        ((keywordPiece "struct").after " " :: (markPiece "\x7b").after " "
          :: (UpdateStruct.bodyTokens updates ++ rest))
      = some ({ type := .struct (updates.map fun update => update.field.bind []) }, rest) := by
  have hlength : updates.length < (UpdateStruct.bodyTokens updates ++ rest).length := by
    have hbody := length_bodyTokens updates
    rw [List.length_append]
    omega
  show Option.map _ (Option.map _ (readFields (phrases (depth + 3)) _ _)) = _
  rw [readFields_updates depth updates rest _ hlength]
  rfl

/-- The declaration of a companion as it is read: no name in it is local yet. -/
def UpdateStruct.spec (struct : UpdateStruct) : Spec :=
  { name := struct.name
    phrase := { type := .struct (struct.updates.map fun update => update.field.bind []) } }

/-- The tokens of a companion are read as its declaration. -/
theorem readItem_struct (depth : Nat) (struct : UpdateStruct) (rest : List Token) :
    readItem (phrases (depth + 4)) (struct.tokens ++ rest)
      = some ({ item := .types [struct.spec], mayEnd := false }, rest) := by
  have hplain : readPlainSpec (phrases (depth + 4)) struct.name
      ((keywordPiece "struct").after " " :: (markPiece "\x7b").after " "
        :: (UpdateStruct.bodyTokens struct.updates ++ rest))
      = some (struct.spec, rest) := by
    show Option.map _ ((phrases (depth + 4)).type true
      ((keywordPiece "struct").after " " :: (markPiece "\x7b").after " "
        :: (UpdateStruct.bodyTokens struct.updates ++ rest))) = _
    rw [type_struct]
    rfl
  show Option.map _ (Option.map _ (readPlainSpec (phrases (depth + 4)) struct.name
    ((keywordPiece "struct").after " " :: (markPiece "\x7b").after " "
      :: (UpdateStruct.bodyTokens struct.updates ++ rest)))) = _
  rw [hplain]
  rfl

/-- A companion ends where the next one or the end of the text stands on another
    line. -/
theorem readEndedItem_struct (depth : Nat) (struct : UpdateStruct) (others : List UpdateStruct) :
    readEndedItem (phrases (depth + 4))
        (struct.tokens ++ (others.flatMap UpdateStruct.tokens ++ [finishPiece.after "\n"]))
      = some (.types [struct.spec],
          others.flatMap UpdateStruct.tokens ++ [finishPiece.after "\n"]) := by
  unfold readEndedItem
  rw [readItem_struct]
  cases others with
  | nil => rfl
  | cons next more => rfl

/-- The companions of a file, one after the other. -/
theorem readItems_structs (depth : Nat) (structs : List UpdateStruct) (count : Nat)
    (hcount : structs.length < count) :
    readItems (phrases (depth + 4)) count
        (structs.flatMap UpdateStruct.tokens ++ [finishPiece.after "\n"])
      = some (structs.map fun struct => .types [struct.spec]) := by
  induction structs generalizing count with
  | nil =>
      obtain ⟨bound, rfl⟩ : ∃ bound, count = bound + 1 := ⟨count - 1, by omega⟩
      rfl
  | cons struct others ih =>
      obtain ⟨bound, rfl⟩ : ∃ bound, count = bound + 1 := ⟨count - 1, by omega⟩
      rw [List.length_cons] at hcount
      have hrest := ih bound (by omega)
      have hmore : atFinish (struct.tokens ++ (others.flatMap UpdateStruct.tokens
          ++ [finishPiece.after "\n"])) = false := rfl
      rw [List.flatMap_cons, List.append_assoc, readItems, hmore, readEndedItem_struct]
      simp only [Bool.false_eq_true, if_false, List.map_cons, hrest, Option.map_some]

/-- Companions have at least one token each. -/
theorem length_structs (structs : List UpdateStruct) :
    structs.length ≤ (structs.flatMap UpdateStruct.tokens).length := by
  induction structs with
  | nil => exact Nat.le_refl 0
  | cons struct rest ih =>
      rw [List.flatMap_cons, List.length_append, UpdateStruct.tokens, List.length_cons,
        List.length_cons]
      omega

/-- The items of a file that has companions only. -/
theorem items_file {package : String} (h : isName package = true) {structs : List UpdateStruct}
    (hne : structs ≠ []) :
    items ("package " ++ package ++ "\n" ++ appendix structs)
      = some (.package package :: structs.map fun struct => .types [struct.spec]) := by
  have hlength := length_structs structs
  have hsome : 0 < structs.length := List.length_pos_iff.mpr hne
  -- the tokens are enough for the depth of a struct and for the number of structs
  obtain ⟨depth, hdepth⟩ : ∃ depth, (fileTokens package h structs).length = depth + 4 := by
    refine ⟨(fileTokens package h structs).length - 4, ?_⟩
    simp only [fileTokens, List.length_cons, List.length_append, List.length_nil]
    omega
  have hcount : structs.length < depth + 3 := by
    simp only [fileTokens, List.length_cons, List.length_append, List.length_nil] at hdepth
    omega
  have hstructs := readItems_structs depth structs (depth + 3) hcount
  unfold items
  rw [tokens_file h structs]
  simp only [hdepth]
  cases structs with
  | nil => exact absurd rfl hne
  | cons struct rest =>
      show Option.map _ (readItems (phrases (depth + 4)) (depth + 3)
        ((struct :: rest).flatMap UpdateStruct.tokens ++ [finishPiece.after "\n"])) = _
      rw [hstructs]
      rfl

/-- A companion is declared as it was made, with its names bound. -/
theorem UpdateStruct.declaration_spec (struct : UpdateStruct) (names : List String) :
    struct.spec.declaration names = struct.declaration.bind names := by
  have htype : struct.spec.phrase.type = (TypeExpr.struct (struct.updates.map Update.field)).bind [] := by
    rw [TypeExpr.bind, bindFields_eq_map, List.map_map]
    rfl
  unfold Spec.declaration
  rw [htype, TypeExpr.bind_bind]
  show Declaration.mk _ (TypeExpr.bind (names ++ []) _) _ _ = _
  rw [List.append_nil]
  rfl

/-- The declarations of companions are their own, in order. -/
theorem specsOf_structs (structs : List UpdateStruct) :
    specsOf (structs.map fun struct => .types [struct.spec]) = structs.map UpdateStruct.spec := by
  induction structs with
  | nil => rfl
  | cons struct rest ih =>
      rw [List.map_cons, specsOf, ih]
      rfl

/-- A file that has companions only declares them, with the marks of their own
    names. -/
theorem parse_appendix {package : String} (h : isName package = true)
    {structs : List UpdateStruct} (hne : structs ≠ []) (path : String) :
    parse ("package " ++ package ++ "\n" ++ appendix structs) path
      = .ok
        { path
          package := some package
          declarations := structs.map fun struct =>
            struct.declaration.bind (structs.map (·.name))
          skipped := [] } := by
  unfold parse
  rw [items_file h hne]
  have hspecs : specsOf (.package package :: structs.map fun struct => .types [struct.spec])
      = structs.map UpdateStruct.spec := by
    rw [specsOf]
    · exact specsOf_structs structs
    · intro specs heq
      cases heq
  have hdata : ∀ spec ∈ structs.map UpdateStruct.spec, spec.isData = true := by
    intro spec hspec
    obtain ⟨struct, -, rfl⟩ := List.mem_map.mp hspec
    rfl
  have hnames : (structs.map UpdateStruct.spec).map (·.name) = structs.map (·.name) := by
    rw [List.map_map]
    rfl
  have hskipped : (structs.map UpdateStruct.spec).filter (fun spec => !spec.isData) = [] := by
    refine List.filter_eq_nil_iff.mpr fun spec hspec => ?_
    rw [hdata spec hspec]
    exact Bool.false_ne_true
  simp only [unitOf, hspecs, hnames, List.filter_eq_self.mpr hdata, hskipped, List.map_map,
    List.map_nil]
  refine congrArg Except.ok (congrArg (SourceUnit.mk path (some package) · []) ?_)
  exact List.map_congr_left fun struct _ => struct.declaration_spec _

/-! ## The companions of a file have this form -/

/-- The name of a companion is a name. -/
theorem isName_companionName {name : String} (h : isName name = true) :
    isName (companionName name) = true := by
  obtain ⟨first, more, htext, hfirst, hmore, -⟩ := isName_iff.mp h
  have hchars : (companionName name).toList = first :: (more ++ "Update".toList) := by
    rw [companionName, String.toList_append, htext]
    rfl
  refine isName_iff.mpr ⟨first, more ++ "Update".toList, hchars, hfirst, ?_, ?_⟩
  · intro c hc
    rcases List.mem_append.mp hc with hold | hnew
    · exact hmore c hold
    · have hall : "Update".toList.all isNameChar = true := by decide
      exact List.all_eq_true.mp hall c hnew
  · -- no keyword has an upper-case letter
    intro hkeyword
    have hnone : ∀ keyword ∈ keywords, 'U' ∉ keyword.toList := by decide
    refine hnone _ hkeyword ?_
    rw [hchars]
    exact List.mem_cons_of_mem first (List.mem_append_right more (by decide))

/-- The lower-case partners of upper-case letters are letters beyond the backquote. -/
theorem lowerOffsets_bounds : ∀ entry ∈ Text.lowerOffsets,
    0x60 < (entry.1.first + entry.2 : Int)
    ∧ (entry.1.last + entry.2 < 0xD800
      ∨ (0xE000 ≤ (entry.1.first + entry.2 : Int) ∧ entry.1.last + entry.2 < 0x110000)) := by
  decide +kernel

/-- A number that is a character is the number of that character. -/
theorem toNat_ofNat {n : Nat} (h : n.isValidChar) : (Char.ofNat n).toNat = n := by
  rw [Char.ofNat, dif_pos h]
  rfl

/-- A character of a name has no backquote and no NUL for its lower-case partner. -/
theorem lowerChar_plain {c : Char} (h : isNameChar c = true) :
    Text.lowerChar c ≠ '\x60' ∧ Text.lowerChar c ≠ nul := by
  unfold Text.lowerChar
  split
  · next progression offset hfound =>
      obtain ⟨hlow, hhigh⟩ := lowerOffsets_bounds _ (List.mem_of_find?_eq_some hfound)
      have hholds := List.find?_some hfound
      simp only [Text.Progression.holds, Bool.and_eq_true, decide_eq_true_eq] at hholds
      simp only at hlow hhigh
      -- a partner by offset lies within the bounds of its progression
      have hvalid : (c.toNat + offset).toNat.isValidChar := by
        unfold Nat.isValidChar
        omega
      have hlarge : 0x60 < (Char.ofNat (c.toNat + offset).toNat).toNat := by
        rw [toNat_ofNat hvalid]
        omega
      constructor
      · intro heq
        rw [heq] at hlarge
        exact absurd hlarge (by decide)
      · intro heq
        rw [heq] at hlarge
        exact absurd hlarge (by decide)
  · constructor
    · rintro rfl
      exact absurd h (by decide +kernel)
    · rintro rfl
      exact absurd (le_toNat_of_isNameChar h) (by decide)

/-- Lowering what is made of name characters brings in no quote and no null. -/
theorem lowerAfter_plain {rest : List Char} (h : ∀ c ∈ rest, isNameChar c = true)
    (before : List Char) : ∀ c ∈ Text.lowerAfter before rest, c ≠ '\x60' ∧ c ≠ nul := by
  induction rest generalizing before with
  | nil => exact List.forall_mem_nil _
  | cons first others ih =>
      obtain ⟨hfirst, hothers⟩ := List.forall_mem_cons.mp h
      rw [Text.lowerAfter]
      intro c hc
      rcases List.mem_append.mp hc with hhere | hlater
      · split at hhere
        · split at hhere
          -- a sigma has two small forms, by its place
          · cases List.mem_singleton.mp hhere
            decide
          · cases List.mem_singleton.mp hhere
            decide
        · split at hhere
          -- a capital with a dot keeps the dot as a character of its own
          · have hboth : ∀ c ∈ ['i', Char.ofNat 0x307], c ≠ '\x60' ∧ c ≠ nul :=
              List.forall_mem_cons.mpr ⟨by decide, List.forall_mem_singleton.mpr (by decide)⟩
            exact hboth c hhere
          · cases List.mem_singleton.mp hhere
            exact lowerChar_plain hfirst
      · exact ih hothers (first :: before) c hlater

/-- A text that can stand in a raw literal. -/
def Plain (text : String) : Prop :=
  '\x60' ∉ text.toList ∧ nul ∉ text.toList

theorem Plain.append {first second : String} (hfirst : Plain first) (hsecond : Plain second) :
    Plain (first ++ second) := by
  unfold Plain
  rw [String.toList_append]
  simp only [List.mem_append, not_or]
  exact ⟨⟨hfirst.1, hsecond.1⟩, hfirst.2, hsecond.2⟩

/-- A name is plain in small letters. -/
theorem plain_lower {name : String} (h : isName name = true) : Plain (Text.lower name) := by
  unfold Plain
  rw [Text.lower, String.toList_ofList]
  have hall := lowerAfter_plain (isNameChar_of_isName h) []
  exact ⟨fun hquote => (hall _ hquote).1 rfl, fun hnul => (hall _ hnul).2 rfl⟩

/-- The types that can be updated, if they are read. -/
theorem exists_updateType {type : TypeExpr} (hproper : type.Proper)
    (h : type.isUpdatable = true) : ∃ update : UpdateType, update.expr = type := by
  cases hproper with
  | named isLocal hname => exact ⟨.named _ isLocal hname, rfl⟩
  | selector hpackage hname => exact ⟨.selector _ _ hpackage hname, rfl⟩
  | bytes => exact ⟨.bytes, rfl⟩
  | slice helement hbyte =>
      cases helement with
      | named isLocal hname =>
          refine ⟨.list _ isLocal hname fun heq => ?_, rfl⟩
          subst heq
          exact hbyte isLocal rfl
      | _ => cases h
  | _ => cases h

/-- The tag of a companion's member between its backquotes. -/
def tagBody (shown : String) : String :=
  "json:\"" ++ shown ++ ",omitempty\" bson:\"" ++ shown ++ ",omitempty\""

/-- An update tag is its body between backticks. -/
theorem updateTag_eq (shown : String) : updateTag shown = "\x60" ++ tagBody shown ++ "\x60" := by
  have hopen : "\x60json:\"" = "\x60" ++ "json:\"" := by decide
  have hclose : ",omitempty\"\x60" = ",omitempty\"" ++ "\x60" := by decide
  rw [updateTag, tagBody, hopen, hclose]
  simp only [String.append_assoc]

/-- The body of an update tag is plain if what it shows is. -/
theorem plain_tagBody {shown : String} (h : Plain shown) : Plain (tagBody shown) := by
  have hopen : Plain "json:\"" := by unfold Plain; decide
  have hmiddle : Plain ",omitempty\" bson:\"" := by unfold Plain; decide
  have hclose : Plain ",omitempty\"" := by unfold Plain; decide
  exact (((hopen.append h).append hmiddle).append h).append hclose

/-- What a field with proper names and a proper type gives is an update. -/
theorem exists_update {update field : Field} (h : update.IsUpdateOf field)
    (hnames : ∀ name ∈ field.names, isName name = true) (hproper : field.type.Proper)
    (hplain : ∀ jsonName, field.updateName? = some jsonName → Plain jsonName) :
    ∃ found : Update, found.field = update := by
  obtain ⟨jsonName, name, hjson, hupdatable, hname, rfl⟩ := h
  obtain ⟨type, htype⟩ := exists_updateType hproper hupdatable
  have hisName := hnames name hname
  have hshown : Plain (if jsonName.isEmpty then Text.lower name else jsonName) := by
    -- without a name in JSON, the own name stands there in lower case
    split
    · exact plain_lower hisName
    · exact hplain jsonName hjson
  obtain ⟨hquote, hnul⟩ := plain_tagBody hshown
  refine ⟨⟨name, type, _, hisName, hquote, hnul⟩, ?_⟩
  rw [updateField, updateTag_eq, Update.field, htype]
  rfl

/-- A list of values that each have an origin has a list of origins. -/
theorem exists_map_eq {α β : Type} {f : α → β} {items : List β}
    (h : ∀ item ∈ items, ∃ origin, f origin = item) : ∃ origins : List α, origins.map f = items := by
  induction items with
  | nil => exact ⟨[], rfl⟩
  | cons item rest ih =>
      obtain ⟨⟨origin, rfl⟩, hrest⟩ := List.forall_mem_cons.mp h
      obtain ⟨origins, rfl⟩ := ih hrest
      exact ⟨origin :: origins, rfl⟩

/-- The companion of a proper declaration is a struct of updates. -/
theorem exists_updateStruct {declaration companion : Declaration}
    (h : declaration.companion? = .ok (some companion)) (hname : isName declaration.name = true)
    (hproper : declaration.type.Proper)
    (hplain : ∀ fields, declaration.type = .struct fields → ∀ field ∈ fields, ∀ jsonName,
      field.updateName? = some jsonName → Plain jsonName) :
    ∃ struct : UpdateStruct, struct.declaration = companion := by
  obtain ⟨fields, updates, htype, hupdates, -, rfl⟩ := companion?_eq_some h
  rw [htype] at hproper
  cases hproper with
  | struct hnames htypes =>
      have hfields : ∀ update ∈ updates, ∃ found : Update, found.field = update := by
        intro update hupdate
        obtain ⟨field, hfield, hof⟩ := mem_collectUpdates hupdates hupdate
        exact exists_update hof (hnames field hfield) (htypes field hfield)
          (hplain fields htype field hfield)
      obtain ⟨found, rfl⟩ := exists_map_eq hfields
      exact ⟨⟨companionName declaration.name, found, isName_companionName hname⟩, rfl⟩

/-- The companions of a file are structs of updates. -/
theorem exists_updateStructs {source path : String} {unit : SourceUnit}
    (h : parse source path = .ok unit) (hplain : ∀ name ∈ unit.updateNames, Plain name) :
    ∃ structs : List UpdateStruct,
      structs.map UpdateStruct.declaration = unit.expand.synthesized := by
  refine exists_map_eq fun companion hcompanion => ?_
  obtain ⟨declaration, hdeclaration, -, hmade⟩ := SourceUnit.mem_synthesized.mp hcompanion
  obtain ⟨hname, hproper⟩ := parse_proper h hdeclaration
  refine exists_updateStruct hmade hname hproper fun fields htype field hfield jsonName hjson => ?_
  refine hplain jsonName (List.mem_flatMap.mpr ⟨declaration, hdeclaration, ?_⟩)
  rw [htype]
  exact List.mem_filterMap.mpr ⟨field, hfield, hjson⟩

/-- What is written for the companions of a file is read back as the companions, in
    order, with the marks of their own names. -/
theorem companions_are_read_back {source path : String} {unit : SourceUnit}
    (h : parse source path = .ok unit)
    (hplain : ∀ name ∈ unit.updateNames, '\x60' ∉ name.toList ∧ nul ∉ name.toList)
    (hsome : unit.expand.synthesized ≠ []) {package : String} (hpackage : isName package = true)
    (file : String) :
    (∀ companion ∈ unit.expand.synthesized, ∃ text, companion.spelling = .ok text)
    ∧ ∃ text read, spellAppendix unit.expand.synthesized = .ok text
      ∧ parse ("package " ++ package ++ "\n" ++ text) file = .ok read
      ∧ read.package = some package
      ∧ read.skipped = []
      ∧ read.declarations
        = unit.expand.synthesized.map
          (Declaration.bind (unit.expand.synthesized.map (·.name)))
      ∧ ∀ declaration ∈ read.declarations,
          declaration.typeParams = [] ∧ declaration.isAlias = false
          ∧ ∀ mention ∈ declaration.type.mentions,
            (mention.2 = true ↔ mention.1 ∈ unit.expand.synthesized.map (·.name)) := by
  obtain ⟨structs, hstructs⟩ := exists_updateStructs h hplain
  rw [← hstructs] at hsome ⊢
  have hne : structs ≠ [] := fun hempty => hsome (congrArg (List.map _) hempty)
  have hnames : (structs.map UpdateStruct.declaration).map (·.name) = structs.map (·.name) := by
    rw [List.map_map]
    rfl
  refine ⟨?_, appendix structs, _, spellAppendix_structs structs,
    parse_appendix hpackage hne file, rfl, rfl, ?_, ?_⟩
  · intro companion hcompanion
    obtain ⟨struct, -, rfl⟩ := List.mem_map.mp hcompanion
    exact ⟨struct.text, struct.spelling_declaration⟩
  · rw [hnames, List.map_map]
    rfl
  · intro declaration hdeclaration
    obtain ⟨struct, -, rfl⟩ := List.mem_map.mp hdeclaration
    refine ⟨rfl, rfl, fun mention hmention => ?_⟩
    rw [Declaration.bind, TypeExpr.mentions_bind] at hmention
    obtain ⟨origin, -, rfl⟩ := List.mem_map.mp hmention
    rw [hnames]
    exact List.contains_iff_mem

/-- A file with a struct whose companion has a member of every form. -/
def notesSource : String :=
  "package p\ntype Note struct \x7b\n\tA, B []Tag \x60update:\"\"\x60\n"
    ++ "\tC []byte \x60json:\"it's\" update:\"\"\x60\n\tD t.T \x60update:\"\"\x60\n\x7d\n"

theorem companions_are_read_back_of_notes :
    ∃ unit, parse notesSource "p.go" = .ok unit
      ∧ unit.updateNames = ["", "it's", ""]
      ∧ unit.expand.synthesized.map (·.name) = ["NoteUpdate"]
      ∧ isName "q" = true
      ∧ ∃ text read, spellAppendix unit.expand.synthesized = .ok text
        ∧ parse ("package " ++ "q" ++ "\n" ++ text) "q.go" = .ok read
        ∧ read.package = some "q"
        ∧ read.skipped = []
        ∧ read.declarations
          = unit.expand.synthesized.map (Declaration.bind ["NoteUpdate"]) := by
  have hread : (parse notesSource "p.go").toOption.map
      (fun unit => (unit.updateNames, unit.expand.synthesized.map (·.name)))
      = some (["", "it's", ""], ["NoteUpdate"]) := by
    decide +kernel
  obtain ⟨unit, hunit, hfacts⟩ := Option.map_eq_some_iff.mp hread
  obtain ⟨hjson, hnames⟩ := Prod.mk.inj hfacts
  have hplain : ∀ name ∈ unit.updateNames, '\x60' ∉ name.toList ∧ nul ∉ name.toList := by
    rw [hjson]
    decide
  have hsome : unit.expand.synthesized ≠ [] := by
    intro hempty
    rw [hempty] at hnames
    cases hnames
  have hname : isName "q" = true := by decide +kernel
  obtain ⟨-, text, read, htext, hparse, hpackage, hskipped, hdeclarations, -⟩ :=
    companions_are_read_back (toOption_eq_some.mp hunit) hplain hsome hname "q.go"
  rw [hnames] at hdeclarations
  exact ⟨unit, toOption_eq_some.mp hunit, hjson, hnames, hname, text, read, htext, hparse,
    hpackage, hskipped, hdeclarations⟩

end StructScript
