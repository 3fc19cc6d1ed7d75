import StructScript.Proofs.LineLayout

/-! # Property names that denote members

    A member's name comes out of a tag and may hold any character.  It is written plain or
    between single quotes, where quotes and backslashes are escaped and nothing else is.

    * `Script.Denotes` says which texts stand for a name: the name itself if it is an
      identifier, or a literal on one line that `Script.readLiteral` reads back;
    * `Script.readQuoted_quoted` reads a quoted name back unless it has a line end in it, so
      that `Script.denotes_propertyName_iff` needs nothing else;
    * `Script.isLines_iff` counts line ends, and `TypeExpr.IsFlat.oneLine_render_iff` looks
      for them in the text of a type. -/

namespace StructScript

namespace Script

/-! ## What a written name stands for -/

/-- The characters that may stand behind a backslash, with what they stand for. -/
def escapes : List (Char × Char) :=
  [('\\', '\\'), ('\'', '\''), ('"', '"'), ('n', '\n'), ('r', '\r'), ('t', '\t'),
    ('b', Char.ofNat 0x8), ('v', Char.ofNat 0xB), ('f', Char.ofNat 0xC)]

/-- The characters that a text stands for up to the quote at its end.  There is no other
    quote without a backslash before it, no line end, and no backslash without a meaning. -/
def readQuoted : List Char → Option (List Char)
  | [] => none
  | c :: rest =>
      if c = '\'' then if rest.isEmpty then some [] else none
      else if endsLine c then none
      else if c = '\\' then
        match rest with
        | [] => none
        | next :: others =>
            (escapes.lookup next).bind fun meant => (readQuoted others).map (meant :: ·)
      else (readQuoted rest).map (c :: ·)

/-- The characters that a literal between single quotes stands for. -/
def readLiteral : List Char → Option (List Char)
  | [] => none
  | c :: rest => if c = '\'' then readQuoted rest else none

/-- Whether a name is a word character that is no digit, with word characters behind it. -/
def isIdentifier : List Char → Bool
  | [] => false
  | first :: rest => Text.isWordChar first && !Text.isDigit first && rest.all Text.isWordChar

/-- Whether a text stands for a name in the place of a property name. -/
def Denotes (text name : String) : Prop :=
  text = name ∧ isIdentifier name.toList = true ∨ readLiteral text.toList = some name.toList

instance (text name : String) : Decidable (Denotes text name) :=
  inferInstanceAs (Decidable (_ ∨ _))

/-- No character of a word ends a line. -/
theorem endsLine_eq_false_of_isWordChar {c : Char} (h : Text.isWordChar c = true) :
    endsLine c = false := by
  unfold endsLine
  rw [Bool.or_eq_false_iff, decide_eq_false_iff_not, decide_eq_false_iff_not]
  constructor
  · rintro rfl
    cases h.symm.trans (isWordChar_of_separator (by decide))
  · rintro rfl
    cases h.symm.trans (isWordChar_of_separator (by decide))

theorem oneLine_of_isIdentifier {name : String} (h : isIdentifier name.toList = true) :
    OneLine name := by
  unfold OneLine Unbroken
  cases hname : name.toList with
  | nil =>
      intro c hc
      cases hc
  | cons first rest =>
      rw [hname, isIdentifier, Bool.and_eq_true, Bool.and_eq_true, List.all_eq_true] at h
      exact List.forall_mem_cons.mpr ⟨endsLine_eq_false_of_isWordChar h.1.1,
        fun c hc => endsLine_eq_false_of_isWordChar (h.2 c hc)⟩

/-- A plain name is an identifier, unless a line ends behind it. -/
theorem isIdentifier_eq_isPlainName {name : String} (h : OneLine name) :
    isIdentifier name.toList = isPlainName name.toList := by
  cases hname : name.toList with
  | nil => rfl
  | cons first rest =>
      have hlast : ¬ rest.getLast? = some '\n' := by
        intro hlast
        have hmem : '\n' ∈ name.toList :=
          hname ▸ List.mem_cons_of_mem first (List.mem_of_getLast? hlast)
        exact absurd (h '\n' hmem) (by decide)
      rw [isIdentifier, isPlainName, if_neg hlast]

/-- A plain character is read as itself, unless it ends the line. -/
theorem readQuoted_plain {c : Char} (hquote : ¬ c = '\'') (hslash : ¬ c = '\\')
    (rest : List Char) :
    readQuoted (c :: rest) = if endsLine c then none else (readQuoted rest).map (c :: ·) := by
  rw [readQuoted.eq_def]
  dsimp only
  rw [if_neg hquote, if_neg hslash]

/-- A quoted name is read back, unless it ends the line. -/
theorem readQuoted_quoted (name : List Char) :
    readQuoted (name.flatMap quotedNameChar ++ ['\''])
      = if name.any endsLine then none else some name := by
  induction name with
  | nil => rfl
  | cons c rest ih =>
      rw [List.flatMap_cons, List.append_assoc, List.any_cons]
      have hrest : ∀ meant : Char, (readQuoted (rest.flatMap quotedNameChar ++ ['\''])).map
          (meant :: ·) = if rest.any endsLine then none else some (meant :: rest) := by
        intro meant
        rw [ih]
        cases rest.any endsLine with
        | true => rfl
        | false => rfl
      by_cases hslash : c = '\\'
      · subst hslash
        exact hrest '\\'
      by_cases hquote : c = '\''
      · subst hquote
        exact hrest '\''
      · have hplain : quotedNameChar c = [c] := by
          simp [quotedNameChar, hslash, hquote]
        rw [hplain, List.singleton_append, readQuoted_plain hquote hslash, hrest c]
        cases endsLine c with
        | true => rfl
        | false => rfl

theorem not_any_endsLine_iff {name : String} :
    ¬ name.toList.any endsLine = true ↔ OneLine name := by
  rw [Bool.not_eq_true, List.any_eq_false]
  simp only [Bool.not_eq_true]
  exact Iff.rfl

theorem readLiteral_of_isPlainName {name : List Char} (h : isPlainName name = true) :
    readLiteral name = none := by
  cases name with
  | nil => rfl
  | cons first rest =>
      rw [isPlainName, Bool.and_eq_true, Bool.and_eq_true] at h
      have hquote : ¬ first = '\'' := by
        rintro rfl
        exact absurd h.1.1 (by decide)
      rw [readLiteral, if_neg hquote]

/-- A property name stands for its member unless a line ends in it. -/
theorem denotes_propertyName_iff (name : String) :
    Denotes (propertyName name) name ↔ OneLine name := by
  unfold Denotes propertyName
  by_cases hplain : isPlainName name.toList = true
  · rw [if_pos hplain, readLiteral_of_isPlainName hplain]
    constructor
    · rintro (⟨-, hidentifier⟩ | hliteral)
      · exact oneLine_of_isIdentifier hidentifier
      · cases hliteral
    · intro hline
      exact Or.inl ⟨rfl, (isIdentifier_eq_isPlainName hline).trans hplain⟩
  · rw [if_neg hplain, String.toList_ofList, List.cons_append, readLiteral, if_pos rfl,
      readQuoted_quoted]
    constructor
    · rintro (⟨-, hidentifier⟩ | hliteral)
      · exact oneLine_of_isIdentifier hidentifier
      · by_cases hends : name.toList.any endsLine = true
        · rw [if_pos hends] at hliteral
          cases hliteral
        · exact not_any_endsLine_iff.mp hends
    · intro hline
      exact Or.inr (if_neg (not_any_endsLine_iff.mpr hline))

/-! ## Lines and their ends -/

/-- Whether a text is made of so many lines, each with its end. -/
def IsLines (text : String) (count : Nat) : Prop :=
  ∃ lines : List String, lines.length = count ∧ (∀ line ∈ lines, OneLine line)
    ∧ text = String.join (lines.map (· ++ "\n"))

/-- The number of characters in a text that end a line. -/
def lineEnds (text : String) : Nat :=
  text.toList.countP endsLine

/-- The line ends of a text are those of its parts. -/
theorem lineEnds_append (text other : String) :
    lineEnds (text ++ other) = lineEnds text + lineEnds other := by
  unfold lineEnds
  rw [String.toList_append, List.countP_append]

/-- A text without line ends is on one line. -/
theorem lineEnds_eq_zero_iff {text : String} : lineEnds text = 0 ↔ OneLine text := by
  unfold lineEnds OneLine Unbroken
  rw [List.countP_eq_zero]
  simp only [Bool.not_eq_true]

/-- Lines have at least one end each, and no more exactly if each stays on its line. -/
theorem lineEnds_join (lines : List String) :
    lines.length ≤ lineEnds (String.join (lines.map (· ++ "\n")))
      ∧ (lineEnds (String.join (lines.map (· ++ "\n"))) = lines.length
        ↔ ∀ line ∈ lines, OneLine line) := by
  induction lines with
  | nil => exact ⟨Nat.le_refl 0, iff_of_true rfl (List.forall_mem_nil _)⟩
  | cons line rest ih =>
      obtain ⟨hleast, hexact⟩ := ih
      have hend : lineEnds "\n" = 1 := by decide
      rw [List.map_cons, String.join_cons, lineEnds_append, lineEnds_append, hend, List.length_cons,
        List.forall_mem_cons, ← hexact, ← lineEnds_eq_zero_iff]
      omega

/-- So many lines have so many line ends. -/
theorem lineEnds_of_isLines {text : String} {count : Nat} (h : IsLines text count) :
    lineEnds text = count := by
  obtain ⟨lines, rfl, hlines, rfl⟩ := h
  exact (lineEnds_join lines).2.mpr hlines

/-- Texts are lines if each is on one line. -/
theorem isLines_iff (lines : List String) :
    IsLines (String.join (lines.map (· ++ "\n"))) lines.length ↔ ∀ line ∈ lines, OneLine line :=
  ⟨fun h => (lineEnds_join lines).2.mp (lineEnds_of_isLines h),
    fun h => ⟨lines, rfl, h, rfl⟩⟩

end Script

open Script (OneLine IsLines Unbroken unbroken_append)

/-! ## Line ends in the text of a type -/

/-- Whether no inline struct is written out in a type. -/
def TypeExpr.IsFlat (type : TypeExpr) : Prop :=
  ∀ part : TypeExpr, part.ShownIn type → ∀ fields : List Field, part ≠ .struct fields

/-- Only inline structs have lines below the first. -/
theorem TypeExpr.IsFlat.more_eq_nil {type : TypeExpr} (h : type.IsFlat) {options : Options}
    {e : Expressed} (he : type.express options = .ok e) (level : Nat) (tight : Bool) :
    (e.type.block level tight).more = [] := by
  have hlays := type.lays_express options e he level tight
  generalize (e.type.block level tight).more = lines at hlays
  cases hspots : type.spots with
  | nil =>
      rw [hspots] at hlays
      cases hlays
      rfl
  | cons spot rest =>
      have hshown : spot.ShownIn type := shownIn_of_mem_spots (hspots ▸ List.mem_cons_self)
      rw [hspots] at hlays
      cases hlays
      exact absurd rfl (h _ hshown _)

/-- Without inline structs, a type stays on its line if the texts do that are written in it. -/
theorem TypeExpr.IsFlat.oneLine_render_iff {type : TypeExpr} (h : type.IsFlat) {options : Options}
    {e : Expressed} (he : type.express options = .ok e) (indent : String) (depth : Int)
    (tight : Bool) :
    OneLine (e.type.render indent depth tight)
      ↔ type.ShowsUnbroken Script.endsLine options := by
  have hmore := h.more_eq_nil he 1 tight
  have hrender := ScriptType.render_eq_write indent depth e.type 0 tight
  rw [Int.natCast_zero, Int.add_zero, Nat.zero_add, Script.Block.write, hmore, Script.writeMore,
    String.append_empty] at hrender
  rw [hrender, ← type.unbroken_express_iff (fun _ => id) e he 1 tight, Script.Block.unbroken_iff,
    hmore]
  exact (and_iff_left (List.forall_mem_nil _)).symm

/-! ## One line for each member -/

/-- The line of a property, without its end. -/
def lineOf (indent : String) (depth : Int) (property : Property) : String :=
  indentation indent (depth + 1) ++ openingOf property.name property.optional
    ++ property.type.render indent depth false ++ endingOf property.widened

theorem renderProperties_eq_join (indent : String) (depth : Int) (properties : List Property) :
    ScriptType.renderProperties indent depth properties
      = String.join ((properties.map (lineOf indent depth)).map (· ++ "\n")) := by
  induction properties with
  | nil => rfl
  | cons property rest ih =>
      obtain ⟨name, optional, type, widened⟩ := property
      have hend : ";\n" = ";" ++ "\n" := rfl
      rw [ScriptType.renderProperties, ih, List.map_cons, List.map_cons, String.join_cons, lineOf,
        ScriptType.propertyLine, openingOf, endingOf, hend]
      simp only [String.append_assoc]

/-- The line of a property is one line if its indentation, its name and its type are on one. -/
theorem oneLine_lineOf_iff (indent : String) (depth : Int) (property : Property) :
    OneLine (lineOf indent depth property)
      ↔ OneLine (indentation indent (depth + 1)) ∧ OneLine property.name
        ∧ OneLine (property.type.render indent depth false) := by
  unfold OneLine
  rw [lineOf, unbroken_append, unbroken_append, unbroken_append,
    unbroken_openingOf_iff (fun _ => id), and_iff_left (unbroken_endingOf (fun _ => id) _),
    and_assoc]

/-- Whether the line of a member is one: the indentation, the name and the texts in its type
    stay on their line. -/
def Member.FitsLine (options : Options) (depth : Int) (member : Member) : Prop :=
  OneLine (indentation options.indent (depth + 1)) ∧ OneLine member.name
    ∧ (member.asString = false → member.type.ShowsUnbroken Script.endsLine options)

/-- Members are written on one line each if each fits its line. -/
theorem oneLine_expressEach_iff {options : Options} (depth : Int) {members : List Member}
    (hflat : ∀ member ∈ members, member.asString = false → member.type.IsFlat)
    {body : ExpressedBody} (h : expressEach options members = .ok body) :
    body.properties.length = members.length
      ∧ ((∀ property ∈ body.properties, OneLine (lineOf options.indent depth property))
        ↔ ∀ member ∈ members, member.FitsLine options depth) := by
  refine expressEach_induction (P := fun members properties =>
    properties.length = members.length
      ∧ ((∀ property ∈ properties, OneLine (lineOf options.indent depth property))
        ↔ ∀ member ∈ members, member.FitsLine options depth))
    ⟨rfl, iff_of_true (List.forall_mem_nil _) (List.forall_mem_nil _)⟩ ?_ h
  intro member hmem type htype rest properties hrest
  have hshown : OneLine (type.render options.indent depth false) ↔ (member.asString = false →
      member.type.ShowsUnbroken Script.endsLine options) := by
    rcases htype with ⟨hstring, rfl⟩ | ⟨hstring, e, he, rfl⟩
    · rw [ScriptType.render]
      exact iff_of_true (by decide) fun hno => absurd (hno.symm.trans hstring) (by decide)
    · rw [(hflat member hmem hstring).oneLine_render_iff he]
      exact ⟨fun h _ => h, fun h => h hstring⟩
  have hline : OneLine (lineOf options.indent depth (member.property options type))
      ↔ member.FitsLine options depth := by
    rw [oneLine_lineOf_iff, Member.FitsLine, ← hshown]
    exact Iff.rfl
  rw [List.length_cons, List.length_cons, hrest.1, List.forall_mem_cons, List.forall_mem_cons,
    hline, hrest.2]
  exact ⟨rfl, Iff.rfl⟩

/-- A property name stands for the name of its member exactly if no line ends in the name.
    Where no member has an inline struct in its type, the fields of a struct are written on
    one line for each member exactly if no line ends in the indentation, in the names of the
    members or in the texts of their types. -/
theorem property_names_denote_unless_broken (name : String) (options : Options) (depth : Int)
    (fields : List Field) :
    (Script.Denotes (Script.propertyName name) name ↔ OneLine name)
    ∧ ∀ (members : List Member) (text : String) (imports : ImportSet),
      collectMembers fields = .ok members →
      writeFields options depth fields = .ok (text, imports) →
      (∀ member ∈ members, member.asString = false → member.type.IsFlat) →
      (IsLines text members.length ↔ ∀ member ∈ members, member.FitsLine options depth) := by
  refine ⟨Script.denotes_propertyName_iff name, ?_⟩
  intro members text imports hmembers hwritten hflat
  obtain ⟨body, hbody, hfound⟩ := map_eq_ok.mp hwritten
  cases hfound
  rw [expressStruct_eq, hmembers] at hbody
  obtain ⟨hlength, hlines⟩ := oneLine_expressEach_iff depth hflat hbody
  have hcount := Script.isLines_iff (body.properties.map (lineOf options.indent depth))
  rw [List.length_map, hlength, List.forall_mem_map] at hcount
  rw [renderProperties_eq_join]
  exact hcount.trans hlines

/-- Fields with a name that needs quotes, and with one that is written on no line. -/
def guest : List Field :=
  [⟨["Name"], .named "string" false, some "\x60json:\"it's\"\x60"⟩,
    ⟨["age", "Seen"], .slice (.selector "time" "Time"), none⟩]

/-- The members of these fields. -/
def guestMembers : List Member :=
  [⟨"Name", "it's", false, .named "string" false, false, false⟩,
    ⟨"Seen", "Seen", false, .slice (.selector "time" "Time"), false, false⟩]

theorem property_names_denote_unless_broken_of_guest :
    ∃ text imports, collectMembers guest = .ok guestMembers
      ∧ writeFields {} 0 guest = .ok (text, imports)
      ∧ text = "    'it\\'s': string;\n    Seen: string[];\n"
      ∧ (∀ member ∈ guestMembers, Script.Denotes (Script.propertyName member.name) member.name)
      ∧ IsLines text 2 := by
  have hjson : jsonEntry (some "\x60json:\"it's\"\x60") = .ok (some ⟨"json", "it's", []⟩) :=
    toOption_eq_some.mp (by decide +kernel)
  have hname : Field.members ⟨["Name"], .named "string" false, some "\x60json:\"it's\"\x60"⟩
      = .ok [⟨"Name", "it's", false, .named "string" false, false, false⟩] := by
    rw [Field.members_of_exported (by decide), hjson]
    rfl
  have hmembers : collectMembers guest = .ok guestMembers := by
    rw [guest, collectMembers, hname]
    rfl
  have htext : (writeFields {} 0 guest).toOption.map (·.1)
      = some "    'it\\'s': string;\n    Seen: string[];\n" := by
    decide +kernel
  have hflat : ∀ member ∈ guestMembers, member.asString = false → member.type.IsFlat := by
    refine List.forall_mem_cons.mpr ⟨fun _ => ?_, List.forall_mem_singleton.mpr fun _ => ?_⟩
    · exact (TypeExpr.forall_shownIn_leaf rfl).mpr fun fields => TypeExpr.noConfusion
    · exact TypeExpr.forall_shownIn_slice.mpr ⟨fun fields => TypeExpr.noConfusion,
        (TypeExpr.forall_shownIn_leaf rfl).mpr fun fields => TypeExpr.noConfusion⟩
  have hfits : ∀ member ∈ guestMembers, member.FitsLine {} 0 := by
    have hstring : OneLine "string" := by decide
    refine List.forall_mem_cons.mpr ⟨⟨by decide, by decide, fun _ => ?_⟩,
      List.forall_mem_singleton.mpr ⟨by decide, by decide, fun _ => ?_⟩⟩
    · exact (TypeExpr.forall_shownIn_leaf rfl).mpr hstring
    · exact TypeExpr.forall_shownIn_slice.mpr
        ⟨trivial, (TypeExpr.forall_shownIn_leaf rfl).mpr hstring⟩
  obtain ⟨⟨text, imports⟩, hwritten, htext⟩ := Option.map_eq_some_iff.mp htext
  cases htext
  have hlines := (property_names_denote_unless_broken "it's" {} 0 guest).2 guestMembers _ imports
    hmembers (toOption_eq_some.mp hwritten) hflat
  exact ⟨_, imports, hmembers, toOption_eq_some.mp hwritten, rfl,
    fun member hmember => (property_names_denote_unless_broken member.name {} 0 guest).1.mpr
      (hfits member hmember).2.1, hlines.mpr hfits⟩

/-- Two names with a line end: one is taken for an identifier, and in the other the line end
    stands between the quotes as it is. -/
theorem broken_names_denote_nothing :
    Script.propertyName "a\n" = "a\n" ∧ ¬ Script.Denotes "a\n" "a\n"
      ∧ Script.propertyName "a\nb" = "'a\nb'" ∧ ¬ Script.Denotes "'a\nb'" "a\nb"
      ∧ ∃ text imports,
        writeFields {} 0 [⟨["A"], .named "int" false, some "\x60json:\"a\\nb\"\x60"⟩]
            = .ok (text, imports)
          ∧ text = "    'a\nb': number;\n" ∧ ¬ IsLines text 1 := by
  refine ⟨by decide, by decide, by decide, by decide, ?_⟩
  have htext : ((writeFields {} 0
      [⟨["A"], .named "int" false, some "\x60json:\"a\\nb\"\x60"⟩]).toOption.map (·.1))
        = some "    'a\nb': number;\n" := by
    decide +kernel
  obtain ⟨⟨text, imports⟩, hwritten, htext⟩ := Option.map_eq_some_iff.mp htext
  cases htext
  exact ⟨_, imports, toOption_eq_some.mp hwritten, rfl,
    fun hlines => absurd (Script.lineEnds_of_isLines hlines) (by decide)⟩

end StructScript
