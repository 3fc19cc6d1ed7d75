import StructScript.Proofs.CompanionNames

/-! # The grammar of struct tags

    What a tag may look like and what it means, as relations that say nothing of how a tag
    is read:

    * `Text.Spells` relates digits to the number that they spell, and `Text.Escape` an
      escape to the character that it stands for;
    * `StructTag.Body` is what may stand between the marks of a value, and
      `StructTag.Parts` what stands between the commas of what it means;
    * `StructTag.Reads` puts pairs and spaces together.

    The reader of each is shown to compute its relation, in this order: digits in
    `Text.readDigits_eq_some`, escapes in `Text.readEscape_eq_some`, values in
    `StructTag.denotes_iff_body` and tags in `StructTag.readEntries_eq_ok`. -/

namespace StructScript

namespace Text

/-! ## Digits -/

/-- The octal digits and their values. -/
def octalDigits : List (Char × Nat) :=
  "01234567".toList.zipIdx

/-- The hexadecimal digits, in either case, and their values. -/
def hexDigits : List (Char × Nat) :=
  "0123456789abcdef".toList.zipIdx ++ "ABCDEF".toList.zipIdx 10

/-- Digits of a table, and the number that they spell in a radix. -/
def Spells (table : List (Char × Nat)) (radix : Nat) (digits : List Char) (number : Nat) : Prop :=
  ∃ pairs : List (Char × Nat), pairs ⊆ table ∧ digits = pairs.map (·.1)
    ∧ number = pairs.foldl (fun above pair => above * radix + pair.2) 0

/-- The characters of a run, counted from its first one. -/
theorem mem_of_between {table : List (Char × Nat)} {c : Char} (first size shift : Nat)
    (hrun : (List.range size).all (fun k => table.contains (Char.ofNat (first + k), k + shift))
      = true)
    (hfirst : first ≤ c.toNat) (hlast : c.toNat < first + size) :
    (c, c.toNat - first + shift) ∈ table := by
  have hmem : c.toNat - first ∈ List.range size := List.mem_range.mpr (by omega)
  have hfound := List.contains_iff_mem.mp (List.all_eq_true.mp hrun _ hmem)
  have hchar : Char.ofNat (first + (c.toNat - first)) = c := by
    rw [Nat.add_sub_cancel' hfirst]
    exact Char.ofNat_toNat c
  rwa [hchar] at hfound

/-- The octal digits are those of the table. -/
theorem octalDigit?_eq_some {c : Char} {d : Nat} :
    octalDigit? c = some d ↔ (c, d) ∈ octalDigits := by
  constructor
  · intro h
    unfold octalDigit? at h
    split at h
    · next hrange =>
        simp only [Bool.and_eq_true, decide_eq_true_eq] at hrange
        cases h
        exact mem_of_between 48 8 0 (by decide) hrange.1
          (Nat.lt_succ_of_le hrange.2)
    · cases h
  · intro h
    have hall : octalDigits.all (fun pair => octalDigit? pair.1 == some pair.2) = true := by
      decide
    exact eq_of_beq (List.all_eq_true.mp hall _ h)

theorem hexDigit?_eq_some {c : Char} {d : Nat} :
    hexDigit? c = some d ↔ (c, d) ∈ hexDigits := by
  constructor
  · intro h
    unfold hexDigit? at h
    simp only [Bool.and_eq_true, decide_eq_true_eq] at h
    split at h
    · next hrange =>
        cases h
        exact mem_of_between 48 10 0 (by decide) hrange.1
          (Nat.lt_succ_of_le hrange.2)
    · split at h
      · next hrange =>
          cases h
          exact mem_of_between 97 6 10 (by decide) hrange.1
            (Nat.lt_succ_of_le hrange.2)
      · split at h
        · next hrange =>
            cases h
            exact mem_of_between 65 6 10 (by decide) hrange.1
              (Nat.lt_succ_of_le hrange.2)
        · cases h
  · intro h
    have hall : hexDigits.all (fun pair => hexDigit? pair.1 == some pair.2) = true := by
      decide
    exact eq_of_beq (List.all_eq_true.mp hall _ h)

/-- So many digits are read as the number that they continue. -/
theorem readDigits_eq_some_from {table : List (Char × Nat)} {digit? : Char → Option Nat}
    (htable : ∀ c d, digit? c = some d ↔ (c, d) ∈ table) {radix count value number : Nat}
    {text rest : List Char} :
    readDigits radix digit? value count text = some (number, rest)
      ↔ ∃ pairs : List (Char × Nat), pairs ⊆ table ∧ pairs.length = count
        ∧ text = pairs.map (·.1) ++ rest
        ∧ number = pairs.foldl (fun above pair => above * radix + pair.2) value := by
  induction count generalizing value text with
  | zero =>
      constructor
      · intro h
        cases h
        exact ⟨[], by simp, rfl, rfl, rfl⟩
      · rintro ⟨pairs, -, hlength, rfl, rfl⟩
        cases List.length_eq_zero_iff.mp hlength
        rfl
  | succ count ih =>
      constructor
      · intro h
        cases text with
        | nil => cases h
        | cons c text =>
            rw [readDigits] at h
            split at h
            · next d hd =>
                obtain ⟨pairs, hpairs, rfl, rfl, rfl⟩ := ih.mp h
                refine ⟨(c, d) :: pairs, ?_, rfl, rfl, rfl⟩
                exact List.cons_subset.mpr ⟨(htable c d).mp hd, hpairs⟩
            · cases h
      · rintro ⟨pairs, hpairs, hlength, rfl, rfl⟩
        cases pairs with
        | nil => cases hlength
        | cons pair pairs =>
            obtain ⟨hpair, hothers⟩ := List.cons_subset.mp hpairs
            rw [List.map_cons, List.cons_append, readDigits, (htable pair.1 pair.2).mpr hpair]
            exact ih.mpr ⟨pairs, hothers, Nat.succ.inj hlength, rfl, rfl⟩

/-- The number that is read is the one that the digits spell. -/
theorem readDigits_eq_some {table : List (Char × Nat)} {digit? : Char → Option Nat}
    (htable : ∀ c d, digit? c = some d ↔ (c, d) ∈ table) {radix count number : Nat}
    {text rest : List Char} :
    readDigits radix digit? 0 count text = some (number, rest)
      ↔ ∃ digits, text = digits ++ rest ∧ digits.length = count
        ∧ Spells table radix digits number := by
  rw [readDigits_eq_some_from htable]
  constructor
  · rintro ⟨pairs, hpairs, rfl, rfl, rfl⟩
    exact ⟨pairs.map (·.1), rfl, List.length_map _, pairs, hpairs, rfl, rfl⟩
  · rintro ⟨_, rfl, hlength, pairs, hpairs, rfl, rfl⟩
    exact ⟨pairs, hpairs, (List.length_map _).symm.trans hlength, rfl, rfl⟩

/-! ## Escapes -/

/-- The characters that stand for another one, or for themselves, behind a backslash. -/
def escapeLetters : List (Char × Nat) :=
  [('a', 0x07), ('b', 0x08), ('f', 0x0C), ('n', 0x0A), ('r', 0x0D), ('t', 0x09), ('v', 0x0B),
   ('\\', 0x5C), ('"', 0x22)]

/-- The letters that start an escape in hexadecimal digits, and the number of digits. -/
def hexLetters : List (Char × Nat) :=
  [('x', 2), ('u', 4), ('U', 8)]

/-- The numbers of characters: up to the last code point, and no surrogate. -/
def IsCodePoint (code : Nat) : Prop :=
  code ≤ 0x10FFFF ∧ ¬ (0xD800 ≤ code ∧ code ≤ 0xDFFF)

/-- What may stand behind a backslash, and the code point of the character meant. -/
inductive Escape : List Char → Nat → Prop
  | letter {c : Char} {code : Nat} : (c, code) ∈ escapeLetters → Escape [c] code
  | hex {c : Char} {digits : List Char} {code : Nat} :
      (c, digits.length) ∈ hexLetters → Spells hexDigits 16 digits code → IsCodePoint code →
      Escape (c :: digits) code
  | octal {digits : List Char} {code : Nat} :
      digits.length = 3 → Spells octalDigits 8 digits code → code ≤ 255 → Escape digits code

/-- The valid characters are the code points. -/
theorem isValidChar_iff {code : Nat} : code.isValidChar ↔ IsCodePoint code := by
  unfold Nat.isValidChar IsCodePoint
  omega

/-- A hexadecimal escape gives the character with the code that its digits spell. -/
theorem readHexChar_eq_some {count : Nat} {text rest : List Char} {c : Char} :
    readHexChar count text = some (c, rest)
      ↔ ∃ digits code, text = digits ++ rest ∧ digits.length = count
        ∧ Spells hexDigits 16 digits code ∧ IsCodePoint code ∧ c = Char.ofNat code := by
  have hdigits := @readDigits_eq_some hexDigits hexDigit? (fun _ _ => hexDigit?_eq_some) 16 count
  unfold readHexChar
  constructor
  · intro h
    split at h
    · next code tail hcode =>
        obtain ⟨found, hfound, heq⟩ := Option.map_eq_some_iff.mp h
        cases heq
        unfold charOfCode? at hfound
        split at hfound
        · next hvalid =>
            cases hfound
            obtain ⟨digits, rfl, hlength, hspells⟩ := hdigits.mp hcode
            exact ⟨digits, code, rfl, hlength, hspells, isValidChar_iff.mp hvalid, rfl⟩
        · cases hfound
    · cases h
  · rintro ⟨digits, code, rfl, hlength, hspells, hcode, rfl⟩
    rw [hdigits.mpr ⟨digits, rfl, hlength, hspells⟩]
    simp [charOfCode?, isValidChar_iff.mpr hcode]

/-- So does an octal escape, of three digits and at most 255. -/
theorem readOctalChar_eq_some {text rest : List Char} {c : Char} :
    readOctalChar text = some (c, rest)
      ↔ ∃ digits code, text = digits ++ rest ∧ digits.length = 3
        ∧ Spells octalDigits 8 digits code ∧ code ≤ 255 ∧ c = Char.ofNat code := by
  have hdigits := @readDigits_eq_some octalDigits octalDigit? (fun _ _ => octalDigit?_eq_some) 8 3
  unfold readOctalChar
  constructor
  · intro h
    split at h
    · next code tail hcode =>
        split at h
        · next hsmall =>
            cases h
            obtain ⟨digits, rfl, hlength, hspells⟩ := hdigits.mp hcode
            exact ⟨digits, code, rfl, hlength, hspells, hsmall, rfl⟩
        · cases h
    · cases h
  · rintro ⟨digits, code, rfl, hlength, hspells, hsmall, rfl⟩
    rw [hdigits.mpr ⟨digits, rfl, hlength, hspells⟩]
    exact if_pos hsmall

/-- What is read behind a letter is an escape of the grammar. -/
theorem escape_of_readHexChar {letter : Char} {count : Nat} {text rest : List Char} {c : Char}
    (hletter : (letter, count) ∈ hexLetters) (h : readHexChar count text = some (c, rest)) :
    ∃ written code, letter :: text = written ++ rest ∧ Escape written code
      ∧ c = Char.ofNat code := by
  obtain ⟨digits, code, rfl, rfl, hspells, hcode, rfl⟩ := readHexChar_eq_some.mp h
  exact ⟨letter :: digits, code, rfl, .hex hletter hspells hcode, rfl⟩

/-- What is read behind a backslash is an escape, and every escape is read. -/
theorem readEscape_eq_some {text rest : List Char} {c : Char} :
    readEscape text = some (c, rest)
      ↔ ∃ written code, text = written ++ rest ∧ Escape written code ∧ c = Char.ofNat code := by
  constructor
  · intro h
    unfold readEscape at h
    split at h
    case h_10 => exact escape_of_readHexChar (by decide) h
    case h_11 => exact escape_of_readHexChar (by decide) h
    case h_12 => exact escape_of_readHexChar (by decide) h
    case h_13 =>
      obtain ⟨digits, code, rfl, hlength, hspells, hsmall, rfl⟩ := readOctalChar_eq_some.mp h
      exact ⟨digits, code, rfl, .octal hlength hspells hsmall, rfl⟩
    all_goals
      cases h
      exact ⟨[_], Char.toNat _, rfl, .letter (by decide), (Char.ofNat_toNat _).symm⟩
  · rintro ⟨written, code, rfl, hescape, rfl⟩
    cases hescape with
    | letter hletter =>
        simp only [escapeLetters, List.mem_cons, List.not_mem_nil, or_false,
          Prod.mk.injEq] at hletter
        rcases hletter with ⟨rfl, rfl⟩ | ⟨rfl, rfl⟩ | ⟨rfl, rfl⟩ | ⟨rfl, rfl⟩ | ⟨rfl, rfl⟩
          | ⟨rfl, rfl⟩ | ⟨rfl, rfl⟩ | ⟨rfl, rfl⟩ | ⟨rfl, rfl⟩ <;> rfl
    | @hex letter digits code hletter hspells hcode =>
        have hread := readHexChar_eq_some.mpr
          ⟨digits, code, (rfl : digits ++ rest = _), rfl, hspells, hcode, rfl⟩
        simp only [hexLetters, List.mem_cons, List.not_mem_nil, or_false,
          Prod.mk.injEq] at hletter
        rcases hletter with ⟨rfl, hlength⟩ | ⟨rfl, hlength⟩ | ⟨rfl, hlength⟩ <;>
          rw [hlength] at hread <;> exact hread
    | octal hlength hspells hsmall =>
        have hread := readOctalChar_eq_some.mpr
          ⟨written, code, (rfl : written ++ rest = _), hlength, hspells, hsmall, rfl⟩
        obtain ⟨pairs, hpairs, rfl, -⟩ := hspells
        cases pairs with
        | nil => cases hlength
        | cons pair pairs =>
            -- an octal digit starts no other escape
            have hfirst := octalDigit?_eq_some.mpr (hpairs List.mem_cons_self)
            rw [← hread]
            exact readEscape_octal (by rw [hfirst]; rfl) _

end Text

namespace StructTag

/-! ## Values -/

/-- What may stand between the marks of a value, item by item, and the text meant. -/
inductive Body : List Char → List Char → Prop
  | nil : Body [] []
  | raw {c : Char} {body value : List Char} :
      c ∉ ['"', '\\', '\n', '\r', Char.ofNat 0] → Body body value → Body (c :: body) (c :: value)
  | escape {written body value : List Char} {code : Nat} :
      Text.Escape written code → Body body value →
      Body ('\\' :: (written ++ body)) (Char.ofNat code :: value)

theorem isBare_iff_not_mem {c : Char} :
    isBare c = true ↔ c ∉ ['"', '\\', '\n', '\r', Char.ofNat 0] := by
  simp [isBare_iff]

/-- What a body denotes is what the grammar says of it. -/
theorem denotes_iff_body {body value : List Char} : Denotes body value ↔ Body body value := by
  constructor
  · intro h
    induction h with
    | nil => exact .nil
    | bare hc _ ih => exact .raw (isBare_iff_not_mem.mp hc) ih
    | escape hread _ ih =>
        obtain ⟨written, code, rfl, hescape, rfl⟩ := Text.readEscape_eq_some.mp hread
        exact .escape hescape ih
  · intro h
    induction h with
    | nil => exact .nil
    | raw hc _ ih => exact .bare (isBare_iff_not_mem.mpr hc) ih
    | escape hescape _ ih =>
        exact .escape (Text.readEscape_eq_some.mpr ⟨_, _, rfl, hescape, rfl⟩) ih

/-- The parts of a text between its commas. -/
def Parts (text : List Char) (parts : List (List Char)) : Prop :=
  (∀ part ∈ parts, ',' ∉ part) ∧ text = [','].intercalate parts

/-- A text is split into its parts. -/
theorem parts_splitCommas (text : List Char) :
    Parts text ((splitCommas text).1 :: (splitCommas text).2) := by
  induction text with
  | nil => exact ⟨by simp [splitCommas], rfl⟩
  | cons c rest ih =>
      obtain ⟨hparts, hrest⟩ := ih
      obtain ⟨hfirst, hothers⟩ := List.forall_mem_cons.mp hparts
      by_cases hcomma : c = ','
      · subst hcomma
        refine ⟨List.forall_mem_cons.mpr ⟨List.not_mem_nil, hparts⟩, ?_⟩
        conv => lhs; rw [hrest]
        rfl
      · rw [splitCommas_cons hcomma]
        refine ⟨List.forall_mem_cons.mpr ⟨?_, hothers⟩, ?_⟩
        · rw [List.mem_cons, not_or]
          exact ⟨Ne.symm hcomma, hfirst⟩
        · conv => lhs; rw [hrest]
          cases (splitCommas rest).2 <;> rfl

/-- The parts between commas are known by the text. -/
theorem splitCommas_of_parts {text name : List Char} {options : List (List Char)}
    (h : Parts text (name :: options)) : splitCommas text = (name, options) := by
  obtain ⟨hparts, rfl⟩ := h
  induction options generalizing name with
  | nil =>
      have hname := hparts name List.mem_cons_self
      rw [List.intercalate_singleton]
      induction name with
      | nil => rfl
      | cons c rest ih =>
          rw [List.mem_cons, not_or] at hname
          rw [splitCommas_cons (Ne.symm hname.1), ih (by simpa using hname.2) hname.2]
  | cons next options ih =>
      obtain ⟨hname, hothers⟩ := List.forall_mem_cons.mp hparts
      rw [List.intercalate_cons_cons, List.append_assoc]
      show splitCommas (name ++ ',' :: [','].intercalate (next :: options)) = _
      rw [splitCommas_append hname, ih hothers]

/-! ## Tags -/

/-- The characters of keys. -/
def KeyChar (c : Char) : Prop :=
  0x20 < c.toNat ∧ c ≠ ':' ∧ c ≠ '"' ∧ c.toNat ≠ 0x7F

/-- What a pair of a key and a value says. -/
def Entry.Says (entry : Entry) (key value : List Char) : Prop :=
  entry.key.toList = key ∧ Parts value ((entry.name :: entry.options).map String.toList)

/-- The texts of tags, and the pairs that they hold: a pair may be put in front of a tag,
    and so may a space. -/
inductive Reads : List Char → List Entry → Prop
  | nil : Reads [] []
  | space {text : List Char} {entries : List Entry} :
      Reads text entries → Reads (' ' :: text) entries
  | pair {key body value text : List Char} {entry : Entry} {entries : List Entry} :
      key ≠ [] → (∀ c ∈ key, KeyChar c) → Body body value → entry.Says key value →
      Reads text entries → Reads (key ++ ':' :: '"' :: (body ++ '"' :: text)) (entry :: entries)

theorem isKeyChar_iff {c : Char} : isKeyChar c = true ↔ KeyChar c := by
  have hspace : ' ' < c ↔ 0x20 < c.toNat := Iff.rfl
  have hdelete : c = Char.ofNat 0x7F ↔ c.toNat = 0x7F := by
    rw [← Char.toNat_inj]
    rfl
  simp only [isKeyChar, KeyChar, Bool.and_eq_true, decide_eq_true_eq, bne_iff_ne, ne_eq, hspace,
    hdelete, and_assoc]

/-- An entry says the key and the value that it is made of. -/
theorem says_iff {entry : Entry} {key value : List Char} :
    entry.Says key value ↔ Entry.ofValue key value = entry := by
  constructor
  · rintro ⟨rfl, hparts⟩
    rw [List.map_cons] at hparts
    unfold Entry.ofValue
    rw [splitCommas_of_parts hparts]
    simp
  · rintro rfl
    refine ⟨by simp [Entry.ofValue], ?_⟩
    have hparts := parts_splitCommas value
    simpa [Entry.ofValue, Function.comp_def] using hparts

/-- The spaces in front of a tag say nothing. -/
theorem reads_of_dropWhile {text : List Char} {entries : List Entry}
    (h : Reads (text.dropWhile (· == ' ')) entries) : Reads text entries := by
  induction text with
  | nil => exact h
  | cons c rest ih =>
      rw [List.dropWhile_cons] at h
      split at h
      · next hspace =>
          cases eq_of_beq hspace
          exact .space (ih h)
      · exact h

/-- The entries that are read are those of the grammar. -/
theorem reads_of_readEntries {text : List Char} {entries : List Entry}
    (h : readEntries text = .ok entries) : Reads text entries := by
  fun_induction readEntries text generalizing entries
  case case1 text start hstart =>
    cases h
    refine reads_of_dropWhile ?_
    show Reads start _
    rw [List.isEmpty_iff.mp hstart]
    exact .nil
  case case3 text start hstart key hkey literal hafter body rest hbody _ value hvalue ih =>
    obtain ⟨others, hothers, rfl⟩ := map_eq_ok.mp h
    obtain ⟨hsealed, rfl⟩ := splitLiteral_eq_some.mp hbody
    refine reads_of_dropWhile ?_
    show Reads start _
    rw [← List.takeWhile_append_dropWhile (p := isKeyChar) (l := start), hafter]
    refine .pair (fun hnil => hkey (List.isEmpty_iff.mpr hnil)) ?_ ?_ (says_iff.mpr rfl)
      (ih hothers)
    · intro c hc
      exact isKeyChar_iff.mp (List.all_eq_true.mp List.all_takeWhile c hc)
    · exact denotes_iff_body.mp ((unquote_eq_ok hsealed).mp hvalue)
  all_goals cases h

/-- The entries of the grammar are read. -/
theorem readEntries_of_reads {text : List Char} {entries : List Entry} (h : Reads text entries) :
    readEntries text = .ok entries := by
  induction h with
  | nil => exact readEntries_nil
  | space _ ih => rw [readEntries_blank, ih]
  | pair hne hkey hbody hsays _ ih =>
      have hdenotes := denotes_iff_body.mpr hbody
      have hvalue := (unquote_eq_ok hdenotes.sealed).mpr hdenotes
      rw [readEntries_pair hne (fun c hc => isKeyChar_iff.mpr (hkey c hc)),
        splitLiteral_eq_some.mpr ⟨hdenotes.sealed, rfl⟩]
      simp only [hvalue, ih, says_iff.mp hsays]
      rfl

/-- A text is read as a tag if and only if it is one, with the pairs that it holds. -/
theorem readEntries_eq_ok {text : List Char} {entries : List Entry} :
    readEntries text = .ok entries ↔ Reads text entries :=
  ⟨reads_of_readEntries, readEntries_of_reads⟩

/-- Tags are accepted by their grammar, and read as it says: a text is accepted if and only
    if it is a sequence of pairs and spaces, and the result holds the pairs in order, each
    with its key and with what its value means, divided at commas.  Every other text is
    refused as a malformed tag, with the whole of it in the fault. -/
theorem parse_accepts_exactly_tag_grammar (tag : String) :
    (∀ found, parse tag = .ok found ↔ Reads tag.toList found.entries)
    ∧ ((∃ reason, parse tag = .error { cause := .malformedTag tag reason })
      ↔ ¬ ∃ entries, Reads tag.toList entries) := by
  cases hread : readEntries tag.toList with
  | ok entries =>
      have hparse : parse tag = .ok { entries } := by
        unfold parse
        rw [hread]
      have hreads := readEntries_eq_ok.mp hread
      refine ⟨fun found => ?_, ?_⟩
      · rw [hparse, ← readEntries_eq_ok, hread]
        constructor
        · intro h
          cases h
          rfl
        · intro h
          cases h
          rfl
      · constructor
        · rintro ⟨reason, hreason⟩
          cases hparse.symm.trans hreason
        · exact fun hnone => absurd ⟨entries, hreads⟩ hnone
  | error flaw =>
      have hparse : parse tag = .error (flaw.fault tag) := by
        unfold parse
        rw [hread]
      have hnone : ∀ entries, ¬ Reads tag.toList entries := by
        intro entries hreads
        cases hread.symm.trans (readEntries_eq_ok.mpr hreads)
      refine ⟨fun found => ?_, ?_⟩
      · constructor
        · intro h
          cases hparse.symm.trans h
        · exact fun h => absurd h (hnone _)
      · exact ⟨fun _ ⟨entries, hreads⟩ => hnone entries hreads, fun _ => ⟨flaw.reason, hparse⟩⟩

-- an escaped comma divides like any other, and pairs need no space between them
example : (parse " json:\"id\\x2cstring,omitempty\"db:\"\\u00e9\\101\" ").toOption
    = some { entries := [{ key := "json", name := "id", options := ["string", "omitempty"] },
      { key := "db", name := "éA" }] } := by
  decide +kernel

end StructTag

end StructScript
