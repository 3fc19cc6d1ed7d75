import StructScript.ScriptType
import StructScript.Proofs.ScriptGrammar

/-! # Written types mean their trees

    A text that is put together from pieces is scanned piece by piece, as long as
    no word goes across a seam, and at every seam of a written type stands a mark
    or a blank.

    * `scan_append` is the run of the scanner over two pieces, by the states it
      goes through;
    * `Means.parentheses`, `Means.array` and their like follow the productions of
      the grammar, each for the literal text that is written for it;
    * `ScriptType.means_render` puts them together.  The level at which a text can
      be read is the one its place asks for: a tight place holds an array or
      something closed. -/

namespace StructScript

namespace Script

/-! ## Seams -/

/-- Whether a text is one word. -/
def isWord (text : String) : Bool :=
  !text.toList.isEmpty && text.toList.all Text.isWordChar

/-- Whether a text can go on with a word before it. -/
def startsInWord (text : List Char) : Bool :=
  text.head?.any Text.isWordChar

/-- Whether a text ends in the middle of a word. -/
def endsInWord (text : List Char) : Bool :=
  text.getLast?.any Text.isWordChar

/-- Whether scanning ends in the middle of a word, from a state on. -/
def ScanState.endsInWord (state : ScanState) (text : List Char) : Bool :=
  match text, state with
  | [], .word _ => true
  | [], _ => false
  | _ :: _, _ => Script.endsInWord text

/-- The scanner goes from a character outside words and quotes into a word only if
    the character is one of a word. -/
theorem isWordChar_of_enter {c : Char} {entered : List Token × ScanState}
    (h : enter c = some entered) {before : List Char} (hword : entered.2 = .word before) :
    Text.isWordChar c = true := by
  rw [enter] at h
  split at h
  · assumption
  · split at h
    · cases h
      cases hword
    · split at h
      · cases h
        cases hword
      · split at h
        · cases h
          cases hword
        · cases h

/-- One character less, the text still ends in a word if it did. -/
theorem endsInWord_cons {state : ScanState} {c : Char} {rest : List Char}
    (hstate : ∀ before, state = .word before → Text.isWordChar c = true)
    (h : state.endsInWord rest = true) : endsInWord (c :: rest) = true := by
  cases rest with
  | nil =>
      cases state with
      | word before =>
          show Text.isWordChar c = true
          exact hstate before rfl
      | gap => cases h
      | quoted before => cases h
      | escaped before => cases h
  | cons d others =>
      have hlast : (c :: d :: others).getLast? = (d :: others).getLast? := by
        rw [List.getLast?_cons_cons]
      rw [endsInWord, hlast]
      exact h

/-- A word before a text that cannot go on with it. -/
theorem scan_word_of_not_startsInWord (before : List Char) {rest : List Char}
    (h : startsInWord rest = false) :
    scan (.word before) rest = (scan .gap rest).map (.word (String.ofList before) :: ·) := by
  cases rest with
  | nil => rfl
  | cons c others =>
      have hc : Text.isWordChar c = false := h
      exact scan_word_ends (Bool.eq_false_iff.mp hc) before others

/-- The scanner over two pieces: what it has found in the first stays, and over the
    second it runs as over a text of its own, if no word goes across. -/
theorem scan_append {state : ScanState} {text : List Char} {tokens : List Token}
    (h : scan state text = some tokens) {rest : List Char}
    (hseam : state.endsInWord text = true → startsInWord rest = false) :
    scan state (text ++ rest) = (scan .gap rest).map (tokens ++ ·) := by
  induction text generalizing state tokens with
  | nil =>
      cases state with
      | gap =>
          cases h
          simp
      | word before =>
          cases h
          exact scan_word_of_not_startsInWord before (hseam rfl)
      | quoted before => cases h
      | escaped before => cases h
  | cons c others ih =>
      -- whatever state the first character leads to, the rest of the piece runs from there
      have hnext {next : ScanState} {found : List Token} (hfound : scan next others = some found)
          (hword : ∀ before, next = .word before → Text.isWordChar c = true) :
          scan next (others ++ rest) = (scan .gap rest).map (found ++ ·) :=
        ih hfound fun hend => hseam (endsInWord_cons hword hend)
      have hgap {found : List Token} (hfound : scan .gap (c :: others) = some found) :
          scan .gap (c :: (others ++ rest)) = (scan .gap rest).map (found ++ ·) := by
        rw [scan_gap_cons] at hfound ⊢
        obtain ⟨entered, henter, hmap⟩ := Option.bind_eq_some_iff.mp hfound
        obtain ⟨after, hafter, rfl⟩ := Option.map_eq_some_iff.mp hmap
        rw [henter, Option.bind_some,
          hnext hafter fun _ hword => isWordChar_of_enter henter hword, Option.map_map]
        simp only [Function.comp_def, List.append_assoc]
      cases state with
      | gap => exact hgap h
      | word before =>
          rw [List.cons_append]
          by_cases hword : Text.isWordChar c = true
          · rw [scan_word_goes_on hword] at h ⊢
            exact hnext h fun _ _ => hword
          · rw [scan_word_ends hword] at h ⊢
            obtain ⟨found, hfound, rfl⟩ := Option.map_eq_some_iff.mp h
            rw [hgap hfound, Option.map_map]
            rfl
      | quoted before =>
          rw [List.cons_append]
          rw [scan] at h ⊢
          by_cases hquote : c = '\''
          · rw [if_pos hquote] at h ⊢
            obtain ⟨found, hfound, rfl⟩ := Option.map_eq_some_iff.mp h
            rw [hnext hfound (by rintro _ ⟨⟩), Option.map_map]
            rfl
          · rw [if_neg hquote] at h ⊢
            by_cases hescape : c = '\\'
            · rw [if_pos hescape] at h ⊢
              exact hnext h (by rintro _ ⟨⟩)
            · rw [if_neg hescape] at h ⊢
              by_cases hline : endsLine c = true
              · rw [if_pos hline] at h
                cases h
              · rw [if_neg hline] at h ⊢
                exact hnext h (by rintro _ ⟨⟩)
      | escaped before =>
          rw [List.cons_append]
          rw [scan] at h ⊢
          by_cases hescaped : (c = '\\' || c = '\'') = true
          · rw [if_pos hescaped] at h ⊢
            exact hnext h (by rintro _ ⟨⟩)
          · rw [if_neg hescaped] at h
            cases h

/-- The tokens of a text. -/
def Scanned (text : String) (tokens : List Token) : Prop :=
  scan .gap text.toList = some tokens

/-- Two pieces, one of which keeps words from going across. -/
theorem Scanned.append {first second : String} {tokens others : List Token}
    (hfirst : Scanned first tokens) (hsecond : Scanned second others)
    (hseam : endsInWord first.toList = false ∨ startsInWord second.toList = false) :
    Scanned (first ++ second) (tokens ++ others) := by
  have hstate : ScanState.gap.endsInWord first.toList = endsInWord first.toList := by
    cases first.toList with
    | nil => rfl
    | cons c rest => rfl
  have hseam' : ScanState.gap.endsInWord first.toList = true
      → startsInWord second.toList = false := by
    intro hend
    rw [hstate] at hend
    rcases hseam with hno | hno
    · cases hend.symm.trans hno
    · exact hno
  unfold Scanned at hsecond ⊢
  rw [String.toList_append, scan_append hfirst hseam', hsecond]
  rfl

/-- What ends a text decides whether it ends in a word. -/
theorem endsInWord_append (first second : String)
    (hne : second.toList.isEmpty = false) (h : endsInWord second.toList = false) :
    endsInWord (first ++ second).toList = false := by
  unfold endsInWord at h ⊢
  rw [String.toList_append, List.getLast?_append]
  cases hlast : second.toList.getLast? with
  | none => exact absurd (List.getLast?_eq_none_iff.mp hlast) (List.isEmpty_eq_false_iff.mp hne)
  | some c =>
      rw [hlast] at h
      exact h

/-! ## Words, names and indentation -/

theorem isWord_iff {text : String} :
    isWord text = true ↔ text.toList ≠ [] ∧ ∀ c ∈ text.toList, Text.isWordChar c = true := by
  simp only [isWord, Bool.and_eq_true, Bool.not_eq_true', List.isEmpty_eq_false_iff, ne_eq,
    List.all_eq_true]

/-- A word is scanned to its end. -/
theorem scan_word_of_all {before rest : List Char}
    (h : ∀ c ∈ rest, Text.isWordChar c = true) :
    scan (.word before) rest = some [.word (String.ofList (before ++ rest))] := by
  induction rest generalizing before with
  | nil =>
      rw [List.append_nil]
      rfl
  | cons c others ih =>
      obtain ⟨hc, hothers⟩ := List.forall_mem_cons.mp h
      rw [scan_word_goes_on hc, ih hothers, List.append_assoc]
      rfl

/-- A word is one token. -/
theorem scanned_word {text : String} (h : isWord text = true) : Scanned text [.word text] := by
  obtain ⟨hne, hall⟩ := isWord_iff.mp h
  cases htext : text.toList with
  | nil => exact absurd htext hne
  | cons c rest =>
      rw [htext] at hall
      obtain ⟨hc, hrest⟩ := List.forall_mem_cons.mp hall
      have henter : enter c = some ([], .word [c]) := by
        rw [enter, if_pos hc]
      have hword : String.ofList (c :: rest) = text := by
        rw [← htext, String.ofList_toList]
      rw [Scanned, htext, scan_gap_cons, henter]
      show (scan (.word [c]) rest).map _ = _
      rw [scan_word_of_all hrest]
      show some [Token.word (String.ofList (c :: rest))] = _
      rw [hword]

/-- The words that stand in written types of themselves. -/
def fixedWords : List String :=
  ["key", "undefined", "any", "boolean", "number", "string"]

theorem isWord_of_mem_fixedWords : ∀ text ∈ fixedWords, isWord text = true := by
  decide +kernel

/-- Between quotes, the escapes of a name without line ends are undone. -/
theorem scan_quoted_name {name : List Char} (hline : ∀ c ∈ name, endsLine c = false)
    (before rest : List Char) :
    scan (.quoted before) (name.flatMap quotedNameChar ++ '\'' :: rest)
      = (scan .gap rest).map (.quoted (String.ofList (before ++ name)) :: ·) := by
  induction name generalizing before with
  | nil =>
      rw [List.append_nil]
      rfl
  | cons c others ih =>
      obtain ⟨hend, hothers⟩ := List.forall_mem_cons.mp hline
      have hnext := ih hothers (before ++ [c])
      rw [List.append_assoc, List.singleton_append] at hnext
      rw [List.flatMap_cons, List.append_assoc, ← hnext, quotedNameChar]
      by_cases hescaped : (c = '\\' || c = '\'') = true
      · rw [if_pos hescaped, List.cons_append, List.singleton_append, scan, if_neg (by decide),
          if_pos rfl, scan, if_pos hescaped]
      · rw [if_neg hescaped, List.singleton_append]
        rw [Bool.or_eq_true, not_or, decide_eq_true_eq, decide_eq_true_eq] at hescaped
        rw [scan, if_neg hescaped.2, if_neg hescaped.1, if_neg (Bool.eq_false_iff.mp hend)]

/-- A plain name on one line is a word. -/
theorem isWord_of_isPlainName {name : String} (hline : OneLine name)
    (h : isPlainName name.toList = true) : isWord name = true := by
  unfold isPlainName at h
  split at h
  · cases h
  · next first rest hname =>
      -- a plain name may have a line end behind it, which this one has not
      have hlast : ¬ rest.getLast? = some '\n' := by
        intro hlast
        have hmem : '\n' ∈ name.toList :=
          hname ▸ List.mem_cons_of_mem first (List.mem_of_getLast? hlast)
        exact absurd (hline '\n' hmem) (by decide)
      rw [if_neg hlast, Bool.and_eq_true, Bool.and_eq_true, List.all_eq_true] at h
      rw [isWord_iff, hname]
      exact ⟨List.cons_ne_nil first rest, List.forall_mem_cons.mpr ⟨h.1.1, h.2⟩⟩

/-- The name of a property is one token, which gives the name back. -/
theorem scanned_propertyName {name : String} (hline : OneLine name) :
    ∃ token, Scanned (propertyName name) [token] ∧ token.memberName? = some name := by
  unfold propertyName
  by_cases hplain : isPlainName name.toList = true
  · rw [if_pos hplain]
    exact ⟨.word name, scanned_word (isWord_of_isPlainName hline hplain), rfl⟩
  · rw [if_neg hplain]
    refine ⟨.quoted name, ?_, rfl⟩
    rw [Scanned, String.toList_ofList]
    show scan .gap ('\'' :: (name.toList.flatMap quotedNameChar ++ ['\''])) = _
    have henter : enter '\'' = some ([], .quoted []) := by decide +kernel
    rw [scan_gap_cons, henter]
    show (scan (.quoted []) (name.toList.flatMap quotedNameChar ++ '\'' :: [])).map _ = _
    rw [scan_quoted_name hline, List.nil_append, String.ofList_toList]
    rfl

/-! ## Joints -/

/-- What can stand between two words: the blanks and the marks. -/
def separators : List Char :=
  blanks ++ marks

/-- No separator is part of a word. -/
theorem isWordChar_of_separator {c : Char} (h : c ∈ separators) : Text.isWordChar c = false := by
  have hall : separators.all (Text.isWordChar · == false) = true := by decide +kernel
  exact beq_iff_eq.mp (List.all_eq_true.mp hall c h)

theorem not_mem_marks_of_blank {c : Char} (h : c ∈ blanks) : ¬ marks.contains c = true := by
  have hall : blanks.all (marks.contains · == false) = true := by decide +kernel
  exact Bool.eq_false_iff.mp (beq_iff_eq.mp (List.all_eq_true.mp hall c h))

/-- A separator is a token if it is a mark, and leaves the scanner in a gap. -/
theorem enter_separator {c : Char} (h : c ∈ separators) :
    enter c = some (if marks.contains c then [.mark c] else [], .gap) := by
  rw [enter, isWordChar_of_separator h, if_neg (by decide)]
  by_cases hblank : blanks.contains c = true
  · have hno := not_mem_marks_of_blank (List.contains_iff_mem.mp hblank)
    rw [if_pos hblank, if_neg hno]
  · have hmark : marks.contains c = true := by
      rcases List.mem_append.mp h with hmem | hmem
      · exact absurd (List.contains_iff_mem.mpr hmem) hblank
      · exact List.contains_iff_mem.mpr hmem
    rw [if_neg hblank, if_pos hmark, if_pos hmark]

/-- Separators are scanned as the marks among them. -/
theorem scan_separators {text : List Char} (h : text.all separators.contains = true) :
    scan .gap text = some ((text.filter marks.contains).map .mark) := by
  induction text with
  | nil => rfl
  | cons c rest ih =>
      rw [List.all_cons, Bool.and_eq_true] at h
      obtain ⟨hc, hrest⟩ := h
      rw [scan_gap_cons, enter_separator (List.contains_iff_mem.mp hc)]
      show (scan .gap rest).map _ = _
      rw [ih hrest]
      by_cases hmark : marks.contains c = true
      · rw [if_pos hmark, List.filter_cons_of_pos hmark]
        rfl
      · rw [if_neg hmark, List.filter_cons_of_neg hmark]
        rfl

/-- A text of separators, with the marks in it: what is written between the parts of
    a type. -/
structure Joint (text : String) (tokens : List Token) : Prop where
  separators : text.toList.all separators.contains = true
  marks : (text.toList.filter marks.contains).map .mark = tokens

namespace Joint

variable {joint : String} {between : List Token}

theorem of_blanks {text : String} (h : ∀ c ∈ text.toList, c ∈ blanks) : Joint text [] where
  separators := List.all_eq_true.mpr fun c hc =>
    List.contains_iff_mem.mpr (List.mem_append_left Script.marks (h c hc))
  marks := by
    rw [List.filter_eq_nil_iff.mpr fun c hc => not_mem_marks_of_blank (h c hc)]
    rfl

/-- No character of a joint is part of a word. -/
theorem isWordChar_eq_false (h : Joint joint between) {c : Char} (hc : c ∈ joint.toList) :
    Text.isWordChar c = false :=
  isWordChar_of_separator (List.contains_iff_mem.mp (List.all_eq_true.mp h.separators c hc))

/-- A joint is scanned as what is between. -/
theorem scanned (h : Joint joint between) : Scanned joint between :=
  h.marks ▸ scan_separators h.separators

theorem startsInWord_eq_false (h : Joint joint between) : startsInWord joint.toList = false := by
  unfold startsInWord
  cases hhead : joint.toList.head? with
  | none => rfl
  | some c => exact h.isWordChar_eq_false (List.mem_of_head? hhead)

theorem endsInWord_eq_false (h : Joint joint between) : endsInWord joint.toList = false := by
  unfold endsInWord
  cases hlast : joint.toList.getLast? with
  | none => rfl
  | some c => exact h.isWordChar_eq_false (List.mem_of_getLast? hlast)

/-- A joint before a text. -/
theorem before (h : Joint joint between) {text : String} {tokens : List Token}
    (htext : Scanned text tokens) : Scanned (joint ++ text) (between ++ tokens) :=
  h.scanned.append htext (.inl h.endsInWord_eq_false)

/-- A joint behind a text. -/
theorem behind (h : Joint joint between) {text : String} {tokens : List Token}
    (htext : Scanned text tokens) : Scanned (text ++ joint) (tokens ++ between) :=
  htext.append h.scanned (.inr h.startsInWord_eq_false)

/-- A joint of at least one character between two texts. -/
theorem amid (h : Joint joint between) (hne : joint.toList.isEmpty = false)
    {first second : String} {tokens others : List Token} (hfirst : Scanned first tokens)
    (hsecond : Scanned second others) :
    Scanned (first ++ joint ++ second) (tokens ++ between ++ others) :=
  (h.behind hfirst).append hsecond (.inl (endsInWord_append first joint hne h.endsInWord_eq_false))

end Joint

/-- A repeated indentation is blank if the indentation is. -/
theorem mem_blanks_of_repeated {indent : String} (h : ∀ c ∈ indent.toList, c ∈ blanks)
    (count : Nat) : ∀ c ∈ (Text.repeated indent count).toList, c ∈ blanks := by
  induction count with
  | zero => exact List.forall_mem_nil _
  | succ count ih =>
      intro c hc
      rw [Text.repeated, String.toList_append, List.mem_append] at hc
      rcases hc with hhere | hrest
      · exact h c hhere
      · exact ih c hrest

/-! ## The productions as they are written -/

namespace Means

/-- A closed type is tight enough for the element of an array. -/
theorem array_of_closed {text : String} {tree : Tree} (h : Means .closed text tree) :
    Means .array text tree := by
  obtain ⟨tokens, hscan, hderives⟩ := h
  exact ⟨tokens, hscan, .closed hderives⟩

/-- The element of an array can stand in a union. -/
theorem union_of_array {text : String} {tree : Tree} (h : Means .array text tree) :
    Means .union text tree := by
  obtain ⟨tokens, hscan, hderives⟩ := h
  exact ⟨tokens, hscan, .single hderives⟩

theorem word {text : String} (h : isWord text = true) : Means .closed text (.name text) :=
  ⟨[.word text], scanned_word h, .name text⟩

theorem parentheses {text : String} {tree : Tree} (h : Means .union text tree) :
    Means .closed ("(" ++ text ++ ")") tree := by
  obtain ⟨tokens, hscan, hderives⟩ := h
  have hopen : Joint "(" [.mark '('] := ⟨rfl, rfl⟩
  have hclose : Joint ")" [.mark ')'] := ⟨rfl, rfl⟩
  exact ⟨_, hclose.behind (hopen.before hscan), .parentheses hderives⟩

/-- Brackets make an array of a type. -/
theorem array {text : String} {tree : Tree} (h : Means .array text tree) :
    Means .array (text ++ "[]") (.array tree) := by
  obtain ⟨tokens, hscan, hderives⟩ := h
  have hbrackets : Joint "[]" [.mark '[', .mark ']'] := ⟨rfl, rfl⟩
  exact ⟨_, hbrackets.behind hscan, .array hderives⟩

/-- A type or nothing is a union. -/
theorem orUndefined {text : String} {tree : Tree} (h : Means .union text tree) :
    Means .union (text ++ " | undefined") (.union tree (.name "undefined")) := by
  obtain ⟨tokens, hscan, hderives⟩ := h
  have hword := isWord_of_mem_fixedWords "undefined" (by decide)
  have hbar : Joint " | " [.mark '|'] := ⟨rfl, rfl⟩
  have hundefined := hbar.amid (by decide) hscan (scanned_word hword)
  -- the text that is written at once is a joint and a word
  have htext : text ++ " | undefined" = text ++ " | " ++ "undefined" := by
    rw [String.append_assoc]
    rfl
  refine ⟨tokens ++ [.mark '|'] ++ [.word "undefined"], htext ▸ hundefined, ?_⟩
  rw [List.append_assoc]
  exact .union hderives (.closed (.name "undefined"))

/-- Braces around a key and a value mean an index. -/
theorem index {first second : String} {key value : Tree} (hkey : Means .union first key)
    (hvalue : Means .union second value) :
    Means .closed ("\x7b [key: " ++ first ++ "]: " ++ second ++ " \x7d") (.index key value) := by
  obtain ⟨tokens, hscan, hderives⟩ := hkey
  obtain ⟨others, hscan', hderives'⟩ := hvalue
  have hword := isWord_of_mem_fixedWords "key" (by decide)
  have hopen : Joint "\x7b [" [.mark '\x7b', .mark '['] := ⟨rfl, rfl⟩
  have hcolon : Joint ": " [.mark ':'] := ⟨rfl, rfl⟩
  have hmiddle : Joint "]: " [.mark ']', .mark ':'] := ⟨rfl, rfl⟩
  have hclose : Joint " \x7d" [.mark '\x7d'] := ⟨rfl, rfl⟩
  have hkey := hcolon.amid (by decide) (hopen.before (scanned_word hword)) hscan
  have hall := hclose.behind (hmiddle.amid (by decide) hkey hscan')
  refine ⟨_, hall, ?_⟩
  have hindex := Derives.index hderives hderives'
  simpa only [List.append_assoc, List.cons_append, List.nil_append] using hindex

end Means

/-- Whether a text is a list of arguments with the given trees. -/
def MeansArguments (text : String) (trees : List Tree) : Prop :=
  ∃ tokens, Scanned text tokens ∧ DerivesArguments tokens trees

/-- Arguments are written with commas between them. -/
theorem MeansArguments.more {first rest : String} {tree : Tree} {trees : List Tree}
    (h : Means .union first tree) (hrest : MeansArguments rest trees) :
    MeansArguments (first ++ ", " ++ rest) (tree :: trees) := by
  obtain ⟨tokens, hscan, hderives⟩ := h
  obtain ⟨others, hscan', hderives'⟩ := hrest
  have hcomma : Joint ", " [.mark ','] := ⟨rfl, rfl⟩
  refine ⟨_, hcomma.amid (by decide) hscan hscan', ?_⟩
  have hmore := DerivesArguments.more hderives hderives'
  simpa only [List.append_assoc, List.cons_append, List.nil_append] using hmore

/-- A word with arguments in angle brackets means the word applied to them. -/
theorem Means.apply {name inside : String} {trees : List Tree} (hname : isWord name = true)
    (h : MeansArguments inside trees) :
    Means .closed (name ++ "<" ++ inside ++ ">") (.apply name trees) := by
  obtain ⟨tokens, hscan, hderives⟩ := h
  have hopen : Joint "<" [.mark '<'] := ⟨rfl, rfl⟩
  have hclose : Joint ">" [.mark '>'] := ⟨rfl, rfl⟩
  exact ⟨_, hclose.behind (hopen.amid (by decide) (scanned_word hname) hscan),
    .apply name hderives⟩

/-- Whether a text is a list of members. -/
def MeansMembers (text : String) (members : List (String × Bool × Tree)) : Prop :=
  ∃ tokens, Scanned text tokens ∧ DerivesMembers tokens members

theorem joint_optionalMark (optional : Bool) :
    Joint (if optional then "?" else "") (optionalMark optional) := by
  cases optional with
  | true => exact ⟨rfl, rfl⟩
  | false => exact ⟨rfl, rfl⟩

/-- A line for a member, before other members. -/
theorem MeansMembers.more {start name type rest : String} {tree : Tree}
    {members : List (String × Bool × Tree)} (hstart : ∀ c ∈ start.toList, c ∈ blanks)
    (hline : OneLine name) (optional : Bool)
    (htype : Means .union type tree) (hrest : MeansMembers rest members) :
    MeansMembers
      (start ++ propertyName name ++ (if optional then "?" else "") ++ ": " ++ type ++ ";\n" ++ rest)
      ((name, optional, tree) :: members) := by
  obtain ⟨tokens, hscan, hderives⟩ := htype
  obtain ⟨others, hscan', hderives'⟩ := hrest
  obtain ⟨token, htoken, hname⟩ := scanned_propertyName hline
  have hcolon : Joint ": " [.mark ':'] := ⟨rfl, rfl⟩
  have hend : Joint ";\n" [.mark ';'] := ⟨rfl, rfl⟩
  -- joints stand around the name and around the type
  have hhead := (joint_optionalMark optional).behind ((Joint.of_blanks hstart).before htoken)
  have htyped := hcolon.amid (by decide) hhead hscan
  refine ⟨_, hend.amid (by decide) htyped hscan', ?_⟩
  have hmore := DerivesMembers.more optional hname hderives hderives'
  simpa only [List.append_assoc, List.cons_append, List.nil_append] using hmore

/-- Braces around members mean an object, with blanks before the last. -/
theorem Means.object {inside last : String} {members : List (String × Bool × Tree)}
    (h : MeansMembers inside members) (hlast : ∀ c ∈ last.toList, c ∈ blanks) :
    Means .closed ("\x7b\n" ++ inside ++ last ++ "\x7d") (.object members) := by
  obtain ⟨tokens, hscan, hderives⟩ := h
  have hopen : Joint "\x7b\n" [.mark '\x7b'] := ⟨rfl, rfl⟩
  have hclose : Joint "\x7d" [.mark '\x7d'] := ⟨rfl, rfl⟩
  have hinside := (Joint.of_blanks hlast).behind (hopen.before hscan)
  refine ⟨_, hclose.behind hinside, ?_⟩
  have hobject := Derives.object hderives
  simpa only [List.append_assoc, List.cons_append, List.nil_append] using hobject

end Script

/-! ## Whole types -/

/-- A tree with `undefined` beside it, if it is wanted. -/
def Script.Tree.widened (wanted : Bool) (tree : Script.Tree) : Script.Tree :=
  if wanted then .union tree (.name "undefined") else tree

/-- A widened text means the widened tree. -/
theorem Script.Means.widened {text : String} {tree : Script.Tree}
    (h : Script.Means .union text tree) (wanted : Bool) :
    Script.Means .union (text ++ if wanted then " | undefined" else "") (tree.widened wanted) := by
  cases wanted with
  | true => exact h.orUndefined
  | false =>
      show Script.Means .union (text ++ "") tree
      rw [String.append_empty]
      exact h

namespace ScriptType

open Script

/-- The name of a type that is only a name. -/
def baseName : ScriptType → String
  | .named text => text
  | _ => ""

mutual

/-- What a type means. -/
def tree : ScriptType → Tree
  | .named text => .name text
  | .orUndefined inner => .union inner.tree (.name "undefined")
  | .array element => .array element.tree
  | .index key value => .index key.tree value.tree
  | .apply base arguments => .apply base.baseName (treesOfArguments arguments)
  | .object properties => .object (treesOfProperties properties)

/-- What arguments mean. -/
def treesOfArguments : List ScriptType → List Tree
  | [] => []
  | type :: rest => type.tree :: treesOfArguments rest

/-- What properties mean. -/
def treesOfProperties : List Property → List (String × Bool × Tree)
  | [] => []
  | ⟨name, optional, type, widened⟩ :: rest =>
      (name, optional, type.tree.widened widened) :: treesOfProperties rest

end

mutual

/-- Whether every text in a type is what its place asks for: names are words, only
    a name is applied, to one argument at least, and the names of properties are
    on one line. -/
def Legible : ScriptType → Prop
  | .named text => isWord text = true
  | .orUndefined inner => inner.Legible
  | .array element => element.Legible
  | .index key value => key.Legible ∧ value.Legible
  | .apply base arguments =>
      (∃ text, base = .named text ∧ isWord text = true) ∧ arguments ≠ []
        ∧ LegibleArguments arguments
  | .object properties => LegibleProperties properties

/-- Whether arguments are legible. -/
def LegibleArguments : List ScriptType → Prop
  | [] => True
  | type :: rest => type.Legible ∧ LegibleArguments rest

/-- Whether properties are legible. -/
def LegibleProperties : List Property → Prop
  | [] => True
  | ⟨name, _, type, _⟩ :: rest =>
      Script.OneLine name ∧ type.Legible ∧ LegibleProperties rest

end

/-- The level that a place asks for. -/
def level (tight : Bool) : Script.Level :=
  if tight then .array else .union

/-- A closed type can stand at every level. -/
theorem means_level_of_closed {text : String} {tree : Tree} (h : Means .closed text tree)
    (tight : Bool) : Means (level tight) text tree := by
  cases tight with
  | true => exact h.array_of_closed
  | false => exact h.array_of_closed.union_of_array

mutual

/-- A written type means its tree, in a tight place and in any other. -/
theorem means_render {indent : String} (hindent : ∀ c ∈ indent.toList, c ∈ blanks) :
    ∀ (type : ScriptType), type.Legible → ∀ (depth : Int) (tight : Bool),
      Means (level tight) (type.render indent depth tight) type.tree
  | .named text, h, _, tight => by
      rw [Legible] at h
      rw [render, tree]
      exact means_level_of_closed (.word h) tight
  | .orUndefined inner, h, depth, tight => by
      rw [Legible] at h
      rw [render, tree]
      have hinner : Means .union _ _ := means_render hindent inner h depth false
      by_cases hparentheses : (tight || inner.isArray) = true
      · rw [hparentheses]
        exact means_level_of_closed hinner.orUndefined.parentheses tight
      · -- without parentheses the place is not tight, so a union may stand in it
        rw [Bool.not_eq_true, Bool.or_eq_false_iff] at hparentheses
        obtain ⟨rfl, harray⟩ := hparentheses
        rw [harray]
        exact hinner.orUndefined
  | .array element, h, depth, tight => by
      rw [Legible] at h
      rw [render, tree]
      have helement : Means .array _ _ := means_render hindent element h depth true
      cases tight with
      | true => exact helement.array
      | false => exact helement.array.union_of_array
  | .index key value, h, depth, tight => by
      rw [Legible] at h
      rw [render, tree]
      have hkey : Means .union _ _ := means_render hindent key h.1 depth false
      have hvalue : Means .union _ _ := means_render hindent value h.2 depth false
      exact means_level_of_closed (hkey.index hvalue) tight
  | .apply base arguments, h, depth, tight => by
      rw [Legible] at h
      obtain ⟨⟨text, rfl, htext⟩, hne, harguments⟩ := h
      rw [render, tree, render, baseName]
      exact means_level_of_closed
        (.apply htext (meansArguments_render hindent arguments harguments depth hne)) tight
  | .object properties, h, depth, tight => by
      rw [Legible] at h
      rw [render, tree]
      exact means_level_of_closed
        (.object (meansMembers_render hindent properties h (depth + 1))
          (mem_blanks_of_repeated hindent _)) tight

/-- Rendered arguments mean the trees of the arguments. -/
theorem meansArguments_render {indent : String} (hindent : ∀ c ∈ indent.toList, c ∈ blanks) :
    ∀ (arguments : List ScriptType), LegibleArguments arguments → ∀ (depth : Int),
      arguments ≠ [] →
      MeansArguments (String.intercalate ", " (renderArguments indent depth arguments))
        (treesOfArguments arguments)
  | [], _, _, hne => absurd rfl hne
  | [type], h, depth, _ => by
      rw [LegibleArguments] at h
      obtain ⟨tokens, hscan, hderives⟩ :
          Means .union (type.render indent depth false) type.tree :=
        means_render hindent type h.1 depth false
      exact ⟨tokens, hscan, .one hderives⟩
  | type :: next :: rest, h, depth, _ => by
      rw [LegibleArguments] at h
      have hhere : Means .union _ _ := means_render hindent type h.1 depth false
      have hrest := meansArguments_render hindent (next :: rest) h.2 depth
        (List.cons_ne_nil next rest)
      rw [renderArguments, renderArguments, String.intercalate_cons_cons]
      exact .more hhere hrest

/-- Rendered properties mean the trees of the properties. -/
theorem meansMembers_render {indent : String} (hindent : ∀ c ∈ indent.toList, c ∈ blanks) :
    ∀ (properties : List Property), LegibleProperties properties → ∀ (depth : Int),
      MeansMembers (renderProperties indent depth properties) (treesOfProperties properties)
  | [], _, _ => ⟨[], rfl, .none⟩
  | ⟨name, optional, type, widened⟩ :: rest, h, depth => by
      rw [LegibleProperties] at h
      obtain ⟨hline, htype, hrest⟩ := h
      have hmeans : Means .union _ _ := means_render hindent type htype depth false
      have hmore := MeansMembers.more (mem_blanks_of_repeated hindent (depth + 1).toNat) hline
        optional (hmeans.widened widened) (meansMembers_render hindent rest hrest depth)
      rw [renderProperties, treesOfProperties, propertyLine, indentation]
      simpa only [String.append_assoc] using hmore

end

end ScriptType

end StructScript
