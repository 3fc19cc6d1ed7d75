import StructScript.Proofs.LineEnds
import StructScript.Text.Word

/-! # The grammar of TypeScript types

    The types that can be written, with their precedence: a union is weakest, the
    brackets of an array bind tighter, and everything else is closed in itself.

    * `scan` cuts a text into tokens; blanks and line ends only separate them;
    * `Derives` is the grammar over tokens, with one rule for each production and
      the tree that the production stands for;
    * `readType` reads the same language from left to right, and
      `Derives.reads` shows that it finds every derivation.  Because a reader has
      one answer, the grammar is unambiguous: `Derives.unique`.

    A reader takes a number that bounds its steps.  `Answers` speaks of the answer
    that it gives for every large number, so that no proof counts steps. -/

namespace StructScript.Script

/-! ## Tokens -/

/-- A token of a type. -/
inductive Token where
  /-- A run of letters, numerals and underscores: a name. -/
  | word (text : String)
  /-- A name between single quotes, without its escapes. -/
  | quoted (text : String)
  | mark (char : Char)
deriving DecidableEq, Repr

/-- The blanks and line ends between tokens. -/
def blanks : List Char :=
  ['\t', '\n', Char.ofNat 0xB, Char.ofNat 0xC, '\r', ' ', Char.ofNat 0xA0, Char.ofNat 0x1680,
    Char.ofNat 0x2000, Char.ofNat 0x2001, Char.ofNat 0x2002, Char.ofNat 0x2003,
    Char.ofNat 0x2004, Char.ofNat 0x2005, Char.ofNat 0x2006, Char.ofNat 0x2007,
    Char.ofNat 0x2008, Char.ofNat 0x2009, Char.ofNat 0x200A, Char.ofNat 0x2028,
    Char.ofNat 0x2029, Char.ofNat 0x202F, Char.ofNat 0x205F, Char.ofNat 0x3000,
    Char.ofNat 0xFEFF]

/-- The marks of types. -/
def marks : List Char :=
  ['|', '[', ']', '<', '>', '(', ')', '\x7b', '\x7d', ':', ';', ',', '?']

/-- Where in a text the scanning stands. -/
inductive ScanState where
  | gap
  /-- Inside a word, after the given characters. -/
  | word (before : List Char)
  /-- Between quotes, after the given characters. -/
  | quoted (before : List Char)
  /-- Between quotes, behind a backslash. -/
  | escaped (before : List Char)
deriving DecidableEq, Repr

/-- What a character outside words and quotes gives: a token if it is one by
    itself, and the state behind it. -/
def enter (c : Char) : Option (List Token × ScanState) :=
  if Text.isWordChar c then some ([], .word [c])
  else if blanks.contains c then some ([], .gap)
  else if marks.contains c then some ([.mark c], .gap)
  else if c = '\'' then some ([], .quoted [])
  else none

/-- The tokens of a text.  A word goes as far as it can, and between quotes only a
    quote or a backslash may be escaped and no line may end. -/
def scan : ScanState → List Char → Option (List Token)
  | .gap, [] => some []
  | .gap, c :: rest =>
      match enter c with
      | some (here, state) => (scan state rest).map (here ++ ·)
      | none => none
  | .word before, [] => some [.word (String.ofList before)]
  | .word before, c :: rest =>
      if Text.isWordChar c then scan (.word (before ++ [c])) rest
      else
        match enter c with
        | some (here, state) =>
            (scan state rest).map (.word (String.ofList before) :: here ++ ·)
        | none => none
  | .quoted before, c :: rest =>
      if c = '\'' then (scan .gap rest).map (.quoted (String.ofList before) :: ·)
      else if c = '\\' then scan (.escaped before) rest
      else if endsLine c then none
      else scan (.quoted (before ++ [c])) rest
  | .escaped before, c :: rest =>
      if c = '\\' || c = '\'' then scan (.quoted (before ++ [c])) rest else none
  | .quoted _, [] | .escaped _, [] => none

/-- In a gap a character is scanned by what it enters. -/
theorem scan_gap_cons (c : Char) (rest : List Char) :
    scan .gap (c :: rest)
      = (enter c).bind fun entered => (scan entered.2 rest).map (entered.1 ++ ·) := by
  rw [scan]
  cases enter c with
  | none => rfl
  | some entered => rfl

/-- A word goes on with each of its characters. -/
theorem scan_word_goes_on {c : Char} (h : Text.isWordChar c = true) (before rest : List Char) :
    scan (.word before) (c :: rest) = scan (.word (before ++ [c])) rest := by
  rw [scan, if_pos h]

/-- A word ends before any other character, which is scanned as outside of words. -/
theorem scan_word_ends {c : Char} (h : ¬ Text.isWordChar c = true) (before rest : List Char) :
    scan (.word before) (c :: rest)
      = (scan .gap (c :: rest)).map (.word (String.ofList before) :: ·) := by
  rw [scan_gap_cons, scan, if_neg h]
  cases enter c with
  | none => rfl
  | some entered =>
      show (scan entered.2 rest).map _ = ((scan entered.2 rest).map _).map _
      rw [Option.map_map]
      rfl

/-! ## Trees and derivations -/

/-- What a type means: its structure, without layout and parentheses. -/
inductive Tree where
  | name (text : String)
  | union (left right : Tree)
  | array (element : Tree)
  /-- A generic type applied to arguments. -/
  | apply (name : String) (arguments : List Tree)
  /-- An object with an index signature. -/
  | index (key value : Tree)
  /-- An object with members: their names, whether they may be absent, and their
      types. -/
  | object (members : List (String × Bool × Tree))

/-- How tightly a phrase binds. -/
inductive Level where
  /-- A union, or anything tighter. -/
  | union
  /-- An array, or anything tighter. -/
  | array
  /-- A phrase that is closed in itself. -/
  | closed
deriving DecidableEq, Repr

/-- The name that a token gives to a member. -/
def Token.memberName? : Token → Option String
  | .word text => some text
  | .quoted text => some text
  | .mark _ => none

/-- The mark of a member that may be absent. -/
def optionalMark (optional : Bool) : List Token :=
  if optional then [.mark '?'] else []

mutual

/-- The phrases of a level, with their trees. -/
inductive Derives : Level → List Token → Tree → Prop where
  | name (text : String) : Derives .closed [.word text] (.name text)
  | apply (text : String) {inside : List Token} {arguments : List Tree} :
      DerivesArguments inside arguments →
      Derives .closed (.word text :: .mark '<' :: (inside ++ [.mark '>'])) (.apply text arguments)
  | parentheses {inside : List Token} {tree : Tree} :
      Derives .union inside tree → Derives .closed (.mark '(' :: (inside ++ [.mark ')'])) tree
  | index {first second : List Token} {key value : Tree} :
      Derives .union first key → Derives .union second value →
      Derives .closed
        (.mark '\x7b' :: .mark '[' :: .word "key" :: .mark ':'
          :: (first ++ .mark ']' :: .mark ':' :: (second ++ [.mark '\x7d'])))
        (.index key value)
  | object {inside : List Token} {members : List (String × Bool × Tree)} :
      DerivesMembers inside members →
      Derives .closed (.mark '\x7b' :: (inside ++ [.mark '\x7d'])) (.object members)
  | closed {tokens : List Token} {tree : Tree} :
      Derives .closed tokens tree → Derives .array tokens tree
  | array {tokens : List Token} {element : Tree} :
      Derives .array tokens element →
      Derives .array (tokens ++ [.mark '[', .mark ']']) (.array element)
  | single {tokens : List Token} {tree : Tree} :
      Derives .array tokens tree → Derives .union tokens tree
  | union {first second : List Token} {left right : Tree} :
      Derives .union first left → Derives .array second right →
      Derives .union (first ++ .mark '|' :: second) (.union left right)

/-- One or more types with commas between neighbours. -/
inductive DerivesArguments : List Token → List Tree → Prop where
  | one {tokens : List Token} {tree : Tree} :
      Derives .union tokens tree → DerivesArguments tokens [tree]
  | more {first rest : List Token} {tree : Tree} {trees : List Tree} :
      Derives .union first tree → DerivesArguments rest trees →
      DerivesArguments (first ++ .mark ',' :: rest) (tree :: trees)

/-- Members, each with a semicolon behind it. -/
inductive DerivesMembers : List Token → List (String × Bool × Tree) → Prop where
  | none : DerivesMembers [] []
  | more {token : Token} {name : String} (optional : Bool) {type rest : List Token} {tree : Tree}
      {members : List (String × Bool × Tree)} :
      token.memberName? = some name → Derives .union type tree → DerivesMembers rest members →
      DerivesMembers
        (token :: (optionalMark optional ++ .mark ':' :: (type ++ .mark ';' :: rest)))
        ((name, optional, tree) :: members)

end

/-- Whether a text is a phrase of a level with the given tree. -/
def Means (level : Level) (text : String) (tree : Tree) : Prop :=
  ∃ tokens, scan .gap text.toList = some tokens ∧ Derives level tokens tree

/-! ## The reader -/

/-- A type with the brackets behind it. -/
def readBrackets (tree : Tree) : List Token → Tree × List Token
  | .mark '[' :: .mark ']' :: rest => readBrackets (.array tree) rest
  | tokens => (tree, tokens)

/-- Whether a member may be absent, and what stands behind its colon. -/
def readColon : List Token → Option (Bool × List Token)
  | .mark '?' :: .mark ':' :: rest => some (true, rest)
  | .mark ':' :: rest => some (false, rest)
  | _ => none

mutual

/-- A union, and what follows. -/
def readType : Nat → List Token → Option (Tree × List Token)
  | 0, _ => none
  | steps + 1, tokens =>
      match readArray steps tokens with
      | some (tree, rest) => readAlternatives steps tree rest
      | none => none

/-- A union that goes on from a type. -/
def readAlternatives : Nat → Tree → List Token → Option (Tree × List Token)
  | 0, _, _ => none
  | steps + 1, tree, tokens =>
      match tokens with
      | .mark '|' :: rest =>
          match readArray steps rest with
          | some (right, after) => readAlternatives steps (.union tree right) after
          | none => none
      | _ => some (tree, tokens)

/-- An array, and what follows. -/
def readArray : Nat → List Token → Option (Tree × List Token)
  | 0, _ => none
  | steps + 1, tokens => (readClosed steps tokens).map fun (tree, rest) => readBrackets tree rest

/-- A closed phrase, and what follows. -/
def readClosed : Nat → List Token → Option (Tree × List Token)
  | 0, _ => none
  | steps + 1, tokens =>
      match tokens with
      | .word text :: .mark '<' :: rest =>
          (readArguments steps rest).map fun (arguments, after) => (.apply text arguments, after)
      | .word text :: rest => some (.name text, rest)
      | .mark '(' :: rest =>
          match readType steps rest with
          | some (tree, .mark ')' :: after) => some (tree, after)
          | _ => none
      | .mark '\x7b' :: .mark '[' :: .word "key" :: .mark ':' :: rest =>
          match readType steps rest with
          | some (key, .mark ']' :: .mark ':' :: middle) =>
              match readType steps middle with
              | some (value, .mark '\x7d' :: after) => some (.index key value, after)
              | _ => none
          | _ => none
      | .mark '\x7b' :: rest =>
          (readMembers steps rest).map fun (members, after) => (.object members, after)
      | _ => none

/-- Arguments up to the mark that closes them. -/
def readArguments : Nat → List Token → Option (List Tree × List Token)
  | 0, _ => none
  | steps + 1, tokens =>
      match readType steps tokens with
      | some (tree, .mark '>' :: after) => some ([tree], after)
      | some (tree, .mark ',' :: rest) =>
          (readArguments steps rest).map fun (trees, after) => (tree :: trees, after)
      | _ => none

/-- Members up to the mark that closes them. -/
def readMembers : Nat → List Token → Option (List (String × Bool × Tree) × List Token)
  | 0, _ => none
  | steps + 1, tokens =>
      match tokens with
      | .mark '\x7d' :: rest => some ([], rest)
      | token :: rest =>
          match token.memberName?, readColon rest with
          | some name, some (optional, type) =>
              match readType steps type with
              | some (tree, .mark ';' :: next) =>
                  (readMembers steps next).map fun (members, after) =>
                    ((name, optional, tree) :: members, after)
              | _ => none
          | _, _ => none
      | [] => none

end

/-- The answer of a reader for every number of steps that is large enough. -/
def Answers {α : Type} (reader : Nat → Option α) (answer : α) : Prop :=
  ∃ enough, ∀ steps, enough ≤ steps → reader steps = some answer

namespace Answers

/-- A reader gives one answer, however much fuel it has. -/
theorem unique {α : Type} {reader : Nat → Option α} {first second : α}
    (hfirst : Answers reader first) (hsecond : Answers reader second) : first = second := by
  obtain ⟨n, hn⟩ := hfirst
  obtain ⟨m, hm⟩ := hsecond
  have h1 := hn (n + m) (Nat.le_add_right n m)
  have h2 := hm (n + m) (Nat.le_add_left m n)
  exact Option.some.inj (h1.symm.trans h2)

/-- A reader that takes one step more than what it relies on. -/
theorem step {α β : Type} {inner : Nat → Option α} {outer : Nat → Option β} {found : α}
    {answer : β} (hinner : Answers inner found)
    (houter : ∀ steps, inner steps = some found → outer (steps + 1) = some answer) :
    Answers outer answer := by
  obtain ⟨n, hn⟩ := hinner
  refine ⟨n + 1, fun steps hsteps => ?_⟩
  obtain ⟨before, rfl⟩ : ∃ before, steps = before + 1 := ⟨steps - 1, by omega⟩
  exact houter before (hn before (by omega))

/-- A reader that relies on two others. -/
theorem both {α β γ : Type} {first : Nat → Option α} {second : Nat → Option β}
    {outer : Nat → Option γ} {a : α} {b : β} {answer : γ} (hfirst : Answers first a)
    (hsecond : Answers second b)
    (houter : ∀ steps, first steps = some a → second steps = some b →
      outer (steps + 1) = some answer) :
    Answers outer answer := by
  obtain ⟨n, hn⟩ := hfirst
  obtain ⟨m, hm⟩ := hsecond
  refine ⟨n + m + 1, fun steps hsteps => ?_⟩
  obtain ⟨before, rfl⟩ : ∃ before, steps = before + 1 := ⟨steps - 1, by omega⟩
  exact houter before (hn before (by omega)) (hm before (by omega))

/-- A reader that relies on no other. -/
theorem now {α : Type} {reader : Nat → Option α} {answer : α}
    (h : ∀ steps, reader (steps + 1) = some answer) : Answers reader answer := by
  refine ⟨1, fun steps hsteps => ?_⟩
  obtain ⟨before, rfl⟩ : ∃ before, steps = before + 1 := ⟨steps - 1, by omega⟩
  exact h before

end Answers

/-! ## Every derivation is found -/

-- the equations of the readers are made here once, and not by each of the proofs below
attribute [local simp] readType readAlternatives readArray readClosed readArguments readMembers

/-- A union ends before anything but its mark. -/
theorem readAlternatives_stop {tree : Tree} {tokens : List Token}
    (h : tokens.head? ≠ some (.mark '|')) :
    Answers (readAlternatives · tree tokens) (tree, tokens) := by
  refine Answers.now fun steps => ?_
  rw [readAlternatives]
  rintro rest rfl
  exact h rfl

/-- An array ends before anything but its mark. -/
theorem readBrackets_stop {tree : Tree} {tokens : List Token}
    (h : tokens.head? ≠ some (.mark '[')) : readBrackets tree tokens = (tree, tokens) := by
  unfold readBrackets
  split
  · exact absurd rfl h
  · rfl

/-- A bar adds the next type to the union. -/
theorem readAlternatives_more {tree right : Tree} {tokens rest : List Token}
    {answer : Tree × List Token} (hright : Answers (readArray · tokens) (right, rest))
    (hrest : Answers (readAlternatives · (.union tree right) rest) answer) :
    Answers (readAlternatives · tree (.mark '|' :: tokens)) answer := by
  refine Answers.both hright hrest fun steps h1 h2 => ?_
  rw [readAlternatives]
  simp only [h1, h2]

/-- A type is an array and what its bars add to it. -/
theorem readType_of_readArray {tree : Tree} {tokens rest : List Token}
    {answer : Tree × List Token} (htree : Answers (readArray · tokens) (tree, rest))
    (hrest : Answers (readAlternatives · tree rest) answer) :
    Answers (readType · tokens) answer := by
  refine Answers.both htree hrest fun steps h1 h2 => ?_
  rw [readType]
  simp only [h1, h2]

/-- An array is a closed type and the brackets behind it. -/
theorem readArray_of_readClosed {tree : Tree} {tokens rest : List Token}
    (h : Answers (readClosed · tokens) (tree, rest)) :
    Answers (readArray · tokens) (readBrackets tree rest) := by
  refine Answers.step h fun steps hsteps => ?_
  rw [readArray, hsteps]
  rfl

/-- A word is a name unless arguments follow. -/
theorem readClosed_name (text : String) {rest : List Token}
    (h : rest.head? ≠ some (.mark '<')) :
    Answers (readClosed · (.word text :: rest)) (.name text, rest) := by
  refine Answers.now fun steps => ?_
  rw [readClosed]
  rintro after rfl
  exact h rfl

/-- A word with arguments is applied to them. -/
theorem readClosed_apply (text : String) {tokens rest : List Token} {arguments : List Tree}
    (h : Answers (readArguments · tokens) (arguments, rest)) :
    Answers (readClosed · (.word text :: .mark '<' :: tokens)) (.apply text arguments, rest) := by
  refine Answers.step h fun steps hsteps => ?_
  rw [readClosed, hsteps]
  rfl

theorem readClosed_parentheses {tokens rest : List Token} {tree : Tree}
    (h : Answers (readType · tokens) (tree, .mark ')' :: rest)) :
    Answers (readClosed · (.mark '(' :: tokens)) (tree, rest) := by
  refine Answers.step h fun steps hsteps => ?_
  rw [readClosed, hsteps]
  rfl

/-- A key in brackets and a value are an index. -/
theorem readClosed_index {tokens middle rest : List Token} {key value : Tree}
    (hkey : Answers (readType · tokens) (key, .mark ']' :: .mark ':' :: middle))
    (hvalue : Answers (readType · middle) (value, .mark '\x7d' :: rest)) :
    Answers
      (readClosed · (.mark '\x7b' :: .mark '[' :: .word "key" :: .mark ':' :: tokens))
      (.index key value, rest) := by
  refine Answers.both hkey hvalue fun steps h1 h2 => ?_
  rw [readClosed]
  simp only [h1, h2]

theorem readClosed_object {tokens rest : List Token} {members : List (String × Bool × Tree)}
    (hstart : tokens.head? ≠ some (.mark '['))
    (h : Answers (readMembers · tokens) (members, rest)) :
    Answers (readClosed · (.mark '\x7b' :: tokens)) (.object members, rest) := by
  refine Answers.step h fun steps hsteps => ?_
  rw [readClosed, hsteps]
  · rfl
  -- an index signature would start with a bracket
  · rintro after rfl
    exact hstart rfl

/-- Arguments end with the last of them. -/
theorem readArguments_one {tokens rest : List Token} {tree : Tree}
    (h : Answers (readType · tokens) (tree, .mark '>' :: rest)) :
    Answers (readArguments · tokens) ([tree], rest) := by
  refine Answers.step h fun steps hsteps => ?_
  rw [readArguments, hsteps]
  rfl

theorem readArguments_more {tokens middle rest : List Token} {tree : Tree} {trees : List Tree}
    (htree : Answers (readType · tokens) (tree, .mark ',' :: middle))
    (htrees : Answers (readArguments · middle) (trees, rest)) :
    Answers (readArguments · tokens) (tree :: trees, rest) := by
  refine Answers.both htree htrees fun steps h1 h2 => ?_
  rw [readArguments, h1]
  show (readArguments steps middle).map _ = _
  rw [h2]
  rfl

theorem readMembers_none (rest : List Token) :
    Answers (readMembers · (.mark '\x7d' :: rest)) ([], rest) := by
  refine Answers.now fun steps => ?_
  rw [readMembers]

theorem readMembers_more {token : Token} {name : String} (hname : token.memberName? = some name)
    (optional : Bool) {type next rest : List Token} {tree : Tree}
    {members : List (String × Bool × Tree)}
    (htree : Answers (readType · type) (tree, .mark ';' :: next))
    (hmembers : Answers (readMembers · next) (members, rest)) :
    Answers (readMembers · (token :: (optionalMark optional ++ .mark ':' :: type)))
      ((name, optional, tree) :: members, rest) := by
  have hcolon : readColon (optionalMark optional ++ .mark ':' :: type) = some (optional, type) := by
    cases optional with
    | true => rfl
    | false => rfl
  refine Answers.both htree hmembers fun steps h1 h2 => ?_
  rw [readMembers, hname, hcolon]
  · simp only [h1, h2]
    rfl
  · rintro rfl
    cases hname

/-- What the reader makes of a phrase of a level: a closed phrase is read as it is,
    brackets behind an array go on with it, and alternatives behind a union go on
    with it. -/
def Level.Reads (level : Level) (tokens : List Token) (tree : Tree) (rest : List Token) : Prop :=
  match level with
  | .closed => Answers (readClosed · (tokens ++ rest)) (tree, rest)
  | .array => Answers (readArray · (tokens ++ rest)) (readBrackets tree rest)
  | .union =>
      rest.head? ≠ some (.mark '[') →
      ∀ answer, Answers (readAlternatives · tree rest) answer →
        Answers (readType · (tokens ++ rest)) answer

/-- A union before a mark that ends it. -/
theorem Level.Reads.upTo {tokens rest : List Token} {tree : Tree} {mark : Char}
    (h : Level.Reads .union tokens tree (.mark mark :: rest)) (hbracket : mark ≠ '[')
    (hbar : mark ≠ '|') :
    Answers (readType · (tokens ++ .mark mark :: rest)) (tree, .mark mark :: rest) := by
  refine h ?_ _ (readAlternatives_stop ?_)
  · intro heq
    cases heq
    exact hbracket rfl
  · intro heq
    cases heq
    exact hbar rfl

theorem head?_mark_ne {mark other : Char} (h : mark ≠ other) (rest : List Token) :
    (Token.mark mark :: rest).head? ≠ some (.mark other) := by
  intro heq
  cases heq
  exact h rfl

/-- Members do not start with a bracket, so they are not taken for an index. -/
theorem DerivesMembers.head?_ne {tokens : List Token} {members : List (String × Bool × Tree)}
    (h : DerivesMembers tokens members) (rest : List Token) :
    (tokens ++ .mark '\x7d' :: rest).head? ≠ some (.mark '[') := by
  cases h with
  | none => exact head?_mark_ne (by decide) rest
  | more optional hname htype hrest =>
      intro heq
      cases heq
      cases hname

mutual

/-- The reader finds every derivation. -/
theorem Derives.reads : ∀ {level : Level} {tokens : List Token} {tree : Tree},
    Derives level tokens tree → ∀ rest : List Token, rest.head? ≠ some (.mark '<') →
      level.Reads tokens tree rest
  | _, _, _, .name text, rest, hrest => readClosed_name text hrest
  | _, _, _, .apply text harguments, rest, _ => by
      show Answers (readClosed · _) _
      rw [List.cons_append, List.cons_append, List.append_assoc]
      exact readClosed_apply text (harguments.reads rest)
  | _, _, _, .parentheses hinside, rest, _ => by
      show Answers (readClosed · _) _
      rw [List.cons_append, List.append_assoc]
      exact readClosed_parentheses
        ((hinside.reads (.mark ')' :: rest) (head?_mark_ne (by decide) _)).upTo
          (by decide) (by decide))
  | _, _, _, @Derives.index _ second _ _ hkey hvalue, rest, _ => by
      show Answers (readClosed · _) _
      simp only [List.cons_append, List.append_assoc, List.nil_append]
      have hvalue' := (hvalue.reads (.mark '\x7d' :: rest) (head?_mark_ne (by decide) _)).upTo
        (by decide) (by decide)
      have hkey' := (hkey.reads (.mark ']' :: .mark ':' :: (second ++ .mark '\x7d' :: rest))
        (head?_mark_ne (by decide) _)).upTo (by decide) (by decide)
      exact readClosed_index hkey' hvalue'
  | _, _, _, .object hmembers, rest, _ => by
      show Answers (readClosed · _) _
      rw [List.cons_append, List.append_assoc]
      exact readClosed_object (hmembers.head?_ne rest) (hmembers.reads rest)
  | _, _, _, .closed h, rest, hrest => readArray_of_readClosed (h.reads rest hrest)
  | _, _, _, .array h, rest, _ => by
      show Answers (readArray · _) _
      rw [List.append_assoc]
      exact h.reads (.mark '[' :: .mark ']' :: rest) (head?_mark_ne (by decide) _)
  | _, _, _, .single h, rest, hrest => by
      intro hbracket answer hanswer
      have hread : Answers (readArray · _) _ := h.reads rest hrest
      rw [readBrackets_stop hbracket] at hread
      exact readType_of_readArray hread hanswer
  | _, _, _, @Derives.union _ second _ _ hleft hright, rest, hrest => by
      intro hbracket answer hanswer
      have hread : Answers (readArray · _) _ := hright.reads rest hrest
      -- the reader has the left side when it meets the bar, and goes on from there
      rw [readBrackets_stop hbracket] at hread
      rw [List.append_assoc]
      exact hleft.reads (.mark '|' :: (second ++ rest)) (head?_mark_ne (by decide) _)
        (head?_mark_ne (by decide) _) answer (readAlternatives_more hread hanswer)

/-- Arguments that the grammar derives are read. -/
theorem DerivesArguments.reads : ∀ {tokens : List Token} {trees : List Tree},
    DerivesArguments tokens trees → ∀ rest : List Token,
      Answers (readArguments · (tokens ++ .mark '>' :: rest)) (trees, rest)
  | _, _, .one h, rest =>
      readArguments_one ((h.reads (.mark '>' :: rest) (head?_mark_ne (by decide) _)).upTo
        (by decide) (by decide))
  | _, _, @DerivesArguments.more _ others _ _ h hothers, rest => by
      rw [List.append_assoc]
      exact readArguments_more
        ((h.reads (.mark ',' :: (others ++ .mark '>' :: rest)) (head?_mark_ne (by decide) _)).upTo
          (by decide) (by decide))
        (hothers.reads rest)

theorem DerivesMembers.reads : ∀ {tokens : List Token} {members : List (String × Bool × Tree)},
    DerivesMembers tokens members → ∀ rest : List Token,
      Answers (readMembers · (tokens ++ .mark '\x7d' :: rest)) (members, rest)
  | _, _, .none, rest => readMembers_none rest
  | _, _, @DerivesMembers.more _ _ optional _ others _ _ hname htype hothers, rest => by
      simp only [List.cons_append, List.append_assoc]
      exact readMembers_more hname optional
        ((htype.reads (.mark ';' :: (others ++ .mark '\x7d' :: rest))
          (head?_mark_ne (by decide) _)).upTo (by decide) (by decide))
        (hothers.reads rest)

end

/-- The grammar is unambiguous: a phrase has one tree. -/
theorem Derives.unique {level : Level} {tokens : List Token} {first second : Tree}
    (hfirst : Derives level tokens first) (hsecond : Derives level tokens second) :
    first = second := by
  have hempty : ([] : List Token).head? ≠ some (.mark '<') := by rintro ⟨⟩
  have h1 := hfirst.reads [] hempty
  have h2 := hsecond.reads [] hempty
  cases level with
  | closed => exact congrArg Prod.fst (Answers.unique h1 h2)
  | array => exact congrArg Prod.fst (Answers.unique h1 h2)
  | union =>
      -- at the end of the tokens no alternative follows
      have hstop (tree : Tree) : Answers (readAlternatives · tree []) (tree, []) :=
        readAlternatives_stop (by rintro ⟨⟩)
      have h3 := h1 (by rintro ⟨⟩) _ (hstop first)
      have h4 := h2 (by rintro ⟨⟩) _ (hstop second)
      exact congrArg Prod.fst (Answers.unique h3 h4)

/-- A text has one meaning at most. -/
theorem Means.unique {level : Level} {text : String} {first second : Tree}
    (hfirst : Means level text first) (hsecond : Means level text second) : first = second := by
  obtain ⟨tokens, hscan, h1⟩ := hfirst
  obtain ⟨others, hscan', h2⟩ := hsecond
  cases hscan.symm.trans hscan'
  exact h1.unique h2

end StructScript.Script
