import StructScript.Proofs.Marks

/-! # What is read has names in the places of names

    `TypeExpr.Proper` says of a type that every name in it is one and that no slice
    of bytes is written out as a slice.  Every type that is read is proper, because
    tokens carry the proof that a word is a name:

    * `Reader.Gives` speaks of everything that a reader can give, and the readers of
      lists hand it on from their items;
    * `readType_proper` is one level of nesting, one case for each form of a type;
    * `phrases_proper` follows by induction on the depth, and `parse_proper` for
      the declarations of a file. -/

namespace StructScript

open Go

/-- Whether the names in a type are names, and bytes have a form of their own. -/
inductive TypeExpr.Proper : TypeExpr → Prop where
  | named {name : String} (isLocal : Bool) : isName name = true → Proper (.named name isLocal)
  | selector {package name : String} :
      isName package = true → isName name = true → Proper (.selector package name)
  | pointer {inner : TypeExpr} : Proper inner → Proper (.pointer inner)
  | slice {element : TypeExpr} :
      Proper element → (∀ isLocal, element ≠ .named "byte" isLocal) → Proper (.slice element)
  | bytes : Proper .bytes
  | map {key value : TypeExpr} : Proper key → Proper value → Proper (.map key value)
  | struct {fields : List Field} :
      (∀ field ∈ fields, ∀ name ∈ field.names, isName name = true) →
      (∀ field ∈ fields, Proper field.type) → Proper (.struct fields)
  | generic {base : TypeExpr} {arguments : List TypeExpr} :
      Proper base → (∀ argument ∈ arguments, Proper argument) → Proper (.generic base arguments)
  | any : Proper .any
  | other (text form : String) : Proper (.other text form)

/-- Setting marks keeps a type proper. -/
theorem TypeExpr.Proper.bind {type : TypeExpr} (h : type.Proper) (scope : List String) :
    (type.bind scope).Proper := by
  induction h with
  | named isLocal hname =>
      rw [TypeExpr.bind]
      exact .named _ hname
  | selector hpackage hname =>
      rw [TypeExpr.bind]
      exact .selector hpackage hname
  | pointer hinner ih =>
      rw [TypeExpr.bind]
      exact .pointer ih
  | @slice element helement hbyte ih =>
      rw [TypeExpr.bind]
      -- marks rename nothing, so no name becomes that of bytes
      refine .slice ih fun isLocal heq => ?_
      cases element with
      | named name mark =>
          rw [TypeExpr.bind] at heq
          cases heq
          exact hbyte mark rfl
      | _ =>
          rw [TypeExpr.bind] at heq
          cases heq
  | bytes =>
      rw [TypeExpr.bind]
      exact .bytes
  | map hkey hvalue ihkey ihvalue =>
      rw [TypeExpr.bind]
      exact .map ihkey ihvalue
  | struct hnames htypes ih =>
      rw [TypeExpr.bind, bindFields_eq_map]
      refine .struct (fun field hfield => ?_) (fun field hfield => ?_)
      · obtain ⟨origin, horigin, rfl⟩ := List.mem_map.mp hfield
        exact hnames origin horigin
      · obtain ⟨origin, horigin, rfl⟩ := List.mem_map.mp hfield
        exact ih origin horigin
  | generic hbase harguments ihbase iharguments =>
      rw [TypeExpr.bind, bindTypes_eq_map]
      refine .generic ihbase fun argument hargument => ?_
      obtain ⟨origin, horigin, rfl⟩ := List.mem_map.mp hargument
      exact iharguments origin horigin
  | any =>
      rw [TypeExpr.bind]
      exact .any
  | other text form =>
      rw [TypeExpr.bind]
      exact .other text form

namespace Go

/-! ## Readers of lists -/

/-- Whether everything that a reader gives has a property. -/
def Reader.Gives {α : Type} (reader : Reader α) (property : α → Prop) : Prop :=
  ∀ ts found rest, reader ts = some (found, rest) → property found

theorem readWord_gives : Reader.Gives readWord fun name => isName name = true := by
  intro ts name rest h
  cases ts with
  | nil => cases h
  | cons token others =>
      rw [readWord] at h
      split at h
      · next hword =>
          cases h
          exact token.isName_of_word (eq_of_beq hword)
      · cases h

/-- What holds of each item holds of all between separators. -/
theorem separated_gives {α : Type} {item : Reader α} {property : α → Prop}
    (hitem : Reader.Gives item property) (ends : Bool) (separator : String) (count : Nat) :
    Reader.Gives (separated ends separator item count) fun items =>
      ∀ found ∈ items, property found := by
  induction count with
  | zero =>
      intro ts items rest h
      cases h
  | succ count ih =>
      intro ts items rest h
      rw [separated] at h
      split at h
      · cases h
      · next first next hfirst =>
          have hhere := hitem ts first next hfirst
          split at h
          · obtain ⟨⟨others, after⟩, hothers, heq⟩ := Option.map_eq_some_iff.mp h
            cases heq
            exact List.forall_mem_cons.mpr ⟨hhere, ih _ others rest hothers⟩
          · cases h
            exact List.forall_mem_singleton.mpr hhere

/-- What holds of each item holds of all up to a closing mark. -/
theorem itemsUntil_gives {α : Type} {item : Reader α} {property : α → Prop}
    (hitem : Reader.Gives item property) (close : String) (count : Nat) :
    Reader.Gives (itemsUntil close item count) fun items => ∀ found ∈ items, property found := by
  induction count with
  | zero =>
      intro ts items rest h
      cases h
  | succ count ih =>
      intro ts items rest h
      rw [itemsUntil] at h
      split at h
      · cases h
      · next first next hfirst =>
          have hhere := hitem ts first next hfirst
          split at h
          · cases h
            exact List.forall_mem_singleton.mpr hhere
          · split at h
            · split at h
              · cases h
                exact List.forall_mem_singleton.mpr hhere
              · obtain ⟨⟨others, after⟩, hothers, heq⟩ := Option.map_eq_some_iff.mp h
                cases heq
                exact List.forall_mem_cons.mpr ⟨hhere, ih _ others rest hothers⟩
            · cases h

/-- What holds of each item holds of all that are terminated. -/
theorem terminated_gives {α : Type} {item : Reader α} {property : α → Prop}
    (hitem : Reader.Gives item property) (always : Bool) (close : String) (count : Nat) :
    Reader.Gives (terminated always close item count) fun items =>
      ∀ found ∈ items, property found := by
  induction count with
  | zero =>
      intro ts items rest h
      cases h
  | succ count ih =>
      intro ts items rest h
      rw [terminated] at h
      split at h
      · cases h
        exact List.forall_mem_nil _
      · split at h
        · cases h
        · next first next hfirst =>
            split at h
            · cases h
            · obtain ⟨⟨others, after⟩, hothers, heq⟩ := Option.map_eq_some_iff.mp h
              cases heq
              exact List.forall_mem_cons.mpr
                ⟨hitem ts first next hfirst, ih _ others rest hothers⟩

theorem readWords_gives :
    Reader.Gives readWords fun names => ∀ name ∈ names, isName name = true :=
  fun ts => separated_gives readWord_gives false "," ts.length ts

/-! ## One level of nesting -/

/-- Whether the names of a field are names and its type is proper. -/
structure ProperField (field : Field) : Prop where
  names : ∀ name ∈ field.names, isName name = true
  type : field.type.Proper

/-- The name of a type is proper. -/
theorem readTypeName_gives (ends : Bool) : Reader.Gives (readTypeName ends) TypeExpr.Proper := by
  intro ts type rest h
  cases ts with
  | nil => cases h
  | cons token others =>
      rw [readTypeName] at h
      split at h
      · next hword =>
          have hname := token.isName_of_word (eq_of_beq hword)
          split at h
          · obtain ⟨⟨name, after⟩, hread, heq⟩ := Option.map_eq_some_iff.mp h
            cases heq
            exact .selector hname (readWord_gives _ _ _ hread)
          · cases h
            exact .named false hname
      · cases h

/-- A list of a proper type is proper. -/
theorem listType_proper {element : TypeExpr} (h : element.Proper) : (listType element).Proper := by
  unfold listType
  split
  · exact .bytes
  · next hbyte =>
      refine .slice h fun isLocal heq => ?_
      exact hbyte isLocal heq

/-- Where a phrase is a type that is made from what was read, that was read before. -/
theorem exists_of_plain {α : Type} {read : Option α} {make : α → TypeExpr × List Token}
    {phrase : TypePhrase} {rest : List Token}
    (h : (read.map make).map (fun (type, after) => (({ type } : TypePhrase), after))
      = some (phrase, rest)) : ∃ found, read = some found ∧ phrase = { type := (make found).1 } := by
  rw [Option.map_map] at h
  obtain ⟨found, hfound, heq⟩ := Option.map_eq_some_iff.mp h
  exact ⟨found, hfound, (Prod.mk.inj heq).1.symm⟩

/-- A field is proper if its names and its type are, whatever its tag. -/
theorem finishField_proper {names : List String} (hnames : ∀ name ∈ names, isName name = true)
    {type : TypeExpr} (htype : type.Proper) (ts : List Token) :
    ProperField (finishField names type ts).1 :=
  ⟨hnames, htype⟩

section

variable {phrases : Phrases}
  (hphrases : ∀ ends, Reader.Gives (phrases.type ends) fun phrase => phrase.type.Proper)

include hphrases

/-- An element of a type argument is proper. -/
theorem readTypeElement_gives : Reader.Gives (readTypeElement phrases) TypeExpr.Proper := by
  intro ts type rest h
  rw [readTypeElement] at h
  split at h
  · next one after hread =>
      cases h
      have hall := separated_gives (hphrases false) _ _ _ _ _ _ hread
      exact hall one List.mem_cons_self
  · cases h
    exact .other _ _
  · cases h

theorem readTypeArguments_gives :
    Reader.Gives (readTypeArguments phrases) fun types => ∀ type ∈ types, type.Proper := by
  intro ts types rest h
  rw [readTypeArguments] at h
  split at h
  · exact itemsUntil_gives (readTypeElement_gives hphrases) _ _ _ _ _ h
  · cases h

theorem readNamedType_gives (ends : Bool) :
    Reader.Gives (readNamedType phrases ends) TypeExpr.Proper := by
  intro ts type rest h
  rw [readNamedType] at h
  split at h
  · cases h
  · next base next hbase =>
      have hproper := readTypeName_gives ends _ _ _ hbase
      split at h
      · split at h
        · next arguments after harguments =>
            cases h
            exact .generic hproper (readTypeArguments_gives hphrases _ _ _ harguments)
        · cases h
          exact hproper
      · cases h
        exact hproper

theorem readEmbedded_gives : Reader.Gives (readEmbedded phrases) ProperField := by
  intro ts field rest h
  obtain ⟨⟨type, after⟩, hread, heq⟩ := Option.map_eq_some_iff.mp h
  have hproper := readNamedType_gives hphrases true _ _ _ hread
  have hfield := finishField_proper (List.forall_mem_nil _) hproper after
  rw [show finishField [] type after = (field, rest) from heq] at hfield
  exact hfield

theorem readEmbeddedPointer_gives : Reader.Gives (readEmbeddedPointer phrases) ProperField := by
  intro ts field rest h
  obtain ⟨⟨type, after⟩, hread, heq⟩ := Option.map_eq_some_iff.mp h
  have hproper := readNamedType_gives hphrases true _ _ _ hread
  have hfield := finishField_proper (List.forall_mem_nil _) hproper.pointer after
  rw [show finishField [] (.pointer type) after = (field, rest) from heq] at hfield
  exact hfield

theorem readNamedField_gives : Reader.Gives (readNamedField phrases) ProperField := by
  intro ts field rest h
  rw [readNamedField] at h
  split at h
  · cases h
  · next names next hnames =>
      obtain ⟨⟨phrase, after⟩, hread, heq⟩ := Option.map_eq_some_iff.mp h
      have hfield := finishField_proper (readWords_gives _ _ _ hnames) (hphrases true _ _ _ hread)
        after
      rw [show finishField names phrase.type after = (field, rest) from heq] at hfield
      exact hfield

/-- Whichever way a member is read, it is proper. -/
theorem fieldChoices_proper {ts : List Token} {field : Field} {rest : List Token}
    (h : (field, rest) ∈ fieldChoices phrases ts) : ProperField field := by
  have hembedded (h : (field, rest) ∈ (readEmbedded phrases ts).toList) : ProperField field :=
    readEmbedded_gives hphrases _ _ _ (Option.mem_toList.mp h)
  have hnamed (h : (field, rest) ∈ (readNamedField phrases ts).toList) : ProperField field :=
    readNamedField_gives hphrases _ _ _ (Option.mem_toList.mp h)
  unfold fieldChoices at h
  split at h
  · cases h
  · split at h
    · exact readEmbeddedPointer_gives hphrases _ _ _ (Option.mem_toList.mp h)
    · split at h
      · split at h
        · cases h
        · split at h
          · exact hembedded h
          · split at h
            · rcases List.mem_append.mp h with hfirst | hsecond
              · exact hembedded hfirst
              · exact hnamed hsecond
            · split at h
              · exact hnamed h
              · exact hembedded h
      · cases h

theorem readFields_gives (count : Nat) :
    Reader.Gives (readFields phrases count) fun fields => ∀ field ∈ fields, ProperField field := by
  induction count with
  | zero =>
      intro ts fields rest h
      cases h
  | succ count ih =>
      intro ts fields rest h
      rw [readFields] at h
      split at h
      · cases h
        exact List.forall_mem_nil _
      -- the first choice after which the rest can be read
      · obtain ⟨⟨field, next⟩, hchoice, hread⟩ := List.exists_of_findSome?_eq_some h
        have hhere := fieldChoices_proper hphrases hchoice
        simp only at hread
        split at hread
        · cases hread
        · obtain ⟨⟨others, after⟩, hothers, heq⟩ := Option.map_eq_some_iff.mp hread
          cases heq
          exact List.forall_mem_cons.mpr ⟨hhere, ih _ others _ hothers⟩

/-- A type is proper if the types inside it are. -/
theorem readType_proper (ends : Bool) :
    Reader.Gives (readType phrases ends) fun phrase => phrase.type.Proper := by
  intro ts phrase rest h
  cases ts with
  | nil => cases h
  | cons token others =>
      rw [readType] at h
      simp only at h
      by_cases hword : token.isWord = true
      · -- a name
        rw [if_pos hword] at h
        obtain ⟨⟨type, after⟩, hread, heq⟩ := Option.map_eq_some_iff.mp h
        cases heq
        exact readNamedType_gives hphrases ends _ _ _ hread
      rw [if_neg hword] at h
      by_cases hstar : token.is "*" = true
      · -- a pointer
        rw [if_pos hstar] at h
        obtain ⟨⟨inner, next⟩, hinner, rfl⟩ := exists_of_plain h
        exact .pointer (hphrases ends _ _ _ hinner)
      rw [if_neg hstar] at h
      by_cases hlist : token.is "[" = true
      · -- a slice or an array
        rw [if_pos hlist] at h
        split at h
        · obtain ⟨⟨element, next⟩, helement, rfl⟩ := exists_of_plain h
          exact listType_proper (hphrases ends _ _ _ helement)
        · cases h
      rw [if_neg hlist] at h
      by_cases hmap : token.is "map" = true
      · -- a map
        rw [if_pos hmap] at h
        split at h
        · cases h
        split at h
        · cases h
        next key after hkey =>
          split at h
          · cases h
          obtain ⟨⟨value, next⟩, hvalue, rfl⟩ := exists_of_plain h
          exact .map (hphrases false _ _ _ hkey) (hphrases ends _ _ _ hvalue)
      rw [if_neg hmap] at h
      by_cases hstruct : token.is "struct" = true
      · -- a struct
        rw [if_pos hstruct] at h
        split at h
        · obtain ⟨⟨fields, next⟩, hfields, rfl⟩ := exists_of_plain h
          have hproper := readFields_gives hphrases _ _ _ _ hfields
          exact .struct (fun field hfield => (hproper field hfield).names)
            (fun field hfield => (hproper field hfield).type)
        · cases h
      rw [if_neg hstruct] at h
      by_cases hinterface : token.is "interface" = true
      · -- an interface
        rw [if_pos hinterface] at h
        obtain ⟨⟨elements, after⟩, hread, heq⟩ := Option.map_eq_some_iff.mp h
        cases heq
        exact .any
      rw [if_neg hinterface] at h
      by_cases hchannel : (token.is "chan" || token.is "<-") = true
      · -- a channel
        rw [if_pos hchannel] at h
        obtain ⟨after, hread, heq⟩ := Option.map_eq_some_iff.mp h
        cases heq
        exact .other _ _
      rw [if_neg hchannel] at h
      by_cases hfunction : token.is "func" = true
      · -- a function
        rw [if_pos hfunction] at h
        obtain ⟨⟨parameters, after⟩, hread, heq⟩ := Option.map_eq_some_iff.mp h
        cases heq
        exact .other _ _
      rw [if_neg hfunction] at h
      by_cases happroximation : token.is "~" = true
      · -- an approximation
        rw [if_pos happroximation] at h
        obtain ⟨⟨inner, next⟩, -, rfl⟩ := exists_of_plain h
        exact .other _ _
      rw [if_neg happroximation] at h
      by_cases hparentheses : token.is "(" = true
      · -- parentheses
        rw [if_pos hparentheses] at h
        split at h
        · cases h
        next inner after hinner =>
          obtain ⟨⟨done, final⟩, hread, heq⟩ := Option.map_eq_some_iff.mp h
          cases heq
          exact hphrases false _ _ _ hinner
      rw [if_neg hparentheses] at h
      cases h

end

/-- Every type that is read is proper, however deep it nests. -/
theorem phrases_proper (depth : Nat) (ends : Bool) :
    Reader.Gives ((phrases depth).type ends) fun phrase => phrase.type.Proper := by
  induction depth generalizing ends with
  | zero =>
      intro ts phrase rest h
      cases h
  | succ depth ih => exact readType_proper ih ends

/-! ## The declarations of a file -/

/-- Whether the name of a declared type is a name and its type is proper. -/
structure ProperSpec (spec : Spec) : Prop where
  name : isName spec.name = true
  type : spec.phrase.type.Proper

section

variable {phrases : Phrases}
  (hphrases : ∀ ends, Reader.Gives (phrases.type ends) fun phrase => phrase.type.Proper)

include hphrases

theorem readSpec_gives : Reader.Gives (readSpec phrases) ProperSpec := by
  intro ts spec rest h
  rw [readSpec] at h
  split at h
  · cases h
  next name next hname =>
    have hword := readWord_gives _ _ _ hname
    -- a declaration may be read with and without parameters, and both readings are proper
    have hgeneric {found : Spec} {weight : Int} {after : List Token}
        (hread : readGenericSpec phrases name next = some ((found, weight), after)) :
        ProperSpec found := by
      rw [readGenericSpec] at hread
      split at hread
      · cases hread
      obtain ⟨⟨phrase, final⟩, htype, heq⟩ := Option.map_eq_some_iff.mp hread
      cases heq
      exact ⟨hword, hphrases true _ _ _ htype⟩
    have hplain {found : Spec} {after : List Token}
        (hread : readPlainSpec phrases name next = some (found, after)) : ProperSpec found := by
      obtain ⟨⟨phrase, final⟩, htype, heq⟩ := Option.map_eq_some_iff.mp hread
      cases heq
      exact ⟨hword, hphrases true _ _ _ htype⟩
    split at h
    · next hfirst hsecond =>
        split at h
        · cases h
          exact hgeneric hfirst
        · cases h
          exact hplain hsecond
    · next hfirst hsecond =>
        cases h
        exact hgeneric hfirst
    · exact hplain h

theorem readSpecs_gives :
    Reader.Gives (readSpecs phrases) fun specs => ∀ spec ∈ specs, ProperSpec spec := by
  intro ts specs rest h
  rw [readSpecs] at h
  split at h
  · exact terminated_gives (readSpec_gives hphrases) _ _ _ _ _ _ h
  · obtain ⟨⟨spec, after⟩, hread, heq⟩ := Option.map_eq_some_iff.mp h
    cases heq
    exact List.forall_mem_singleton.mpr (readSpec_gives hphrases _ _ _ hread)

/-- Whether an item of a file declares proper types only. -/
def ProperItem : Item → Prop
  | .types specs => ∀ spec ∈ specs, ProperSpec spec
  | _ => True

theorem readItem_gives : Reader.Gives (readItem phrases) fun found => ProperItem found.item := by
  intro ts found rest h
  -- an item of no interest, of whatever kind
  have hother {mayEnd : Bool} {done : Option (Unit × List Token)}
      (hread : (done.map fun read => (ItemPhrase.mk Item.other mayEnd, read.2))
        = some (found, rest)) : ProperItem found.item := by
    obtain ⟨⟨_, after⟩, -, heq⟩ := Option.map_eq_some_iff.mp hread
    cases heq
    exact trivial
  cases ts with
  | nil => cases h
  | cons token others =>
      rw [readItem] at h
      simp only at h
      split at h
      · obtain ⟨⟨name, after⟩, -, heq⟩ := Option.map_eq_some_iff.mp h
        cases heq
        exact trivial
      split at h
      · exact hother h
      split at h
      · rcases Option.or_eq_some_iff.mp h with hfirst | ⟨-, hstatement⟩
        · rcases Option.or_eq_some_iff.mp hfirst with hfunction | ⟨-, hmethod⟩
          · exact hother hfunction
          · exact hother hmethod
        · exact hother hstatement
      split at h
      · obtain ⟨⟨specs, after⟩, hread, heq⟩ := Option.map_eq_some_iff.mp h
        cases heq
        exact readSpecs_gives hphrases _ _ _ hread
      · exact hother h

omit hphrases in
/-- An item with its end is one that was read. -/
theorem readEndedItem_eq_some {item : Item} {ts rest : List Token}
    (h : readEndedItem phrases ts = some (item, rest)) :
    ∃ found after, readItem phrases ts = some (found, after) ∧ found.item = item := by
  unfold readEndedItem at h
  split at h
  · cases h
  · next found after hfound =>
      obtain ⟨_, -, heq⟩ := Option.map_eq_some_iff.mp h
      cases heq
      exact ⟨found, after, hfound, rfl⟩

/-- The items of a file are proper, up to the last. -/
theorem readItems_proper {count : Nat} {ts : List Token} {items : List Item}
    (h : readItems phrases count ts = some items) : ∀ item ∈ items, ProperItem item := by
  induction count generalizing ts items with
  | zero => cases h
  | succ count ih =>
      rw [readItems] at h
      split at h
      · cases h
        exact List.forall_mem_nil _
      split at h
      · cases h
      next item rest hitem =>
        obtain ⟨others, hothers, rfl⟩ := Option.map_eq_some_iff.mp h
        obtain ⟨found, after, hfound, rfl⟩ := readEndedItem_eq_some hitem
        exact List.forall_mem_cons.mpr ⟨readItem_gives hphrases _ _ _ hfound, ih hothers⟩

end

/-- The types that proper items declare are proper. -/
theorem specsOf_proper {items : List Item} (h : ∀ item ∈ items, ProperItem item) :
    ∀ spec ∈ specsOf items, ProperSpec spec := by
  induction items with
  | nil => exact List.forall_mem_nil _
  | cons item rest ih =>
      obtain ⟨hitem, hrest⟩ := List.forall_mem_cons.mp h
      cases item with
      | types specs =>
          intro spec hspec
          rcases List.mem_append.mp hspec with hhere | hlater
          · exact hitem spec hhere
          · exact ih hrest spec hlater
      | package name => exact ih hrest
      | other => exact ih hrest

/-- The declarations of a file have names for names and proper types. -/
theorem parse_proper {source path : String} {unit : SourceUnit} (h : parse source path = .ok unit)
    {declaration : Declaration} (hdeclaration : declaration ∈ unit.declarations) :
    isName declaration.name = true ∧ declaration.type.Proper := by
  obtain ⟨found, hitems, rfl⟩ := parse_eq_ok.mp h
  unfold items at hitems
  split at hitems
  · next ts hts =>
      have hspecs := specsOf_proper
        (readItems_proper (fun ends => phrases_proper ts.length ends) hitems)
      obtain ⟨spec, hspec, rfl⟩ := List.mem_map.mp hdeclaration
      obtain ⟨hname, htype⟩ := hspecs spec (List.mem_filter.mp hspec).1
      exact ⟨hname, htype.bind _⟩
  · cases hitems

end Go

end StructScript
