import StructScript.Proofs.BoundNames
import StructScript.Proofs.LineEnds

/-! # Lines and their levels

    The depth and the indentation go through a written type in several places, and the
    lines of an inline struct are spliced into the text around it.  None of this depends on
    what is written: a type has a layout that knows neither, and the text is read off it.

    * `Script.Block` is a text that goes over several lines, each below the first with a
      level, and `Script.Block.write_append` says that texts are spliced as blocks are;
    * `ScriptType.render_eq_write` reads the text of a type off its block, at every depth
      and for every indentation;
    * `LaysMembers` and `LaysStructs` say which line is which: where the lines of members
      stand, and where inline structs are closed;
    * `TypeExpr.lays_express` and `TypeExpr.unbroken_express_iff` follow the members of a Go
      type into the block that is made for it. -/

namespace StructScript

/-! ## Blocks of lines -/

namespace Script

/-- A line: how deep it stands, and what is written there. -/
structure Line where
  level : Nat
  content : String

/-- A text that starts on a given line and may go on below it. -/
structure Block where
  first : String
  more : List Line := []

/-- Lines of their own, each with its end. -/
def writeLines (indent : String) (depth : Int) : List Line → String
  | [] => ""
  | line :: rest =>
      indentation indent (depth + line.level) ++ line.content ++ "\n"
        ++ writeLines indent depth rest

/-- Lines that go on from another one. -/
def writeMore (indent : String) (depth : Int) : List Line → String
  | [] => ""
  | line :: rest =>
      "\n" ++ indentation indent (depth + line.level) ++ line.content
        ++ writeMore indent depth rest

namespace Block

/-- The text of a block below a line of the given depth. -/
def write (indent : String) (depth : Int) (block : Block) : String :=
  block.first ++ writeMore indent depth block.more

/-- A block behind lines: it goes on where the last of them ends. -/
def behind (block : Block) (first : String) : List Line → Block
  | [] => { first := first ++ block.first, more := block.more }
  | line :: rest =>
      let last := block.behind line.content rest
      { first, more := { line with content := last.first } :: last.more }

instance : Append Block where
  append block other := other.behind block.first block.more

/-- Blocks with commas between them. -/
def joined : List Block → Block
  | [] => { first := "" }
  | [block] => block
  | block :: next :: rest => block ++ { first := ", " } ++ joined (next :: rest)

/-- A block in parentheses where they are wanted. -/
def parenthesized (wanted : Bool) (block : Block) : Block :=
  if wanted then { first := "(" } ++ block ++ { first := ")" } else block

/-- A block whose first line is one of its own. -/
def lines (level : Nat) (block : Block) : List Line :=
  { level, content := block.first } :: block.more

end Block

end Script

open Script (Line Block)

/-- What stands on the line of a property before its type. -/
def openingOf (name : String) (optional : Bool) : String :=
  Script.propertyName name ++ (if optional then "?" else "") ++ ": "

/-- What stands behind the type of a property. -/
def endingOf (widened : Bool) : String :=
  (if widened then " | undefined" else "") ++ ";"

namespace ScriptType

mutual

/-- The layout of a type on a line of the given level. -/
def block (level : Nat) (tight : Bool) : ScriptType → Block
  | .named text => { first := text }
  | .orUndefined inner =>
      .parenthesized (tight || inner.isArray)
        (inner.block level false ++ { first := " | undefined" })
  | .array element => element.block level true ++ { first := "[]" }
  | .index key value =>
      { first := "\x7b [key: " } ++ key.block level false ++ { first := "]: " }
        ++ value.block level false ++ { first := " \x7d" }
  | .apply base arguments =>
      base.block level false ++ { first := "<" } ++ .joined (argumentBlocks level arguments)
        ++ { first := ">" }
  | .object properties =>
      { first := "\x7b"
        more := propertyLines (level + 1) properties ++ [{ level, content := "\x7d" }] }

/-- The layouts of arguments. -/
def argumentBlocks (level : Nat) : List ScriptType → List Block
  | [] => []
  | type :: rest => type.block level false :: argumentBlocks level rest

/-- The lines of properties at the given level. -/
def propertyLines (level : Nat) : List Property → List Line
  | [] => []
  | ⟨name, optional, type, widened⟩ :: rest =>
      ({ first := openingOf name optional } ++ type.block level false
          ++ { first := endingOf widened } : Block).lines level
        ++ propertyLines level rest

end

end ScriptType

/-! ## The text is read off the layout -/

namespace Script

section

variable (indent : String) (depth : Int)

theorem Block.append_def (block other : Block) :
    block ++ other = other.behind block.first block.more :=
  rfl

/-- Lines are written one after the other. -/
theorem writeLines_append (lines others : List Line) :
    writeLines indent depth (lines ++ others)
      = writeLines indent depth lines ++ writeLines indent depth others := by
  induction lines with
  | nil => exact String.empty_append.symm
  | cons line rest ih => simp only [List.cons_append, writeLines, ih, String.append_assoc]

/-- The break before each line, or behind it. -/
theorem newline_append_writeLines (lines : List Line) :
    "\n" ++ writeLines indent depth lines = writeMore indent depth lines ++ "\n" := by
  induction lines with
  | nil => rfl
  | cons line rest ih =>
      simp only [writeLines, writeMore, String.append_assoc, ih]

/-- Whole lines below a line that is begun, and a line that is not ended. -/
theorem writeMore_concat (lines : List Line) (last : Line) :
    writeMore indent depth (lines ++ [last])
      = "\n" ++ writeLines indent depth lines ++ indentation indent (depth + last.level)
        ++ last.content := by
  induction lines with
  | nil => simp only [List.nil_append, writeMore, writeLines, String.append_empty]
  | cons line rest ih =>
      simp only [List.cons_append, writeMore, writeLines, ih, String.append_assoc]

/-- A block behind lines is written behind them. -/
theorem Block.write_behind (block : Block) (first : String) (lines : List Line) :
    (block.behind first lines).write indent depth
      = first ++ writeMore indent depth lines ++ block.write indent depth := by
  induction lines generalizing first with
  | nil => simp only [behind, write, writeMore, String.append_assoc, String.empty_append]
  | cons line rest ih =>
      have hrest := ih line.content
      rw [write] at hrest
      simp only [behind, write, writeMore, String.append_assoc] at hrest ⊢
      rw [hrest]

/-- Blocks are written one behind the other. -/
theorem Block.write_append (block other : Block) :
    (block ++ other).write indent depth
      = block.write indent depth ++ other.write indent depth := by
  rw [append_def, write_behind]
  rfl

theorem Block.write_text (text : String) : Block.write indent depth { first := text } = text :=
  String.append_empty

/-- Brackets around a block are written around it. -/
theorem Block.write_parenthesized (wanted : Bool) (block : Block) :
    (Block.parenthesized wanted block).write indent depth
      = ScriptType.parenthesized wanted (block.write indent depth) := by
  cases wanted with
  | false => rfl
  | true =>
      show (({ first := "(" } : Block) ++ block ++ { first := ")" }).write indent depth = _
      rw [write_append, write_append, write_text, write_text]
      rfl

/-- Joined blocks are written with commas between them. -/
theorem Block.write_joined (blocks : List Block) :
    (Block.joined blocks).write indent depth
      = String.intercalate ", " (blocks.map (Block.write indent depth)) := by
  fun_induction Block.joined blocks with
  | case1 => exact write_text indent depth ""
  | case2 block => rfl
  | case3 block next rest ih =>
      rw [write_append, write_append, write_text, ih]
      exact String.intercalate_cons_cons.symm

/-- A block on lines of its own. -/
theorem Block.writeLines_lines (level : Nat) (block : Block) :
    writeLines indent depth (block.lines level)
      = indentation indent (depth + level) ++ block.write indent depth ++ "\n" := by
  simp only [lines, writeLines, write, String.append_assoc, newline_append_writeLines]

end

end Script

namespace ScriptType

variable (indent : String) (depth : Int)

/-- A property is written as its lines. -/
theorem propertyLine_eq (level : Nat) (name : String) (optional widened : Bool) (block : Block) :
    propertyLine (indentation indent (depth + level)) name optional widened
        (block.write indent depth)
      = Script.writeLines indent depth
          (({ first := openingOf name optional } ++ block ++ { first := endingOf widened }
            : Block).lines level) := by
  rw [Block.writeLines_lines, Block.write_append, Block.write_append, Block.write_text,
    Block.write_text, propertyLine, openingOf, endingOf]
  have hend : ";\n" = ";" ++ "\n" := rfl
  simp only [hend, String.append_assoc]

mutual

/-- A type on a line of a level is written as its layout there. -/
theorem render_eq_write : ∀ (type : ScriptType) (above : Nat) (tight : Bool),
    type.render indent (depth + above) tight = (type.block (above + 1) tight).write indent depth
  | .named text, above, tight => by
      rw [render, block, Block.write_text]
  | .orUndefined inner, above, tight => by
      rw [render, block, Block.write_parenthesized, Block.write_append, Block.write_text,
        render_eq_write inner]
  | .array element, above, tight => by
      rw [render, block, Block.write_append, Block.write_text, render_eq_write element]
  | .index key value, above, tight => by
      rw [render, block, Block.write_append, Block.write_append, Block.write_append,
        Block.write_append, Block.write_text, Block.write_text, Block.write_text,
        render_eq_write key, render_eq_write value]
  | .apply base arguments, above, tight => by
      rw [render, block, Block.write_append, Block.write_append, Block.write_append,
        Block.write_text, Block.write_text, Block.write_joined, render_eq_write base,
        renderArguments_eq_write arguments]
  | .object properties, above, tight => by
      have hbelow : depth + (above : Int) + 1 = depth + ((above + 1 : Nat) : Int) := by omega
      have hopen : "\x7b\n" = "\x7b" ++ "\n" := rfl
      rw [render, block, hbelow, renderProperties_eq_write properties, Block.write,
        Script.writeMore_concat]
      simp only [hopen, String.append_assoc]

theorem renderArguments_eq_write : ∀ (types : List ScriptType) (above : Nat),
    renderArguments indent (depth + above) types
      = (argumentBlocks (above + 1) types).map (Block.write indent depth)
  | [], above => rfl
  | type :: rest, above => by
      rw [renderArguments, argumentBlocks, List.map_cons, render_eq_write type,
        renderArguments_eq_write rest]

theorem renderProperties_eq_write : ∀ (properties : List Property) (above : Nat),
    renderProperties indent (depth + above) properties
      = Script.writeLines indent depth (propertyLines (above + 1) properties)
  | [], above => rfl
  | ⟨name, optional, type, widened⟩ :: rest, above => by
      have hbelow : depth + (above : Int) + 1 = depth + ((above + 1 : Nat) : Int) := by omega
      rw [renderProperties, propertyLines, Script.writeLines_append, hbelow,
        render_eq_write type, propertyLine_eq, renderProperties_eq_write rest]

end

end ScriptType

/-! ## Which line is which -/

/-- The inline structs in the type of a member; one that is written as a string has none. -/
def Member.spots (member : Member) : List TypeExpr :=
  if member.asString then [] else member.type.spots

mutual

/-- Whether lines are those of members at a level: each member has its own line at the level,
    with the lines of its inline structs behind it. -/
inductive LaysMembers : Nat → List Member → List Line → Prop where
  | nil {level : Nat} : LaysMembers level [] []
  | cons {level : Nat} {member : Member} {rest : List Member} {text : String}
      {body others : List Line} :
      LaysStructs level member.spots body → LaysMembers level rest others →
      LaysMembers level (member :: rest)
        ({ level, content := openingOf member.name member.optional ++ text } :: body ++ others)

/-- Whether lines are those of the inline structs on a line of a level: the members of each
    stand one level deeper, and it is closed at the level of the line. -/
inductive LaysStructs : Nat → List TypeExpr → List Line → Prop where
  | nil {level : Nat} : LaysStructs level [] []
  | cons {level : Nat} {fields : List Field} {members : List Member} {rest : List TypeExpr}
      {inside : List Line} {text : String} {others : List Line} :
      collectMembers fields = .ok members → LaysMembers (level + 1) members inside →
      LaysStructs level rest others →
      LaysStructs level (.struct fields :: rest)
        (inside ++ { level, content := "\x7d" ++ text } :: others)

end

mutual

/-- The lines of members are no less deep than the members. -/
theorem LaysMembers.level_le : ∀ {level : Nat} {members : List Member} {lines : List Line},
    LaysMembers level members lines → ∀ line ∈ lines, level ≤ line.level
  | _, _, _, .nil, line, hline => by cases hline
  | _, _, _, .cons hbody hrest, line, hline => by
      rcases List.mem_append.mp hline with hhere | hothers
      · rcases List.mem_cons.mp hhere with rfl | hmore
        · exact Nat.le_refl _
        · exact hbody.level_le line hmore
      · exact hrest.level_le line hothers

/-- The lines of structs are no less deep than the structs. -/
theorem LaysStructs.level_le : ∀ {level : Nat} {spots : List TypeExpr} {lines : List Line},
    LaysStructs level spots lines → ∀ line ∈ lines, level ≤ line.level
  | _, _, _, .nil, line, hline => by cases hline
  | _, _, _, .cons _ hinside hrest, line, hline => by
      rcases List.mem_append.mp hline with hhere | hothers
      · exact Nat.le_of_succ_le (hinside.level_le line hhere)
      · rcases List.mem_cons.mp hothers with rfl | hmore
        · exact Nat.le_refl _
        · exact hrest.level_le line hmore

end

namespace Script.Block

/-- A block behind lines starts with their first text. -/
theorem exists_first_behind (block : Block) (first : String) (lines : List Line) :
    ∃ text, (block.behind first lines).first = first ++ text := by
  cases lines with
  | nil => exact ⟨block.first, rfl⟩
  | cons line rest => exact ⟨"", String.append_empty.symm⟩

/-- Only the last of the lines goes on, so lines before another one stay as they are. -/
theorem more_behind (block : Block) (first : String) (lines : List Line) (line : Line)
    (others : List Line) :
    (block.behind first (lines ++ line :: others)).more
      = lines ++ (block.behind line.content others).lines line.level := by
  induction lines generalizing first with
  | nil => rfl
  | cons before rest ih =>
      have hfirst : (block.behind before.content (rest ++ line :: others)).first
          = before.content := by
        cases rest with
        | nil => rfl
        | cons next more => rfl
      rw [List.cons_append, behind, ih before.content, hfirst]
      rfl

end Script.Block

namespace LaysStructs

/-- A text behind the last struct stands on the line that closes it. -/
theorem behind {block : Block} {others : List TypeExpr} : ∀ {level : Nat} {spots : List TypeExpr}
    {lines : List Line}, LaysStructs level spots lines → LaysStructs level others block.more →
      ∀ first : String, LaysStructs level (spots ++ others) (block.behind first lines).more
  | _, _, _, .nil, hothers, first => hothers
  | level, _, _, @LaysStructs.cons _ _ _ _ _ text rest hmembers hinside hrest, hothers, first => by
      rw [Block.more_behind, Block.lines]
      have hmore := hrest.behind hothers ("\x7d" ++ text)
      obtain ⟨added, hadded⟩ := Block.exists_first_behind block ("\x7d" ++ text) rest
      simp only [hadded, String.append_assoc]
      exact .cons hmembers hinside hmore

variable {level : Nat} {spots others : List TypeExpr} {block next : Block}

/-- The structs of two blocks are laid out one after the other. -/
theorem append (h : LaysStructs level spots block.more)
    (hnext : LaysStructs level others next.more) :
    LaysStructs level (spots ++ others) (block ++ next).more :=
  h.behind hnext block.first

/-- A text in front of a block lays out nothing. -/
theorem text_append (text : String) (h : LaysStructs level spots block.more) :
    LaysStructs level spots (({ first := text } : Block) ++ block).more :=
  h

theorem append_text (h : LaysStructs level spots block.more) (text : String) :
    LaysStructs level spots (block ++ { first := text }).more := by
  have hboth : LaysStructs level (spots ++ []) (block ++ { first := text }).more := h.append .nil
  rwa [List.append_nil] at hboth

theorem parenthesized (h : LaysStructs level spots block.more) (wanted : Bool) :
    LaysStructs level spots (Block.parenthesized wanted block).more := by
  cases wanted with
  | false => exact h
  | true => exact (h.text_append "(").append_text ")"

end LaysStructs

/-- The structs of arguments are laid out argument by argument. -/
theorem lays_expressArguments {options : Options} {arguments : List TypeExpr} {level : Nat}
    (hargument : ∀ argument ∈ arguments, ∀ e, argument.express options = .ok e →
      ∀ tight, LaysStructs level argument.spots (e.type.block level tight).more)
    {imports : ImportSet} {found : List ScriptType × ImportSet}
    (h : expressArguments options imports arguments = .ok found) :
    LaysStructs level (spotsOfTypes arguments)
      (Block.joined (ScriptType.argumentBlocks level found.1)).more := by
  induction arguments generalizing imports found with
  | nil =>
      rw [expressArguments] at h
      cases h
      exact .nil
  | cons argument rest ih =>
      obtain ⟨e, others, he, hothers, rfl⟩ := expressArguments_cons h
      have hhere := hargument argument List.mem_cons_self e he false
      have hrest := ih (fun other hother => hargument other (List.mem_cons_of_mem _ hother))
        hothers
      rw [ScriptType.argumentBlocks, spotsOfTypes]
      cases rest with
      | nil =>
          rw [expressArguments] at hothers
          cases hothers
          rw [spotsOfTypes, List.append_nil]
          exact hhere
      | cons next more =>
          obtain ⟨e', others', -, -, rfl⟩ := expressArguments_cons hothers
          rw [ScriptType.argumentBlocks] at hrest ⊢
          exact (hhere.append_text ", ").append hrest

/-- Members are laid out one by one, each with the structs of its type. -/
theorem lays_expressEach {options : Options} {members : List Member} {level : Nat}
    (hmember : ∀ member ∈ members, ∀ e, member.type.express options = .ok e →
      ∀ tight, LaysStructs level member.type.spots (e.type.block level tight).more)
    {body : ExpressedBody} (h : expressEach options members = .ok body) :
    LaysMembers level members (ScriptType.propertyLines level body.properties) := by
  refine expressEach_induction (P := fun members properties =>
    LaysMembers level members (ScriptType.propertyLines level properties)) .nil ?_ h
  intro member hmem type htype rest properties hrest
  have hhere : LaysStructs level member.spots (type.block level false).more := by
    unfold Member.spots
    rcases htype with ⟨hstring, rfl⟩ | ⟨hstring, e, he, rfl⟩
    · rw [if_pos hstring]
      exact .nil
    · rw [if_neg (Bool.eq_false_iff.mp hstring)]
      exact hmember member hmem e he false
  rw [Member.property, ScriptType.propertyLines, Block.lines]
  -- the member's name stays at the front of its line, whatever comes behind the type
  obtain ⟨text, htext⟩ := Block.exists_first_behind
    { first := endingOf (member.pointer && options.widenPointers) }
    (openingOf member.name member.optional ++ (type.block level false).first)
    (type.block level false).more
  have hline : (({ first := openingOf member.name member.optional } : Block)
        ++ type.block level false
        ++ { first := endingOf (member.pointer && options.widenPointers) }).first
      = openingOf member.name member.optional ++ ((type.block level false).first ++ text) := by
    rw [← String.append_assoc]
    exact htext
  rw [hline]
  exact .cons ((hhere.text_append _).append_text _) hrest

/-- The inline structs of a Go type have their lines in its layout. -/
theorem TypeExpr.lays_express (options : Options) :
    ∀ (type : TypeExpr) (e : Expressed), type.express options = .ok e →
      ∀ (level : Nat) (tight : Bool),
        LaysStructs level type.spots (e.type.block level tight).more := by
  refine TypeExpr.express_induction ?_
  constructor
  case bytes =>
    intro level tight
    exact .nil
  case any =>
    intro level tight
    exact .nil
  case named =>
    intro name isLocal level tight
    exact .nil
  case selector =>
    intro package name level tight
    rw [TypeExpr.spots, expressSelector]
    cases options.scalar? package name with
    | some text => exact .nil
    | none => exact .nil
  case pointer =>
    intro inner e hinner level tight
    rw [TypeExpr.spots, ScriptType.block]
    exact ((hinner level false).append_text " | undefined").parenthesized _
  case slice =>
    intro element e helement level tight
    rw [TypeExpr.spots, ScriptType.block]
    exact (helement level true).append_text "[]"
  case map =>
    intro key value k v hkey hvalue level tight
    rw [TypeExpr.spots, ScriptType.block]
    exact ((((hkey level false).text_append "\x7b [key: ").append_text "]: ").append
      (hvalue level false)).append_text " \x7d"
  case generic =>
    intro base arguments b found _ hbase hargument hfound level tight
    rw [TypeExpr.spots, ScriptType.block]
    exact (((hbase level false).append_text "<").append
      (lays_expressArguments (fun argument hmem e he => hargument argument hmem e he level)
        hfound)).append_text ">"
  case struct =>
    intro fields members body hmembers hmember hbody level tight
    rw [TypeExpr.spots, ScriptType.block]
    have hinside := lays_expressEach (fun member hmem e he => hmember member hmem e he (level + 1))
      hbody
    have hclosed : LaysStructs level [.struct fields]
        (ScriptType.propertyLines (level + 1) body.properties
          ++ [{ level, content := "\x7d" ++ "" }]) := .cons hmembers hinside .nil
    exact hclosed

/-! ## Where lines are broken -/

open Script (Unbroken OneLine unbroken_append)

/-- Whether no line of a block is broken. -/
structure Script.Block.Unbroken (breaks : Char → Bool) (block : Block) : Prop where
  first : Script.Unbroken breaks block.first
  more : ∀ line ∈ block.more, Script.Unbroken breaks line.content

/-- Whether no text that a type writes by itself is broken: a name, the text for a type of
    another package, the names of members. -/
def TypeExpr.WritesUnbroken (breaks : Char → Bool) (options : Options) : TypeExpr → Prop
  | .named name _ => Unbroken breaks name
  | .selector package name => Unbroken breaks ((options.scalar? package name).getD name)
  | .struct fields =>
      ∀ members, collectMembers fields = .ok members →
        ∀ member ∈ members, Unbroken breaks member.name
  | _ => True

/-- Whether this holds of every place of a type that is written out. -/
def TypeExpr.ShowsUnbroken (breaks : Char → Bool) (options : Options) (type : TypeExpr) : Prop :=
  ∀ part : TypeExpr, part.ShownIn type → part.WritesUnbroken breaks options

section

variable {breaks : Char → Bool} {options : Options}

/-- A struct is unbroken if its members are, in names and types. -/
theorem TypeExpr.showsUnbroken_struct_iff {fields : List Field} {members : List Member}
    (h : collectMembers fields = .ok members) :
    (TypeExpr.struct fields).ShowsUnbroken breaks options
      ↔ ∀ member ∈ members, Unbroken breaks member.name
        ∧ (member.asString = false → member.type.ShowsUnbroken breaks options) := by
  unfold ShowsUnbroken
  rw [forall_shownIn_struct (fun _ => trivial) h]
  constructor
  · rintro ⟨hnames, htypes⟩ member hmem
    exact ⟨hnames members h member hmem, htypes member hmem⟩
  · intro hall
    refine ⟨fun found hfound member hmem => ?_, fun member hmem => (hall member hmem).2⟩
    cases h.symm.trans hfound
    exact (hall member hmem).1

namespace Script.Block

/-- A block is unbroken if its first text and its lines are. -/
theorem unbroken_iff {block : Block} :
    block.Unbroken breaks ↔ Script.Unbroken breaks block.first
      ∧ ∀ line ∈ block.more, Script.Unbroken breaks line.content :=
  ⟨fun h => ⟨h.first, h.more⟩, fun h => ⟨h.1, h.2⟩⟩

theorem unbroken_text {text : String} :
    Block.Unbroken breaks { first := text } ↔ Script.Unbroken breaks text := by
  rw [unbroken_iff]
  exact and_iff_left (List.forall_mem_nil _)

/-- The lines of a block are unbroken if the block is. -/
theorem unbroken_lines {block : Block} (level : Nat) :
    (∀ line ∈ block.lines level, Script.Unbroken breaks line.content)
      ↔ block.Unbroken breaks := by
  rw [lines, List.forall_mem_cons, unbroken_iff]

/-- A block behind lines is unbroken if both are. -/
theorem unbroken_behind {block : Block} (first : String) (lines : List Line) :
    (block.behind first lines).Unbroken breaks
      ↔ (Script.Unbroken breaks first ∧ ∀ line ∈ lines, Script.Unbroken breaks line.content)
        ∧ block.Unbroken breaks := by
  induction lines generalizing first with
  | nil =>
      rw [behind, unbroken_iff, unbroken_append, and_assoc, ← @unbroken_iff _ block]
      exact and_congr_left fun _ => (and_iff_left (List.forall_mem_nil _)).symm
  | cons line rest ih =>
      rw [behind, unbroken_iff, List.forall_mem_cons, List.forall_mem_cons,
        ← @unbroken_iff _ (block.behind line.content rest), ih]
      simp only [and_assoc]

/-- A block of two is broken where one of them is. -/
theorem unbroken_append {block next : Block} :
    (block ++ next).Unbroken breaks ↔ block.Unbroken breaks ∧ next.Unbroken breaks := by
  rw [append_def, unbroken_behind, ← unbroken_iff]

variable (hbreaks : Script.AreLineEnds breaks)

include hbreaks

/-- The texts that stand in every type of themselves are not broken. -/
theorem unbroken_fixed {text : String} (h : OneLine text) :
    Block.Unbroken breaks { first := text } :=
  unbroken_text.mpr (h.unbroken hbreaks)

theorem unbroken_parenthesized {block : Block} (wanted : Bool) :
    (Block.parenthesized wanted block).Unbroken breaks ↔ block.Unbroken breaks := by
  cases wanted with
  | false => exact Iff.rfl
  | true =>
      show (({ first := "(" } : Block) ++ block ++ { first := ")" }).Unbroken breaks ↔ _
      rw [unbroken_append, unbroken_append, and_iff_right (unbroken_fixed hbreaks (by decide)),
        and_iff_left (unbroken_fixed hbreaks (by decide))]

/-- Joined blocks are unbroken if each is. -/
theorem unbroken_joined (blocks : List Block) :
    (Block.joined blocks).Unbroken breaks ↔ ∀ block ∈ blocks, block.Unbroken breaks := by
  fun_induction Block.joined blocks with
  | case1 => exact iff_of_true (unbroken_fixed hbreaks (by decide)) (List.forall_mem_nil _)
  | case2 block => rw [List.forall_mem_singleton]
  | case3 block next rest ih =>
      rw [unbroken_append, unbroken_append, ih, and_iff_left (unbroken_fixed hbreaks (by decide))]
      exact List.forall_mem_cons.symm

end Script.Block

variable (hbreaks : Script.AreLineEnds breaks)

include hbreaks

/-- The opening of a property is unbroken if its name is. -/
theorem unbroken_openingOf_iff (name : String) (optional : Bool) :
    Unbroken breaks (openingOf name optional) ↔ Unbroken breaks name := by
  have hmark : Unbroken breaks (if optional then "?" else "") := by
    cases optional with
    | true => exact OneLine.unbroken hbreaks (by decide)
    | false => exact OneLine.unbroken hbreaks (by decide)
  rw [openingOf, unbroken_append, unbroken_append, and_iff_left hmark,
    and_iff_left (OneLine.unbroken hbreaks (by decide)),
    Script.unbroken_propertyName_iff hbreaks]

/-- The ending of a property is unbroken. -/
theorem unbroken_endingOf (widened : Bool) : Unbroken breaks (endingOf widened) := by
  cases widened with
  | true => exact OneLine.unbroken hbreaks (by decide)
  | false => exact OneLine.unbroken hbreaks (by decide)

/-- A primitive name is unbroken if the name that it stands for is. -/
theorem unbroken_primitiveName_iff (name : String) :
    Unbroken breaks (primitiveName name) ↔ Unbroken breaks name := by
  unfold primitiveName
  split
  · next hbool =>
      rw [beq_iff_eq.mp hbool]
      exact iff_of_true (OneLine.unbroken hbreaks (by decide))
        (OneLine.unbroken hbreaks (by decide))
  · split
    · next hnumber =>
        have hnumbers : numberNames.all (fun name => OneLine name) = true := by decide
        have hname : OneLine name :=
          of_decide_eq_true (List.all_eq_true.mp hnumbers name (List.contains_iff_mem.mp hnumber))
        exact iff_of_true (OneLine.unbroken hbreaks (by decide)) (hname.unbroken hbreaks)
    · exact Iff.rfl

omit hbreaks in
/-- The blocks of arguments are unbroken if the arguments are. -/
theorem unbroken_argumentBlocks_iff {arguments : List TypeExpr} {level : Nat}
    {Q : TypeExpr → Prop} (hargument : ∀ argument ∈ arguments, ∀ e,
      argument.express options = .ok e →
        ((e.type.block level false).Unbroken breaks ↔ Q argument))
    {imports : ImportSet} {found : List ScriptType × ImportSet}
    (h : expressArguments options imports arguments = .ok found) :
    (∀ block ∈ ScriptType.argumentBlocks level found.1, block.Unbroken breaks)
      ↔ ∀ argument ∈ arguments, Q argument := by
  refine expressArguments_induction (P := fun arguments types =>
    (∀ block ∈ ScriptType.argumentBlocks level types, block.Unbroken breaks)
      ↔ ∀ argument ∈ arguments, Q argument)
    (iff_of_true (List.forall_mem_nil _) (List.forall_mem_nil _)) ?_ h
  intro argument hmem e he rest types hrest
  rw [ScriptType.argumentBlocks, List.forall_mem_cons, List.forall_mem_cons,
    hargument argument hmem e he, hrest]

/-- The lines of members are broken where the name of a member is, or its type. -/
theorem unbroken_propertyLines_iff {members : List Member} {level : Nat} {Q : Member → Prop}
    (hmember : ∀ member ∈ members, member.asString = false → ∀ e,
      member.type.express options = .ok e →
        ((e.type.block level false).Unbroken breaks ↔ Q member))
    {body : ExpressedBody} (h : expressEach options members = .ok body) :
    (∀ line ∈ ScriptType.propertyLines level body.properties, Unbroken breaks line.content)
      ↔ ∀ member ∈ members,
        Unbroken breaks member.name ∧ (member.asString = false → Q member) := by
  refine expressEach_induction (P := fun members properties =>
    (∀ line ∈ ScriptType.propertyLines level properties, Unbroken breaks line.content)
      ↔ ∀ member ∈ members,
        Unbroken breaks member.name ∧ (member.asString = false → Q member))
    (iff_of_true (List.forall_mem_nil _) (List.forall_mem_nil _)) ?_ h
  intro member hmem type htype rest properties hrest
  have hblock : (type.block level false).Unbroken breaks
      ↔ (member.asString = false → Q member) := by
    rcases htype with ⟨hstring, rfl⟩ | ⟨hstring, e, he, rfl⟩
    · rw [ScriptType.block]
      refine iff_of_true (Block.unbroken_fixed hbreaks (by decide)) fun hnot => ?_
      cases hstring.symm.trans hnot
    · rw [hmember member hmem hstring e he]
      exact ⟨fun hq _ => hq, fun hq => hq hstring⟩
  rw [Member.property, ScriptType.propertyLines, List.forall_mem_append, List.forall_mem_cons,
    hrest, Block.unbroken_lines, Block.unbroken_append, Block.unbroken_append, Block.unbroken_text,
    Block.unbroken_text, unbroken_openingOf_iff hbreaks, hblock,
    and_iff_left (unbroken_endingOf hbreaks _)]

/-- A layout is broken within a line exactly where a text is that the type writes. -/
theorem TypeExpr.unbroken_express_iff :
    ∀ (type : TypeExpr) (e : Expressed), type.express options = .ok e →
      ∀ (level : Nat) (tight : Bool),
        (e.type.block level tight).Unbroken breaks ↔ type.ShowsUnbroken breaks options := by
  refine TypeExpr.express_induction (P := fun type e => ∀ (level : Nat) (tight : Bool),
    (e.type.block level tight).Unbroken breaks ↔ type.ShowsUnbroken breaks options) ?_
  have hfixed : ∀ {text : String}, OneLine text → Block.Unbroken breaks { first := text } :=
    Block.unbroken_fixed hbreaks
  unfold ShowsUnbroken
  constructor
  case bytes =>
    intro level tight
    rw [ScriptType.block, forall_shownIn_leaf rfl]
    exact iff_of_true (hfixed (by decide)) trivial
  case any =>
    intro level tight
    rw [ScriptType.block, forall_shownIn_leaf rfl]
    exact iff_of_true (hfixed (by decide)) trivial
  case named =>
    intro name isLocal level tight
    rw [expressName, ScriptType.block, forall_shownIn_leaf rfl, Block.unbroken_text]
    exact unbroken_primitiveName_iff hbreaks name
  case selector =>
    intro package name level tight
    have htext : (expressSelector options package name).type.block level tight
        = { first := (options.scalar? package name).getD name } := by
      unfold expressSelector
      cases options.scalar? package name with
      | none => rfl
      | some text => rfl
    rw [htext, forall_shownIn_leaf rfl, Block.unbroken_text]
    exact Iff.rfl
  case pointer =>
    intro inner e hinner level tight
    rw [ScriptType.block, Block.unbroken_parenthesized hbreaks, Block.unbroken_append,
      and_iff_left (hfixed (by decide)), hinner, forall_shownIn_pointer]
    exact (and_iff_right trivial).symm
  case slice =>
    intro element e helement level tight
    rw [ScriptType.block, Block.unbroken_append, and_iff_left (hfixed (by decide)), helement,
      forall_shownIn_slice]
    exact (and_iff_right trivial).symm
  case map =>
    intro key value k v hkey hvalue level tight
    rw [ScriptType.block, Block.unbroken_append, Block.unbroken_append, Block.unbroken_append,
      Block.unbroken_append, and_iff_right (hfixed (by decide)), and_iff_left (hfixed (by decide)),
      and_iff_left (hfixed (by decide)), hkey, hvalue, forall_shownIn_map]
    exact (and_iff_right trivial).symm
  case generic =>
    intro base arguments b found _ hbase hargument hfound level tight
    have hblocks := unbroken_argumentBlocks_iff
      (fun argument hmem e he => hargument argument hmem e he level false) hfound
    rw [ScriptType.block, Block.unbroken_append, Block.unbroken_append, Block.unbroken_append,
      Block.unbroken_joined hbreaks, and_iff_left (hfixed (by decide)),
      and_iff_left (hfixed (by decide)), hbase, hblocks, forall_shownIn_generic]
    exact (and_iff_right trivial).symm
  case struct =>
    intro fields members body hmembers hmember hbody level tight
    have hlines := unbroken_propertyLines_iff hbreaks (fun member hmem _ e he =>
      hmember member hmem e he (level + 1) false) hbody
    have hopening : Unbroken breaks "\x7b" := OneLine.unbroken hbreaks (by decide)
    have hclosing : Unbroken breaks "\x7d" := OneLine.unbroken hbreaks (by decide)
    rw [ScriptType.block, Block.unbroken_iff, and_iff_right hopening,
      List.forall_mem_append, List.forall_mem_singleton, and_iff_left hclosing, hlines]
    exact (showsUnbroken_struct_iff hmembers).symm

end

/-! ## The indentation decides nothing -/

/-- Expressing members does not depend on the indentation. -/
theorem expressMembers_indent (options : Options) (indent : String)
    (outcome : Except Fault Expressed) (members : List Member) :
    expressMembers { options with indent } outcome members
      = expressMembers options outcome members := by
  induction members with
  | nil => rfl
  | cons member rest ih =>
      rw [expressMembers, expressMembers, ih]
      rfl

mutual

/-- Neither the type made for a Go type nor a fault depends on the indentation. -/
theorem TypeExpr.express_indent (options : Options) (indent : String) :
    ∀ type : TypeExpr, type.express { options with indent } = type.express options
  | .pointer inner => by
      rw [TypeExpr.express, TypeExpr.express, inner.express_indent]
  | .bytes => rfl
  | .slice element => by
      rw [TypeExpr.express, TypeExpr.express, element.express_indent]
  | .struct fields => by
      rw [TypeExpr.express, TypeExpr.express, expressFields_indent options indent fields]
  | .named name isLocal => rfl
  | .selector package name => rfl
  | .map key value => by
      rw [TypeExpr.express, TypeExpr.express, key.express_indent, value.express_indent]
  | .any => rfl
  | .generic base arguments => by
      rw [TypeExpr.express, TypeExpr.express, base.express_indent]
      simp only [expressArguments_indent options indent arguments]
  | .other text form => rfl

theorem expressArguments_indent (options : Options) (indent : String) :
    ∀ (arguments : List TypeExpr) (imports : ImportSet),
      expressArguments { options with indent } imports arguments
        = expressArguments options imports arguments
  | [], imports => rfl
  | argument :: rest, imports => by
      rw [expressArguments, expressArguments, argument.express_indent]
      simp only [expressArguments_indent options indent rest]

theorem expressFields_indent (options : Options) (indent : String) :
    ∀ fields : List Field, expressFields { options with indent } fields
      = expressFields options fields
  | [] => rfl
  | ⟨names, type, tag⟩ :: rest => by
      rw [expressFields, expressFields, type.express_indent,
        expressFields_indent options indent rest]
      simp only [expressMembers_indent]

end

theorem expressStruct_indent (options : Options) (indent : String) (fields : List Field) :
    expressStruct { options with indent } fields = expressStruct options fields := by
  rw [expressStruct, expressStruct, expressFields_indent]

/-! ## The layout of a Go type -/

/-- The layout of a Go type with the imports it needs. -/
def TypeExpr.layout (options : Options) (tight : Bool) (type : TypeExpr) :
    Except Fault (Block × ImportSet) :=
  (type.express options).map fun e => (e.type.block 1 tight, e.imports)

/-- The lines of the fields of a struct with the imports they need. -/
def layoutOfFields (options : Options) (fields : List Field) :
    Except Fault (List Line × ImportSet) :=
  (expressStruct options fields).map fun body =>
    (ScriptType.propertyLines 1 body.properties, body.imports)

/-- A type is written as its layout, whatever the indentation and the depth. -/
theorem TypeExpr.write_eq_layout (options : Options) (indent : String) (depth : Int) (tight : Bool)
    (type : TypeExpr) :
    type.write { options with indent } depth tight
      = (type.layout options tight).map fun found => (found.1.write indent depth, found.2) := by
  rw [TypeExpr.write, TypeExpr.express_indent, TypeExpr.layout]
  cases type.express options with
  | error fault => rfl
  | ok e =>
      have hrender := e.type.render_eq_write indent depth 0 tight
      rw [Int.natCast_zero, Int.add_zero] at hrender
      show Except.ok (e.type.render indent depth tight, e.imports) = _
      rw [hrender]
      rfl

theorem writeFields_eq_layout (options : Options) (indent : String) (depth : Int)
    (fields : List Field) :
    writeFields { options with indent } depth fields
      = (layoutOfFields options fields).map fun found =>
          (Script.writeLines indent depth found.1, found.2) := by
  rw [writeFields, expressStruct_indent, layoutOfFields]
  cases expressStruct options fields with
  | error fault => rfl
  | ok body =>
      have hrender := ScriptType.renderProperties_eq_write indent depth body.properties 0
      rw [Int.natCast_zero, Int.add_zero] at hrender
      show Except.ok (ScriptType.renderProperties indent depth body.properties, body.imports) = _
      rw [hrender]
      rfl

/-- A type, and the fields of a struct, have a layout that knows neither the depth nor the
    indentation: lines with levels, and the imports, or a fault.  What is written at any depth
    with any indentation is read off it.  Below the first line all levels are at least one;
    the lines of the members of the list stand at level one, those of the members of an inline
    struct one level below the line that holds the struct, and the struct is closed at the
    level of that line.  A line end stands within a line exactly where a name brings it
    there, whichever characters are taken for line ends. -/
theorem layout_knows_neither_depth_nor_indentation (options : Options) :
    (∀ (type : TypeExpr) (tight : Bool), ∃ layout : Except Fault (Block × ImportSet),
      (∀ (indent : String) (depth : Int), type.write { options with indent } depth tight
        = layout.map fun found => (found.1.write indent depth, found.2))
      ∧ ∀ found, layout = .ok found →
        LaysStructs 1 type.spots found.1.more
          ∧ (∀ line ∈ found.1.more, 1 ≤ line.level)
          ∧ ∀ breaks : Char → Bool, Script.AreLineEnds breaks →
            (found.1.Unbroken breaks ↔ type.ShowsUnbroken breaks options))
    ∧ ∀ fields : List Field, ∃ layout : Except Fault (List Line × ImportSet),
      (∀ (indent : String) (depth : Int), writeFields { options with indent } depth fields
        = layout.map fun found => (Script.writeLines indent depth found.1, found.2))
      ∧ ∀ found, layout = .ok found →
        ∃ members, collectMembers fields = .ok members ∧ LaysMembers 1 members found.1
          ∧ (∀ line ∈ found.1, 1 ≤ line.level)
          ∧ ∀ breaks : Char → Bool, Script.AreLineEnds breaks →
            ((∀ line ∈ found.1, Unbroken breaks line.content)
              ↔ (TypeExpr.struct fields).ShowsUnbroken breaks options) := by
  constructor
  · intro type tight
    refine ⟨type.layout options tight, fun indent depth =>
      type.write_eq_layout options indent depth tight, fun found hfound => ?_⟩
    obtain ⟨e, he, rfl⟩ := map_eq_ok.mp hfound
    have hlays := type.lays_express options e he 1 tight
    exact ⟨hlays, hlays.level_le, fun breaks hbreaks =>
      type.unbroken_express_iff hbreaks e he 1 tight⟩
  · intro fields
    refine ⟨layoutOfFields options fields, fun indent depth =>
      writeFields_eq_layout options indent depth fields, fun found hfound => ?_⟩
    obtain ⟨body, hbody, rfl⟩ := map_eq_ok.mp hfound
    rw [expressStruct_eq] at hbody
    split at hbody
    · next members hmembers =>
        have hlays := lays_expressEach
          (fun member _ e he => member.type.lays_express options e he 1) hbody
        refine ⟨members, hmembers, hlays, hlays.level_le, fun breaks hbreaks => ?_⟩
        exact (unbroken_propertyLines_iff hbreaks (fun member _ _ e he =>
          member.type.unbroken_express_iff hbreaks e he 1 false) hbody).trans
            (TypeExpr.showsUnbroken_struct_iff hmembers).symm
    · cases hbody

end StructScript
