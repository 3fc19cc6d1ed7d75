import StructScript.Go.Flaw

/-! # The first flaw of a syntax tree

    A source that cannot be read is described by the first flaw in its tree.  The search for
    it goes into marked nodes only, and comes back out of those that have no flaw in them.
    The marks are given with the tree, and need not be right.

    * `SyntaxNode.preorder` lists all nodes of a tree, marked or not, each with the nodes that
      are passed on the way to it;
    * `SyntaxNode.firstFlaw?_eq_find?` says that the search finds the first flaw on that list
      that is reached over marked nodes, whatever the marks are;
    * `SyntaxNode.MarksFlaws.isExposed` says that every flaw is reached where no mark is
      missing, so that the search is then the one that looks everywhere. -/

namespace StructScript.Go

/-- Whether a node is a flaw: it is missing, or could not be read. -/
def SyntaxNode.isFlaw (node : SyntaxNode) : Bool :=
  node.kind == "ERROR" || node.missing

/-- Whether a node bears a mark that has the search go into it. -/
def SyntaxNode.isMarked (node : SyntaxNode) : Bool :=
  node.flawed || node.missing

/-- A node of a tree with the nodes that are passed on the way from the root to it.  The root
    is not among them, and any other node is the last of them itself. -/
structure Descent where
  passed : List SyntaxNode
  node : SyntaxNode

/-- A descent that starts one level higher. -/
def Descent.through (child : SyntaxNode) (descent : Descent) : Descent :=
  ⟨child :: descent.passed, descent.node⟩

/-- Whether a descent ends in a flaw and passes marked nodes only. -/
def Descent.isExposed (descent : Descent) : Bool :=
  descent.passed.all (·.isMarked) && descent.node.isFlaw

mutual

/-- The nodes of a tree in pre-order: the root, then the trees below it one by one. -/
def SyntaxNode.preorder : SyntaxNode → List Descent
  | ⟨kind, missing, flawed, line, column, first, past, children⟩ =>
      ⟨[], ⟨kind, missing, flawed, line, column, first, past, children⟩⟩ :: descentsInto children

/-- The nodes of trees that have one parent, seen from there. -/
def descentsInto : List SyntaxNode → List Descent
  | [] => []
  | child :: rest => child.preorder.map (Descent.through child) ++ descentsInto rest

end

/-- The nodes of a tree below its root, in pre-order. -/
def SyntaxNode.descents (root : SyntaxNode) : List Descent :=
  descentsInto root.children

/-- Whether a tree has a flaw in it, its root included. -/
def SyntaxNode.holdsFlaw (root : SyntaxNode) : Bool :=
  root.preorder.any (·.node.isFlaw)

/-- Whether every node below the root that has a flaw in it is marked.  Other nodes may be
    marked too. -/
def SyntaxNode.MarksFlaws (root : SyntaxNode) : Prop :=
  ∀ descent ∈ root.descents, descent.node.holdsFlaw = true → descent.node.isMarked = true

instance (root : SyntaxNode) : Decidable root.MarksFlaws :=
  inferInstanceAs (Decidable (∀ descent ∈ root.descents,
    descent.node.holdsFlaw = true → descent.node.isMarked = true))

/-! ## The two searches, one level at a time -/

/-- The descents from a node are the empty one and those through its children. -/
theorem SyntaxNode.preorder_eq (root : SyntaxNode) :
    root.preorder = ⟨[], root⟩ :: root.descents := by
  cases root with
  | mk kind missing flawed line column first past children =>
      rw [SyntaxNode.preorder]
      rfl

/-- A descent goes through a child first. -/
theorem SyntaxNode.descents_eq (root : SyntaxNode) :
    root.descents
      = root.children.flatMap fun child => child.preorder.map (Descent.through child) := by
  unfold SyntaxNode.descents
  induction root.children with
  | nil => rfl
  | cons child rest ih => rw [descentsInto, ih, List.flatMap_cons]

/-- The descents below a node, one by one. -/
theorem SyntaxNode.mem_descents {root : SyntaxNode} {descent : Descent} :
    descent ∈ root.descents
      ↔ ∃ child ∈ root.children, ∃ below ∈ child.preorder, below.through child = descent := by
  rw [SyntaxNode.descents_eq, List.mem_flatMap]
  simp only [List.mem_map]

/-- The first flaw of a node is the node itself or lies among its children. -/
theorem SyntaxNode.firstFlaw?_eq (root : SyntaxNode) :
    root.firstFlaw? = if root.isFlaw then some root else firstFlawAmong? root.children := by
  cases root with
  | mk kind missing flawed line column first past children =>
      rw [SyntaxNode.firstFlaw?]
      rfl

/-- What holds of a tree if it holds of the trees below its root holds of every tree. -/
theorem SyntaxNode.forall_of_children {P : SyntaxNode → Prop}
    (h : ∀ root : SyntaxNode, (∀ child ∈ root.children, P child) → P root) :
    ∀ root : SyntaxNode, P root
  | ⟨_, _, _, _, _, _, _, _⟩ => h _ fun child _ => SyntaxNode.forall_of_children h child

/-! ## The pruned search -/

/-- A descent is exposed if each node on its way is marked. -/
theorem Descent.isExposed_through (child : SyntaxNode) (descent : Descent) :
    (descent.through child).isExposed = (child.isMarked && descent.isExposed) := by
  rw [isExposed, isExposed, through, List.all_cons, Bool.and_assoc]

/-- Below a marked node the search goes on as from a root, below any other it does not. -/
theorem find?_map_through (child : SyntaxNode) :
    ((child.preorder.map (Descent.through child)).find? Descent.isExposed).map (·.node)
      = if child.isMarked then (child.preorder.find? Descent.isExposed).map (·.node)
        else none := by
  have hpredicate : Descent.isExposed ∘ Descent.through child
      = fun descent => child.isMarked && descent.isExposed := by
    funext descent
    exact descent.isExposed_through child
  rw [List.find?_map, hpredicate, Option.map_map]
  cases child.isMarked with
  | true => rfl
  | false =>
      have hnone : child.preorder.find? (fun descent => false && descent.isExposed) = none :=
        List.find?_eq_none.mpr fun _ _ => Bool.false_ne_true
      rw [hnone]
      rfl

/-- The first exposed flaw is the root, or it is below. -/
theorem SyntaxNode.find?_preorder (root : SyntaxNode) :
    (root.preorder.find? Descent.isExposed).map (·.node)
      = if root.isFlaw then some root
        else (root.descents.find? Descent.isExposed).map (·.node) := by
  have hroot : Descent.isExposed ⟨[], root⟩ = root.isFlaw := rfl
  rw [SyntaxNode.preorder_eq]
  by_cases hflaw : root.isFlaw = true
  · rw [if_pos hflaw, List.find?_cons_of_pos (hroot.trans hflaw)]
    rfl
  · rw [if_neg hflaw, List.find?_cons_of_neg (hroot ▸ hflaw)]

mutual

/-- The search finds the first flaw that is reached over marked nodes. -/
theorem SyntaxNode.firstFlaw?_eq_find? :
    ∀ root : SyntaxNode,
      root.firstFlaw? = (root.preorder.find? Descent.isExposed).map (·.node)
  | ⟨kind, missing, flawed, line, column, first, past, children⟩ => by
      rw [SyntaxNode.firstFlaw?_eq, SyntaxNode.find?_preorder]
      exact ite_congr rfl (fun _ => rfl) fun _ => firstFlawAmong?_eq_find? children

/-- The first flaw among nodes is the first exposed one. -/
theorem firstFlawAmong?_eq_find? :
    ∀ nodes : List SyntaxNode,
      firstFlawAmong? nodes = ((descentsInto nodes).find? Descent.isExposed).map (·.node)
  | [] => rfl
  | node :: rest => by
      rw [firstFlawAmong?, descentsInto, List.find?_append, Option.map_or, find?_map_through,
        ← node.firstFlaw?_eq_find?, ← firstFlawAmong?_eq_find? rest]
      show (if node.isMarked = true then _ else _) = _
      by_cases hmarked : node.isMarked = true
      · rw [if_pos hmarked, if_pos hmarked]
        cases node.firstFlaw? with
        | none => rfl
        | some flaw => rfl
      · rw [if_neg hmarked, if_neg hmarked]
        rfl

end

/-! ## Marks that are complete -/

/-- A node holds a flaw if there is a descent to one. -/
theorem SyntaxNode.holdsFlaw_iff {root : SyntaxNode} :
    root.holdsFlaw = true ↔ ∃ descent ∈ root.preorder, descent.node.isFlaw = true :=
  List.any_eq_true

/-- A tree below the root is marked as the whole tree is. -/
theorem SyntaxNode.MarksFlaws.child {root child : SyntaxNode} (h : root.MarksFlaws)
    (hchild : child ∈ root.children) : child.MarksFlaws := by
  intro descent hdescent
  have hbelow : descent ∈ child.preorder := by
    rw [SyntaxNode.preorder_eq]
    exact List.mem_cons_of_mem _ hdescent
  exact h (descent.through child) (SyntaxNode.mem_descents.mpr ⟨child, hchild, _, hbelow, rfl⟩)

/-- Where flaws are marked, a child that holds one is marked. -/
theorem SyntaxNode.MarksFlaws.isMarked {root child : SyntaxNode} (h : root.MarksFlaws)
    (hchild : child ∈ root.children) (hflaw : child.holdsFlaw = true) :
    child.isMarked = true := by
  have hself : (⟨[], child⟩ : Descent) ∈ child.preorder := by
    rw [SyntaxNode.preorder_eq]
    exact List.mem_cons_self
  exact h (Descent.through child ⟨[], child⟩)
    (SyntaxNode.mem_descents.mpr ⟨child, hchild, _, hself, rfl⟩) hflaw

/-- Where no mark is missing, every flaw is reached over marked nodes. -/
theorem SyntaxNode.MarksFlaws.isExposed :
    ∀ root : SyntaxNode, root.MarksFlaws → ∀ descent ∈ root.preorder,
      descent.node.isFlaw = true → descent.isExposed = true := by
  refine SyntaxNode.forall_of_children fun root ih hmarks descent hdescent hflaw => ?_
  rw [SyntaxNode.preorder_eq, List.mem_cons] at hdescent
  rcases hdescent with rfl | hbelow
  · exact hflaw
  · obtain ⟨child, hchild, below, hmem, rfl⟩ := SyntaxNode.mem_descents.mp hbelow
    have hmarked : child.isMarked = true :=
      hmarks.isMarked hchild (SyntaxNode.holdsFlaw_iff.mpr ⟨below, hmem, hflaw⟩)
    have hexposed : below.isExposed = true := ih child hchild (hmarks.child hchild) below hmem hflaw
    rw [Descent.isExposed_through, hmarked, hexposed]
    rfl

/-- Where no mark is missing, looking only at what is reached over marked nodes misses
    nothing. -/
theorem SyntaxNode.MarksFlaws.find?_eq {root : SyntaxNode} (h : root.MarksFlaws) :
    root.preorder.find? Descent.isExposed = root.preorder.find? (·.node.isFlaw) := by
  rw [← List.head?_filter, ← List.head?_filter]
  congr 1
  refine List.filter_congr fun descent hdescent => ?_
  rw [Bool.eq_iff_iff]
  constructor
  · intro hexposed
    exact (Bool.and_eq_true_iff.mp hexposed).2
  · exact SyntaxNode.MarksFlaws.isExposed root h descent hdescent

/-! ## Messages -/

/-- Whether a message gives the line and the column of a node, counted from one. -/
def NamesPlace (message : String) (node : SyntaxNode) : Prop :=
  ∃ detail, message = "syntax error at line " ++ toString (node.line + 1) ++ ", column "
    ++ toString (node.column + 1) ++ detail

/-- A description of the first flaw names its place. -/
theorem namesPlace_of_firstFlaw? {root flaw : SyntaxNode} (h : root.firstFlaw? = some flaw)
    (source : List UInt8) : NamesPlace (root.describe source) flaw := by
  have hplace : "syntax error" ++ flaw.place = "syntax error at line " ++ toString (flaw.line + 1)
      ++ ", column " ++ toString (flaw.column + 1) := by
    rw [SyntaxNode.place, ← String.append_assoc, ← String.append_assoc, ← String.append_assoc]
    rfl
  unfold SyntaxNode.describe
  rw [h]
  show NamesPlace (if flaw.missing = true then _ else _) flaw
  by_cases hmissing : flaw.missing = true
  · rw [if_pos hmissing, String.append_assoc, hplace]
    exact ⟨_, rfl⟩
  · rw [if_neg hmissing, String.append_assoc, hplace]
    exact ⟨_, rfl⟩

/-- The bare words name no place. -/
theorem not_namesPlace_syntax_error (node : SyntaxNode) : ¬ NamesPlace "syntax error" node := by
  rintro ⟨detail, hdetail⟩
  have hlength := congrArg String.length hdetail
  simp only [String.length_append] at hlength
  have hleft : "syntax error".length = 12 := by decide
  have hright : "syntax error at line ".length = 21 := by decide
  omega

/-- A message gives a place exactly if the search has found a flaw. -/
theorem exists_namesPlace_iff (root : SyntaxNode) (source : List UInt8) :
    (∃ node, NamesPlace (root.describe source) node) ↔ ∃ flaw, root.firstFlaw? = some flaw := by
  constructor
  · rintro ⟨node, hnode⟩
    cases hfound : root.firstFlaw? with
    | some flaw => exact ⟨flaw, rfl⟩
    | none =>
        have hplain : root.describe source = "syntax error" := by
          unfold SyntaxNode.describe
          rw [hfound]
        exact absurd (hplain ▸ hnode) (not_namesPlace_syntax_error node)
  · rintro ⟨flaw, hflaw⟩
    exact ⟨flaw, namesPlace_of_firstFlaw? hflaw source⟩

/-- The search finds a root that is a flaw, and else the first flaw below it that is reached
    over marked nodes; the message gives its place, and none exactly if there is no such flaw.
    Where no mark is missing it is the first flaw of the tree, and every tree with a flaw gets
    a place. -/
theorem pruned_search_agrees_with_full (root : SyntaxNode) (source : List UInt8) :
    (root.isFlaw = true → root.firstFlaw? = some root)
    ∧ (root.isFlaw = false →
      root.firstFlaw? = (root.descents.find? Descent.isExposed).map (·.node))
    ∧ (∀ flaw, root.firstFlaw? = some flaw → NamesPlace (root.describe source) flaw)
    ∧ ((∃ node, NamesPlace (root.describe source) node)
      ↔ ∃ descent ∈ root.preorder, descent.isExposed = true)
    ∧ (root.MarksFlaws →
      root.firstFlaw? = (root.preorder.find? (·.node.isFlaw)).map (·.node)
      ∧ (root.holdsFlaw = true →
        ∃ flaw, root.firstFlaw? = some flaw ∧ NamesPlace (root.describe source) flaw)) := by
  have hsearch := SyntaxNode.firstFlaw?_eq_find? root
  refine ⟨?_, ?_, fun flaw hflaw => namesPlace_of_firstFlaw? hflaw source, ?_, fun hmarks => ?_⟩
  · intro hflaw
    rw [SyntaxNode.firstFlaw?_eq, if_pos hflaw]
  · intro hflaw
    rw [hsearch, SyntaxNode.find?_preorder, hflaw]
    rfl
  · rw [exists_namesPlace_iff, hsearch, ← List.find?_isSome, ← Option.isSome_map,
      Option.isSome_iff_exists]
  · have hfull := hmarks.find?_eq ▸ hsearch
    refine ⟨hfull, fun hholds => ?_⟩
    obtain ⟨descent, hfound⟩ := Option.isSome_iff_exists.mp
      (List.find?_isSome.mpr (SyntaxNode.holdsFlaw_iff.mp hholds))
    have hflaw : root.firstFlaw? = some descent.node := by rw [hfull, hfound]; rfl
    exact ⟨descent.node, hflaw, namesPlace_of_firstFlaw? hflaw source⟩

/-- A tree with a marked node that has no flaw in it, a missing brace and, behind it, a piece
    that could not be read. -/
def tornTree : SyntaxNode :=
  { kind := "source_file", flawed := true
    children :=
      [{ kind := "package_clause", flawed := true
         children := [{ kind := "package_identifier", column := 8, first := 8, past := 9 }] },
       { kind := "type_declaration", flawed := true, line := 2, first := 11, past := 33
         children :=
           [{ kind := "type_identifier", line := 2, column := 5 },
            { kind := "struct_type", flawed := true, line := 2, column := 10
              children := [{ kind := "\x7d", missing := true, line := 4, column := 1 }] }] },
       { kind := "ERROR", flawed := true, line := 5, first := 34, past := 36 }] }

theorem pruned_search_agrees_with_full_on_torn :
    tornTree.MarksFlaws ∧ tornTree.holdsFlaw = true
    ∧ tornTree.firstFlaw? = (tornTree.preorder.find? (·.node.isFlaw)).map (·.node)
    ∧ (∃ flaw, tornTree.firstFlaw? = some flaw ∧ NamesPlace (tornTree.describe []) flaw)
    ∧ tornTree.describe [] = "syntax error at line 5, column 2: missing \x7d" := by
  have hmarks : tornTree.MarksFlaws := by decide
  have hholds : tornTree.holdsFlaw = true := by decide
  obtain ⟨hfull, hplace⟩ := (pruned_search_agrees_with_full tornTree []).2.2.2.2 hmarks
  exact ⟨hmarks, hholds, hfull, hplace hholds, by decide⟩

-- where a mark is missing, a flaw is not found
example : (SyntaxNode.firstFlaw?
    { kind := "source_file", children := [{ kind := "ERROR" }] }).isNone = true := by
  decide

end StructScript.Go
