import ScriptGraph.Proofs.Emit.Coverage

/-!
# Where a statement stands

A control structure puts bodies between lines that open and close them.  A script is made of trees
of statements, and these of the bodies in them, one level deeper, and of the rest of the chain.
`Drawing.Placed` says at which depth a tree stands in the script.  Its lines are found there in one
piece (`Regular.isInfix_render`), and every node that control comes to, apart from the definitions
of functions, begins a tree that has its place (`Regular.placed_of_walked`).
-/

namespace ScriptGraph

/-- A body with the lines that open and close it. -/
structure Block where
  opening : String
  body : Statements
  closing : String

namespace Block

/-- The lines between opening and closing, one level deeper than these. -/
def bodyLines (width depth : Nat) (block : Block) : List String :=
  ScriptGraph.bodyLines width (depth + 1) (block.body.render width (depth + 1))

/-- The lines from opening to closing. -/
def lines (width depth : Nat) (block : Block) : List String :=
  pad width depth block.opening ::
    (block.bodyLines width depth ++ [pad width depth block.closing])

end Block

namespace Statements

/-- The bodies that the first statement holds. -/
def blocks : Statements → List Block
  | .done | .plain .. | .skip .. => []
  | .branch _ condition yes _ => [⟨"if " ++ condition ++ "; then", yes, "fi"⟩]
  | .branchElse _ condition yes no _ =>
    [⟨"if " ++ condition ++ "; then", yes, "else"⟩, ⟨"else", no, "fi"⟩]
  | .forEach _ name list body _ => [⟨"for " ++ name ++ " in " ++ list ++ "; do", body, "done"⟩]
  | .repeatWhile _ condition body _ => [⟨"while " ++ condition ++ "; do", body, "done"⟩]

/-- What comes after the first statement. -/
def rest? : Statements → Option Statements
  | .done => none
  | .plain _ _ rest | .skip _ rest | .branch _ _ _ rest | .branchElse _ _ _ _ rest
  | .forEach _ _ _ _ rest | .repeatWhile _ _ _ rest => some rest

variable {S T : Statements} {block : Block}

/-- A body stands between its lines where the statement stands. -/
theorem isInfix_lines (hblock : block ∈ S.blocks) (width depth : Nat) :
    block.lines width depth <:+: S.render width depth := by
  cases S with
  | done | plain | skip => cases hblock
  | branch node condition yes rest =>
      obtain rfl := List.mem_singleton.mp hblock
      exact ⟨[], rest.render width depth, by simp [Block.lines, Block.bodyLines, render]⟩
  | branchElse node condition yes no rest =>
      rcases List.mem_cons.mp hblock with rfl | hblock
      · exact ⟨[], _, by simp [Block.lines, Block.bodyLines, render]; rfl⟩
      · obtain rfl := List.mem_singleton.mp hblock
        refine ⟨pad width depth ("if " ++ condition ++ "; then") ::
          bodyLines width (depth + 1) (yes.render width (depth + 1)), rest.render width depth, ?_⟩
        simp [Block.lines, Block.bodyLines, render]
  | forEach node name list body rest =>
      obtain rfl := List.mem_singleton.mp hblock
      exact ⟨[], rest.render width depth, by simp [Block.lines, Block.bodyLines, render]⟩
  | repeatWhile node condition body rest =>
      obtain rfl := List.mem_singleton.mp hblock
      exact ⟨[], rest.render width depth, by simp [Block.lines, Block.bodyLines, render]⟩

/-- The rest of a chain ends its lines. -/
theorem isSuffix_rest (hrest : S.rest? = some T) (width depth : Nat) :
    T.render width depth <:+ S.render width depth := by
  have hend : ∀ (lines : List String) (closing : String),
      T.render width depth <:+ lines ++ closing :: T.render width depth :=
    fun lines closing => (List.suffix_cons closing _).trans (List.suffix_append lines _)
  cases S with
  | done => cases hrest
  | plain node text rest =>
      obtain rfl := Option.some.inj hrest
      exact List.suffix_append _ _
  | skip node rest =>
      obtain rfl := Option.some.inj hrest
      exact List.suffix_rfl
  | branch node condition yes rest =>
      obtain rfl := Option.some.inj hrest
      exact hend (_ :: _) _
  | branchElse node condition yes no rest =>
      obtain rfl := Option.some.inj hrest
      exact (hend (_ :: _) _).trans (List.suffix_append (_ :: _) _)
  | forEach node name list body rest =>
      obtain rfl := Option.some.inj hrest
      exact hend (_ :: _) _
  | repeatWhile node condition body rest =>
      obtain rfl := Option.some.inj hrest
      exact hend (_ :: _) _

end Statements

theorem Block.isInfix_render_lines (block : Block) (width depth : Nat) :
    block.body.render width (depth + 1) <:+: block.lines width depth := by
  have hbody : block.body.render width (depth + 1) <:+: block.bodyLines width depth := by
    unfold bodyLines ScriptGraph.bodyLines
    split
    · rename_i hempty
      rw [hempty]
      exact List.nil_infix
    · exact List.infix_rfl
  exact hbody.trans ⟨[pad width depth block.opening], [pad width depth block.closing], rfl⟩

/-- The body of a function between the lines that define it. -/
def Node.definition (n : Node) (body : Statements) : Block :=
  ⟨n.functionName ++ "() \x7b", body, "\x7d"⟩

namespace Drawing

variable {D : Drawing} {S T : Statements} {block : Block} {depth : Nat} {n m : Node}

/-- A definition is a block at the left margin, with an empty line behind it. -/
theorem definitionLines_eq (width : Nat) (n : Node) (body : Statements) :
    definitionLines width n body = (n.definition body).lines width 0 ++ [""] := by
  simp [definitionLines, Node.definition, Block.lines, Block.bodyLines, pad]

/-- A tree of statements stands in the script at a depth. -/
inductive Placed (D : Drawing) : Statements → Nat → Prop
  | main {S : Statements} : D.Chain D.first? S → Placed D S 0
  | function {n : Node} {S : Statements} : n ∈ D.hoisted → D.Chain (D.next? n "Exec") S →
      Placed D S 1
  | body {S : Statements} {block : Block} {depth : Nat} : Placed D S depth → block ∈ S.blocks →
      Placed D block.body (depth + 1)
  | rest {S T : Statements} {depth : Nat} : Placed D S depth → S.rest? = some T → Placed D T depth

/-- A body stands in the script, and its opening and closing lines at a depth. -/
inductive Opens (D : Drawing) : Block → Nat → Prop
  | function {n : Node} {body : Statements} : n ∈ D.hoisted → D.Chain (D.next? n "Exec") body →
      Opens D (n.definition body) 0
  | statement {S : Statements} {block : Block} {depth : Nat} : D.Placed S depth →
      block ∈ S.blocks → Opens D block depth

theorem Chain.of_mem_blocks {target : Option Node} (hchain : D.Chain target S)
    (hblock : block ∈ S.blocks) : ∃ target, D.Chain target block.body := by
  cases hchain with
  | stop | plain | skip => cases hblock
  | branch _ _ _ hbody | forEach _ hbody | repeatWhile _ _ hbody =>
      obtain rfl := List.mem_singleton.mp hblock
      exact ⟨_, hbody⟩
  | branchElse _ _ _ hyes hno =>
      rcases List.mem_cons.mp hblock with rfl | hblock
      · exact ⟨_, hyes⟩
      · obtain rfl := List.mem_singleton.mp hblock
        exact ⟨_, hno⟩

theorem Chain.of_rest? {target : Option Node} (hchain : D.Chain target S)
    (hrest : S.rest? = some T) : ∃ target, D.Chain target T := by
  cases hchain with
  | stop => cases hrest
  | plain _ _ h | skip _ _ _ h | branch _ _ _ _ h | branchElse _ _ _ _ _ h | forEach _ _ h
  | repeatWhile _ _ _ h =>
      obtain rfl := Option.some.inj hrest
      exact ⟨_, h⟩

/-- What has its place is what some chain stands for. -/
theorem Placed.exists_chain (hplaced : D.Placed S depth) : ∃ target, D.Chain target S := by
  induction hplaced with
  | main hchain | function _ hchain => exact ⟨_, hchain⟩
  | body _ hblock ih =>
      obtain ⟨_, hchain⟩ := ih
      exact hchain.of_mem_blocks hblock
  | rest _ hrest ih =>
      obtain ⟨_, hchain⟩ := ih
      exact hchain.of_rest? hrest

theorem Opens.exists_chain (hopens : D.Opens block depth) :
    ∃ target, D.Chain target block.body := by
  cases hopens with
  | function _ hchain => exact ⟨_, hchain⟩
  | statement hplaced hblock =>
      obtain ⟨_, hchain⟩ := hplaced.exists_chain
      exact hchain.of_mem_blocks hblock

/-- Where control goes on there is a body or the rest of the chain. -/
theorem Chain.part_of_follows (hwf : D.graph.WellFormed) (hn : n ∈ D.graph.nodes)
    (hchain : D.Chain (some n) S) (hfollows : D.Follows n m) :
    (∃ block ∈ S.blocks, D.Chain (some m) block.body) ∨
      ∃ T, S.rest? = some T ∧ D.Chain (some m) T := by
  obtain ⟨behaviour, hbehaviour, hmem⟩ := hfollows
  cases hchain with
  | plain hkind hplain hrest =>
      obtain rfl := Option.some.inj (hkind.symm.trans hbehaviour)
      rw [continuations_plain hplain, List.mem_singleton] at hmem
      exact Or.inr ⟨_, rfl, hmem ▸ hrest⟩
  | skip hkind hcases hguard hrest =>
      obtain rfl := Option.some.inj (hkind.symm.trans hbehaviour)
      have hnext : some m = D.next? n "Next" := by
        simp only [List.mem_cons, List.not_mem_nil, or_false] at hcases
        rcases hcases with rfl | rfl <;> simpa [continuations, hguard] using hmem
      exact Or.inr ⟨_, rfl, hnext ▸ hrest⟩
  | branch hkind hguard hfalse hyes hrest =>
      obtain rfl := Option.some.inj (hkind.symm.trans hbehaviour)
      simp only [continuations, hguard, next?_eq_none hwf hn hfalse, Option.isSome_some, if_true,
        List.mem_cons, List.not_mem_nil, or_false, reduceCtorEq, false_or] at hmem
      rcases hmem with hmem | hmem
      · exact Or.inl ⟨_, List.mem_singleton_self _, hmem ▸ hyes⟩
      · exact Or.inr ⟨_, rfl, hmem ▸ hrest⟩
  | branchElse hkind hguard hfalse hyes hno hrest =>
      obtain rfl := Option.some.inj (hkind.symm.trans hbehaviour)
      simp only [continuations, hguard, Option.isSome_some, if_true, List.mem_cons,
        List.not_mem_nil, or_false] at hmem
      rcases hmem with hmem | hmem | hmem
      · exact Or.inl ⟨_, List.mem_cons_self, hmem ▸ hyes⟩
      · exact Or.inl ⟨_, List.mem_cons_of_mem _ List.mem_cons_self, hmem ▸ hno⟩
      · exact Or.inr ⟨_, rfl, hmem ▸ hrest⟩
  | forEach hkind hbody hrest =>
      obtain rfl := Option.some.inj (hkind.symm.trans hbehaviour)
      simp only [continuations, List.mem_cons, List.not_mem_nil, or_false] at hmem
      rcases hmem with hmem | hmem
      · exact Or.inl ⟨_, List.mem_singleton_self _, hmem ▸ hbody⟩
      · exact Or.inr ⟨_, rfl, hmem ▸ hrest⟩
  | repeatWhile hkind hguard hbody hrest =>
      obtain rfl := Option.some.inj (hkind.symm.trans hbehaviour)
      simp only [continuations, hguard, Option.isSome_some, if_true, List.mem_cons,
        List.not_mem_nil, or_false] at hmem
      rcases hmem with hmem | hmem
      · exact Or.inl ⟨_, List.mem_singleton_self _, hmem ▸ hbody⟩
      · exact Or.inr ⟨_, rfl, hmem ▸ hrest⟩

namespace Regular

variable (h : D.Regular)
include h

/-- The lines of a function's body or of a statement's are found in the script. -/
theorem isInfix_lines_of_hoisted (hn : n ∈ D.hoisted) (hbody : D.Chain (D.next? n "Exec") S)
    (config : Config) :
    (n.definition S).lines config.indentWidth.toNat 0 <:+: scriptLines config (D.draft config) := by
  obtain ⟨main, bodies, hmain, hbodies⟩ := h.exists_statements
  obtain ⟨hfunctions, -⟩ := h.draft_eq hmain hbodies config
  obtain rfl := hbody.unique (hbodies n hn)
  have hdefinition : definitionLines config.indentWidth.toNat n (bodies n) <:+:
      (D.draft config).functions := by
    rw [hfunctions, List.flatMap_def]
    exact List.infix_of_mem_flatten (List.mem_map_of_mem hn)
  have hlines : (n.definition (bodies n)).lines config.indentWidth.toNat 0 <:+:
      definitionLines config.indentWidth.toNat n (bodies n) := by
    rw [definitionLines_eq]
    exact (List.prefix_append _ _).isInfix
  refine (hlines.trans hdefinition).trans ⟨header config, (D.draft config).main, rfl⟩

/-- The lines of a tree stand in the script in one piece. -/
theorem isInfix_render (hplaced : D.Placed S depth) (config : Config) :
    S.render config.indentWidth.toNat depth <:+: scriptLines config (D.draft config) := by
  induction hplaced with
  | main hchain =>
      obtain ⟨main, bodies, hmain, hbodies⟩ := h.exists_statements
      obtain ⟨-, hlines, -⟩ := h.draft_eq hmain hbodies config
      rw [hchain.unique hmain, ← hlines]
      exact (List.suffix_append _ _).isInfix
  | function hn hchain =>
      exact (Block.isInfix_render_lines _ _ _).trans (h.isInfix_lines_of_hoisted hn hchain config)
  | body _ hblock ih =>
      exact (Block.isInfix_render_lines _ _ _).trans
        ((Statements.isInfix_lines hblock _ _).trans ih)
  | rest _ hrest ih => exact (Statements.isSuffix_rest hrest _ _).isInfix.trans ih

/-- The lines of a block stand in the script in one piece. -/
theorem isInfix_lines (hopens : D.Opens block depth) (config : Config) :
    block.lines config.indentWidth.toNat depth <:+: scriptLines config (D.draft config) := by
  cases hopens with
  | function hn hchain => exact h.isInfix_lines_of_hoisted hn hchain config
  | statement hplaced hblock =>
      exact (Statements.isInfix_lines hblock _ _).trans (h.isInfix_render hplaced config)

/-- What control comes to begins a tree that has its place, unless it is the definition of a
function. -/
theorem placed_of_walked (hn : D.Walked n) (htag : n.tag ≠ NodeKind.function.tag) :
    ∃ S depth, D.Chain (some n) S ∧ D.Placed S depth := by
  obtain ⟨main, bodies, hmain, hbodies⟩ := h.exists_statements
  induction hn with
  | definition _ htag' => exact absurd htag' htag
  | @main start m hstart hnext =>
      have hfirst : D.first? = some m := by rw [first?, hstart, Option.bind_some, hnext]
      exact ⟨main, 0, hfirst ▸ hmain, .main hmain⟩
  | @body k m hk hktag hnext =>
      have hhoisted := h.mem_hoisted hk hktag
      exact ⟨bodies k, 1, hnext ▸ hbodies k hhoisted, .function hhoisted (hbodies k hhoisted)⟩
  | @step k m hk hfollows ih =>
      have hmem := h.mem_nodes_of_walked hk
      have hktag : k.tag ≠ NodeKind.function.tag :=
        fun hktag => h.not_follows_of_hoisted (h.mem_hoisted hmem hktag) hfollows
      obtain ⟨S, depth, hchain, hplaced⟩ := ih hktag
      rcases hchain.part_of_follows h.wellFormed hmem hfollows with
        ⟨block, hblock, hbody⟩ | ⟨T, hrest, hT⟩
      · exact ⟨_, _, hbody, hplaced.body hblock⟩
      · exact ⟨_, _, hT, hplaced.rest hrest⟩

end Regular

end Drawing

end ScriptGraph
