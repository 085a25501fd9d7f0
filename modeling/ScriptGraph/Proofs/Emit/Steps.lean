import ScriptGraph.Proofs.Emit.Bounds

/-!
# The steps of a compilation

Whatever the edges of a drawing look like, and whatever a custom behaviour does, a draft changes in
a few ways only: a line is written, an assignment is noted, a node is asked for its statement, there
is a notice, or a body is written in a block, among the functions or inside of a node.
`Drawing.Evolves` lists these steps once for all, and the walk, the functions and the main part are
made of them (`evolves_walkWithin`, `evolves_hoist`, `evolves_writeMain`).  What holds at the end of
a compilation can be shown by induction on its steps.
-/

namespace ScriptGraph.Drawing

/-- What a compilation can make of a draft. -/
inductive Evolves (D : Drawing) : Draft → Draft → Prop
  | nothing (d : Draft) : Evolves D d d
  | comp {d d' d'' : Draft} : Evolves D d d' → Evolves D d' d'' → Evolves D d d''
  | line (d : Draft) (text : String) : Evolves D d (d.line text)
  | functionLine (d : Draft) (text : String) : Evolves D d (d.functionLine text)
  | assign (d : Draft) (name expression : String) : Evolves D d (d.assign name expression)
  /-- a node is asked for its statement, which leaves something besides its line -/
  | ask (d : Draft) {n : Node} {behaviour : Behaviour} : n ∈ D.graph.nodes →
      D.behaviour? n = some behaviour → Evolves D d (D.plainEffect n (d.ask n.id) behaviour)
  /-- a notice of another sort than those that statements leave -/
  | note (d : Draft) {notice : Notice} :
      (∀ id name, notice ≠ .warning (.undefinedFunction id name)) → Evolves D d (d.note notice)
  /-- a body one level deeper -/
  | block {d d' : Draft} : Evolves D d.indent d' → Evolves D d (d'.endBlock d)
  /-- a body among the functions -/
  | inFunction {d d' : Draft} : Evolves D d.beginFunction d' → Evolves D d (d'.endFunction d)
  /-- what is written inside of a node -/
  | visit {d d' : Draft} (n : Node) : n.id ∉ d.active → Evolves D (d.enter n.id) d' →
      Evolves D d (d'.leave n.id)

variable {D : Drawing} {n : Node}

theorem evolves_warn (d : Draft) {warning : Warning}
    (hother : ∀ id name, warning ≠ .undefinedFunction id name) : D.Evolves d (d.warn warning) := by
  refine .note d fun id name heq => hother id name ?_
  exact Notice.warning.inj heq

theorem evolves_line? (d : Draft) (text : Option String) : D.Evolves d (d.line? text) := by
  cases text with
  | none => exact .nothing d
  | some text =>
      rw [Draft.line?]
      split
      · exact .nothing d
      · exact .line d text

/-! ## Statements -/

section

variable {walk : Node → Draft → Draft} (hwalk : ∀ m ∈ D.graph.nodes, ∀ d, D.Evolves d (walk m d))
include hwalk

theorem evolves_followWith (n : Node) (output : String) (d : Draft) :
    D.Evolves d (D.followWith walk n output d) := by
  rw [followWith]
  cases hnext : D.next? n output with
  | none => exact .nothing d
  | some m => exact hwalk m (mem_nodes_of_next? hnext) d

theorem evolves_block (n : Node) (output : String) (d : Draft) :
    D.Evolves d (d.block (D.followWith walk n output)) :=
  .block (evolves_followWith hwalk n output d.indent)

/-- The last line of a control structure and what comes after it. -/
theorem evolves_close (n : Node) (closing : String) (d : Draft) :
    D.Evolves d (D.followWith walk n "Next" (d.line closing)) :=
  (Evolves.line d closing).comp (evolves_followWith hwalk n "Next" _)

theorem evolves_skipConstruct (n : Node) (construct : Construct) (d : Draft) :
    D.Evolves d (D.skipConstruct walk n construct d) := by
  have hwarn : D.Evolves d (d.warn (.missingCondition n.id n.title construct)) :=
    evolves_warn d fun id name heq => by cases heq
  exact hwarn.comp (evolves_followWith hwalk n "Next" _)

theorem evolves_writeBranch (n : Node) (d : Draft) : D.Evolves d (D.writeBranch walk n d) := by
  rw [writeBranch]
  cases D.resolveCondition D.condition? n "Condition" with
  | none => exact evolves_skipConstruct hwalk n .branch d
  | some condition =>
      have hopen : D.Evolves d (d.line ("if " ++ condition ++ "; then")) := .line d _
      have hthen := evolves_block hwalk n "True" (d.line ("if " ++ condition ++ "; then"))
      have helse : ∀ d' : Draft, D.Evolves d' (if outputConnected n "False" then
          (d'.line "else").block (D.followWith walk n "False") else d') := by
        intro d'
        split
        · exact (Evolves.line d' "else").comp (evolves_block hwalk n "False" _)
        · exact .nothing d'
      exact hopen.comp (hthen.comp ((helse _).comp (evolves_close hwalk n "fi" _)))

theorem evolves_writeForEach (n : Node) (d : Draft) : D.Evolves d (D.writeForEach walk n d) := by
  have hassign : D.Evolves d (d.assign (loopVariable n) "") := .assign d _ _
  have hbody : ∀ d' : Draft, D.Evolves d' (d'.block (D.followWith walk n "Loop Body")) :=
    evolves_block hwalk n "Loop Body"
  exact hassign.comp ((Evolves.line _ _).comp ((hbody _).comp (evolves_close hwalk n "done" _)))

theorem evolves_writeRepeatWhile (n : Node) (d : Draft) :
    D.Evolves d (D.writeRepeatWhile walk n d) := by
  rw [writeRepeatWhile]
  cases D.resolveCondition D.condition? n "Condition" with
  | none => exact evolves_skipConstruct hwalk n .loop d
  | some condition =>
      have hopen : D.Evolves d (d.line ("while " ++ condition ++ "; do")) := .line d _
      have hbody := evolves_block hwalk n "Body" (d.line ("while " ++ condition ++ "; do"))
      exact hopen.comp (hbody.comp (evolves_close hwalk n "done" _))

theorem evolves_writeDefinition (n : Node) (d : Draft) :
    D.Evolves d (D.writeDefinition walk n d) := by
  have hopen : D.Evolves d (d.functionLine (n.functionName ++ "() \x7b")) := .functionLine d _
  have hbody : ∀ d' : Draft,
      D.Evolves d' (d'.inFunction fun d => d.block (D.followWith walk n "Exec")) :=
    fun d' => .inFunction (evolves_block hwalk n "Exec" d'.beginFunction)
  exact hopen.comp ((hbody _).comp ((Evolves.functionLine _ "\x7d").comp (.functionLine _ "")))

theorem evolves_detourWith (hn : n ∈ D.graph.nodes) (d : Draft) (detour : Detour) :
    D.Evolves d (D.detourWith walk n d detour) := by
  cases detour with
  | follow output => exact evolves_followWith hwalk n output d
  | reenter => exact hwalk n hn d

theorem evolves_runCustom (hn : n ∈ D.graph.nodes) (d : Draft) (c : Custom) :
    D.Evolves d (D.runCustom walk n d c) := by
  rw [runCustom]
  generalize c.detours = detours
  induction detours generalizing d with
  | nil => exact .nothing d
  | cons detour detours ih => exact (evolves_detourWith hwalk hn d detour).comp (ih _)

/-- Asking a node for its statement is made of steps if the walk is. -/
theorem evolves_statementWith (hn : n ∈ D.graph.nodes) {behaviour : Behaviour}
    (hbehaviour : D.behaviour? n = some behaviour) (d : Draft) :
    D.Evolves d (D.statementWith walk n d behaviour).2 := by
  have hask : D.Evolves d (D.plainEffect n (d.ask n.id) behaviour) := .ask d hn hbehaviour
  cases behaviour with
  | branch => exact hask.comp (evolves_writeBranch hwalk n _)
  | forEach => exact hask.comp (evolves_writeForEach hwalk n _)
  | repeatWhile => exact hask.comp (evolves_writeRepeatWhile hwalk n _)
  | define => exact hask.comp (evolves_writeDefinition hwalk n _)
  | custom c => exact hask.comp (evolves_runCustom hwalk hn _ c)
  | _ => exact hask

theorem evolves_turn (hn : n ∈ D.graph.nodes) (d : Draft) :
    D.Evolves d (D.turn walk n d).1 := by
  rw [turn]
  cases hbehaviour : D.behaviour? n with
  | none => exact evolves_warn d fun id name heq => by cases heq
  | some behaviour =>
      exact (evolves_statementWith hwalk hn hbehaviour d).comp (evolves_line? _ _)

end

/-! ## The walk and the parts of a script -/

/-- However deep it may go, the walk is made of steps. -/
theorem evolves_walkWithin (depth : Nat) {n : Node} (hn : n ∈ D.graph.nodes) (d : Draft) :
    D.Evolves d (D.walkWithin depth n d) := by
  induction depth generalizing n d with
  | zero => exact .nothing d
  | succ depth ih =>
      have hwalk : ∀ m ∈ D.graph.nodes, ∀ d, D.Evolves d (D.walkWithin depth m d) :=
        fun m hm d => ih hm d
      rw [walkWithin_succ]
      split
      · exact .note d fun id name heq => by cases heq
      · rename_i hnew
        refine .visit n hnew ((evolves_turn hwalk hn (d.enter n.id)).comp ?_)
        cases hnext : (D.turn (D.walkWithin depth) n (d.enter n.id)).2 with
        | none => exact .nothing _
        | some m => exact hwalk m (mem_nodes_of_turn hnext) _

theorem evolves_walk (hn : n ∈ D.graph.nodes) (d : Draft) : D.Evolves d (D.walk n d) :=
  evolves_walkWithin D.walkDepth hn d

theorem evolves_hoist (hn : n ∈ D.graph.nodes) (d : Draft) : D.Evolves d (D.hoist n d) := by
  have hstatement : D.Evolves d (D.statement n d).2 := by
    rw [statement]
    cases hbehaviour : D.behaviour? n with
    | none => exact .nothing d
    | some behaviour =>
        exact evolves_statementWith (fun m hm d => evolves_walk hm d) hn hbehaviour d
  rw [hoist]
  generalize D.statement n d = result at hstatement
  obtain ⟨text, d'⟩ := result
  cases text with
  | none => exact hstatement
  | some text =>
      dsimp only
      split
      · exact hstatement
      · exact hstatement.comp (.functionLine d' text)

theorem evolves_foldl_hoist {nodes : List Node} (hnodes : nodes ⊆ D.graph.nodes) (d : Draft) :
    D.Evolves d (nodes.foldl (fun d n => D.hoist n d) d) := by
  induction nodes generalizing d with
  | nil => exact .nothing d
  | cons n nodes ih =>
      rw [List.cons_subset] at hnodes
      exact (evolves_hoist hnodes.1 d).comp (ih hnodes.2 _)

theorem evolves_writeMain (d : Draft) : D.Evolves d (D.writeMain d) := by
  rw [writeMain]
  cases D.graph.start? with
  | none => exact evolves_warn d fun id name heq => by cases heq
  | some start =>
      dsimp only
      cases hnext : D.successor? start with
      | none => exact .nothing d
      | some first => exact evolves_walk (mem_nodes_of_successor? hnext) d

/-- The draft in which the functions are declared and nothing is written yet. -/
def announced (D : Drawing) (config : Config) : Draft :=
  D.hoisted.foldl (fun d n => d.declare n.functionName) { width := config.indentWidth.toNat }

/-- Once the functions are declared, a compilation is made of steps. -/
theorem evolves_draft (D : Drawing) (config : Config) :
    D.Evolves (D.announced config) (D.draft config) :=
  (evolves_foldl_hoist (List.filter_subset_self _) _).comp (evolves_writeMain _)

end ScriptGraph.Drawing
