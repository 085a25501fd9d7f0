import ScriptGraph.Emit.Script
import ScriptGraph.Proofs.Emit.Growth
import ScriptGraph.Proofs.Session.Agreement

/-!
# The script of a drawing is the layout of its statements

The walk of `ScriptGraph.Emit.Walk` is bounded and remembers the nodes it is inside of.  In a
drawing without cycles neither of these ever shows: the nodes it is inside of lie upstream of the
one that it is about to enter, so they are others, and there are never more of them than nodes
(`Room`).  Hence the walk along a chain writes the statements that the chain stands for
(`Chain.writes`), by induction on the rules of `Chain`.

The functions and the main part are chains of their own, so a script consists of a header, the
layout of each function and the layout of the main part (`script_layout`).  The way on from a node
is the way along the edges of the graph (`alongEdges`).
-/

namespace ScriptGraph

open Relation

namespace Drawing

variable {D : Drawing}

/-! ## Room for the walk -/

/-- A walk that is about to enter a node while it is inside of others: these lie upstream, and the
bound leaves room for the nodes that the walk is not inside of yet. -/
structure Room (D : Drawing) (active : List NodeId) (bound : Nat) (m : Node) : Prop where
  mem_nodes : m ∈ D.graph.nodes
  upstream : ∀ a ∈ active, TransGen (Leads D.graph.edges) a m.id
  distinct : active.Nodup
  known : active ⊆ D.graph.nodes.map Node.id
  enough : D.graph.nodes.length < bound + active.length

namespace Room

variable {active : List NodeId} {bound : Nat} {n m : Node}

theorem notMem_active (hacyclic : Acyclic D.graph.edges) (h : D.Room active bound n) :
    n.id ∉ active :=
  fun hmem => hacyclic n.id (h.upstream n.id hmem)

theorem bound_pos (h : D.Room active bound n) : 0 < bound := by
  -- the walk is inside of different nodes, so of no more than there are
  have hlength := (List.subperm_of_subset h.distinct h.known).length_le
  rw [List.length_map] at hlength
  have := h.enough
  omega

/-- There is room for a node downstream once the walk has entered this one. -/
theorem step (hacyclic : Acyclic D.graph.edges) (h : D.Room active (bound + 1) n)
    (hm : m ∈ D.graph.nodes ∧ Leads D.graph.edges n.id m.id) : D.Room (n.id :: active) bound m where
  mem_nodes := hm.1
  upstream a ha := by
    rcases List.mem_cons.mp ha with rfl | ha
    · exact .single hm.2
    · exact (h.upstream a ha).tail hm.2
  distinct := List.nodup_cons.mpr ⟨h.notMem_active hacyclic, h.distinct⟩
  known := List.cons_subset.mpr ⟨List.mem_map_of_mem h.mem_nodes, h.known⟩
  enough := by
    have := h.enough
    rw [List.length_cons]
    omega

theorem start (hm : m ∈ D.graph.nodes) : D.Room [] D.walkDepth m where
  mem_nodes := hm
  upstream _ ha := absurd ha List.not_mem_nil
  distinct := List.nodup_nil
  known := List.nil_subset _
  enough := Nat.lt_succ_self _

end Room

/-! ## The walk writes the statements of its chain -/

/-- Walk on at a node, if there is one. -/
def walkOn (D : Drawing) (bound : Nat) (target : Option Node) (d : Draft) : Draft :=
  match target with
  | none => d
  | some m => D.walkWithin bound m d

/-- What the walk does inside of a node. -/
def pass (D : Drawing) (bound : Nat) (n : Node) (behaviour : Behaviour) (d : Draft) : Draft :=
  let (text, d) := D.statementWith (D.walkWithin bound) n d behaviour
  let d := d.line? text
  if behaviour.continues then D.walkOn bound (D.successor? n) d else d

theorem walkWithin_succ_eq {bound : Nat} {n : Node} {behaviour : Behaviour} {d : Draft}
    (hbehaviour : D.behaviour? n = some behaviour) (hnew : n.id ∉ d.active) :
    D.walkWithin (bound + 1) n d = (D.pass bound n behaviour (d.enter n.id)).leave n.id := by
  rw [walkWithin, if_neg hnew, hbehaviour]
  rfl

variable {active : List NodeId} {bound : Nat} {n : Node} {lines : Nat → Nat → List String}
  {nodes : List Node}

/-- A node that there is room for is entered and left, and then there is room for the nodes after it
as well. -/
theorem Room.walkOn_eq (hwf : D.graph.WellFormed) (hacyclic : Acyclic D.graph.edges)
    (hroom : D.Room active bound n) {behaviour : Behaviour}
    (hbehaviour : D.behaviour? n = some behaviour) :
    ∃ bound', (∀ m, D.successor? n = some m → D.Room (n.id :: active) bound' m) ∧
      (∀ output m, D.next? n output = some m → D.Room (n.id :: active) bound' m) ∧
      ∀ d : Draft, d.active = active → D.walkOn bound (some n) d =
        (D.pass bound' n behaviour (d.enter n.id)).leave n.id := by
  obtain ⟨bound, rfl⟩ := Nat.exists_eq_succ_of_ne_zero hroom.bound_pos.ne'
  refine ⟨bound, fun m hm => ?_, fun output m hm => ?_, fun d hactive => ?_⟩
  · exact hroom.step hacyclic (leads_of_successor? hwf hroom.mem_nodes hm)
  · exact hroom.step hacyclic (leads_of_next? hwf hroom.mem_nodes hm)
  · exact walkWithin_succ_eq hbehaviour (hactive ▸ hroom.notMem_active hacyclic)

/-- What is written along a chain is what is written inside of the node that it begins with. -/
theorem writes_walkOn (hwf : D.graph.WellFormed) (hacyclic : Acyclic D.graph.edges)
    (hroom : D.Room active bound n) {behaviour : Behaviour}
    (hbehaviour : D.behaviour? n = some behaviour)
    (hpass : ∀ bound, (∀ m, D.successor? n = some m → D.Room (n.id :: active) bound m) →
      (∀ output m, D.next? n output = some m → D.Room (n.id :: active) bound m) →
      D.Writes (n.id :: active) (D.pass bound n behaviour) lines nodes) :
    D.Writes active (D.walkOn bound (some n)) lines nodes := by
  obtain ⟨bound', hsuccessor, hnext, heq⟩ := hroom.walkOn_eq hwf hacyclic hbehaviour
  intro d hactive
  rw [heq d hactive]
  exact (hpass bound' hsuccessor hnext (d.enter n.id) (by rw [Draft.enter, hactive])).leave

/-- Apart from its line a plain statement writes nothing. -/
theorem grows_plainEffect (n : Node) (d : Draft) (behaviour : Behaviour) :
    d.Grows (D.plainEffect n d behaviour) [] [] [] := by
  unfold plainEffect
  split
  · split
    · exact Draft.Grows.refl d
    · split
      · exact Draft.Grows.refl d
      · exact d.grows_warn _
  · exact d.grows_assign _ _
  · exact Draft.Grows.refl d

theorem pass_plain {behaviour : Behaviour} (hplain : behaviour.isPlain = true) (d : Draft) :
    D.pass bound n behaviour d = D.walkOn bound (D.successor? n)
      ((D.plainEffect n (d.ask n.id) behaviour).line? (D.plainLine n behaviour)) := by
  cases behaviour <;> first | rfl | cases hplain

section

variable {condition : String}

theorem pass_skip (hguard : D.guard? n = none) {behaviour : Behaviour} {construct : Construct}
    (hconstruct : behaviour.construct? = some construct) (d : Draft) :
    D.pass bound n behaviour d = D.followWith (D.walkWithin bound) n "Next"
      ((d.ask n.id).warn (.missingCondition n.id n.title construct)) := by
  unfold guard? at hguard
  cases behaviour with
  | branch =>
      obtain rfl := Option.some.inj hconstruct
      change D.writeBranch (D.walkWithin bound) n (d.ask n.id) = _
      rw [writeBranch, hguard]
      rfl
  | repeatWhile =>
      obtain rfl := Option.some.inj hconstruct
      change D.writeRepeatWhile (D.walkWithin bound) n (d.ask n.id) = _
      rw [writeRepeatWhile, hguard]
      rfl
  | _ => cases hconstruct

theorem pass_branch (hguard : D.guard? n = some condition)
    (hfalse : outputConnected n "False" = false) (d : Draft) :
    D.pass bound n .branch d = D.followWith (D.walkWithin bound) n "Next"
      ((((d.ask n.id).line ("if " ++ condition ++ "; then")).block
        (D.followWith (D.walkWithin bound) n "True")).line "fi") := by
  unfold guard? at hguard
  change D.writeBranch (D.walkWithin bound) n (d.ask n.id) = _
  rw [writeBranch, hguard, hfalse]
  rfl

theorem pass_branchElse (hguard : D.guard? n = some condition)
    (hfalse : outputConnected n "False" = true) (d : Draft) :
    D.pass bound n .branch d = D.followWith (D.walkWithin bound) n "Next"
      ((((((d.ask n.id).line ("if " ++ condition ++ "; then")).block
        (D.followWith (D.walkWithin bound) n "True")).line "else").block
        (D.followWith (D.walkWithin bound) n "False")).line "fi") := by
  unfold guard? at hguard
  change D.writeBranch (D.walkWithin bound) n (d.ask n.id) = _
  rw [writeBranch, hguard, hfalse]
  rfl

theorem pass_repeatWhile (hguard : D.guard? n = some condition) (d : Draft) :
    D.pass bound n .repeatWhile d = D.followWith (D.walkWithin bound) n "Next"
      ((((d.ask n.id).line ("while " ++ condition ++ "; do")).block
        (D.followWith (D.walkWithin bound) n "Body")).line "done") := by
  unfold guard? at hguard
  change D.writeRepeatWhile (D.walkWithin bound) n (d.ask n.id) = _
  rw [writeRepeatWhile, hguard]

end

/-- The walk along a chain writes the statements that the chain stands for. -/
theorem Chain.writes (hwf : D.graph.WellFormed) (hacyclic : Acyclic D.graph.edges)
    {target : Option Node} {S : Statements} (hchain : D.Chain target S) {active : List NodeId}
    {bound : Nat} (hroom : ∀ m, target = some m → D.Room active bound m) :
    D.Writes active (D.walkOn bound target) (fun width depth => S.render width depth) S.nodes := by
  -- each rule says what the walk does inside of the node; its lines are put together from the
  -- last one to the first, since the rest of the chain comes last
  induction hchain generalizing active bound with
  | stop => exact Writes.nothing active
  | plain hbehaviour hplain _ ihRest =>
      refine writes_walkOn hwf hacyclic (hroom _ rfl) hbehaviour fun bound hsuccessor _ => ?_
      refine .congr (pass_plain hplain) ?_
      exact (((ihRest hsuccessor).after_line? _).after_silent
        (grows_plainEffect _ · _)).after_ask
          (omission?_of_behaviour hbehaviour (Behaviour.construct?_of_isPlain hplain))
  | skip hbehaviour hcases hguard _ ihRest =>
      refine writes_walkOn hwf hacyclic (hroom _ rfl) hbehaviour fun bound _ hnext => ?_
      obtain ⟨construct, hconstruct⟩ := Behaviour.exists_construct hcases
      refine .congr (pass_skip hguard hconstruct) ?_
      exact (ihRest (hnext _)).after_omission (omission?_of_construct hbehaviour hconstruct hguard)
  | branch hbehaviour hguard hfalse _ _ ihYes ihRest =>
      refine writes_walkOn hwf hacyclic (hroom _ rfl) hbehaviour fun bound _ hnext => ?_
      refine .congr (pass_branch hguard hfalse) ?_
      have hend := (ihRest (hnext _)).after_line (rfl : ("fi" : String).isEmpty = false)
      exact (((ihYes (hnext _)).after_block hend).after_line (by simp)).after_ask
        (omission?_of_guard hguard)
  | branchElse hbehaviour hguard hfalse _ _ _ ihYes ihNo ihRest =>
      refine writes_walkOn hwf hacyclic (hroom _ rfl) hbehaviour fun bound _ hnext => ?_
      refine .congr (pass_branchElse hguard hfalse) ?_
      have hend := (ihRest (hnext _)).after_line (rfl : ("fi" : String).isEmpty = false)
      have helse := ((ihNo (hnext _)).after_block hend).after_line
        (rfl : ("else" : String).isEmpty = false)
      exact (((ihYes (hnext _)).after_block helse).after_line (by simp)).after_ask
        (omission?_of_guard hguard)
  | forEach hbehaviour _ _ ihBody ihRest =>
      refine writes_walkOn hwf hacyclic (hroom _ rfl) hbehaviour fun bound _ hnext => ?_
      have hend := (ihRest (hnext _)).after_line (rfl : ("done" : String).isEmpty = false)
      exact ((((ihBody (hnext _)).after_block hend).after_line (by simp)).after_silent
        (·.grows_assign _ _)).after_ask (omission?_of_behaviour hbehaviour rfl)
  | repeatWhile hbehaviour hguard _ _ ihBody ihRest =>
      refine writes_walkOn hwf hacyclic (hroom _ rfl) hbehaviour fun bound _ hnext => ?_
      refine .congr (pass_repeatWhile hguard) ?_
      have hend := (ihRest (hnext _)).after_line (rfl : ("done" : String).isEmpty = false)
      exact (((ihBody (hnext _)).after_block hend).after_line (by simp)).after_ask
        (omission?_of_guard hguard)

/-! ## The functions -/

/-- The lines of the definition of a function. -/
def definitionLines (width : Nat) (n : Node) (body : Statements) : List String :=
  (n.functionName ++ "() \x7b") :: (bodyLines width 1 (body.render width 1) ++ ["\x7d", ""])

/-- Writing a definition adds its lines to the functions. -/
theorem hoists_writeDefinition {walk : Node → Draft → Draft} {body : Statements}
    (hbody : D.Writes [] (D.followWith walk n "Exec") (fun width depth => body.render width depth)
      body.nodes) {d : Draft} (hactive : d.active = []) :
    d.Hoists (D.writeDefinition walk n d) (definitionLines d.width n body) body.nodes
      (body.nodes.filterMap D.omission?) := by
  have hopen := d.hoists_functionLine (n.functionName ++ "() \x7b")
  have hblock : (d.functionLine (n.functionName ++ "() \x7b")).Hoists
      ((d.functionLine (n.functionName ++ "() \x7b")).inFunction fun d =>
        d.block (D.followWith walk n "Exec"))
      (bodyLines d.width 1 (body.render d.width 1)) body.nodes
      (body.nodes.filterMap D.omission?) :=
    Draft.hoists_inFunction (Draft.grows_block (hbody _ hactive))
  have hclose := ((hopen.trans hblock).trans (Draft.hoists_functionLine _ "\x7d")).trans
    (Draft.hoists_functionLine _ "")
  simp only [List.nil_append, List.append_nil, List.append_assoc] at hclose
  exact hclose

theorem hoist_eq (hbehaviour : D.behaviour? n = some .define) (d : Draft) :
    D.hoist n d = D.writeDefinition D.walk n (d.ask n.id) := by
  rw [hoist, statement, hbehaviour]
  rfl

/-- The node that the main part begins with. -/
def first? (D : Drawing) : Option Node :=
  D.graph.start?.bind D.successor?

namespace Regular

variable (h : D.Regular) {bodies : Node → Statements}
include h

/-- The nodes that are written among the functions are those that define one. -/
theorem hoisted_eq :
    D.hoisted = D.graph.nodes.filter fun n => n.tag == NodeKind.function.tag := by
  refine List.filter_congr fun n hn => ?_
  obtain ⟨kind, hbehaviour, hof, hreg⟩ := h.behaviour?_eq hn
  rw [hbehaviour, hof.tag_eq, Option.map_some, Option.getD_some, Bool.eq_iff_iff, beq_iff_eq,
    ← hreg.define_iff]
  have hcases := hreg.behaviour_cases
  generalize kind.behaviour = behaviour at hcases
  cases behaviour <;> simp_all [Behaviour.hoisted, Behaviour.isPlain]

theorem mem_hoisted {n : Node} (hn : n ∈ D.graph.nodes) (htag : n.tag = NodeKind.function.tag) :
    n ∈ D.hoisted :=
  h.hoisted_eq ▸ List.mem_filter.mpr ⟨hn, beq_iff_eq.mpr htag⟩

theorem behaviour?_of_mem_hoisted {n : Node} (hn : n ∈ D.hoisted) :
    n ∈ D.graph.nodes ∧ D.behaviour? n = some .define := by
  rw [h.hoisted_eq, List.mem_filter, beq_iff_eq] at hn
  obtain ⟨kind, hbehaviour, hof, hreg⟩ := h.behaviour?_eq hn.1
  refine ⟨hn.1, ?_⟩
  rw [hbehaviour, hreg.define_iff.mpr (hof.tag_eq.symm.trans hn.2)]

/-- A chain that the walk begins with is written in full. -/
theorem writes_walk {target : Option Node} {S : Statements} (hchain : D.Chain target S)
    (hmem : ∀ m, target = some m → m ∈ D.graph.nodes) :
    D.Writes [] (D.walkOn D.walkDepth target) (fun width depth => S.render width depth) S.nodes :=
  hchain.writes h.wellFormed h.acyclic fun m hm => Room.start (hmem m hm)

/-- Hoisting a definition adds its lines to the functions. -/
theorem hoists_hoist {n : Node} (hn : n ∈ D.hoisted) {body : Statements}
    (hbody : D.Chain (D.next? n "Exec") body) {d : Draft} (hactive : d.active = []) :
    d.Hoists (D.hoist n d) (definitionLines d.width n body) (n :: body.nodes)
      ((n :: body.nodes).filterMap D.omission?) := by
  obtain ⟨hmem, hbehaviour⟩ := h.behaviour?_of_mem_hoisted hn
  have hwrites := h.writes_walk hbody fun m hm => (leads_of_next? h.wellFormed hmem hm).1
  have hdefinition :=
    (d.hoists_ask n).trans (hoists_writeDefinition hwrites (d := d.ask n.id) hactive)
  rw [hoist_eq hbehaviour, List.filterMap_cons_none (omission?_of_behaviour hbehaviour rfl)]
  exact hdefinition

/-- Hoisting a list of definitions adds their lines in order. -/
theorem hoists_foldl {definitions : List Node} (hsub : definitions ⊆ D.hoisted)
    (hbodies : ∀ n ∈ definitions, D.Chain (D.next? n "Exec") (bodies n)) {d : Draft}
    (hactive : d.active = []) :
    d.Hoists (definitions.foldl (fun d n => D.hoist n d) d)
      (definitions.flatMap fun n => definitionLines d.width n (bodies n))
      (definitions.flatMap fun n => n :: (bodies n).nodes)
      ((definitions.flatMap fun n => n :: (bodies n).nodes).filterMap D.omission?) := by
  induction definitions generalizing d with
  | nil => exact Draft.Hoists.refl d
  | cons n rest ih =>
      rw [List.cons_subset] at hsub
      rw [List.forall_mem_cons] at hbodies
      have hfirst := h.hoists_hoist hsub.1 hbodies.1 hactive
      have hrest := ih hsub.2 hbodies.2 (hfirst.active_eq.trans hactive)
      rw [hfirst.width_eq] at hrest
      simp only [List.flatMap_cons, List.filterMap_append]
      exact hfirst.trans hrest

/-- The functions are declared and written in the order of their nodes. -/
theorem hoists_writeFunctions (hbodies : ∀ n ∈ D.hoisted, D.Chain (D.next? n "Exec") (bodies n))
    {d : Draft} (hactive : d.active = []) :
    d.Hoists (D.writeFunctions d)
      (D.hoisted.flatMap fun n => definitionLines d.width n (bodies n))
      (D.hoisted.flatMap fun n => n :: (bodies n).nodes)
      ((D.hoisted.flatMap fun n => n :: (bodies n).nodes).filterMap D.omission?) := by
  have hdeclare : d.Hoists (D.hoisted.foldl (fun d n => d.declare n.functionName) d) [] [] [] :=
    List.foldlRecOn D.hoisted (fun d n => d.declare n.functionName)
      (motive := fun d' => d.Hoists d' [] [] []) (Draft.Hoists.refl d)
      fun d' hd' n _ => hd'.trans (d'.hoists_declare n.functionName)
  have hwrite := h.hoists_foldl (List.Subset.refl _) hbodies (hdeclare.active_eq.trans hactive)
  rw [hdeclare.width_eq] at hwrite
  exact hdeclare.trans hwrite

/-! ## The main part -/

/-- The main part consists of the statements of the chain that the start drives. -/
theorem grows_writeMain {main : Statements} (hmain : D.Chain D.first? main) {d : Draft}
    (hactive : d.active = []) :
    d.Grows (D.writeMain d) (main.render d.width d.depth) main.nodes
      (main.nodes.filterMap D.omission?) := by
  unfold writeMain
  unfold first? at hmain
  cases hstart : D.graph.start? with
  | none =>
      rw [hstart] at hmain
      cases hmain
      exact d.grows_warn .missingStart
  | some start =>
      rw [hstart, Option.bind_some] at hmain
      have hmem := List.mem_of_find?_eq_some hstart
      exact h.writes_walk hmain (fun m hm => (leads_of_successor? h.wellFormed hmem hm).1) d hactive

/-- What a compilation writes, whom it asks and what it notices. -/
theorem draft_eq {main : Statements} (hmain : D.Chain D.first? main)
    (hbodies : ∀ n ∈ D.hoisted, D.Chain (D.next? n "Exec") (bodies n)) (config : Config) :
    (D.draft config).functions =
        D.hoisted.flatMap (fun n => definitionLines config.indentWidth.toNat n (bodies n)) ∧
      (D.draft config).main = main.render config.indentWidth.toNat 0 ∧
      (D.draft config).asked =
        (D.hoisted.flatMap (fun n => n :: (bodies n).nodes) ++ main.nodes).map Node.id ∧
      ∃ warnings : List Warning, (D.draft config).notices = warnings.map .warning ∧
        warnings.filter Warning.isOmission =
          (D.hoisted.flatMap (fun n => n :: (bodies n).nodes) ++ main.nodes).filterMap
            D.omission? := by
  have hfunctions :=
    h.hoists_writeFunctions hbodies (d := { width := config.indentWidth.toNat }) rfl
  have hmainPart := h.grows_writeMain hmain hfunctions.active_eq
  have hbuffer : (D.writeFunctions { width := config.indentWidth.toNat }).buffer = .main :=
    hfunctions.buffer_eq
  refine ⟨?_, ?_, ?_, ?_⟩
  · rw [draft, hmainPart.functions_eq, hbuffer, hfunctions.functions_eq]
    simp
  · rw [draft, hmainPart.main_eq, hbuffer, hfunctions.main_eq, hfunctions.width_eq,
      hfunctions.depth_eq]
    simp
  · rw [draft, hmainPart.asked_eq, hfunctions.asked_eq, List.map_append]
    rfl
  · obtain ⟨early, hearly, hearlyOmitted⟩ := hfunctions.notices_eq
    obtain ⟨late, hlate, hlateOmitted⟩ := hmainPart.notices_eq
    refine ⟨early ++ late, ?_, ?_⟩
    · rw [draft, hlate, hearly, List.map_append]
      rfl
    · rw [List.filter_append, hearlyOmitted, hlateOmitted, List.filterMap_append]

/-- The chains that a compilation writes stand for statements. -/
theorem exists_statements :
    ∃ (main : Statements) (bodies : Node → Statements), D.Chain D.first? main ∧
      ∀ n ∈ D.hoisted, D.Chain (D.next? n "Exec") (bodies n) := by
  obtain ⟨main, hmain⟩ : ∃ S, D.Chain D.first? S := by
    refine h.exists_chain_of_target fun m hm => ?_
    obtain ⟨start, hstart, hnext⟩ := Option.bind_eq_some_iff.mp hm
    exact (h.driven_of_successor? (List.mem_of_find?_eq_some hstart) hnext).1
  have hbody : ∀ n, ∃ S, n ∈ D.hoisted → D.Chain (D.next? n "Exec") S := by
    -- `choose` needs a tree at every node, also where no function is defined
    intro n
    by_cases hn : n ∈ D.hoisted
    · obtain ⟨hmem, hbehaviour⟩ := h.behaviour?_of_mem_hoisted hn
      have houtlet : "Exec" ∈ Behaviour.define.outlets := List.mem_singleton_self _
      obtain ⟨S, hS⟩ := h.exists_chain_of_target fun m hm =>
        (h.driven_of_next? hmem hbehaviour houtlet hm).1
      exact ⟨S, fun _ => hS⟩
    · exact ⟨.done, fun hmem => absurd hmem hn⟩
  choose bodies hbodies using hbody
  exact ⟨main, bodies, hmain, hbodies⟩

end Regular

/-! ## Along the edges -/

/-- The ways on from the nodes of a drawing, in terms of its edges: an output is connected if an
edge begins at it, and it drives the node at the end of the first such edge. -/
structure AlongEdges (D : Drawing) : Prop where
  outputConnected_iff : ∀ n ∈ D.graph.nodes, ∀ output, outputConnected n output = true ↔
    ∃ p, n.outputs.find? (fun p => p.name == output) = some p ∧
      ∃ e ∈ D.graph.edges, e.source = ⟨n.id, p.id⟩
  next?_eq_some_iff : ∀ n ∈ D.graph.nodes, ∀ output m, D.next? n output = some m ↔
    ∃ p, n.outputs.find? (fun p => p.name == output) = some p ∧ D.graph.FirstEdgeTo n p m
  successor?_eq_some_iff : ∀ n ∈ D.graph.nodes, ∀ m, D.successor? n = some m ↔
    ∃ p, n.outputs.find? (fun p => p.type == .exec) = some p ∧ D.graph.FirstEdgeTo n p m

/-- The way on from a node of a well-formed drawing is the way along the edges. -/
theorem alongEdges (hwf : D.graph.WellFormed) : D.AlongEdges where
  outputConnected_iff n hn output := by
    rw [outputConnected, Node.output?]
    cases hp : n.outputs.find? fun p => p.name == output with
    | none => simp
    | some p =>
        have hedges := hwf.edges_of_output hn (List.mem_of_find?_eq_some hp)
        simp [Port.isConnected, hedges]
  next?_eq_some_iff n hn output m := by
    rw [next?, Option.bind_eq_some_iff]
    exact exists_congr fun p => and_congr_right fun hp =>
      hwf.execTarget?_eq_some_iff hn (List.mem_of_find?_eq_some hp)
  successor?_eq_some_iff n hn m := by
    rw [successor?, Option.bind_eq_some_iff]
    exact exists_congr fun p => and_congr_right fun hp =>
      hwf.execTarget?_eq_some_iff hn (List.mem_of_find?_eq_some hp)

/-! ## The layout of a script -/

/-- The script of a drawing made with the standard palette.  The chain that the first start drives
and the chains of the functions each stand for one tree of statements, and the lines are the header,
the definitions in the order of their nodes and the main part.  A chain goes along the edges of the
graph. -/
theorem script_layout {g : Graph} (h : g.Reachable Palette.standard.Has) (config : Config) :
    let D : Drawing := ⟨g, .standard⟩
    let functions := g.nodes.filter fun n => n.tag == NodeKind.function.tag
    ∃ (main : Statements) (bodies : Node → Statements),
      (∀ S, D.Chain (g.start?.bind D.successor?) S ↔ S = main) ∧
      (∀ n ∈ functions, ∀ S, D.Chain (D.next? n "Exec") S ↔ S = bodies n) ∧
      scriptLines config (D.draft config) = header config ++
        functions.flatMap (fun n => definitionLines config.indentWidth.toNat n (bodies n)) ++
        main.render config.indentWidth.toNat 0 ∧
      (D.compile config).text = Script.ofLines (scriptLines config (D.draft config)) ∧
      D.AlongEdges := by
  intro D functions
  have hreg : D.Regular := regular_of_reachable h
  obtain ⟨main, bodies, hmain, hbodies⟩ := hreg.exists_statements
  obtain ⟨hfunctions, hmainPart, -⟩ := hreg.draft_eq hmain hbodies config
  rw [hreg.hoisted_eq] at hbodies hfunctions
  refine ⟨main, bodies, ?_, ?_, ?_, rfl, alongEdges hreg.wellFormed⟩
  · exact fun S => ⟨fun hS => hS.unique hmain, fun heq => heq ▸ hmain⟩
  · exact fun n hn S => ⟨fun hS => hS.unique (hbodies n hn), fun heq => heq ▸ hbodies n hn⟩
  · rw [scriptLines, hfunctions, hmainPart]

theorem script_layout_sample :
    let D : Drawing := ⟨.sample, .standard⟩
    Graph.sample.Reachable Palette.standard.Has ∧
    scriptLines {} (D.draft {}) = ["#!/bin/bash", "", Script.banner, "",
      "my_function() \x7b", "    exit 0", "\x7d", "",
      "if [ -f \"\" ]; then", "    :", "else", "    echo \"Hello\"", "fi", "my_function"] ∧
    ∃ (main : Statements) (bodies : Node → Statements),
      (∀ S, D.Chain (Graph.sample.start?.bind D.successor?) S ↔ S = main) ∧
      scriptLines {} (D.draft {}) = header {} ++
        (Graph.sample.nodes.filter fun n => n.tag == NodeKind.function.tag).flatMap
          (fun n => definitionLines 4 n (bodies n)) ++ main.render 4 0 := by
  intro D
  have hreach : Graph.sample.Reachable Palette.standard.Has :=
    Graph.sample_reachable fun _ => Palette.standard_has_iff.mpr
  obtain ⟨main, bodies, hmain, -, hlines, -⟩ := script_layout hreach {}
  exact ⟨hreach, by decide, main, bodies, hmain, hlines⟩

end Drawing

end ScriptGraph
