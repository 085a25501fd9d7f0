import Mathlib.Data.List.Chain
import ScriptGraph.Proofs.Emit.Correspondence
import ScriptGraph.Proofs.Emit.Layout
import ScriptGraph.Proofs.Session.Acyclic

/-!
# Compilation stays within its bounds

Two recursions make up a compilation, and each is closed by a bound that is there for the definition
only.  This file shows that neither bound is ever met.

An expression follows edges backwards and has no guard of its own.  In a graph without cycles the
nodes that one expression leads through are different (`length_le_of_feeding`), so there are no more
of them than nodes.

A chain is a loop: it enters nodes one after the other, and leaves them all at its end.  Inside of
each node it may start further chains.  Here the loop is written out (`stroll`, `chain`) with a
bound for its length and another one for the nesting of chains (`chainsWithin`).  It ends because no
chain enters a node that is active, so `D.free` falls from node to node and from a chain to the ones
inside of it.  Nothing is assumed of the edges for this.

That a bound is not met is said by putting something arbitrary in its place (`last`, `beyond`): the
outcome is always the same.
-/

namespace ScriptGraph

open Relation

variable {K : NodeKind → Prop}

namespace Drawing

variable {D : Drawing} {n m : Node}

/-! ## Expressions -/

/-- The value of a node, with `last` in place of the values that lie too far back. -/
def valueFrom (D : Drawing) (last : Node → Option String) : Nat → Node → Option String
  | 0, n => last n
  | steps + 1, n => (D.behaviour? n).bind (D.valueOf (D.valueFrom last steps) n)

/-- The condition of a node, with other texts in place of those that lie too far back. -/
def conditionFrom (D : Drawing) (lastValue lastCondition : Node → Option String) :
    Nat → Node → Option String
  | 0, n => lastCondition n
  | steps + 1, n => (D.behaviour? n).bind
      (D.conditionOf (D.valueFrom lastValue steps) (D.conditionFrom lastValue lastCondition steps) n)

/-- The second node feeds the first. -/
def FedBy (D : Drawing) (n m : Node) : Prop :=
  ∃ input, D.source? n input = some m

theorem valueFrom_none (steps : Nat) (n : Node) :
    D.valueFrom (fun _ => none) steps n = D.valueWithin steps n := by
  induction steps generalizing n with
  | zero => rfl
  | succ steps ih =>
      have hvalue : D.valueFrom (fun _ => none) steps = D.valueWithin steps := funext ih
      rw [valueFrom, valueWithin, hvalue]

theorem conditionFrom_none (steps : Nat) (n : Node) :
    D.conditionFrom (fun _ => none) (fun _ => none) steps n = D.conditionWithin steps n := by
  induction steps generalizing n with
  | zero => rfl
  | succ steps ih =>
      have hvalue : D.valueFrom (fun _ => none) steps = D.valueWithin steps :=
        funext (valueFrom_none steps)
      have hcondition :
          D.conditionFrom (fun _ => none) (fun _ => none) steps = D.conditionWithin steps := funext ih
      rw [conditionFrom, conditionWithin, hvalue, hcondition]

theorem rel_self {α : Type} {P : α → Prop} {a : Option α} (h : ∀ x, a = some x → P x) :
    Option.Rel (fun x y => y = x ∧ P x) a a := by
  cases a with
  | none => exact .none
  | some x => exact .some ⟨rfl, h x rfl⟩

theorem rel_source? (n : Node) (input : String) :
    Option.Rel (fun m m' => m' = m ∧ D.FedBy n m) (D.source? n input) (D.source? n input) :=
  rel_self fun _ hsource => ⟨input, hsource⟩

section

variable (hwf : D.graph.WellFormed) (hacyclic : Acyclic D.graph.edges)
include hwf hacyclic

/-- Nodes of which each is fed by the next are different, so there are no more of them than there
are nodes. -/
theorem length_le_of_feeding {calls : List Node} (hmem : calls ⊆ D.graph.nodes)
    (hfed : calls.IsChain D.FedBy) : calls.length ≤ D.graph.nodes.length := by
  have hup : (calls.map Node.id).IsChain fun a b => TransGen (Leads D.graph.edges) b a := by
    rw [List.isChain_map]
    refine List.IsChain.imp_of_mem_imp (fun n m hn _ hfeed => ?_) hfed
    obtain ⟨input, hsource⟩ := hfeed
    exact .single (leads_of_source? hwf (hmem hn) hsource).2
  have : IsTrans NodeId fun a b => TransGen (Leads D.graph.edges) b a :=
    ⟨fun _ _ _ hab hbc => hbc.trans hab⟩
  have hdistinct : (calls.map Node.id).Nodup := by
    refine (List.isChain_iff_pairwise.mp hup).imp fun hpath heq => ?_
    subst heq
    exact hacyclic _ hpath
  have hlength := (List.subperm_of_subset hdistinct (List.map_subset _ hmem)).length_le
  rwa [List.length_map, List.length_map] at hlength

/-- Some steps are left as long as the nodes asked before, which `n` feeds one after the other,
together with the steps are as many as there are nodes. -/
theorem steps_pos_of_feeding {steps : Nat} {before : List Node}
    (hmem : n :: before ⊆ D.graph.nodes) (hfed : (n :: before).IsChain fun m n => D.FedBy n m)
    (hsteps : D.graph.nodes.length ≤ steps + before.length) : 0 < steps := by
  have hchain : (n :: before).reverse.IsChain D.FedBy := List.isChain_reverse.mpr hfed
  have hlength := length_le_of_feeding hwf hacyclic (List.reverse_subset.mpr hmem) hchain
  rw [List.length_reverse, List.length_cons] at hlength
  omega

omit hacyclic in
theorem feeding_cons {before : List Node} (hmem : n :: before ⊆ D.graph.nodes)
    (hfed : (n :: before).IsChain fun m n => D.FedBy n m) (hfeed : D.FedBy n m) :
    m :: n :: before ⊆ D.graph.nodes ∧ (m :: n :: before).IsChain fun m n => D.FedBy n m := by
  obtain ⟨input, hsource⟩ := hfeed
  have hm : m ∈ D.graph.nodes := (leads_of_source? hwf (hmem List.mem_cons_self) hsource).1
  exact ⟨List.cons_subset.mpr ⟨hm, hmem⟩, List.isChain_cons_cons.mpr ⟨⟨input, hsource⟩, hfed⟩⟩

theorem valueFrom_congr (last last' : Node → Option String) {steps steps' : Nat} {n : Node}
    {before : List Node} (hmem : n :: before ⊆ D.graph.nodes)
    (hfed : (n :: before).IsChain fun m n => D.FedBy n m)
    (hsteps : D.graph.nodes.length ≤ steps + before.length)
    (hsteps' : D.graph.nodes.length ≤ steps' + before.length) :
    D.valueFrom last' steps' n = D.valueFrom last steps n := by
  -- each step back uses up one step and adds one node to those asked before
  induction steps generalizing steps' n before with
  | zero =>
      have := steps_pos_of_feeding hwf hacyclic hmem hfed hsteps
      omega
  | succ steps ih =>
      have hpos := steps_pos_of_feeding hwf hacyclic hmem hfed hsteps'
      obtain ⟨steps', rfl⟩ := Nat.exists_eq_succ_of_ne_zero hpos.ne'
      unfold valueFrom
      refine Option.bind_congr fun behaviour _ => ?_
      refine valueOf_eq (Node.Matches.refl n) (rel_source? n) ?_ ?_ behaviour
      · rintro m _ ⟨rfl, hfeed⟩
        obtain ⟨hmem, hfed⟩ := feeding_cons hwf hmem hfed hfeed
        apply ih hmem hfed
        · rw [List.length_cons]; omega
        · rw [List.length_cons]; omega
      · rintro m _ ⟨rfl, -⟩
        exact Node.Matches.refl _

theorem conditionFrom_congr (lastV lastV' lastC lastC' : Node → Option String)
    {steps steps' : Nat} {n : Node} {before : List Node} (hmem : n :: before ⊆ D.graph.nodes)
    (hfed : (n :: before).IsChain fun m n => D.FedBy n m)
    (hsteps : D.graph.nodes.length ≤ steps + before.length)
    (hsteps' : D.graph.nodes.length ≤ steps' + before.length) :
    D.conditionFrom lastV' lastC' steps' n = D.conditionFrom lastV lastC steps n := by
  induction steps generalizing steps' n before with
  | zero =>
      have := steps_pos_of_feeding hwf hacyclic hmem hfed hsteps
      omega
  | succ steps ih =>
      have hpos := steps_pos_of_feeding hwf hacyclic hmem hfed hsteps'
      obtain ⟨steps', rfl⟩ := Nat.exists_eq_succ_of_ne_zero hpos.ne'
      unfold conditionFrom
      refine Option.bind_congr fun behaviour _ => ?_
      refine conditionOf_eq (Node.Matches.refl n) (rel_source? n) ?_ ?_ ?_ behaviour
      · rintro m _ ⟨rfl, hfeed⟩
        obtain ⟨hmem, hfed⟩ := feeding_cons hwf hmem hfed hfeed
        apply valueFrom_congr hwf hacyclic lastV lastV' hmem hfed
        · rw [List.length_cons]; omega
        · rw [List.length_cons]; omega
      · rintro m _ ⟨rfl, -⟩
        exact Node.Matches.refl _
      · rintro m _ ⟨rfl, hfeed⟩
        obtain ⟨hmem, hfed⟩ := feeding_cons hwf hmem hfed hfeed
        apply ih hmem hfed
        · rw [List.length_cons]; omega
        · rw [List.length_cons]; omega

theorem valueFrom_eq (last : Node → Option String) {steps : Nat}
    (hsteps : D.graph.nodes.length ≤ steps) (hn : n ∈ D.graph.nodes) :
    D.valueFrom last steps n = D.value? n := by
  have hmem : [n] ⊆ D.graph.nodes := List.cons_subset.mpr ⟨hn, List.nil_subset _⟩
  rw [value?, ← valueFrom_none]
  exact valueFrom_congr hwf hacyclic _ last hmem (List.isChain_singleton n) le_rfl hsteps

theorem conditionFrom_eq (lastV lastC : Node → Option String) {steps : Nat}
    (hsteps : D.graph.nodes.length ≤ steps) (hn : n ∈ D.graph.nodes) :
    D.conditionFrom lastV lastC steps n = D.condition? n := by
  have hmem : [n] ⊆ D.graph.nodes := List.cons_subset.mpr ⟨hn, List.nil_subset _⟩
  rw [condition?, ← conditionFrom_none]
  exact conditionFrom_congr hwf hacyclic _ lastV _ lastC hmem (List.isChain_singleton n) le_rfl
    hsteps

end

/-! ## The walk does not depend on its bound -/

/-- How many nodes are not active. -/
def free (D : Drawing) (active : List NodeId) : Nat :=
  (D.graph.nodes.filter fun n => n.id ∉ active).length

theorem free_le (D : Drawing) (active : List NodeId) : D.free active ≤ D.graph.nodes.length :=
  List.length_filter_le _ _

theorem free_cons_lt {active : List NodeId} (hn : n ∈ D.graph.nodes) (hnew : n.id ∉ active) :
    D.free (n.id :: active) < D.free active := by
  have hfilter : (D.graph.nodes.filter fun m => m.id ∉ n.id :: active) =
      (D.graph.nodes.filter fun m => m.id ∉ active).filter fun m => m.id ≠ n.id := by
    rw [List.filter_filter]
    refine List.filter_congr fun m _ => ?_
    simp only [List.mem_cons, not_or, Bool.decide_and]
  unfold free
  rw [hfilter, List.length_filter_lt_length_iff_exists]
  refine ⟨n, List.mem_filter.mpr ⟨hn, ?_⟩, ?_⟩
  · simpa using hnew
  · simp

theorem mem_nodes_of_execTarget? {g : Graph} {port : PortId} (h : g.execTarget? port = some m) :
    m ∈ g.nodes := by
  obtain ⟨e, -, hnode⟩ := Option.bind_eq_some_iff.mp h
  exact List.mem_of_find?_eq_some hnode

theorem mem_nodes_of_next? {output : String} (h : D.next? n output = some m) :
    m ∈ D.graph.nodes := by
  obtain ⟨p, -, htarget⟩ := Option.bind_eq_some_iff.mp h
  exact mem_nodes_of_execTarget? htarget

theorem mem_nodes_of_successor? (h : D.successor? n = some m) : m ∈ D.graph.nodes := by
  obtain ⟨p, -, htarget⟩ := Option.bind_eq_some_iff.mp h
  exact mem_nodes_of_execTarget? htarget

theorem mem_nodes_of_source? {input : String} (h : D.source? n input = some m) :
    m ∈ D.graph.nodes := by
  obtain ⟨p, -, hpair⟩ := Option.bind_eq_some_iff.mp h
  obtain ⟨⟨m', q⟩, hfound, rfl⟩ := Option.map_eq_some_iff.mp hpair
  obtain ⟨e, -, hnode⟩ := Option.bind_eq_some_iff.mp hfound
  obtain ⟨m'', hm, hport⟩ := Option.bind_eq_some_iff.mp hnode
  obtain ⟨q', -, hsame⟩ := Option.map_eq_some_iff.mp hport
  obtain ⟨rfl, rfl⟩ := Prod.mk.inj hsame
  exact List.mem_of_find?_eq_some hm

/-- A drawing corresponds to itself. -/
theorem corresponds_self (D : Drawing) :
    D.Corresponds D fun n n' => n' = n ∧ n ∈ D.graph.nodes where
  palette_eq := rfl
  value?_eq := by
    rintro n _ ⟨rfl, -⟩
    rfl
  condition?_eq := by
    rintro n _ ⟨rfl, -⟩
    rfl
  nodes_match := by
    rintro n _ ⟨rfl, -⟩
    exact Node.Matches.refl _
  source := by
    rintro n _ ⟨rfl, -⟩ input
    exact rel_self fun _ => mem_nodes_of_source?
  next := by
    rintro n _ ⟨rfl, -⟩ output
    exact rel_self fun _ => mem_nodes_of_next?
  successor := by
    rintro n _ ⟨rfl, -⟩
    exact rel_self fun _ => mem_nodes_of_successor?

/-- The same draft on both sides, inside of the given nodes. -/
theorem keeps_inside (D : Drawing) (active : List NodeId) :
    Draft.Keeps (fun n n' => n' = n ∧ n ∈ D.graph.nodes)
      fun d d' => d' = d ∧ d.active = active where
  line := by
    rintro d _ ⟨rfl, hactive⟩ text
    refine ⟨rfl, ?_⟩
    unfold Draft.line
    split <;> exact hactive
  functionLine := by
    rintro d _ ⟨rfl, hactive⟩ text
    exact ⟨rfl, hactive⟩
  assign := by
    rintro d _ ⟨rfl, hactive⟩ name text
    exact ⟨rfl, hactive⟩
  indent := by
    rintro d _ ⟨rfl, hactive⟩
    exact ⟨rfl, hactive⟩
  endBlock := by
    rintro d _ before _ ⟨rfl, hactive⟩ ⟨rfl, -⟩
    refine ⟨rfl, ?_⟩
    unfold Draft.endBlock Draft.dedent Draft.line
    split
    · split <;> exact hactive
    · exact hactive
  beginFunction := by
    rintro d _ ⟨rfl, hactive⟩
    exact ⟨rfl, hactive⟩
  endFunction := by
    rintro d _ before _ ⟨rfl, hactive⟩ ⟨rfl, -⟩
    exact ⟨rfl, hactive⟩
  ask := by
    rintro d _ n _ ⟨rfl, -⟩ ⟨rfl, hactive⟩
    exact ⟨rfl, hactive⟩
  missingCondition := by
    rintro d _ n _ ⟨rfl, -⟩ ⟨rfl, hactive⟩ construct
    exact ⟨rfl, hactive⟩
  undefinedFunction := by
    rintro d _ n _ ⟨rfl, -⟩ ⟨rfl, hactive⟩ name
    exact ⟨rfl, hactive⟩
  declared_eq := by
    rintro d _ ⟨rfl, -⟩
    rfl

/-- Two ways of walking that agree on drafts with the same active nodes, and leave these as they
are, make the same of a statement, which leaves them as they are as well. -/
theorem statementWith_congr {walk walk' : Node → Draft → Draft} (hn : n ∈ D.graph.nodes) (d : Draft)
    (hwalk : ∀ m ∈ D.graph.nodes, ∀ d', d'.active = d.active →
      walk' m d' = walk m d' ∧ (walk m d').active = d.active) (behaviour : Behaviour) :
    D.statementWith walk' n d behaviour = D.statementWith walk n d behaviour ∧
      (D.statementWith walk n d behaviour).2.active = d.active := by
  have hrelated : ∀ {m m' : Node}, m' = m ∧ m ∈ D.graph.nodes → ∀ {e e' : Draft},
      e' = e ∧ e.active = d.active →
        walk' m' e' = walk m e ∧ (walk m e).active = d.active := by
    rintro m _ ⟨rfl, hm⟩ e _ ⟨rfl, hactive⟩
    exact hwalk _ hm _ hactive
  obtain ⟨htext, hdraft, hactive⟩ := D.corresponds_self.statementWith
    (D.keeps_inside d.active) hrelated ⟨rfl, hn⟩ (d := d) ⟨rfl, rfl⟩ behaviour
  exact ⟨Prod.ext htext hdraft, hactive⟩

/-- What the walk does inside of a node before it goes on, and where it goes on. -/
def turn (D : Drawing) (walk : Node → Draft → Draft) (n : Node) (d : Draft) :
    Draft × Option Node :=
  match D.behaviour? n with
  | none => (d.warn (.unregisteredNode n.id n.tag), none)
  | some behaviour =>
    let result := D.statementWith walk n d behaviour
    (result.2.line? result.1, if behaviour.continues then D.successor? n else none)

/-- Walk at a node, if there is one. -/
def resume (walk : Node → Draft → Draft) (target : Option Node) (d : Draft) : Draft :=
  match target with
  | none => d
  | some m => walk m d

/-- Enter a node, go on from there and leave it. -/
def visit (D : Drawing) (walk : Node → Draft → Draft) (n : Node) (d : Draft) : Draft :=
  let result := D.turn walk n (d.enter n.id)
  (resume walk result.2 result.1).leave n.id

theorem walkWithin_succ (depth : Nat) (n : Node) (d : Draft) :
    D.walkWithin (depth + 1) n d =
      if n.id ∈ d.active then d.note (.revisited n.title n.id)
      else D.visit (D.walkWithin depth) n d := by
  rw [walkWithin, visit, turn]
  split
  · rfl
  · cases D.behaviour? n with
    | none => rfl
    | some behaviour => cases hcontinues : behaviour.continues <;> simp only [hcontinues] <;> rfl

theorem mem_nodes_of_turn {walk : Node → Draft → Draft} {d : Draft}
    (h : (D.turn walk n d).2 = some m) : m ∈ D.graph.nodes := by
  unfold turn at h
  cases hbehaviour : D.behaviour? n with
  | none =>
      rw [hbehaviour] at h
      cases h
  | some behaviour =>
      rw [hbehaviour] at h
      dsimp only at h
      split at h
      · exact mem_nodes_of_successor? h
      · cases h

section

variable {walk walk' : Node → Draft → Draft}

theorem turn_congr (hn : n ∈ D.graph.nodes) {d : Draft}
    (hwalk : ∀ m ∈ D.graph.nodes, ∀ d', d'.active = d.active →
      walk' m d' = walk m d' ∧ (walk m d').active = d.active) :
    D.turn walk' n d = D.turn walk n d ∧ (D.turn walk n d).1.active = d.active := by
  unfold turn
  cases D.behaviour? n with
  | none => exact ⟨rfl, rfl⟩
  | some behaviour =>
      obtain ⟨hsame, hactive⟩ := statementWith_congr hn d hwalk behaviour
      have hline := (keeps_inside D d.active).line? ⟨rfl, hactive⟩
        (D.statementWith walk n d behaviour).1
      refine ⟨?_, hline.2⟩
      dsimp only
      rw [hsame]

/-- Two ways of walking that agree inside of a node make the same of it. -/
theorem visit_congr (hn : n ∈ D.graph.nodes) {d : Draft}
    (hwalk : ∀ m ∈ D.graph.nodes, ∀ d', d'.active = n.id :: d.active →
      walk' m d' = walk m d' ∧ (walk m d').active = n.id :: d.active) :
    D.visit walk' n d = D.visit walk n d ∧ (D.visit walk n d).active = d.active := by
  obtain ⟨hturn, hinside⟩ := turn_congr (d := d.enter n.id) hn hwalk
  have hmem : ∀ m, (D.turn walk n (d.enter n.id)).2 = some m → m ∈ D.graph.nodes :=
    fun m => mem_nodes_of_turn
  unfold visit
  rw [hturn]
  generalize D.turn walk n (d.enter n.id) = result at hinside hmem
  obtain ⟨d', next⟩ := result
  have hresume : resume walk' next d' = resume walk next d' ∧
      (resume walk next d').active = n.id :: d.active := by
    cases next with
    | none => exact ⟨rfl, hinside⟩
    | some m => exact hwalk m (hmem m rfl) d' hinside
  refine ⟨congrArg (Draft.leave · n.id) hresume.1, ?_⟩
  change (resume walk next d').active.erase n.id = d.active
  rw [hresume.2, List.erase_cons_head]

end

/-- The bound of the walk shows nowhere if it is larger than the number of free nodes.  Whatever it
has entered, the walk leaves. -/
theorem walkWithin_congr {depth depth' : Nat} {n : Node} (hn : n ∈ D.graph.nodes) {d : Draft}
    (hdepth : D.free d.active < depth) (hdepth' : D.free d.active < depth') :
    D.walkWithin depth' n d = D.walkWithin depth n d ∧
      (D.walkWithin depth n d).active = d.active := by
  induction depth generalizing depth' n d with
  | zero => omega
  | succ depth ih =>
      obtain ⟨depth', rfl⟩ := Nat.exists_eq_succ_of_ne_zero (Nat.ne_zero_of_lt hdepth')
      rw [walkWithin_succ, walkWithin_succ]
      split
      · exact ⟨rfl, rfl⟩
      · rename_i hnew
        apply visit_congr hn
        intro m hm d' hd'
        -- inside of the node fewer nodes are free, so both bounds may be one less
        have hless := free_cons_lt hn hnew
        rw [← hd'] at hless ⊢
        exact ih hm (by omega) (by omega)

theorem walkWithin_eq_walk {depth : Nat} (hn : n ∈ D.graph.nodes) {d : Draft}
    (hdepth : D.free d.active < depth) :
    D.walkWithin depth n d = D.walk n d ∧ (D.walk n d).active = d.active :=
  walkWithin_congr hn (Nat.lt_succ_of_le (D.free_le d.active)) hdepth

theorem active_walk (hn : n ∈ D.graph.nodes) (d : Draft) : (D.walk n d).active = d.active :=
  (walkWithin_eq_walk hn (Nat.lt_succ_of_le (D.free_le d.active))).2

/-- The walk, without its bound. -/
theorem walk_eq (hn : n ∈ D.graph.nodes) (d : Draft) :
    D.walk n d =
      if n.id ∈ d.active then d.note (.revisited n.title n.id) else D.visit D.walk n d := by
  have hfree := D.free_le d.active
  rw [walk, walkDepth, walkWithin_succ]
  split
  · rfl
  · rename_i hnew
    refine (visit_congr hn fun m hm d' hd' => ?_).1
    have hless := free_cons_lt hn hnew
    rw [← hd'] at hless ⊢
    exact walkWithin_eq_walk hm (by omega)

/-! ## Chains as loops -/

/-- The nodes that a chain enters one after the other, and the draft at its end.  Chains inside of
its nodes are walked by `inner`.  After too many nodes `beyond` happens. -/
def stroll (D : Drawing) (inner : Node → Draft → Draft) (beyond : Draft → Draft) :
    Nat → Option Node → Draft → List NodeId × Draft
  | _, none, d => ([], d)
  | 0, some _, d => ([], beyond d)
  | steps + 1, some n, d =>
    if n.id ∈ d.active then ([], d.note (.revisited n.title n.id))
    else
      let result := D.turn inner n (d.enter n.id)
      let rest := D.stroll inner beyond steps result.2 result.1
      (n.id :: rest.1, rest.2)

/-- A chain: enter nodes one after the other, then leave them all. -/
def chain (D : Drawing) (inner : Node → Draft → Draft) (beyond : Draft → Draft) (steps : Nat)
    (first : Node) (d : Draft) : Draft :=
  let result := D.stroll inner beyond steps (some first) d
  result.1.foldl Draft.leave result.2

/-- Chains inside of chains, where `beyond` happens when a chain is too long or too many are
nested. -/
def chainsWithin (D : Drawing) (beyond : Draft → Draft) (steps : Nat) : Nat → Node → Draft → Draft
  | 0, _, d => beyond d
  | depth + 1, n, d => D.chain (D.chainsWithin beyond steps depth) beyond steps n d

theorem leave_comm (d : Draft) (a b : NodeId) : (d.leave a).leave b = (d.leave b).leave a := by
  unfold Draft.leave
  dsimp only
  rw [List.erase_comm]

theorem foldl_leave (ids : List NodeId) (d : Draft) (a : NodeId) :
    ids.foldl Draft.leave (d.leave a) = (ids.foldl Draft.leave d).leave a := by
  induction ids generalizing d with
  | nil => rfl
  | cons b ids ih => rw [List.foldl_cons, List.foldl_cons, leave_comm, ih]

/-- What a chain that starts at `target` comes to: each node it enters is one of the drawing that
was free before, none is entered twice, and when they are left the draft is that of the walk. -/
structure Strolled (D : Drawing) (target : Option Node) (d : Draft)
    (result : List NodeId × Draft) : Prop where
  nodup : result.1.Nodup
  known : result.1 ⊆ D.graph.nodes.map Node.id
  disjoint : ∀ id ∈ result.1, id ∉ d.active
  leaves : result.1.foldl Draft.leave result.2 = resume D.walk target d

/-- One more node, entered before the rest of the chain. -/
theorem Strolled.cons {d d' : Draft} {next : Option Node} {rest : List NodeId × Draft}
    (hn : n ∈ D.graph.nodes) (hnew : n.id ∉ d.active) (hentered : d'.active = n.id :: d.active)
    (hwalk : D.walk n d = (resume D.walk next d').leave n.id) (hrest : D.Strolled next d' rest) :
    D.Strolled (some n) d (n.id :: rest.1, rest.2) where
  nodup := by
    refine List.nodup_cons.mpr ⟨fun hmem => ?_, hrest.nodup⟩
    exact hrest.disjoint n.id hmem (hentered ▸ List.mem_cons_self)
  known := List.cons_subset.mpr ⟨List.mem_map_of_mem hn, hrest.known⟩
  disjoint := by
    intro id hid
    rcases List.mem_cons.mp hid with rfl | hid
    · exact hnew
    · intro hmem
      exact hrest.disjoint id hid (hentered ▸ List.mem_cons_of_mem _ hmem)
  leaves := by
    rw [List.foldl_cons, foldl_leave, hrest.leaves]
    exact hwalk.symm

/-- A chain goes on until it ends by itself if more steps are allowed than nodes are free, and the
chains inside of it are as they should be. -/
theorem strolled {inner : Node → Draft → Draft} {bound : Nat}
    (hinner : ∀ m ∈ D.graph.nodes, ∀ d, D.free d.active < bound → inner m d = D.walk m d)
    (beyond : Draft → Draft) {steps : Nat} {target : Option Node}
    (htarget : ∀ m, target = some m → m ∈ D.graph.nodes) {d : Draft}
    (hsteps : D.free d.active < steps) (hbound : D.free d.active ≤ bound) :
    D.Strolled target d (D.stroll inner beyond steps target d) := by
  induction steps generalizing target d with
  | zero => omega
  | succ steps ih =>
      cases target with
      | none => exact ⟨List.nodup_nil, List.nil_subset _, nofun, rfl⟩
      | some n =>
          have hn := htarget n rfl
          have hwalk := walk_eq hn d
          by_cases hactive : n.id ∈ d.active
          · rw [if_pos hactive] at hwalk
            rw [stroll, if_pos hactive]
            exact ⟨List.nodup_nil, List.nil_subset _, nofun, hwalk.symm⟩
          · -- inside of the node fewer nodes are free, for the rest of the chain and for inner chains
            have hless := free_cons_lt hn hactive
            have hagree : ∀ m ∈ D.graph.nodes, ∀ d', d'.active = (d.enter n.id).active →
                inner m d' = D.walk m d' ∧ (D.walk m d').active = (d.enter n.id).active := by
              intro m hm d' hd'
              rw [← hd']
              have hfree : D.free d'.active < bound := by
                rw [hd']
                exact hless.trans_le hbound
              exact ⟨hinner m hm d' hfree, active_walk hm d'⟩
            obtain ⟨hturn, hentered⟩ := turn_congr hn hagree
            rw [if_neg hactive] at hwalk
            rw [stroll, if_neg hactive, hturn]
            refine .cons hn hactive hentered hwalk (ih (fun m => mem_nodes_of_turn) ?_ ?_)
            · rw [hentered]
              exact Nat.lt_of_lt_of_le hless (Nat.le_of_lt_succ hsteps)
            · rw [hentered]
              exact (Nat.le_of_lt hless).trans hbound

theorem chain_eq_walk {inner : Node → Draft → Draft} {bound : Nat}
    (hinner : ∀ m ∈ D.graph.nodes, ∀ d, D.free d.active < bound → inner m d = D.walk m d)
    (beyond : Draft → Draft) {steps : Nat} (hn : n ∈ D.graph.nodes) {d : Draft}
    (hsteps : D.free d.active < steps) (hbound : D.free d.active ≤ bound) :
    D.chain inner beyond steps n d = D.walk n d := by
  have htarget : ∀ m, some n = some m → m ∈ D.graph.nodes := by
    rintro _ ⟨⟩
    exact hn
  exact (strolled hinner beyond htarget hsteps hbound).leaves

/-- Chains are walked to their ends if more may be nested than nodes are free, and each may have
more steps than there are nodes. -/
theorem chainsWithin_eq_walk (beyond : Draft → Draft) {steps depth : Nat}
    (hsteps : D.graph.nodes.length < steps) (hn : n ∈ D.graph.nodes) {d : Draft}
    (hdepth : D.free d.active < depth) : D.chainsWithin beyond steps depth n d = D.walk n d := by
  induction depth generalizing n d with
  | zero => omega
  | succ depth ih =>
      have hfree := D.free_le d.active
      rw [chainsWithin]
      exact chain_eq_walk (fun m hm d' hd' => ih hm hd') beyond hn (by omega) (by omega)

/-! ## Compilation with another walk -/

/-- Write a hoisted node, with a given way of walking chains. -/
def hoistBy (D : Drawing) (walk : Node → Draft → Draft) (n : Node) (d : Draft) : Draft :=
  match D.behaviour? n with
  | none => d
  | some behaviour =>
    let (text, d) := D.statementWith walk n d behaviour
    match text with
    | none => d
    | some text => if text.isEmpty then d else d.functionLine text

/-- Write functions and main part, with a given way of walking chains. -/
def draftBy (D : Drawing) (walk : Node → Draft → Draft) (config : Config) : Draft :=
  let d := D.hoisted.foldl (fun d n => d.declare n.functionName)
    { width := config.indentWidth.toNat }
  let d := D.hoisted.foldl (fun d n => D.hoistBy walk n d) d
  match D.graph.start? with
  | none => d.warn .missingStart
  | some start => resume walk (D.successor? start) d

/-- Compile a drawing, with a given way of walking chains. -/
def compileBy (D : Drawing) (walk : Node → Draft → Draft) (config : Config) : Script :=
  let d := D.draftBy walk config
  { text := Script.ofLines (scriptLines config d), notices := d.notices }

section

variable {walk : Node → Draft → Draft} (hwalk : ∀ m ∈ D.graph.nodes, ∀ d, walk m d = D.walk m d)
include hwalk

theorem hoistBy_eq (hn : n ∈ D.graph.nodes) (d : Draft) : D.hoistBy walk n d = D.hoist n d := by
  unfold hoistBy hoist statement
  cases D.behaviour? n with
  | none => rfl
  | some behaviour =>
      have hagree : ∀ m ∈ D.graph.nodes, ∀ d', d'.active = d.active →
          walk m d' = D.walk m d' ∧ (D.walk m d').active = d.active := by
        intro m hm d' hd'
        exact ⟨hwalk m hm d', (active_walk hm d').trans hd'⟩
      dsimp only
      rewrite [(statementWith_congr hn d hagree behaviour).1]
      rfl

theorem compileBy_eq (config : Config) : D.compileBy walk config = D.compile config := by
  have hhoist : ∀ d, D.hoisted.foldl (fun d n => D.hoistBy walk n d) d =
      D.hoisted.foldl (fun d n => D.hoist n d) d := by
    intro d
    refine List.foldl_ext _ _ _ fun d n hn => ?_
    exact hoistBy_eq hwalk (List.mem_of_mem_filter hn) d
  have hdraft : D.draftBy walk config = D.draft config := by
    unfold draftBy draft writeMain writeFunctions
    dsimp only
    rw [hhoist]
    cases D.graph.start? with
    | none => rfl
    | some start =>
        cases hfirst : D.successor? start with
        | none => simp only [hfirst, resume]
        | some first =>
            simp only [hfirst, resume]
            exact hwalk first (mem_nodes_of_successor? hfirst) _
  rw [compileBy, hdraft]
  rfl

end

/-- In a graph that a session can come to, the nodes that an expression leads through are no more
than there are nodes, so neither values nor conditions depend on what happens after that many steps.
In any drawing at all, with cycles or without, a chain enters a node once at most, and no more
chains are nested than there are nodes and one, so scripts do not depend on what happens beyond. -/
theorem compilation_bounded {g : Graph} (h : g.Reachable K) (palette : Palette) :
    let D : Drawing := ⟨g, palette⟩
    (∀ calls ⊆ g.nodes, calls.IsChain D.FedBy → calls.length ≤ g.nodes.length) ∧
    (∀ (lastV lastC : Node → Option String) (steps : Nat), g.nodes.length ≤ steps →
      ∀ n ∈ g.nodes, D.valueFrom lastV steps n = D.value? n ∧
        D.conditionFrom lastV lastC steps n = D.condition? n) ∧
    ∀ (D : Drawing) (beyond : Draft → Draft) (steps depth : Nat),
      D.graph.nodes.length < steps → D.graph.nodes.length < depth →
      (∀ first ∈ D.graph.nodes, ∀ d,
        D.Strolled (some first) d (D.stroll D.walk beyond steps (some first) d) ∧
        D.chainsWithin beyond steps depth first d = D.walk first d) ∧
      ∀ config, D.compileBy (D.chainsWithin beyond steps depth) config = D.compile config := by
  intro D
  have hwf : D.graph.WellFormed := h.sound.wellFormed
  have hacyclic : Acyclic D.graph.edges := h.acyclic
  refine ⟨fun calls hmem hfed => length_le_of_feeding hwf hacyclic hmem hfed, ?_, ?_⟩
  · intro lastV lastC steps hsteps n hn
    exact ⟨valueFrom_eq hwf hacyclic lastV hsteps hn,
      conditionFrom_eq hwf hacyclic lastV lastC hsteps hn⟩
  · intro D beyond steps depth hsteps hdepth
    have hchains : ∀ first ∈ D.graph.nodes, ∀ d,
        D.chainsWithin beyond steps depth first d = D.walk first d := by
      intro first hfirst d
      exact chainsWithin_eq_walk beyond hsteps hfirst ((D.free_le d.active).trans_lt hdepth)
    refine ⟨fun first hfirst d => ⟨?_, hchains first hfirst d⟩, compileBy_eq hchains⟩
    have hfree := D.free_le d.active
    have htarget : ∀ m, some first = some m → m ∈ D.graph.nodes := by
      rintro _ ⟨⟩
      exact hfirst
    exact strolled (fun _ _ _ _ => rfl) beyond htarget (by omega) hfree

/-- A greeting that walks its own chain, then what comes next, and then its own chain once more. -/
def echoAgain : NodeKind :=
  { NodeKind.echo with
    behaviour := .custom
      { statement := some "again", detours := [.reenter, .follow "Exec", .reenter] } }

/-- Two greetings, each of which comes after the other. -/
def looped : Drawing :=
  let id (i : Nat) : Uuid := ⟨BitVec.ofNat 128 i⟩
  let line := Graph.sketch [.start, .echo, .echo] [Graph.wire 0 1 3, Graph.wire 1 5 7]
  ⟨line.addEdge ⟨⟨id 2⟩, ⟨⟨id 6⟩, ⟨id 9⟩⟩, ⟨⟨id 2⟩, ⟨id 3⟩⟩⟩, .ofKinds [.start, echoAgain]⟩

theorem compilation_bounded_looped :
    (Graph.sample.Reachable fun _ => True) ∧
    (∀ n ∈ Graph.sample.nodes,
      Drawing.valueFrom ⟨.sample, .standard⟩ (fun _ => some "lost") 7 n =
        Drawing.value? ⟨.sample, .standard⟩ n) ∧
    ¬Acyclic looped.graph.edges ∧ looped.graph.nodes.length = 3 ∧
    (looped.compile {}).notices.length = 10 ∧
    looped.compileBy (looped.chainsWithin (·.line "lost") 4 4) {} = looped.compile {} := by
  have hreach : Graph.sample.Reachable fun _ => True := Graph.sample_reachable fun _ _ => trivial
  obtain ⟨-, hvalues, hchains⟩ := compilation_bounded hreach .standard
  refine ⟨hreach, fun n hn => ?_, ?_, by decide, by decide, ?_⟩
  · exact (hvalues (fun _ => some "lost") (fun _ => none) 7 (by decide) n hn).1
  · intro hacyclic
    exact absurd (Graph.acyclic_iff_reaches.mp hacyclic) (by decide)
  · exact (hchains looped (·.line "lost") 4 4 (by decide) (by decide)).2 {}

end Drawing

end ScriptGraph
