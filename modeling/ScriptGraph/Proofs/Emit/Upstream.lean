import ScriptGraph.Proofs.Emit.Alike
import ScriptGraph.Proofs.Emit.Bounds
import ScriptGraph.Proofs.Session.Agreement

/-!
# Expressions and what feeds them

The bounds of `ScriptGraph.Emit.Expression` are never met, so the value and the condition of a node
are put together from the values and conditions of the nodes that feed it, without a bound
(`value?_eq`, `condition?_eq`).  What is shown of a node from the nodes that feed it holds of every
node (`upstream_induction`), because the way upstream ends.
-/

namespace ScriptGraph

open Relation

/-- A port is connected exactly if something feeds it. -/
theorem Graph.WellFormed.isSome_sourceOf? {g : Graph} (h : g.WellFormed) {p : Port}
    (hp : p ∈ g.ports) : (g.sourceOf? p.id).isSome = p.isConnected := by
  cases hedges : p.edges with
  | nil =>
      have hnone := h.firstEdge?_eq_none hp (by rw [hedges]; rfl)
      rw [sourceOf?, hnone, Port.isConnected, hedges]
      rfl
  | cons id rest =>
      obtain ⟨e, he, rfl⟩ := h.exists_edge_of_mem hp (hedges ▸ List.mem_cons_self)
      obtain ⟨s, hs, _, _, _, _, _, _, hfrom, _⟩ := h.edges_join e he
      have hsource := h.sourceOf?_eq_some hp he (by rw [hedges]; rfl) hs (by rw [hfrom])
      have hsome := congrArg Option.isSome hsource
      rw [Option.isSome_map, Option.isSome_some] at hsome
      rw [hsome, Port.isConnected, hedges]
      rfl

/-- An input is fed by the node that an edge to it comes from. -/
theorem Graph.WellFormed.sourceOf?_of_target {g : Graph} (h : g.WellFormed) {n m : Node}
    (hn : n ∈ g.nodes) {p : Port} (hp : p ∈ n.inputs) {e : Edge} (he : e ∈ g.edges)
    (htarget : e.target = ⟨n.id, p.id⟩) (hm : m ∈ g.nodes) (hsource : e.source.node = m.id) :
    (g.sourceOf? p.id).map Prod.fst = some m := by
  have hport : p ∈ g.ports := mem_ports.mpr ⟨n, hn, Node.mem_ports_of_mem_inputs hp⟩
  have hreceive := (h.nodes_made n hn).inputs_receive p hp
  have hown := (h.nodes_made n hn).ports_own p (Node.mem_ports_of_mem_inputs hp)
  have hlisted : e.id ∈ p.edges := by
    rw [h.mem_edges he hport, (h.edges_join e he).touchesPort_input_iff h hport hreceive]
    rw [htarget, Port.endpoint, hown]
  -- there is no other edge at the port, so this one is the first
  have hhead : p.edges.head? = some e.id := by
    have hlength := h.edges_length_le_one hn hp
    cases hedges : p.edges with
    | nil =>
        rw [hedges] at hlisted
        cases hlisted
    | cons id rest =>
        rw [hedges, List.length_cons] at hlength
        obtain rfl := List.length_eq_zero_iff.mp (by omega : rest.length = 0)
        rw [hedges, List.mem_singleton] at hlisted
        rw [hlisted]
        rfl
  exact h.sourceOf?_eq_some hport he hhead hm hsource.symm

namespace Drawing

variable {D : Drawing} {n m : Node}

theorem inputConnected_eq (hwf : D.graph.WellFormed) (hn : n ∈ D.graph.nodes) (input : String) :
    inputConnected n input = (D.source? n input).isSome := by
  unfold inputConnected source?
  cases hp : n.input? input with
  | none => rfl
  | some p =>
      have hport : p ∈ D.graph.ports := Graph.mem_ports.mpr
        ⟨n, hn, Node.mem_ports_of_mem_inputs (List.mem_of_find?_eq_some hp)⟩
      simp [hwf.isSome_sourceOf? hport]

section

variable (hwf : D.graph.WellFormed) (hacyclic : Acyclic D.graph.edges)
include hwf hacyclic

/-- What holds of a node if it holds of the nodes that feed it holds of every node. -/
theorem upstream_induction {P : Node → Prop}
    (hstep : ∀ n ∈ D.graph.nodes, (∀ m ∈ D.graph.nodes, D.FedBy n m → P m) → P n)
    (hn : n ∈ D.graph.nodes) : P n := by
  induction hid : n.id using hacyclic.wellFounded_upstream.induction generalizing n with
  | h id ih =>
      subst hid
      refine hstep n hn fun m hm hfeed => ?_
      obtain ⟨input, hsource⟩ := hfeed
      exact ih m.id (.single (leads_of_source? hwf hn hsource).2) hm rfl

/-- The value of a node is put together from those of the nodes that feed it. -/
theorem value?_eq (hn : n ∈ D.graph.nodes) :
    D.value? n = (D.behaviour? n).bind (D.valueOf D.value? n) := by
  have hmore := valueFrom_eq hwf hacyclic (fun _ => none) (Nat.le_succ D.reach) hn
  rw [valueFrom_none] at hmore
  exact hmore.symm

/-- The condition of a node is put together from those of the nodes that feed it. -/
theorem condition?_eq (hn : n ∈ D.graph.nodes) :
    D.condition? n = (D.behaviour? n).bind (D.conditionOf D.value? D.condition? n) := by
  have hmore :=
    conditionFrom_eq hwf hacyclic (fun _ => none) (fun _ => none) (Nat.le_succ D.reach) hn
  rw [conditionFrom_none] at hmore
  exact hmore.symm

end

/-! ## Conditions of inputs -/

theorem resolveCondition_eq_some_iff {condition : Node → Option String} {input text : String} :
    D.resolveCondition condition n input = some text ↔
      ∃ m, D.source? n input = some m ∧ condition m = some text ∧ Text.allBlank text = false := by
  rw [resolveCondition, Option.filter_eq_some_iff, Option.bind_eq_some_iff]
  constructor
  · rintro ⟨⟨m, hsource, htext⟩, hblank⟩
    exact ⟨m, hsource, htext, by simpa using hblank⟩
  · rintro ⟨m, hsource, htext, hblank⟩
    exact ⟨⟨m, hsource, htext⟩, by simp [hblank]⟩

end Drawing

end ScriptGraph
