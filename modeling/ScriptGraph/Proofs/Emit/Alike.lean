import Mathlib.Data.List.Forall2
import ScriptGraph.Proofs.Emit.Flow

/-!
# Drawings that mean the same

Two graphs are alike if they can be told apart only by identifiers, titles, places and descriptions,
and by the order in which nodes and edges are listed (`Graph.Alike`).  The identifiers of nodes
correspond by `ν` and those of edges by `ε`.  Ports correspond by their places in their nodes.

Nothing is said about the edge lists.  What the ports list is enough: an edge of a well-formed graph
is listed at both of its ends, so the corresponding edge is listed at the corresponding ports and
must run between them (`Alike.exists_edge`).  Hence corresponding ports are fed by corresponding
nodes (`Alike.sourceOf?`) and drive corresponding ones (`Alike.execTarget?`).
-/

namespace ScriptGraph

variable {ν : NodeId → NodeId} {ε : EdgeId → EdgeId}

/-! ## Ports and nodes -/

/-- Two ports that say the same and list corresponding edges in the same order. -/
structure Port.Alike (ε : EdgeId → EdgeId) (p p' : Port) : Prop where
  name_eq : p'.name = p.name
  type_eq : p'.type = p.type
  default_eq : p'.spec.default = p.spec.default
  edges_eq : p'.edges = p.edges.map ε

/-- Two nodes of one kind with the same properties and corresponding ports. -/
structure Node.Alike (ε : EdgeId → EdgeId) (n n' : Node) : Prop where
  tag_eq : n'.tag = n.tag
  properties_eq : n'.properties = n.properties
  inputs : List.Forall₂ (Port.Alike ε) n.inputs n'.inputs
  outputs : List.Forall₂ (Port.Alike ε) n.outputs n'.outputs

instance {α : Type} [DecidableEq α] : DecidableEq (Table α) := fun t u =>
  decidable_of_iff (t.entries = u.entries) ⟨Table.ext, congrArg Table.entries⟩

instance (p p' : Port) : Decidable (p.Alike ε p') :=
  decidable_of_iff (p'.name = p.name ∧ p'.type = p.type ∧ p'.spec.default = p.spec.default ∧
      p'.edges = p.edges.map ε)
    ⟨fun ⟨h₁, h₂, h₃, h₄⟩ => ⟨h₁, h₂, h₃, h₄⟩, fun ⟨h₁, h₂, h₃, h₄⟩ => ⟨h₁, h₂, h₃, h₄⟩⟩

instance (n n' : Node) : Decidable (n.Alike ε n') :=
  decidable_of_iff (n'.tag = n.tag ∧ n'.properties = n.properties ∧
      List.Forall₂ (Port.Alike ε) n.inputs n'.inputs ∧
      List.Forall₂ (Port.Alike ε) n.outputs n'.outputs)
    ⟨fun ⟨h₁, h₂, h₃, h₄⟩ => ⟨h₁, h₂, h₃, h₄⟩, fun ⟨h₁, h₂, h₃, h₄⟩ => ⟨h₁, h₂, h₃, h₄⟩⟩

theorem rel_find? {α β : Type} {R : α → β → Prop} {p : α → Bool} {q : β → Bool}
    (hpq : ∀ a b, R a b → q b = p a) {l : List α} {l' : List β} (h : List.Forall₂ R l l') :
    Option.Rel (fun a b => R a b ∧ a ∈ l ∧ b ∈ l') (l.find? p) (l'.find? q) := by
  induction h with
  | nil => exact .none
  | cons hab hrest ih =>
      rename_i a b l l'
      rw [List.find?_cons, List.find?_cons, hpq a b hab]
      cases p a with
      | true => exact .some ⟨hab, List.mem_cons_self, List.mem_cons_self⟩
      | false =>
          generalize l.find? p = found at ih
          generalize l'.find? q = found' at ih
          cases ih with
          | none => exact .none
          | some hfound =>
              obtain ⟨hr, ha, hb⟩ := hfound
              exact .some ⟨hr, List.mem_cons_of_mem _ ha, List.mem_cons_of_mem _ hb⟩

theorem Port.Alike.isConnected_eq {p p' : Port} (h : p.Alike ε p') :
    p'.isConnected = p.isConnected := by
  unfold Port.isConnected
  rw [h.edges_eq, List.isEmpty_map]

namespace Node.Alike

variable {n n' : Node} (h : n.Alike ε n')
include h

theorem input? (name : String) :
    Option.Rel (fun p p' => p.Alike ε p' ∧ p ∈ n.inputs ∧ p' ∈ n'.inputs)
      (n.input? name) (n'.input? name) := by
  refine rel_find? (fun p p' hp => ?_) h.inputs
  rw [hp.name_eq]

theorem output? (name : String) :
    Option.Rel (fun p p' => p.Alike ε p' ∧ p ∈ n.outputs ∧ p' ∈ n'.outputs)
      (n.output? name) (n'.output? name) := by
  refine rel_find? (fun p p' hp => ?_) h.outputs
  rw [hp.name_eq]

theorem execOutput? :
    Option.Rel (fun p p' => p.Alike ε p' ∧ p ∈ n.outputs ∧ p' ∈ n'.outputs)
      n.execOutput? n'.execOutput? := by
  refine rel_find? (fun p p' hp => ?_) h.outputs
  rw [hp.type_eq]

end Node.Alike

/-! ## Graphs -/

namespace Graph

/-- Two graphs that differ in nothing that matters to a script.  Since no node of a graph has the
identifier of another, `ν` is a bijection between those of the one and those of the other. -/
structure Alike (ν : NodeId → NodeId) (ε : EdgeId → EdgeId) (g g' : Graph) : Prop where
  nodes_perm : (g.nodes.map fun n => ν n.id).Perm (g'.nodes.map Node.id)
  nodes_alike : ∀ n ∈ g.nodes, ∀ n' ∈ g'.nodes, n'.id = ν n.id → n.Alike ε n'
  /-- the same start comes first -/
  start_eq : g'.start?.map Node.id = g.start?.map fun n => ν n.id
  /-- the functions are in the same order -/
  functions_eq : (g'.nodes.filter fun n => n.tag == NodeKind.function.tag).map Node.id =
    (g.nodes.filter fun n => n.tag == NodeKind.function.tag).map fun n => ν n.id

/-- Nodes of two graphs that correspond by their identifiers. -/
structure Twins (ν : NodeId → NodeId) (g g' : Graph) (n n' : Node) : Prop where
  left_mem : n ∈ g.nodes
  right_mem : n' ∈ g'.nodes
  id_eq : n'.id = ν n.id

/-- The edge that a port lists first runs to the node that the port drives. -/
theorem WellFormed.execTarget?_eq_some {g : Graph} (h : g.WellFormed) {p : Port}
    (hp : p ∈ g.ports) {e : Edge} (he : e ∈ g.edges) (hhead : p.edges.head? = some e.id) {t : Node}
    (ht : t ∈ g.nodes) (hid : t.id = e.target.node) : g.execTarget? p.id = some t := by
  rw [execTarget?, (h.firstEdge?_eq_some_iff hp).mpr ⟨he, hhead⟩, Option.bind_some]
  exact h.node?_eq_some_iff.mpr ⟨ht, hid⟩

/-- The edge that a port lists first runs from the node that feeds the port. -/
theorem WellFormed.sourceOf?_eq_some {g : Graph} (h : g.WellFormed) {p : Port}
    (hp : p ∈ g.ports) {e : Edge} (he : e ∈ g.edges) (hhead : p.edges.head? = some e.id) {s : Node}
    (hs : s ∈ g.nodes) (hid : s.id = e.source.node) :
    (g.sourceOf? p.id).map Prod.fst = some s := by
  obtain ⟨s', hs', -, -, q, hq, -, -, hfrom, -⟩ := h.edges_join e he
  rw [hfrom] at hid
  obtain rfl := h.node_unique hs hs' hid
  have hnode : g.node? e.source.node = some s := by
    rw [hfrom]
    exact h.node?_eq_some_iff.mpr ⟨hs, rfl⟩
  have hport : s.port? e.source.port = some q := by
    rw [hfrom]
    exact (find?_eq_some_iff_mem Port.id (h.node_portIds_nodup hs)).mpr
      ⟨Node.mem_ports_of_mem_outputs hq, rfl⟩
  rw [sourceOf?, (h.firstEdge?_eq_some_iff hp).mpr ⟨he, hhead⟩]
  simp only [Option.bind_some, hnode, hport, Option.map_some]

theorem WellFormed.firstEdge?_eq_none {g : Graph} (h : g.WellFormed) {p : Port}
    (hp : p ∈ g.ports) (hhead : p.edges.head? = none) : g.firstEdge? p.id = none := by
  have hport : g.port? p.id = some p := h.port?_eq_some_iff.mpr ⟨hp, rfl⟩
  rw [firstEdge?, hport, Option.bind_some, hhead, Option.bind_none]

theorem WellFormed.exists_edge_of_mem {g : Graph} (h : g.WellFormed) {p : Port} (hp : p ∈ g.ports)
    {id : EdgeId} (hid : id ∈ p.edges) : ∃ e ∈ g.edges, e.id = id := by
  rw [h.ports_wired p hp, mem_incident] at hid
  obtain ⟨e, he, -, hid⟩ := hid
  exact ⟨e, he, hid⟩

namespace Alike

variable {g g' : Graph} (h : g.Alike ν ε g') (hwf : g.WellFormed) (hwf' : g'.WellFormed)
include h

theorem length_eq : g'.nodes.length = g.nodes.length := by
  have hlength := h.nodes_perm.length_eq
  rw [List.length_map, List.length_map] at hlength
  exact hlength.symm

theorem exists_twin {n : Node} (hn : n ∈ g.nodes) : ∃ n', Twins ν g g' n n' := by
  have hmem : ν n.id ∈ g'.nodes.map Node.id :=
    h.nodes_perm.subset (List.mem_map_of_mem (f := fun n : Node => ν n.id) hn)
  obtain ⟨n', hn', hid⟩ := List.mem_map.mp hmem
  exact ⟨n', hn, hn', hid⟩

theorem alike {n n' : Node} (ht : Twins ν g g' n n') : n.Alike ε n' :=
  h.nodes_alike n ht.left_mem n' ht.right_mem ht.id_eq

include hwf' in
theorem id_injOn {n m : Node} (hn : n ∈ g.nodes) (hm : m ∈ g.nodes) (hid : ν n.id = ν m.id) :
    n = m := by
  have hdistinct : (g.nodes.map fun n => ν n.id).Nodup :=
    h.nodes_perm.nodup_iff.mpr hwf'.nodes_distinct
  exact List.inj_on_of_nodup_map hdistinct hn hm hid

include hwf hwf'

/-- To each edge there is one of the other graph that runs between the corresponding nodes. -/
theorem exists_edge {e : Edge} (he : e ∈ g.edges) :
    ∃ e' ∈ g'.edges, e'.id = ε e.id ∧
      e'.source.node = ν e.source.node ∧ e'.target.node = ν e.target.node := by
  have hjoin := hwf.edges_join e he
  obtain ⟨s, hs, t, ht, p, hp, q, hq, hfrom, hto, -, -⟩ := hjoin
  obtain ⟨s', hst⟩ := h.exists_twin hs
  obtain ⟨t', htt⟩ := h.exists_twin ht
  obtain ⟨p', hp', hpp⟩ := exists_of_forall₂ (h.alike hst).outputs hp
  obtain ⟨q', hq', hqq⟩ := exists_of_forall₂ (h.alike htt).inputs hq
  have hpg : p ∈ g.ports := mem_ports.mpr ⟨s, hs, Node.mem_ports_of_mem_outputs hp⟩
  have hqg : q ∈ g.ports := mem_ports.mpr ⟨t, ht, Node.mem_ports_of_mem_inputs hq⟩
  have hpg' : p' ∈ g'.ports :=
    mem_ports.mpr ⟨s', hst.right_mem, Node.mem_ports_of_mem_outputs hp'⟩
  have hqg' : q' ∈ g'.ports := mem_ports.mpr ⟨t', htt.right_mem, Node.mem_ports_of_mem_inputs hq'⟩
  -- the edge is listed at both of its ends, and so is the corresponding one
  have hsource : ε e.id ∈ p'.edges := by
    rw [hpp.edges_eq]
    refine List.mem_map_of_mem ((hwf.mem_edges he hpg).mpr ?_)
    simp [Edge.touchesPort, hfrom]
  have htarget : ε e.id ∈ q'.edges := by
    rw [hqq.edges_eq]
    refine List.mem_map_of_mem ((hwf.mem_edges he hqg).mpr ?_)
    simp [Edge.touchesPort, hto]
  obtain ⟨e', he', hid⟩ := hwf'.exists_edge_of_mem hpg' hsource
  have hmade := hwf'.nodes_made s' hst.right_mem
  have hmade' := hwf'.nodes_made t' htt.right_mem
  have hfrom' : e'.source = p'.endpoint :=
    ((hwf'.edges_join e' he').touchesPort_output_iff hwf' hpg' (hmade.outputs_send p' hp')).mp
      ((hwf'.mem_edges he' hpg').mp (hid ▸ hsource))
  have hto' : e'.target = q'.endpoint :=
    ((hwf'.edges_join e' he').touchesPort_input_iff hwf' hqg' (hmade'.inputs_receive q' hq')).mp
      ((hwf'.mem_edges he' hqg').mp (hid ▸ htarget))
  refine ⟨e', he', hid, ?_, ?_⟩
  · rw [hfrom', hfrom, ← hst.id_eq]
    exact hmade.ports_own p' (Node.mem_ports_of_mem_outputs hp')
  · rw [hto', hto, ← htt.id_eq]
    exact hmade'.ports_own q' (Node.mem_ports_of_mem_inputs hq')

/-- Of corresponding ports the first edges correspond: either there are none, or there are two that
run between corresponding nodes. -/
theorem first_edges {p p' : Port} (hpp : p.Alike ε p') (hp : p ∈ g.ports) :
    (p.edges.head? = none ∧ p'.edges.head? = none) ∨
      ∃ e ∈ g.edges, ∃ e' ∈ g'.edges, p.edges.head? = some e.id ∧ p'.edges.head? = some e'.id ∧
        e'.source.node = ν e.source.node ∧ e'.target.node = ν e.target.node := by
  rw [hpp.edges_eq, List.head?_map]
  cases hhead : p.edges.head? with
  | none => exact .inl ⟨rfl, rfl⟩
  | some id =>
      obtain ⟨e, he, rfl⟩ := hwf.exists_edge_of_mem hp (List.mem_of_mem_head? hhead)
      obtain ⟨e', he', hid, hends⟩ := h.exists_edge hwf hwf' he
      exact .inr ⟨e, he, e', he', rfl, by rw [hid, Option.map_some], hends⟩

theorem execTarget? {p p' : Port} (hpp : p.Alike ε p') (hp : p ∈ g.ports) (hp' : p' ∈ g'.ports) :
    Option.Rel (Twins ν g g') (g.execTarget? p.id) (g'.execTarget? p'.id) := by
  rcases h.first_edges hwf hwf' hpp hp with ⟨hnone, hnone'⟩ | hedges
  · rw [Graph.execTarget?, Graph.execTarget?, hwf.firstEdge?_eq_none hp hnone,
      hwf'.firstEdge?_eq_none hp' hnone']
    exact .none
  · obtain ⟨e, he, e', he', hhead, hhead', -, hends⟩ := hedges
    obtain ⟨_, _, t, ht, _, _, _, _, _, hto, _⟩ := hwf.edges_join e he
    obtain ⟨t', htt⟩ := h.exists_twin ht
    have hid : t.id = e.target.node := by rw [hto]
    have hid' : t'.id = e'.target.node := by rw [hends, htt.id_eq, hid]
    rw [hwf.execTarget?_eq_some hp he hhead ht hid,
      hwf'.execTarget?_eq_some hp' he' hhead' htt.right_mem hid']
    exact .some htt

theorem sourceOf? {p p' : Port} (hpp : p.Alike ε p') (hp : p ∈ g.ports) (hp' : p' ∈ g'.ports) :
    Option.Rel (Twins ν g g') ((g.sourceOf? p.id).map Prod.fst)
      ((g'.sourceOf? p'.id).map Prod.fst) := by
  rcases h.first_edges hwf hwf' hpp hp with ⟨hnone, hnone'⟩ | hedges
  · rw [Graph.sourceOf?, Graph.sourceOf?, hwf.firstEdge?_eq_none hp hnone,
      hwf'.firstEdge?_eq_none hp' hnone']
    exact .none
  · obtain ⟨e, he, e', he', hhead, hhead', hends, -⟩ := hedges
    obtain ⟨s, hs, _, _, _, _, _, _, hfrom, _⟩ := hwf.edges_join e he
    obtain ⟨s', hst⟩ := h.exists_twin hs
    have hid : s.id = e.source.node := by rw [hfrom]
    have hid' : s'.id = e'.source.node := by rw [hends, hst.id_eq, hid]
    rw [hwf.sourceOf?_eq_some hp he hhead hs hid,
      hwf'.sourceOf?_eq_some hp' he' hhead' hst.right_mem hid']
    exact .some hst

end Alike

end Graph

end ScriptGraph
