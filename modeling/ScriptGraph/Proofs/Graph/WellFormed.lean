import ScriptGraph.Proofs.Graph.Lookup

/-!
# Well-formed graphs

An edge is recorded in the edge list and at both of its ports, and a port in its node and in the
index.  `Graph.WellFormed` says that these records agree.  The records at the ports follow from the
edge list, so a well-formed graph is determined by its nodes without their edges and by its edge
list: `Graph.withEdges` puts another edge list in place and writes it to the ports.

A graph with other edges is well-formed if these suit its nodes (`WellFormed.withEdges`).  That
every operation on edges is such a replacement is shown in `ScriptGraph.Proofs.Graph.Operations`.
-/

namespace ScriptGraph

/-- The edges of a list that end at a port, in order. -/
def incident (edges : List Edge) (port : PortId) : List EdgeId :=
  (edges.filter fun e => e.touchesPort port).map Edge.id

/-- A port that lists the edges which end at it. -/
def Port.wire (edges : List Edge) (p : Port) : Port :=
  { p with edges := incident edges p.id }

/-- A node as its kind makes it: its ports name it, and face the way they are listed. -/
structure Node.WellMade (n : Node) : Prop where
  ports_own : ∀ p ∈ n.ports, p.node = n.id
  inputs_receive : ∀ p ∈ n.inputs, p.direction = .input
  outputs_send : ∀ p ∈ n.outputs, p.direction = .output

@[simp] theorem Port.wire_wire (edges other : List Edge) (p : Port) :
    (p.wire edges).wire other = p.wire other := rfl

/-- A change of ports that keeps their owners and the way they face. -/
theorem Node.WellMade.mapPorts {n : Node} (h : n.WellMade) {f : Port → Port}
    (hnode : ∀ p, (f p).node = p.node) (hdir : ∀ p, (f p).direction = p.direction) :
    (n.mapPorts f).WellMade where
  ports_own p hp := by
    obtain ⟨q, hq, rfl⟩ := List.mem_map.mp (by simpa using hp)
    exact (hnode q).trans (h.ports_own q hq)
  inputs_receive p hp := by
    obtain ⟨q, hq, rfl⟩ := List.mem_map.mp (by simpa using hp)
    exact (hdir q).trans (h.inputs_receive q hq)
  outputs_send p hp := by
    obtain ⟨q, hq, rfl⟩ := List.mem_map.mp (by simpa using hp)
    exact (hdir q).trans (h.outputs_send q hq)

namespace Graph

/-- The graph with the same nodes and other edges. -/
def withEdges (g : Graph) (edges : List Edge) : Graph :=
  { g with nodes := g.nodes.map (·.mapPorts (Port.wire edges)), edges }

/-- An edge runs from an output of one node of the graph to an input of another, of one type. -/
def Joins (g : Graph) (e : Edge) : Prop :=
  ∃ s ∈ g.nodes, ∃ t ∈ g.nodes, ∃ p ∈ s.outputs, ∃ q ∈ t.inputs,
    e.source = ⟨s.id, p.id⟩ ∧ e.target = ⟨t.id, q.id⟩ ∧ s.id ≠ t.id ∧ p.type = q.type

/-- The records of a graph agree with each other. -/
structure WellFormed (g : Graph) : Prop where
  /-- a node is the only one of its identifier -/
  nodes_distinct : (g.nodes.map Node.id).Nodup
  nodes_made : ∀ n ∈ g.nodes, n.WellMade
  ports_distinct : g.portIds.Nodup
  /-- the index lists the ports of the nodes with their owners, and nothing else -/
  owners_eq : g.owners = g.nodes.flatMap Node.owned
  /-- an edge is the only one of its identifier -/
  edges_distinct : (g.edges.map Edge.id).Nodup
  edges_join : ∀ e ∈ g.edges, g.Joins e
  /-- an input is the target of one edge at most -/
  inputs_single : (g.edges.map fun e => e.target.port).Nodup
  /-- a port lists the edges which end at it, in the order of the edge list -/
  ports_wired : ∀ p ∈ g.ports, p.edges = incident g.edges p.id

/-! ## Views of a graph with other edges -/

@[simp] theorem withEdges_edges (g : Graph) (edges : List Edge) :
    (g.withEdges edges).edges = edges := rfl

@[simp] theorem withEdges_owners (g : Graph) (edges : List Edge) :
    (g.withEdges edges).owners = g.owners := rfl

@[simp] theorem withEdges_nodes (g : Graph) (edges : List Edge) :
    (g.withEdges edges).nodes = g.nodes.map (·.mapPorts (Port.wire edges)) := rfl

@[simp] theorem withEdges_withEdges (g : Graph) (edges other : List Edge) :
    (g.withEdges edges).withEdges other = g.withEdges other := by
  simp [withEdges, Node.mapPorts_mapPorts, Function.comp_def]

theorem ports_withEdges (g : Graph) (edges : List Edge) :
    (g.withEdges edges).ports = g.ports.map (Port.wire edges) := by
  simp [ports, List.flatMap_map, List.map_flatMap]

@[simp] theorem portIds_withEdges (g : Graph) (edges : List Edge) :
    (g.withEdges edges).portIds = g.portIds := by
  simp [portIds, ports_withEdges, Port.wire, Function.comp_def]

@[simp] theorem map_id_withEdges (g : Graph) (edges : List Edge) :
    (g.withEdges edges).nodes.map Node.id = g.nodes.map Node.id := by
  simp [Function.comp_def]

theorem joins_withEdges {g : Graph} {edges : List Edge} {e : Edge} :
    (g.withEdges edges).Joins e ↔ g.Joins e := by
  simp [Joins, Port.wire, Port.type]

/-- A graph stays well-formed with other edges if these have distinct identifiers, suit the ports
and share no target. -/
theorem WellFormed.withEdges {g : Graph} (h : g.WellFormed) {edges : List Edge}
    (hdistinct : (edges.map Edge.id).Nodup) (hjoin : ∀ e ∈ edges, g.Joins e)
    (hsingle : (edges.map fun e => e.target.port).Nodup) : (g.withEdges edges).WellFormed where
  nodes_distinct := by rw [map_id_withEdges]; exact h.nodes_distinct
  nodes_made n hn := by
    obtain ⟨m, hm, rfl⟩ := List.mem_map.mp hn
    exact (h.nodes_made m hm).mapPorts (fun _ => rfl) (fun _ => rfl)
  ports_distinct := by rw [portIds_withEdges]; exact h.ports_distinct
  owners_eq := by
    have howned : ∀ n : Node, (n.mapPorts (Port.wire edges)).owned = n.owned :=
      fun n => Node.owned_mapPorts fun _ => rfl
    simp [List.flatMap_map, howned, h.owners_eq]
  edges_distinct := hdistinct
  edges_join e he := joins_withEdges.mpr (hjoin e he)
  inputs_single := hsingle
  ports_wired p hp := by
    rw [ports_withEdges] at hp
    obtain ⟨q, -, rfl⟩ := List.mem_map.mp hp
    rfl

theorem WellFormed.withEdges_sublist {g : Graph} (h : g.WellFormed) {edges : List Edge}
    (hsub : edges.Sublist g.edges) : (g.withEdges edges).WellFormed :=
  h.withEdges (h.edges_distinct.sublist (hsub.map _)) (fun e he => h.edges_join e (hsub.subset he))
    (h.inputs_single.sublist (hsub.map _))

/-- The ports of a well-formed graph already say what its edge list says. -/
theorem WellFormed.withEdges_self {g : Graph} (h : g.WellFormed) : g.withEdges g.edges = g := by
  have hnodes : g.nodes.map (·.mapPorts (Port.wire g.edges)) = g.nodes := by
    refine (List.map_congr_left fun n hn => ?_).trans (List.map_id _)
    refine Node.mapPorts_eq_self fun p hp => ?_
    rw [Port.wire, ← h.ports_wired p (mem_ports.mpr ⟨n, hn, hp⟩)]
  rw [Graph.withEdges, hnodes]

/-! ## Ports and nodes by identifier -/

section

variable {g : Graph} (h : g.WellFormed)
include h

theorem WellFormed.port_unique {p q : Port} (hp : p ∈ g.ports) (hq : q ∈ g.ports)
    (hid : p.id = q.id) : p = q :=
  List.inj_on_of_nodup_map h.ports_distinct hp hq hid

theorem WellFormed.node_unique {n m : Node} (hn : n ∈ g.nodes) (hm : m ∈ g.nodes)
    (hid : n.id = m.id) : n = m :=
  List.inj_on_of_nodup_map h.nodes_distinct hn hm hid

theorem WellFormed.edge_unique {e f : Edge} (he : e ∈ g.edges) (hf : f ∈ g.edges)
    (hid : e.id = f.id) : e = f :=
  List.inj_on_of_nodup_map h.edges_distinct he hf hid

theorem WellFormed.node?_eq_some_iff {id : NodeId} {n : Node} :
    g.node? id = some n ↔ n ∈ g.nodes ∧ n.id = id :=
  find?_eq_some_iff_mem Node.id h.nodes_distinct

theorem WellFormed.edge?_eq_some_iff {id : EdgeId} {e : Edge} :
    g.edge? id = some e ↔ e ∈ g.edges ∧ e.id = id :=
  find?_eq_some_iff_mem Edge.id h.edges_distinct

theorem WellFormed.map_fst_owners : g.owners.map Prod.fst = g.portIds := by
  rw [h.owners_eq, portIds_eq_flatMap, List.map_flatMap]
  simp

/-- The index maps exactly the ports of the nodes to their owners. -/
theorem WellFormed.ownerId?_eq_some_iff {id : PortId} {node : NodeId} :
    g.ownerId? id = some node ↔ ∃ n ∈ g.nodes, n.id = node ∧ id ∈ n.portIds := by
  have hdistinct : (g.owners.map Prod.fst).Nodup := by
    rw [h.map_fst_owners]
    exact h.ports_distinct
  rw [ownerId?, lookup_eq_some_iff_mem hdistinct, h.owners_eq, List.mem_flatMap]
  constructor
  · rintro ⟨n, hn, hmem⟩
    obtain ⟨hid, rfl⟩ := Node.mem_owned.mp hmem
    exact ⟨n, hn, rfl, hid⟩
  · rintro ⟨n, hn, rfl, hid⟩
    exact ⟨n, hn, Node.mem_owned.mpr ⟨hid, rfl⟩⟩

theorem WellFormed.node_portIds_nodup {n : Node} (hn : n ∈ g.nodes) : n.portIds.Nodup := by
  have hall := h.ports_distinct
  rw [portIds_eq_flatMap, List.nodup_flatMap] at hall
  exact hall.1 n hn

theorem WellFormed.port?_eq_some_iff {id : PortId} {p : Port} :
    g.port? id = some p ↔ p ∈ g.ports ∧ p.id = id := by
  simp only [port?, owner?, Option.bind_eq_some_iff, h.ownerId?_eq_some_iff,
    h.node?_eq_some_iff, mem_ports]
  constructor
  · rintro ⟨n, ⟨_, ⟨m, hm, rfl, hid⟩, hn, hsame⟩, hport⟩
    rw [Node.port?, find?_eq_some_iff_mem Port.id (h.node_portIds_nodup hn)] at hport
    exact ⟨⟨n, hn, hport.1⟩, hport.2⟩
  · rintro ⟨⟨n, hn, hp⟩, rfl⟩
    refine ⟨n, ⟨n.id, ⟨n, hn, rfl, List.mem_map_of_mem hp⟩, hn, rfl⟩, ?_⟩
    exact (find?_eq_some_iff_mem Port.id (h.node_portIds_nodup hn)).mpr ⟨hp, rfl⟩

end

end Graph

end ScriptGraph
