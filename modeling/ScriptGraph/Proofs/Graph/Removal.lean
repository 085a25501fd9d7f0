import ScriptGraph.Proofs.Graph.Rewiring

/-!
# Taking nodes out

A node is taken out edge by edge, and each edge is taken off two ports.  What is left after all this
is the part of the graph on the other nodes: `Graph.restrict` says what that part is, without saying
how to get there.

Restricting a graph twice is restricting it once, to the nodes that are kept both times
(`restrict_restrict`).  So when several nodes are taken out, in whatever order and however often
each of them is named, the result is the part of the graph on the nodes that are not named
(`WellFormed.discardAll_eq`).
-/

namespace ScriptGraph

variable {K : NodeKind → Prop}

/-- A port that lists those of its edges which are among the given ones. -/
def Port.retain (edges : List Edge) (p : Port) : Port :=
  { p with edges := p.edges.filter fun id => (edges.map Edge.id).contains id }

theorem Port.retain_retain {edges more : List Edge} (hsub : edges ⊆ more) (p : Port) :
    (p.retain more).retain edges = p.retain edges := by
  unfold retain
  dsimp only
  rw [List.filter_filter]
  congr 1
  refine List.filter_congr fun id _ => ?_
  cases hmem : (edges.map Edge.id).contains id with
  | false => rfl
  | true =>
      have hmore : id ∈ more.map Edge.id := List.map_subset _ hsub (List.contains_iff_mem.mp hmem)
      rw [List.contains_iff_mem.mpr hmore]
      rfl

namespace Graph

/-! ## The part of a graph on some nodes -/

/-- The edges with both ends at nodes that are kept. -/
def inner (g : Graph) (keep : NodeId → Bool) : List Edge :=
  g.edges.filter fun e => keep e.source.node && keep e.target.node

/-- The part of a graph on the nodes that are kept: these nodes, the edges between them, at each
port the edges that are left of its list, and in the index the ports whose owner is left. -/
def restrict (g : Graph) (keep : NodeId → Bool) : Graph where
  nodes := (g.nodes.filter fun n => keep n.id).map (·.mapPorts (Port.retain (g.inner keep)))
  edges := g.inner keep
  owners := g.owners.filter fun entry => keep entry.2

/-- Take out a node if it is there. -/
def discard (g : Graph) (id : NodeId) : Graph :=
  ((g.remove? id).map Prod.snd).getD g

/-- Take out several nodes, one after the other. -/
def discardAll (g : Graph) (ids : List NodeId) : Graph :=
  ids.foldl discard g

theorem ext {g g' : Graph} (hnodes : g.nodes = g'.nodes) (hedges : g.edges = g'.edges)
    (howners : g.owners = g'.owners) : g = g' := by
  cases g; cases g'; cases hnodes; cases hedges; cases howners; rfl

@[simp] theorem restrict_nodes (g : Graph) (keep : NodeId → Bool) :
    (g.restrict keep).nodes =
      (g.nodes.filter fun n => keep n.id).map (·.mapPorts (Port.retain (g.inner keep))) := rfl

@[simp] theorem restrict_edges (g : Graph) (keep : NodeId → Bool) :
    (g.restrict keep).edges = g.inner keep := rfl

@[simp] theorem restrict_owners (g : Graph) (keep : NodeId → Bool) :
    (g.restrict keep).owners = g.owners.filter fun entry => keep entry.2 := rfl

variable {g : Graph}

theorem inner_restrict (g : Graph) (keep also : NodeId → Bool) :
    (g.restrict keep).inner also = g.inner fun id => keep id && also id := by
  simp only [inner, restrict_edges, List.filter_filter]
  refine List.filter_congr fun e _ => ?_
  cases keep e.source.node <;> cases keep e.target.node <;> simp

/-- Keeping some of what was kept is keeping what is kept both times. -/
theorem restrict_restrict (g : Graph) (keep also : NodeId → Bool) :
    (g.restrict keep).restrict also = g.restrict fun id => keep id && also id := by
  have hsub : (g.inner fun id => keep id && also id) ⊆ g.inner keep := by
    rw [← inner_restrict]
    exact List.filter_subset_self _
  refine ext ?_ (inner_restrict g keep also) ?_
  · rw [restrict_nodes, restrict_nodes, restrict_nodes, inner_restrict, List.filter_map,
      List.map_map, List.filter_filter]
    refine (List.map_congr_left fun n _ => ?_).trans (congrArg _ (List.filter_congr fun n _ => ?_))
    · exact (n.mapPorts_mapPorts _ _).trans
        (Node.mapPorts_congr fun p _ => Port.retain_retain hsub p)
    · exact Bool.and_comm ..
  · rw [restrict_owners, restrict_owners, restrict_owners, List.filter_filter]
    exact List.filter_congr fun entry _ => Bool.and_comm ..

/-- In a well-formed graph a port keeps the edges that are left because these are the ones that end
at it. -/
theorem WellFormed.retain_eq_wire (h : g.WellFormed) (keep : Edge → Bool) {p : Port}
    (hp : p ∈ g.ports) : p.retain (g.edges.filter keep) = p.wire (g.edges.filter keep) := by
  have hkept : incident (g.edges.filter keep) p.id =
      p.edges.filter fun id => ((g.edges.filter keep).map Edge.id).contains id := by
    rw [h.ports_wired p hp]
    exact incident_filter_of_id _ (fun e he => (h.contains_map_id_filter he keep).symm) p.id
  rw [Port.wire, hkept]
  rfl

theorem WellFormed.restrict_nodes (h : g.WellFormed) (keep : NodeId → Bool) :
    (g.restrict keep).nodes =
      (g.nodes.filter fun n => keep n.id).map (·.mapPorts (Port.wire (g.inner keep))) := by
  refine List.map_congr_left fun n hn => Node.mapPorts_congr fun p hp => ?_
  exact h.retain_eq_wire _ (mem_ports.mpr ⟨n, List.mem_of_mem_filter hn, hp⟩)

/-- Keeping every node keeps the graph. -/
theorem WellFormed.restrict_eq_self (h : g.WellFormed) {keep : NodeId → Bool}
    (hkeep : ∀ n ∈ g.nodes, keep n.id = true) : g.restrict keep = g := by
  have hedges : g.inner keep = g.edges := by
    refine List.filter_eq_self.mpr fun e he => ?_
    obtain ⟨s, hs, t, ht, p, -, q, -, hfrom, hto, -⟩ := h.edges_join e he
    rw [hfrom, hto, hkeep s hs, hkeep t ht]
    rfl
  have hall : (g.nodes.filter fun n => keep n.id) = g.nodes := List.filter_eq_self.mpr hkeep
  have howners : (g.owners.filter fun entry => keep entry.2) = g.owners := by
    refine List.filter_eq_self.mpr fun ⟨port, node⟩ hentry => ?_
    rw [h.owners_eq] at hentry
    obtain ⟨n, hn, hentry⟩ := List.mem_flatMap.mp hentry
    rw [(Node.mem_owned.mp hentry).2]
    exact hkeep n hn
  have hnodes : (g.restrict keep).nodes = (g.withEdges g.edges).nodes := by
    rw [h.restrict_nodes, hall, hedges]
    rfl
  rw [h.withEdges_self] at hnodes
  exact ext hnodes hedges howners

/-! ## Taking out one node -/

theorem inner_ne (g : Graph) (id : NodeId) :
    (g.inner fun other => other != id) = g.edges.filter fun e => !e.touchesNode id := by
  refine List.filter_congr fun e _ => ?_
  rw [Edge.touchesNode, Bool.not_or]
  rfl

theorem node?_withEdges (g : Graph) (edges : List Edge) (id : NodeId) :
    (g.withEdges edges).node? id = (g.node? id).map (·.mapPorts (Port.wire edges)) := by
  rw [node?, withEdges_nodes, List.find?_map]
  rfl

/-- No edge is left at a node that is not kept. -/
theorem WellFormed.wire_inner_eq_clear (h : g.WellFormed) {n : Node} (hn : n ∈ g.nodes)
    (keep : NodeId → Bool) (hkeep : keep n.id = false) :
    n.mapPorts (Port.wire (g.inner keep)) = n.mapPorts Port.clear := by
  refine Node.mapPorts_congr fun p hp => ?_
  have hown : p.node = n.id := (h.nodes_made n hn).ports_own p hp
  have hnone : incident (g.inner keep) p.id = [] := by
    rw [incident, List.map_eq_nil_iff, List.filter_eq_nil_iff]
    intro e he htouch
    obtain ⟨he, hends⟩ := List.mem_filter.mp he
    rw [Bool.and_eq_true] at hends
    rcases ((h.edges_join e he).touchesPort_iff h (mem_ports.mpr ⟨n, hn, hp⟩)).mp htouch with
      hend | hend
    · rw [← hend, Port.endpoint, hown, hkeep] at hends
      exact Bool.false_ne_true hends.1
    · rw [← hend, Port.endpoint, hown, hkeep] at hends
      exact Bool.false_ne_true hends.2
  rw [Port.wire, hnone]
  rfl

/-- The ports of a node are those that the index has it as the owner of. -/
theorem WellFormed.mem_portIds_iff_owner (h : g.WellFormed) {n : Node} (hn : n ∈ g.nodes)
    {port : PortId} {node : NodeId} (hentry : (port, node) ∈ g.owners) :
    port ∈ n.portIds ↔ node = n.id := by
  rw [h.owners_eq] at hentry
  obtain ⟨m, hm, hentry⟩ := List.mem_flatMap.mp hentry
  obtain ⟨hport, rfl⟩ := Node.mem_owned.mp hentry
  constructor
  · intro hmem
    rw [h.node_eq_of_port hn hm hmem hport]
  · intro hid
    rwa [← h.node_unique hm hn hid]

/-- Without its edges and then without itself, a node leaves the part of the graph on the others. -/
theorem WellFormed.dropNode_isolated (h : g.WellFormed) {n : Node} (hn : n ∈ g.nodes) :
    (g.withEdges (g.inner fun other => other != n.id)).dropNode (n.mapPorts Port.clear) =
      g.restrict fun other => other != n.id := by
  have hportIds : (n.mapPorts Port.clear).portIds = n.portIds := Node.portIds_mapPorts fun _ => rfl
  refine ext ?_ rfl ?_
  · rw [h.restrict_nodes, Graph.dropNode, withEdges_nodes, List.filter_map]
    rfl
  · rw [Graph.dropNode, hportIds, withEdges_owners, restrict_owners]
    refine List.filter_congr fun entry hentry => ?_
    have hiff : entry.1 ∈ n.portIds ↔ entry.2 = n.id := h.mem_portIds_iff_owner hn hentry
    rw [bne, Bool.eq_iff_iff.mpr (List.contains_iff_mem.trans (hiff.trans beq_iff_eq.symm))]

/-- What is taken out is the node without edges, and what is left is the part of the graph on the
other nodes. -/
theorem WellFormed.remove?_eq (h : g.WellFormed) (id : NodeId) :
    g.remove? id =
      (g.node? id).map fun n => (n.mapPorts Port.clear, g.restrict fun other => other != id) := by
  unfold Graph.remove?
  dsimp only
  rw [h.isolate_eq, ← inner_ne, node?_withEdges, Option.map_map]
  refine Option.map_congr fun n hnode => ?_
  obtain ⟨hn, rfl⟩ := h.node?_eq_some_iff.mp hnode
  have hclear := h.wire_inner_eq_clear hn (fun other => other != n.id) (bne_self_eq_false _)
  rw [Function.comp_apply, hclear, h.dropNode_isolated hn]

theorem WellFormed.remove?_of_mem (h : g.WellFormed) {n : Node} (hn : n ∈ g.nodes) :
    g.remove? n.id = some (n.mapPorts Port.clear, g.restrict fun other => other != n.id) := by
  rw [h.remove?_eq, h.node?_eq_some_iff.mpr ⟨hn, rfl⟩]
  rfl

/-! ## Taking out several nodes -/

theorem WellFormed.discard (h : g.WellFormed) (id : NodeId) : (g.discard id).WellFormed := by
  unfold Graph.discard
  cases hremove : g.remove? id with
  | none => exact h
  | some removed => exact h.remove? hremove

theorem WellFormed.discard_eq (h : g.WellFormed) (id : NodeId) :
    g.discard id = g.restrict fun other => other != id := by
  rw [Graph.discard, h.remove?_eq]
  cases hnode : g.node? id with
  | none =>
      refine (h.restrict_eq_self fun n hn => ?_).symm
      simpa [bne_iff_ne] using List.find?_eq_none.mp hnode n hn
  | some n => rfl

/-- What is left is the part of the graph on the nodes that are not named. -/
theorem WellFormed.discardAll_eq (h : g.WellFormed) (ids : List NodeId) :
    g.discardAll ids = g.restrict fun id => !ids.contains id := by
  induction ids generalizing g with
  | nil => exact (h.restrict_eq_self fun _ _ => rfl).symm
  | cons id ids ih =>
      have hstep : g.discardAll (id :: ids) = (g.discard id).discardAll ids := rfl
      rw [hstep, ih (h.discard id), h.discard_eq, restrict_restrict]
      congr 1
      funext other
      rw [List.contains_cons, Bool.not_or]
      rfl

theorem discardAll_concat (g : Graph) (before : List NodeId) (id : NodeId) :
    g.discardAll (before ++ [id]) = (g.discardAll before).discard id :=
  List.foldl_append

theorem WellFormed.discardAll (h : g.WellFormed) (ids : List NodeId) :
    (g.discardAll ids).WellFormed := by
  induction ids generalizing g with
  | nil => exact h
  | cons id ids ih => exact ih (h.discard id)

/-- Nodes of a graph that a session can come to may be taken out in any order, named more than once
or not be there at all.  What is left is the part of the graph on the nodes that are not named.  On
the way, each node that is still there is returned without edges, and a name that nothing is found
under gives nothing and changes nothing. -/
theorem reachable_removal_restricts (h : g.Reachable K) (ids : List NodeId) :
    (∀ order : List NodeId, order.Perm ids →
      g.discardAll order = g.restrict fun id => !ids.contains id) ∧
    ∀ before id,
      (∀ n, (g.discardAll before).node? id = some n →
        (g.discardAll before).remove? id =
          some (n.mapPorts Port.clear, g.discardAll (before ++ [id]))) ∧
      ((g.discardAll before).node? id = none →
        (g.discardAll before).remove? id = none ∧
          g.discardAll (before ++ [id]) = g.discardAll before) := by
  have hwf := h.sound.wellFormed
  refine ⟨fun order hperm => ?_, fun before id => ⟨fun n hnode => ?_, fun hnode => ?_⟩⟩
  · rw [hwf.discardAll_eq]
    congr 1
    funext id
    rw [Bool.eq_iff_iff.mpr (List.contains_iff_mem.trans
      (hperm.mem_iff.trans List.contains_iff_mem.symm))]
  · have hbefore := hwf.discardAll before
    obtain ⟨hn, rfl⟩ := hbefore.node?_eq_some_iff.mp hnode
    rw [hbefore.remove?_of_mem hn, discardAll_concat, hbefore.discard_eq]
  · have hremove : (g.discardAll before).remove? id = none := by
      rw [(hwf.discardAll before).remove?_eq, hnode]
      rfl
    rw [discardAll_concat, Graph.discard, hremove]
    exact ⟨rfl, rfl⟩

/-- The test and the greeting of the sample are taken out, with a node that is not there in between
and the test once more, forwards and backwards. -/
theorem sample_removal_restricts :
    let node (id : Nat) : NodeId := ⟨⟨BitVec.ofNat 128 id⟩⟩
    let ids : List NodeId := [node 2, node 99, node 11, node 2]
    let rest := sample.restrict fun id => !ids.contains id
    (sample.Reachable fun _ => True) ∧
    sample.discardAll ids = rest ∧ sample.discardAll ids.reverse = rest ∧
    rest.nodes.map Node.id = [node 0, node 8, node 15, node 18, node 20] ∧
    rest.edges.map Edge.id = [⟨⟨5⟩⟩] ∧
    (sample.discardAll [node 2]).remove? (node 2) = none := by
  intro node ids rest
  have hreach : sample.Reachable fun _ => True := sample_reachable fun _ _ => trivial
  obtain ⟨horder, hcalls⟩ := reachable_removal_restricts hreach ids
  have hgone : (sample.discardAll [node 2]).node? (node 2) = none := by
    rw [hreach.sound.wellFormed.discardAll_eq]
    exact List.find?_eq_none.mpr (by decide)
  exact ⟨hreach, horder ids (List.Perm.refl _), horder ids.reverse (List.reverse_perm _),
    by decide, by decide, ((hcalls [node 2] (node 2)).2 hgone).1⟩

end Graph

end ScriptGraph
