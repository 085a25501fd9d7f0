import Mathlib.Data.List.Perm.Basic
import ScriptGraph.Proofs.Document.RoundTrip

/-!
# The order of records does not matter

A document names nodes and ports by identifier, so its node records may stand in any order, and any
of its edge records may be left out and the rest put in any order.  It loads all the same
(`document_keyed_by_id`).

Edges are connected one by one, and each connection may be refused or displace an edge, so it is not
plain that their order is of no account.  But a document in another order is itself the document of
a graph: that of the same nodes in the other order, with the edges that were kept in theirs
(`Graph.rearrange`, `Document.ofGraph_rearrange`).  That graph is as sound as the first one, and has
fewer paths, so what is known about saving and loading applies to it.
-/

namespace ScriptGraph

variable {K : NodeKind → Prop}

/-! ## Records in another order -/

/-- A list in another order of what a function gives is what it gives of a list in another order. -/
theorem exists_perm_of_perm_map {α β : Type} {f : α → β} {l : List α} {m : List β}
    (h : m.Perm (l.map f)) : ∃ l' : List α, l'.Perm l ∧ m = l'.map f := by
  obtain ⟨l', heq, hperm⟩ := (congrFun₂ (List.eq_map_comp_perm f) m l).mpr h
  exact ⟨l', hperm, heq⟩

/-- The same for some of the list in any order. -/
theorem exists_subperm_of_subperm_map {α β : Type} {f : α → β} {l : List α} {m : List β}
    (h : m.Subperm (l.map f)) : ∃ l' : List α, l'.Subperm l ∧ m = l'.map f := by
  obtain ⟨kept, hperm, hsub⟩ := h
  obtain ⟨l', hsub', rfl⟩ := List.sublist_map_iff.mp hsub
  obtain ⟨l'', hperm', rfl⟩ := exists_perm_of_perm_map hperm.symm
  exact ⟨l'', ⟨l', hperm'.symm, hsub'⟩, rfl⟩

/-! ## Graphs in another order -/

namespace Graph

/-- The graph with its nodes in another order. -/
def reorder (g : Graph) (nodes : List Node) : Graph :=
  { g with nodes, owners := nodes.flatMap Node.owned }

/-- The graph with its nodes in another order and with other edges. -/
def rearrange (g : Graph) (nodes : List Node) (edges : List Edge) : Graph :=
  (g.reorder nodes).withEdges edges

variable {g : Graph} {nodes : List Node} {edges : List Edge}

theorem WellFormed.reorder (h : g.WellFormed) (hperm : nodes.Perm g.nodes) :
    (g.reorder nodes).WellFormed := by
  have hports : (g.reorder nodes).ports.Perm g.ports := hperm.flatMap_right _
  refine
    { nodes_distinct := (hperm.map _).nodup_iff.mpr h.nodes_distinct
      nodes_made := fun n hn => h.nodes_made n (hperm.subset hn)
      ports_distinct := (hports.map _).nodup_iff.mpr h.ports_distinct
      owners_eq := rfl
      edges_distinct := h.edges_distinct
      edges_join := fun e he => ?_
      inputs_single := h.inputs_single
      ports_wired := fun p hp => h.ports_wired p (hports.subset hp) }
  obtain ⟨s, hs, t, ht, hends⟩ := h.edges_join e he
  exact ⟨s, hperm.symm.subset hs, t, hperm.symm.subset ht, hends⟩

/-- Some of the edges in any order suit the nodes as well. -/
theorem WellFormed.withEdges_subperm (h : g.WellFormed) (hsub : edges.Subperm g.edges) :
    (g.withEdges edges).WellFormed := by
  have hall := fun e he => h.edges_join e (hsub.subset he)
  obtain ⟨kept, hperm, hkept⟩ := hsub
  refine h.withEdges ?_ hall ?_
  · exact (hperm.map _).nodup_iff.mp (h.edges_distinct.sublist (hkept.map _))
  · exact (hperm.map _).nodup_iff.mp (h.inputs_single.sublist (hkept.map _))

theorem Sound.rearrange (h : g.Sound K) (hperm : nodes.Perm g.nodes)
    (hsub : edges.Subperm g.edges) : (g.rearrange nodes edges).Sound K := by
  have hreordered : (g.reorder nodes).Sound K :=
    ⟨h.wellFormed.reorder hperm, fun n hn => h.nodes_made n (hperm.subset hn)⟩
  exact ⟨hreordered.wellFormed.withEdges_subperm hsub, hreordered.withEdges_nodes_made edges⟩

theorem clear_rearrange (g : Graph) (nodes : List Node) (edges : List Edge) :
    (g.rearrange nodes edges).nodes.map (·.mapPorts Port.clear) =
      nodes.map (·.mapPorts Port.clear) := by
  rw [rearrange, withEdges_nodes, List.map_map]
  refine List.map_congr_left fun n _ => ?_
  exact n.mapPorts_mapPorts _ _

/-- The nodes of the graph in another order, up to the edges that their ports list. -/
theorem rearrange_nodes_perm (hperm : nodes.Perm g.nodes) :
    ((g.rearrange nodes edges).nodes.map (·.mapPorts Port.clear)).Perm
      (g.nodes.map (·.mapPorts Port.clear)) := by
  rw [clear_rearrange]
  exact hperm.map _

/-- One identifier is drawn for each node, port and edge, in whatever order. -/
theorem idsAfterLoading_rearrange (hperm : nodes.Perm g.nodes) (ids : IdSource) :
    (g.rearrange nodes edges).idsAfterLoading ids =
      ids.skip (g.nodes.length + g.ports.length + (edges.map EdgeRecord.ofEdge).length) := by
  have hnodes : (g.rearrange nodes edges).nodes.length = g.nodes.length := by
    rw [rearrange, withEdges_nodes, List.length_map]
    exact hperm.length_eq
  have hports : (g.rearrange nodes edges).ports.length = g.ports.length := by
    rw [rearrange, ports_withEdges, List.length_map]
    exact (hperm.flatMap_right Node.ports).length_eq
  rw [idsAfterLoading, hnodes, hports, List.length_map]
  rfl

end Graph

/-- What a record says of a node does not depend on the edges at its ports. -/
theorem NodeRecord.ofNode_wire (edges : List Edge) (n : Node) :
    NodeRecord.ofNode (n.mapPorts (Port.wire edges)) = NodeRecord.ofNode n := by
  unfold NodeRecord.ofNode
  rw [Node.mapPorts_inputs, Node.mapPorts_outputs, List.map_map, List.map_map]
  rfl

/-- A document in another order, with some of the edges, is the document of the graph in that order
with those edges. -/
theorem Document.ofGraph_rearrange (g : Graph) (nodes : List Node) (edges : List Edge)
    (comments : List Json.Value) :
    Document.ofGraph (g.rearrange nodes edges) comments =
      { Document.ofGraph g comments with
        nodes := nodes.map .ofNode, edges := edges.map .ofEdge } := by
  have hnodes : (g.rearrange nodes edges).nodes.map NodeRecord.ofNode = nodes.map .ofNode := by
    rw [Graph.rearrange, Graph.withEdges_nodes, List.map_map]
    exact List.map_congr_left fun n _ => NodeRecord.ofNode_wire edges n
  unfold Document.ofGraph
  rw [hnodes]
  rfl

/-! ## Loading with new identifiers -/

/-- The document of a sound graph loads as that graph, under some new identifiers for the edges. -/
theorem Document.exists_toGraph_ofGraph {g : Graph} {palette : Palette}
    (hsound : g.Sound palette.Has) (hacyclic : Acyclic g.edges) {ids : IdSource}
    (hfresh : Graph.Fresh ∅ ids (g.idsAfterLoading ids)) (comments : List Json.Value) :
    ∃ ρ, g.RenamedApart ρ ∧ (Document.ofGraph g comments).toGraph palette ids =
      { outcome := .ok (g.renameEdges ρ, g.idsAfterLoading ids) } := by
  have hnew : ((ids.skip (g.nodes.length + g.ports.length)).upcoming g.edges.length).Nodup := by
    refine IdSource.upcoming_nodup fun i j hi hij hj => hfresh.distinct i j ?_ hij ?_
    · exact (Nat.le_add_right _ _).trans hi
    · rwa [Graph.idsAfterLoading, ← IdSource.skip_skip]
  obtain ⟨ρ, hapart, hρ⟩ :=
    hsound.wellFormed.exists_renamedApart (by simp [IdSource.upcoming]) hnew
  exact ⟨ρ, hapart, Document.toGraph_ofGraph hsound hacyclic hapart hρ comments⟩

/-- Node records of a saved graph may be put into any order, and edge records left out and put into
any order.  The document still loads and no edge is passed over: the nodes are those of the graph,
with their identifiers, texts, places, properties and ports, and between the ports there are exactly
the edges that were kept.  The identifiers that are drawn on the way must differ from each other. -/
theorem document_keyed_by_id {g : Graph} {w : Workspace} (h : g.Reachable w.palette.Has)
    (comments : List Json.Value) {nodes : List NodeRecord} {edges : List EdgeRecord}
    (hnodes : nodes.Perm (Document.ofGraph g comments).nodes)
    (hedges : edges.Subperm (Document.ofGraph g comments).edges)
    (hfresh : Graph.Fresh ∅ w.ids
      (w.ids.skip (g.nodes.length + g.ports.length + edges.length))) :
    ∃ g' : Graph,
      w.load { Document.ofGraph g comments with nodes, edges } =
        { notices := []
          outcome := .ok { w with
            graph := g', comments
            ids := w.ids.skip (g.nodes.length + g.ports.length + edges.length) } } ∧
      g'.WellFormed ∧
      (g'.nodes.map (·.mapPorts Port.clear)).Perm (g.nodes.map (·.mapPorts Port.clear)) ∧
      g'.edges.map (fun e => (e.source.port, e.target.port)) =
        edges.map fun r => (r.source, r.target) := by
  obtain ⟨nodes, hperm, rfl⟩ := exists_perm_of_perm_map hnodes
  obtain ⟨edges, hsub, rfl⟩ := exists_subperm_of_subperm_map hedges
  have hsound := h.sound.rearrange hperm hsub
  have hacyclic : Acyclic (g.rearrange nodes edges).edges := h.acyclic.of_subset hsub.subset
  rw [← Graph.idsAfterLoading_rearrange hperm] at hfresh ⊢
  obtain ⟨ρ, hapart, hload⟩ := Document.exists_toGraph_ofGraph hsound hacyclic hfresh comments
  rw [Document.ofGraph_rearrange] at hload
  refine ⟨(g.rearrange nodes edges).renameEdges ρ, ?_, ?_, ?_, ?_⟩
  · rw [Workspace.load, hload]
    rfl
  · rw [← hsound.wellFormed.withEdges_rename]
    exact hsound.wellFormed.withEdges_rename_sublist hapart (List.Sublist.refl _)
  · have hclear : ((g.rearrange nodes edges).renameEdges ρ).nodes.map (·.mapPorts Port.clear) =
        (g.rearrange nodes edges).nodes.map (·.mapPorts Port.clear) := by
      rw [Graph.renameEdges, List.map_map]
      refine List.map_congr_left fun n _ => ?_
      exact n.mapPorts_mapPorts _ _
    rw [hclear]
    exact Graph.rearrange_nodes_perm hperm
  · rw [Graph.renameEdges, List.map_map, List.map_map]
    rfl

/-- The sample loads with its nodes listed backwards and the edges but for the first one as well. -/
theorem document_keyed_by_id_backwards :
    let w : Workspace := { ids := .counting }
    let d := Document.ofGraph .sample [.null]
    let edges := (d.edges.drop 1).reverse
    Graph.sample.Reachable w.palette.Has ∧
    d.nodes.reverse.Perm d.nodes ∧ edges.Subperm d.edges ∧ edges.length = 4 ∧
    Graph.Fresh ∅ w.ids (w.ids.skip (7 + 16 + edges.length)) ∧
    ∃ g' : Graph,
      w.load { d with nodes := d.nodes.reverse, edges } =
        { outcome := .ok { w with graph := g', comments := [.null], ids := w.ids.skip 27 } } ∧
      (g'.nodes.map (·.mapPorts Port.clear)).Perm
        (Graph.sample.nodes.map (·.mapPorts Port.clear)) ∧
      g'.edges.map (fun e => (e.source.port, e.target.port)) =
        edges.map fun r => (r.source, r.target) := by
  intro w d edges
  have hreach : Graph.sample.Reachable w.palette.Has :=
    Graph.sample_reachable fun _ => Palette.standard_has_iff.mpr
  have hnodes : d.nodes.reverse.Perm d.nodes := List.reverse_perm _
  have hedges : edges.Subperm d.edges :=
    (List.reverse_perm _).subperm.trans (List.drop_sublist 1 _).subperm
  have hfresh : Graph.Fresh ∅ w.ids (w.ids.skip (7 + 16 + edges.length)) :=
    IdSource.counting_fresh rfl (by decide)
  obtain ⟨g', hload, -, hperm, hpairs⟩ := document_keyed_by_id hreach [.null] hnodes hedges hfresh
  exact ⟨hreach, hnodes, hedges, by decide, hfresh, g', hload, hperm, hpairs⟩

end ScriptGraph
