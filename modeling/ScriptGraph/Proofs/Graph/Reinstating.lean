import ScriptGraph.Proofs.Document.Loading
import ScriptGraph.Proofs.Document.Rearranged
import ScriptGraph.Proofs.Graph.Removal

/-!
# Putting a node back

A node that was taken out can be put in again, and its edges drawn once more, one by one, in any
order and from either end (`removal_undone`).  Nothing in between is refused and nothing gives way:
the identifiers of the node and its ports are free again, and the edges that are drawn so far are
edges of the graph as it was, so they leave every input free that is still to be fed and form no
cycle.

The argument takes the graph as it was, with the node moved to the end of the nodes and its edges to
the end of the edges in the order in which they are drawn again.  Drawing them is then what loading
a document does with the last edges of its list (`WellFormed.connectEach_later`).
-/

namespace ScriptGraph

variable {K : NodeKind → Prop}

/-! ## Connecting one after the other -/

namespace Workspace

/-- Connect pairs of ports one after the other, until one is refused. -/
def connectEach (w : Workspace) (pairs : List (PortId × PortId)) : Except ConnectError Workspace :=
  pairs.foldlM (fun w pair => (w.connect pair.1 pair.2).map Prod.snd) w

theorem connectEach_cons {w next : Workspace} {pair : PortId × PortId} {id : EdgeId}
    (hconnect : w.connect pair.1 pair.2 = .ok (id, next)) (pairs : List (PortId × PortId)) :
    w.connectEach (pair :: pairs) = next.connectEach pairs := by
  rw [connectEach, List.foldlM_cons, hconnect]
  rfl

end Workspace

namespace Graph

variable {g : Graph} {ρ : EdgeId → EdgeId}

/-- The edge that comes next in the list is accepted from either end. -/
theorem WellFormed.connect_next_between (hwf : g.WellFormed) (hacyclic : Acyclic g.edges)
    (hapart : g.RenamedApart ρ) {before later : List Edge} {e : Edge}
    (hedges : g.edges = before ++ e :: later) {a b : PortId} (hbetween : e.Between a b) :
    (g.withEdges (before.map (Edge.rename ρ))).connect (ρ e.id) a b =
      .ok (g.withEdges ((before ++ [e]).map (Edge.rename ρ))) := by
  have hconnect := hwf.connect_next hacyclic hapart hedges
  rcases hbetween with ⟨rfl, rfl⟩ | ⟨rfl, rfl⟩
  · exact hconnect
  · have hsub : before.Sublist g.edges := hedges ▸ List.sublist_append_left _ _
    exact (hwf.withEdges_rename_sublist hapart hsub).connect_swap hconnect

/-- The last edges of a graph can be drawn one after the other, each from either end. -/
theorem WellFormed.connectEach_later (hwf : g.WellFormed) (hacyclic : Acyclic g.edges)
    (hapart : g.RenamedApart ρ) {before later : List Edge} (hedges : g.edges = before ++ later)
    {pairs : List (PortId × PortId)}
    (hpairs : List.Forall₂ (fun e pair => e.Between pair.1 pair.2) later pairs) (w : Workspace)
    (hdrawn : later.map (fun e => ρ e.id) = w.ids.upcoming later.length) :
    { w with graph := g.withEdges (before.map (Edge.rename ρ)) }.connectEach pairs =
      .ok { w with graph := g.renameEdges ρ, ids := w.ids.skip later.length } := by
  induction hpairs generalizing before w with
  | nil =>
      rw [List.append_nil] at hedges
      rw [← hedges, hwf.withEdges_rename]
      rfl
  | @cons e pair later pairs hbetween _ ih =>
      rw [List.map_cons, List.length_cons, IdSource.upcoming_succ, List.cons.injEq] at hdrawn
      have hconnect := hwf.connect_next_between hacyclic hapart hedges hbetween
      rw [hdrawn.1] at hconnect
      have hstep : { w with
            graph := g.withEdges (before.map (Edge.rename ρ)) }.connect pair.1 pair.2 =
          .ok (⟨w.ids.next.1⟩, { w with
            graph := g.withEdges ((before ++ [e]).map (Edge.rename ρ)), ids := w.ids.skip 1 }) := by
        rw [Workspace.connect_eq]
        exact congrArg (Except.map _) hconnect
      have hsplit : g.edges = (before ++ [e]) ++ later := by
        rw [hedges, List.append_assoc, List.singleton_append]
      have hrest := ih hsplit { w with ids := w.ids.skip 1 } hdrawn.2
      rw [IdSource.skip_skip, Nat.add_comm] at hrest
      rw [Workspace.connectEach_cons hstep]
      exact hrest

/-! ## Back among the nodes -/

/-- The nodes with one of them put last. -/
def nodesWithLast (g : Graph) (n : Node) : List Node :=
  (g.nodes.filter fun m => m.id != n.id) ++ [n]

theorem WellFormed.nodesWithLast_perm (h : g.WellFormed) {n : Node} (hn : n ∈ g.nodes) :
    (g.nodesWithLast n).Perm g.nodes := by
  have hself : (g.nodes.filter fun m => !(m.id != n.id)) = [n] := by
    simp only [bne, Bool.not_not]
    exact filter_key_eq_singleton Node.id h.nodes_distinct hn
  have hsplit := List.filter_append_perm (fun m : Node => m.id != n.id) g.nodes
  rwa [hself] at hsplit

/-- A node without edges that comes last in a graph can be put in after the others. -/
theorem WellFormed.insert_last {rest whole : Graph} {n : Node} (hrest : rest.WellFormed)
    (hwhole : whole.WellFormed) (hnodes : whole.nodes = rest.nodes ++ [n.mapPorts Port.clear])
    (hedges : whole.edges = rest.edges) : rest.insert n = .ok whole := by
  have hids : (n.mapPorts Port.clear).portIds = n.portIds := Node.portIds_mapPorts fun _ => rfl
  have howned : (n.mapPorts Port.clear).owned = n.owned := Node.owned_mapPorts fun _ => rfl
  have hnodup := hwhole.nodes_distinct
  have hports := hwhole.ports_distinct
  rw [hnodes, List.map_append, List.nodup_append] at hnodup
  rw [portIds_eq_flatMap, hnodes, List.flatMap_append, List.flatMap_singleton, hids,
    ← portIds_eq_flatMap, List.nodup_append] at hports
  refine hrest.insert_eq_ok_iff.mpr ⟨⟨?_, hports.2.1, ?_⟩, ext hnodes hedges ?_⟩
  · exact fun hmem => hnodup.2.2 _ hmem _ (List.mem_singleton_self _) rfl
  · exact fun id hid hmem => hports.2.2 id hmem id hid rfl
  · rw [hwhole.owners_eq, hnodes, List.flatMap_append, List.flatMap_singleton, howned,
      ← hrest.owners_eq]

/-- A node that was taken out goes in again as the last one, and is without edges for now. -/
theorem Sound.insert_removed (h : g.Sound K) {n : Node} (hn : n ∈ g.nodes) :
    (g.restrict fun id => id != n.id).insert (n.mapPorts Port.clear) =
      .ok (g.rearrange (g.nodesWithLast n) (g.inner fun id => id != n.id)) := by
  have hwf := h.wellFormed
  have hrest : (g.restrict fun id => id != n.id).WellFormed := by
    rw [← hwf.discard_eq]
    exact hwf.discard n.id
  have hwhole : (g.rearrange (g.nodesWithLast n) (g.inner fun id => id != n.id)).Sound K :=
    h.rearrange (hwf.nodesWithLast_perm hn) List.filter_sublist.subperm
  refine hrest.insert_last hwhole.wellFormed ?_ rfl
  have hclear := hwf.wire_inner_eq_clear hn (fun id => id != n.id) (bne_self_eq_false _)
  rw [hwf.restrict_nodes, Graph.rearrange, withEdges_nodes, reorder, nodesWithLast, List.map_append,
    List.map_singleton, hclear, Node.mapPorts_mapPorts]
  rfl

/-! ## Back among the edges -/

theorem Fresh.of_subset {g' : Graph} {ids later : IdSource} (h : g.Fresh ids later)
    (hsub : g'.edges ⊆ g.edges) : g'.Fresh ids later :=
  ⟨h.distinct, fun i hi hlater hmem => h.unused i hi hlater (List.map_subset _ hsub hmem)⟩

/-- Some of the edges take on the identifiers that are drawn next, and the others keep theirs. -/
theorem WellFormed.exists_redrawn (hwf : g.WellFormed) {kept order : List Edge}
    (hedges : g.edges = kept ++ order) {ids : IdSource}
    (hfresh : g.Fresh ids (ids.skip order.length)) :
    ∃ ρ, g.RenamedApart ρ ∧ kept.map (Edge.rename ρ) = kept ∧
      order.map (fun e => ρ e.id) = ids.upcoming order.length := by
  have hsub : kept.Sublist g.edges := hedges ▸ List.sublist_append_left _ _
  have hnew : (kept.map Edge.id ++ ids.upcoming order.length).Nodup :=
    (hfresh.nodup_upcoming hwf.edges_distinct).sublist ((hsub.map _).append_right _)
  obtain ⟨ρ, hapart, hρ⟩ := hwf.exists_renamedApart (by simp [hedges, IdSource.upcoming]) hnew
  rw [hedges, List.map_append, List.map_append] at hρ
  obtain ⟨hkept, hdrawn⟩ := List.append_inj hρ (by simp)
  refine ⟨ρ, hapart, ?_, by rw [← hdrawn, List.map_map]; rfl⟩
  rw [List.map_map] at hkept
  refine (List.map_congr_left fun e he => ?_).trans (List.map_id _)
  have hsame : ρ e.id = e.id := List.map_inj_left.mp hkept e he
  rw [Edge.rename, hsame]
  rfl

/-- The edges that stay and those of the node, in any order, are all the edges. -/
theorem inner_append_perm {id : NodeId} {order : List Edge} (horder : order.Perm (g.edgesAt id)) :
    ((g.inner fun other => other != id) ++ order).Perm g.edges := by
  rw [inner_ne]
  refine (List.perm_append_comm.trans (horder.append_right _)).trans ?_
  exact List.filter_append_perm (fun e : Edge => e.touchesNode id) g.edges

/-- A node of a graph that a session can come to is taken out and put in again, and each of its
edges is drawn once more, in any order and from either end.  All of this succeeds.  In the end the
graph is well-formed and has the same nodes, with the one that was away as the last of them.  Its
edges are those that stayed, none of which had to give way, and after them one for each that was
drawn again, so the same pairs of ports are joined.  The identifiers that are drawn on the way must
be new. -/
theorem removal_undone {w : Workspace} (h : w.graph.Reachable K) {n : Node}
    (hn : n ∈ w.graph.nodes) {order : List Edge} (horder : order.Perm (w.graph.edgesAt n.id))
    {pairs : List (PortId × PortId)}
    (hpairs : List.Forall₂ (fun e pair => e.Between pair.1 pair.2) order pairs)
    (hfresh : w.graph.Fresh w.ids (w.ids.skip order.length)) :
    ∃ removed rest restored final,
      w.graph.remove? n.id = some (removed, rest) ∧
      { w with graph := rest }.insert removed = .ok restored ∧
      restored.connectEach pairs = .ok final ∧
      final.graph.WellFormed ∧
      final.graph.nodes.map (·.mapPorts Port.clear) =
        (w.graph.nodesWithLast n).map (·.mapPorts Port.clear) ∧
      (final.graph.nodes.map (·.mapPorts Port.clear)).Perm
        (w.graph.nodes.map (·.mapPorts Port.clear)) ∧
      (∃ drawn, final.graph.edges = (w.graph.edges.filter fun e => !e.touchesNode n.id) ++ drawn ∧
        drawn.map Edge.id = w.ids.upcoming order.length ∧
        drawn.map (fun e => (e.source, e.target)) = order.map fun e => (e.source, e.target)) ∧
      (final.graph.edges.map fun e => (e.source.port, e.target.port)).Perm
        (w.graph.edges.map fun e => (e.source.port, e.target.port)) := by
  have hsound := h.sound
  have hwf := hsound.wellFormed
  have hnodes := hwf.nodesWithLast_perm hn
  have hedges := inner_append_perm horder
  -- the graph as it was, with the node and its edges moved to the end
  have hlast := hsound.rearrange hnodes hedges.subperm
  have hacyclic := h.acyclic.of_subset hedges.subset
  obtain ⟨ρ, hapart, hkept, hdrawn⟩ :=
    hlast.wellFormed.exists_redrawn rfl (hfresh.of_subset hedges.subset)
  have hinsert : { w with graph := w.graph.restrict fun id => id != n.id }.insert
      (n.mapPorts Port.clear) = .ok { w with
        graph := w.graph.rearrange (w.graph.nodesWithLast n)
          (w.graph.inner fun id => id != n.id) } := by
    rw [Workspace.insert, hsound.insert_removed hn]
    rfl
  have hrun := hlast.wellFormed.connectEach_later hacyclic hapart rfl hpairs w hdrawn
  rw [hkept, rearrange, withEdges_withEdges] at hrun
  refine ⟨_, _, _, _, hwf.remove?_of_mem hn, hinsert, hrun, ?_, ?_, ?_,
    ⟨order.map (Edge.rename ρ), ?_, ?_, ?_⟩, ?_⟩
  · exact hlast.wellFormed.withEdges_rename ▸
      hlast.wellFormed.withEdges_rename_sublist hapart (List.Sublist.refl _)
  · exact (clear_renameEdges _ ρ).trans (clear_rearrange ..)
  · exact (clear_renameEdges _ ρ).symm ▸ rearrange_nodes_perm hnodes
  · rw [← inner_ne]
    change ((w.graph.inner fun id => id != n.id) ++ order).map (Edge.rename ρ) = _
    rw [List.map_append, hkept]
  · rw [← hdrawn, List.map_map]
    rfl
  · rw [List.map_map]
    rfl
  · change ((((w.graph.inner fun id => id != n.id) ++ order).map (Edge.rename ρ)).map _).Perm _
    rw [List.map_map]
    exact hedges.map _

/-- The test of the sample is taken out and put in again.  Of its four edges the last one is drawn
first, and some are given from input to output. -/
theorem removal_undone_sample :
    let port (id : Nat) : PortId := ⟨⟨BitVec.ofNat 128 id⟩⟩
    let w : Workspace := { graph := sample, ids := laterIds }
    let pairs := [(port 16, port 7), (port 6, port 12), (port 4, port 10), (port 1, port 3)]
    (sample.Reachable fun _ => True) ∧ sample.Fresh laterIds (laterIds.skip 4) ∧
    ∃ n ∈ sample.nodes, n.id = ⟨⟨2⟩⟩ ∧
      List.Forall₂ (fun e pair => e.Between pair.1 pair.2) (sample.edgesAt n.id).reverse pairs ∧
      ∃ removed rest restored final, sample.remove? n.id = some (removed, rest) ∧
        { w with graph := rest }.insert removed = .ok restored ∧
        restored.connectEach pairs = .ok final ∧ final.graph.WellFormed ∧
        (final.graph.edges.map fun e => (e.source.port, e.target.port)).Perm
          (sample.edges.map fun e => (e.source.port, e.target.port)) := by
  intro port w pairs
  have hreach : sample.Reachable fun _ => True := sample_reachable fun _ _ => trivial
  have hfresh : sample.Fresh laterIds (laterIds.skip 4) := sample_fresh (by decide)
  have hn : sample.nodes.get ⟨1, by decide⟩ ∈ sample.nodes := List.get_mem ..
  have hpairs : List.Forall₂ (fun e pair => e.Between pair.1 pair.2)
      (sample.edgesAt (sample.nodes.get ⟨1, by decide⟩).id).reverse pairs :=
    .cons (.inr ⟨rfl, rfl⟩) (.cons (.inl ⟨rfl, rfl⟩) (.cons (.inr ⟨rfl, rfl⟩)
      (.cons (.inl ⟨rfl, rfl⟩) .nil)))
  obtain ⟨removed, rest, restored, final, hremove, hinsert, hrun, hwf, -, -, -, hsame⟩ :=
    removal_undone (w := w) hreach hn (List.reverse_perm _) hpairs hfresh
  exact ⟨hreach, hfresh, _, hn, rfl, hpairs, removed, rest, restored, final, hremove, hinsert, hrun,
    hwf, hsame⟩

end Graph

end ScriptGraph
