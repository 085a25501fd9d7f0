import ScriptGraph.Proofs.Emit.Renaming
import ScriptGraph.Proofs.Palette.Regular
import ScriptGraph.Proofs.Session.Agreement
import ScriptGraph.Workspace

/-!
# Saving and loading

The document of a graph loads again, with every edge, as the same graph up to the identifiers of its
edges (`document_round_trip`).

* Each node is made anew from its kind and takes on its record, which leaves nothing of the new node
  but what the kind says about its ports (`NodeRecord.restore_ofNode`).  So the nodes go in as they
  were, without their edges (`insertRecords_ofNode`).
* Edges are connected one after the other, and a connection can be refused.  An edge that is next in
  the list is not, because the edges before it leave its target free and lead nowhere that the whole
  graph does not lead (`WellFormed.connect_next`).  So the edge list comes back in its order
  (`connectRecords_ofEdge`), and with it the edges at each port.
-/

namespace ScriptGraph

open Relation

/-! ## Drawing identifiers -/

namespace IdSource

/-- The source after some more identifiers have been drawn. -/
def skip (ids : IdSource) (count : Nat) : IdSource :=
  { ids with drawn := ids.drawn + count }

theorem skip_skip (ids : IdSource) (a b : Nat) :
    (ids.skip a).skip b = ids.skip (a + b) := by
  rw [skip, skip, skip, Nat.add_assoc]

/-- The identifiers that edges get next. -/
def upcoming (ids : IdSource) (count : Nat) : List EdgeId :=
  (List.range' ids.drawn count).map fun i => ⟨ids.sequence i⟩

theorem upcoming_succ (ids : IdSource) (count : Nat) :
    ids.upcoming (count + 1) = ⟨ids.sequence ids.drawn⟩ :: (ids.skip 1).upcoming count := rfl

theorem upcoming_nodup {ids : IdSource} {count : Nat}
    (hdistinct : ∀ i j, ids.drawn ≤ i → i < j → j < ids.drawn + count →
      ids.sequence i ≠ ids.sequence j) : (ids.upcoming count).Nodup := by
  unfold upcoming
  refine List.Nodup.map_on ?_ (List.nodup_range' ..)
  intro i hi j hj heq
  rw [List.mem_range'_1] at hi hj
  have heq : ids.sequence i = ids.sequence j := congrArg EdgeId.uuid heq
  rcases lt_trichotomy i j with hlt | hsame | hgt
  · exact absurd heq (hdistinct i j hi.1 hlt hj.2)
  · exact hsame
  · exact absurd heq.symm (hdistinct j i hj.1 hgt hi.2)

theorem mem_upcoming {ids : IdSource} {count : Nat} {id : EdgeId} :
    id ∈ ids.upcoming count ↔ ∃ i, ids.drawn ≤ i ∧ i < (ids.skip count).drawn ∧
      id = ⟨ids.sequence i⟩ := by
  simp [upcoming, skip, List.mem_range'_1, and_assoc, eq_comm]

/-- The source that counts up does not repeat itself before it has run through all identifiers. -/
theorem counting_fresh {g : Graph} (hedges : g.edges = []) {count : Nat}
    (hcount : count ≤ (BitVec.allOnes 128).toNat) : g.Fresh .counting (counting.skip count) where
  distinct i j _ hij hj heq := by
    have hj : j < count := by simpa [skip, counting] using hj
    have hnat := congrArg (fun id : Uuid => id.bits.toNat) heq
    simp only [counting, BitVec.toNat_ofNat, BitVec.toNat_allOnes] at hnat hcount
    omega
  unused i _ _ := by simp [hedges]

end IdSource

/-- The next identifiers go with those of the edges of a graph if they are new for it. -/
theorem Graph.Fresh.nodup_upcoming {g : Graph} {ids : IdSource} {count : Nat}
    (hfresh : g.Fresh ids (ids.skip count)) (hdistinct : (g.edges.map Edge.id).Nodup) :
    (g.edges.map Edge.id ++ ids.upcoming count).Nodup := by
  refine hdistinct.append (IdSource.upcoming_nodup hfresh.distinct) fun id hold hdrawn => ?_
  obtain ⟨i, hlow, hhigh, rfl⟩ := IdSource.mem_upcoming.mp hdrawn
  exact hfresh.unused i hlow hhigh hold

theorem NodeKind.instantiate_snd_eq (kind : NodeKind) (ids : IdSource) :
    (kind.instantiate ids).2 = ids.skip (1 + kind.inputs.length + kind.outputs.length) := by
  have hseq := kind.instantiate_snd_sequence ids
  have hdrawn := kind.instantiate_snd_drawn ids
  cases hnext : (kind.instantiate ids).2 with
  | mk sequence drawn =>
      rw [hnext] at hseq hdrawn
      subst hseq hdrawn
      rw [IdSource.skip, Nat.add_assoc, Nat.add_assoc, Nat.add_assoc]

/-! ## Nodes -/

/-- New ports that take on the identifiers of others and follow the same specifications are those
ports without their edges. -/
theorem Node.adoptIds_map_id {ports drawn : List Port} {node : NodeId} (direction : Direction)
    (hports : ∀ p ∈ ports, p.node = node ∧ p.direction = direction)
    (hdrawn : ∀ q ∈ drawn, q.direction = direction ∧ q.edges = [])
    (hspec : drawn.map Port.spec = ports.map Port.spec) :
    Node.adoptIds (ports.map Port.id) (drawn.map fun q => { q with node }) =
      ports.map Port.clear := by
  induction ports generalizing drawn with
  | nil =>
      obtain rfl : drawn = [] := by simpa using hspec
      rfl
  | cons p ports ih =>
      cases drawn with
      | nil => cases hspec
      | cons q drawn =>
          rw [List.forall_mem_cons] at hports hdrawn
          rw [List.map_cons, List.map_cons, List.cons.injEq] at hspec
          have hfirst : ({ q with node, id := p.id } : Port) = p.clear := by
            obtain ⟨id, owner, facing, spec, edges⟩ := p
            obtain ⟨rfl, rfl⟩ := hports.1
            obtain ⟨hdirection, hedges⟩ := hdrawn.1
            simp_all [Port.clear]
          rw [List.map_cons, List.map_cons, List.map_cons, Node.adoptIds, hfirst,
            ih hports.2 hdrawn.2 hspec.2]

/-- A new node that takes on the record of a node of its kind is that node without its edges. -/
theorem NodeRecord.restore_ofNode {n : Node} {kind : NodeKind} (hof : n.OfKind kind)
    (ids : IdSource) :
    (NodeRecord.ofNode n).restore (kind.instantiate ids).1 = n.mapPorts Port.clear := by
  have hmade := kind.instantiate_ofKind ids
  have hinputs : Node.adoptIds (n.inputs.map Port.id)
      ((kind.instantiate ids).1.inputs.map fun q => { q with node := n.id }) =
      n.inputs.map Port.clear := by
    refine Node.adoptIds_map_id .input (fun p hp => ?_) (fun q hq => ?_) ?_
    · exact ⟨hof.ports_own p (Node.mem_ports_of_mem_inputs hp), hof.inputs_receive p hp⟩
    · exact (NodeKind.mem_drawPorts hq).2
    · rw [hmade.inputs_eq, hof.inputs_eq]
  have houtputs : Node.adoptIds (n.outputs.map Port.id)
      ((kind.instantiate ids).1.outputs.map fun q => { q with node := n.id }) =
      n.outputs.map Port.clear := by
    refine Node.adoptIds_map_id .output (fun p hp => ?_) (fun q hq => ?_) ?_
    · exact ⟨hof.ports_own p (Node.mem_ports_of_mem_outputs hp), hof.outputs_send p hp⟩
    · exact (NodeKind.mem_drawPorts hq).2
    · rw [hmade.outputs_eq, hof.outputs_eq]
  have htag : (kind.instantiate ids).1.tag = n.tag := hof.tag_eq.symm
  have hids : ∀ ports : List Port,
      (ports.map PortRecord.ofPort).map PortRecord.id = ports.map Port.id :=
    fun ports => List.map_map
  unfold NodeRecord.restore Node.withPortIds Node.withId Node.mapPorts NodeRecord.ofNode
  simp only [hids, hinputs, houtputs, htag, Option.getD_some]

/-- The graph of some nodes without their edges. -/
def Graph.ofNodes (nodes : List Node) : Graph where
  nodes := nodes.map (·.mapPorts Port.clear)
  owners := nodes.flatMap Node.owned

theorem Graph.WellFormed.ofNodes_eq {g : Graph} (h : g.WellFormed) :
    Graph.ofNodes g.nodes = g.withEdges [] := by
  unfold Graph.ofNodes Graph.withEdges
  rw [h.owners_eq]
  rfl

/-- A node with identifiers of its own can be put in. -/
theorem Graph.ofNodes_insert {before : List Node} {n : Node}
    (hwf : (Graph.ofNodes before).WellFormed) (hnodes : ((before ++ [n]).map Node.id).Nodup)
    (hports : ((before ++ [n]).flatMap Node.portIds).Nodup) :
    (Graph.ofNodes before).insert (n.mapPorts Port.clear) = .ok (.ofNodes (before ++ [n])) := by
  have hclear : ∀ m : Node, (m.mapPorts Port.clear).portIds = m.portIds :=
    fun m => Node.portIds_mapPorts fun _ => rfl
  have hids : (Graph.ofNodes before).nodes.map Node.id = before.map Node.id := by
    simp [Graph.ofNodes, Function.comp_def]
  have hportIds : (Graph.ofNodes before).portIds = before.flatMap Node.portIds := by
    simp [Graph.portIds_eq_flatMap, Graph.ofNodes, List.flatMap_map, hclear]
  rw [List.map_append, List.nodup_append] at hnodes
  rw [List.flatMap_append, List.nodup_append, List.flatMap_singleton] at hports
  refine hwf.insert_eq_ok_iff.mpr ⟨⟨?_, ?_, ?_⟩, ?_⟩
  · rw [hids]
    exact fun hmem => hnodes.2.2 _ hmem _ (List.mem_singleton_self _) rfl
  · rw [hclear]
    exact hports.2.1
  · rw [hclear, hportIds]
    exact fun id hid hmem => hports.2.2 id hmem id hid rfl
  · have howned : (n.mapPorts Port.clear).owned = n.owned := Node.owned_mapPorts fun _ => rfl
    rw [howned, Node.mapPorts_mapPorts, Graph.ofNodes, Graph.ofNodes, List.map_append,
      List.flatMap_append, List.flatMap_singleton]
    rfl

/-- The records of nodes with identifiers of their own go in one after the other. -/
theorem insertRecords_ofNode {palette : Palette} {before nodes : List Node} (ids : IdSource)
    (hwf : (Graph.ofNodes before).WellFormed)
    (hkinds : ∀ n ∈ nodes, ∃ kind, palette.get? n.tag = some kind ∧ n.OfKind kind)
    (hnodes : ((before ++ nodes).map Node.id).Nodup)
    (hports : ((before ++ nodes).flatMap Node.portIds).Nodup) :
    insertRecords palette (.ofNodes before) ids (nodes.map .ofNode) =
      .ok (.ofNodes (before ++ nodes),
        ids.skip (nodes.length + (nodes.flatMap Node.ports).length)) := by
  induction nodes generalizing before ids with
  | nil => rw [List.append_nil]; rfl
  | cons n nodes ih =>
      rw [List.forall_mem_cons] at hkinds
      obtain ⟨⟨kind, hkind, hof⟩, hkinds⟩ := hkinds
      have hnode : (NodeRecord.ofNode n).toNode? palette ids =
          some (n.mapPorts Port.clear, ids.skip (1 + n.ports.length)) := by
        have hdrawn : 1 + n.ports.length = 1 + kind.inputs.length + kind.outputs.length := by
          rw [Node.ports, List.length_append, ← hof.inputs_eq, ← hof.outputs_eq, List.length_map,
            List.length_map, Nat.add_assoc]
        rw [hdrawn, ← NodeKind.instantiate_snd_eq, ← NodeRecord.restore_ofNode hof ids,
          NodeRecord.toNode?]
        exact congrArg (Option.map _) hkind
      rw [← List.singleton_append, ← List.append_assoc] at hnodes hports ⊢
      have hinsert := Graph.ofNodes_insert hwf
        (hnodes.sublist ((List.sublist_append_left _ _).map _))
        (hports.sublist ((List.sublist_append_left _ _).flatMap _))
      have hmade := hof.toWellMade.mapPorts (f := Port.clear) (fun _ => rfl) (fun _ => rfl)
      have hnext := hwf.insert hmade hinsert
      have hrest := ih (ids.skip (1 + n.ports.length)) hnext hkinds hnodes hports
      rw [List.singleton_append, List.map_cons, insertRecords, hnode]
      simp only [hinsert]
      rw [hrest, IdSource.skip_skip, List.length_cons, List.flatMap_cons, List.length_append]
      congr 3
      omega

/-! ## Edges -/

namespace Graph

variable {g : Graph} {ρ : EdgeId → EdgeId}

theorem leads_rename (edges : List Edge) : Leads (edges.map (Edge.rename ρ)) = Leads edges := by
  funext a b
  simp [Leads, Edge.rename]

/-- Some of the edges of a graph, renamed apart, suit its nodes. -/
theorem WellFormed.withEdges_rename_sublist (hwf : g.WellFormed) (hapart : g.RenamedApart ρ)
    {edges : List Edge} (hsub : edges.Sublist g.edges) :
    (g.withEdges (edges.map (Edge.rename ρ))).WellFormed := by
  have hkept := hwf.withEdges_sublist hsub
  refine hwf.withEdges ?_ ?_ ?_
  · have hids : (edges.map (Edge.rename ρ)).map Edge.id = (edges.map Edge.id).map ρ := by
      rw [List.map_map, List.map_map]
      rfl
    rw [hids]
    refine hkept.edges_distinct.map_on fun a ha b hb heq => hapart ?_ ?_ heq
    · exact (hsub.map _).subset ha
    · exact (hsub.map _).subset hb
  · intro e he
    obtain ⟨f, hf, rfl⟩ := List.mem_map.mp he
    exact hwf.edges_join f (hsub.subset hf)
  · rw [List.map_map]
    exact hkept.inputs_single

/-- Edges that are connected in the order in which they are listed are all accepted, and none of
them displaces an earlier one. -/
theorem WellFormed.connect_next (hwf : g.WellFormed) (hacyclic : Acyclic g.edges)
    (hapart : g.RenamedApart ρ) {before later : List Edge} {e : Edge}
    (hedges : g.edges = before ++ e :: later) :
    (g.withEdges (before.map (Edge.rename ρ))).connect (ρ e.id) e.source.port e.target.port =
      .ok (g.withEdges ((before ++ [e]).map (Edge.rename ρ))) := by
  have hmem : e ∈ g.edges := by simp [hedges]
  have hsub : before.Sublist g.edges := hedges ▸ List.sublist_append_left _ _
  have hpart := hwf.withEdges_rename_sublist hapart hsub
  obtain ⟨p, hp, q, hq, hsends, hreceives, hfrom, hto, hne, htype⟩ :=
    (joins_withEdges.mpr (hwf.edges_join e hmem)).ports hpart
  have hwires : (g.withEdges (before.map (Edge.rename ρ))).Wires p q := by
    refine ⟨hp, hq, hne, hsends, hreceives, htype, fun hback => ?_⟩
    -- with the edge itself a path back along earlier edges is a cycle of the whole graph
    rw [withEdges_edges, Path, leads_rename] at hback
    have hfirst : Leads g.edges p.node q.node := ⟨e, hmem, by rw [hfrom]; rfl, by rw [hto]; rfl⟩
    exact hacyclic _ (TransGen.head' hfirst (path_mono hsub.subset hback))
  -- no earlier edge ends at the same input, so none gives way
  have hfilter : ((before.map (Edge.rename ρ)).filter fun f => f.target.port != q.id) =
      before.map (Edge.rename ρ) := by
    refine List.filter_eq_self.mpr fun f hf => ?_
    obtain ⟨f, hbefore, rfl⟩ := List.mem_map.mp hf
    have hsingle := hwf.inputs_single
    rw [hedges, List.map_append, List.nodup_append] at hsingle
    have hother := hsingle.2.2 _ (List.mem_map_of_mem hbefore) e.target.port (by simp)
    rw [hto] at hother
    simpa [Edge.rename, Port.endpoint] using hother
  refine connect_eq_ok_iff.mpr ⟨p, q, hpart.wiring_eq_ok_iff.mpr ⟨hwires, Or.inl ?_⟩, ?_⟩
  · rw [hfrom, hto]
    exact ⟨rfl, rfl⟩
  · rw [hpart.join_eq hwires, withEdges_withEdges, withEdges_edges, hfilter, ← hfrom, ← hto,
      List.map_append]
    rfl

/-- A loop that connects the last edges of a graph in their order gives them the identifiers that
are drawn for them. -/
theorem WellFormed.foldl_connect_later {α : Type} {step : Wiring → α → Wiring} (hwf : g.WellFormed)
    (hacyclic : Acyclic g.edges) (hapart : g.RenamedApart ρ) {before later : List Edge}
    (hedges : g.edges = before ++ later) {items : List α}
    (hstep : List.Forall₂ (fun e x => ∀ w, ∃ refused,
      step w x = w.connect e.source.port e.target.port refused) later items)
    (ids : IdSource) (hdrawn : later.map (fun e => ρ e.id) = ids.upcoming later.length) :
    items.foldl step { graph := g.withEdges (before.map (Edge.rename ρ)), ids } =
      { graph := g.renameEdges ρ, ids := ids.skip later.length } := by
  induction hstep generalizing before ids with
  | nil =>
      rw [List.append_nil] at hedges
      rw [← hedges, hwf.withEdges_rename]
      rfl
  | @cons e x later items hfirst _ ih =>
      rw [List.map_cons, List.length_cons, IdSource.upcoming_succ, List.cons.injEq] at hdrawn
      have hconnect := hwf.connect_next hacyclic hapart hedges
      rw [hdrawn.1] at hconnect
      obtain ⟨refused, hx⟩ := hfirst ⟨g.withEdges (before.map (Edge.rename ρ)), ids, []⟩
      have hnext : step ⟨g.withEdges (before.map (Edge.rename ρ)), ids, []⟩ x =
          ⟨g.withEdges ((before ++ [e]).map (Edge.rename ρ)), ids.skip 1, []⟩ := by
        rw [hx]
        exact Wiring.connect_of_ok hconnect refused
      have hsplit : g.edges = (before ++ [e]) ++ later := by
        rw [hedges, List.append_assoc, List.singleton_append]
      have hrest := ih hsplit (ids.skip 1) hdrawn.2
      rw [IdSource.skip_skip, Nat.add_comm, ← hnext] at hrest
      exact hrest

/-- The edges come back under the identifiers that are drawn for them. -/
theorem WellFormed.connectRecords_ofEdge (hwf : g.WellFormed) (hacyclic : Acyclic g.edges)
    (hapart : g.RenamedApart ρ) {before later : List Edge} (hedges : g.edges = before ++ later)
    (ids : IdSource)
    (hdrawn : later.map (fun e => ρ e.id) = ids.upcoming later.length) :
    connectRecords { graph := g.withEdges (before.map (Edge.rename ρ)), ids }
        (later.map .ofEdge) =
      { graph := g.renameEdges ρ, ids := ids.skip later.length } := by
  refine hwf.foldl_connect_later hacyclic hapart hedges ?_ ids hdrawn
  rw [List.forall₂_map_right_iff, List.forall₂_same]
  exact fun e _ w => ⟨.edgeSkipped e.id, rfl⟩

theorem exists_renaming {α : Type} [DecidableEq α] {old : List α} (hold : old.Nodup) (new : List α)
    (hlength : old.length = new.length) : ∃ ρ : α → α, old.map ρ = new := by
  refine ⟨fun id => new[old.idxOf id]?.getD id, ?_⟩
  refine List.ext_getElem (by simpa using hlength) fun i hi hi' => ?_
  rw [List.getElem_map, hold.idxOf_getElem, List.getElem?_eq_getElem hi', Option.getD_some]

/-- Edges can be given any other identifiers, as long as no two get the same one. -/
theorem WellFormed.exists_renamedApart (hwf : g.WellFormed) {new : List EdgeId}
    (hlength : g.edges.length = new.length) (hnew : new.Nodup) :
    ∃ ρ, g.RenamedApart ρ ∧ (g.edges.map Edge.id).map ρ = new := by
  obtain ⟨ρ, hρ⟩ := exists_renaming hwf.edges_distinct new (by simpa using hlength)
  refine ⟨ρ, fun a ha b hb heq => ?_, hρ⟩
  rw [← hρ] at hnew
  exact List.inj_on_of_nodup_map hnew ha hb heq

/-! ## Documents -/

/-- The source after a document of the graph has been loaded: one identifier has been drawn for each
node, port and edge. -/
def idsAfterLoading (g : Graph) (ids : IdSource) : IdSource :=
  ids.skip (g.nodes.length + g.ports.length + g.edges.length)

end Graph

/-- The document of a graph gives it back, with the identifiers that are drawn for the edges. -/
theorem Document.toGraph_ofGraph {g : Graph} {palette : Palette} (hsound : g.Sound palette.Has)
    (hacyclic : Acyclic g.edges) {ρ : EdgeId → EdgeId} (hapart : g.RenamedApart ρ)
    {ids : IdSource} (hdrawn : (g.edges.map Edge.id).map ρ =
      (ids.skip (g.nodes.length + g.ports.length)).upcoming g.edges.length)
    (comments : List Json.Value) :
    (Document.ofGraph g comments).toGraph palette ids =
      { outcome := .ok (g.renameEdges ρ, g.idsAfterLoading ids) } := by
  have hwf := hsound.wellFormed
  have hkinds : ∀ n ∈ g.nodes, ∃ kind, palette.get? n.tag = some kind ∧ n.OfKind kind := by
    intro n hn
    obtain ⟨kind, hkind, hof⟩ := hsound.nodes_made n hn
    exact ⟨kind, hof.tag_eq ▸ hkind, hof⟩
  have hinsert : insertRecords palette ∅ ids (Document.ofGraph g comments).nodes =
      .ok (g.withEdges [], ids.skip (g.nodes.length + g.ports.length)) := by
    have hempty : (Graph.ofNodes []).WellFormed := Graph.wellFormed_empty
    have hports := g.portIds_eq_flatMap ▸ hwf.ports_distinct
    have hnodes := insertRecords_ofNode ids hempty hkinds hwf.nodes_distinct hports
    rw [List.nil_append, hwf.ofNodes_eq] at hnodes
    exact hnodes
  have hconnect : connectRecords ⟨g.withEdges [], ids.skip (g.nodes.length + g.ports.length), []⟩
      (Document.ofGraph g comments).edges = ⟨g.renameEdges ρ, g.idsAfterLoading ids, []⟩ := by
    rw [List.map_map] at hdrawn
    have hedges := hwf.connectRecords_ofEdge hacyclic hapart (List.nil_append _).symm _ hdrawn
    rw [IdSource.skip_skip] at hedges
    exact hedges
  have hversion : (Document.ofGraph g comments).versionNotices = [] := if_pos rfl
  rw [Document.toGraph, hinsert]
  simp only [hconnect, hversion, List.nil_append]

/-- A graph whose nodes come from the palette of a workspace is saved and loaded again there.  The
load succeeds and passes over no edge, and the comments come back.  The graph comes back with the
same nodes, with their ports, and with the same edges in the same order, in the edge list and at
each port; only the edges have other identifiers.  It compiles to the same script, with the same
notices, with any palette of built-in behaviours and those of `Custom`; a behaviour that looked at
the identifiers of edges is not among them.  The identifiers that are drawn on the way must differ
from each other. -/
theorem document_round_trip {g : Graph} {w : Workspace} (h : g.Reachable w.palette.Has)
    (comments : List Json.Value) (hfresh : Graph.Fresh ∅ w.ids (g.idsAfterLoading w.ids)) :
    ∃ ρ : EdgeId → EdgeId, g.RenamedApart ρ ∧
      w.load (.ofGraph g comments) =
        { notices := []
          outcome := .ok { w with
            graph := g.renameEdges ρ, comments, ids := g.idsAfterLoading w.ids } } ∧
      ∀ palette config, (⟨g.renameEdges ρ, palette⟩ : Drawing).compile config =
        (⟨g, palette⟩ : Drawing).compile config := by
  have hwf := h.sound.wellFormed
  -- the edges draw their identifiers after the nodes and ports have drawn theirs
  have hnew : ((w.ids.skip (g.nodes.length + g.ports.length)).upcoming g.edges.length).Nodup := by
    refine IdSource.upcoming_nodup fun i j hi hij hj => hfresh.distinct i j ?_ hij ?_
    · exact (Nat.le_add_right _ _).trans hi
    · rwa [Graph.idsAfterLoading, ← IdSource.skip_skip]
  obtain ⟨ρ, hρ⟩ := Graph.exists_renaming hwf.edges_distinct
    ((w.ids.skip (g.nodes.length + g.ports.length)).upcoming g.edges.length)
    (by simp [IdSource.upcoming])
  have hapart : g.RenamedApart ρ := by
    intro a ha b hb heq
    rw [← hρ] at hnew
    exact List.inj_on_of_nodup_map hnew ha hb heq
  refine ⟨ρ, hapart, ?_, fun palette config => ?_⟩
  · rw [Workspace.load, Document.toGraph_ofGraph h.sound h.acyclic hapart hρ]
    rfl
  · exact Drawing.compile_renameEdges (D := ⟨g, palette⟩) hwf hapart config

theorem document_round_trip_sample :
    let w : Workspace := { ids := .counting }
    Graph.sample.Reachable w.palette.Has ∧
    Graph.Fresh ∅ w.ids (Graph.sample.idsAfterLoading w.ids) ∧
    (Graph.sample.idsAfterLoading w.ids).drawn = 28 ∧
    ∃ ρ : EdgeId → EdgeId, Graph.sample.RenamedApart ρ ∧
      w.load (.ofGraph .sample [.null]) =
        { outcome := .ok { w with
            graph := Graph.sample.renameEdges ρ, comments := [.null],
            ids := Graph.sample.idsAfterLoading w.ids } } := by
  intro w
  have hreach : Graph.sample.Reachable w.palette.Has :=
    Graph.sample_reachable fun _ => Palette.standard_has_iff.mpr
  have hfresh : Graph.Fresh ∅ w.ids (Graph.sample.idsAfterLoading w.ids) :=
    IdSource.counting_fresh rfl (by decide)
  obtain ⟨ρ, hapart, hload, -⟩ := document_round_trip hreach [.null] hfresh
  exact ⟨hreach, hfresh, by decide, ρ, hapart, hload⟩

end ScriptGraph
