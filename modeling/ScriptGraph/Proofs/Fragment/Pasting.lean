import ScriptGraph.Proofs.Document.Loading
import ScriptGraph.Proofs.Fragment.Copying
import ScriptGraph.Proofs.Fragment.Nodes

/-!
# Pasting any fragment

A fragment may have been written by hand, with nodes of unknown kinds and edges that lead nowhere,
repeat each other, compete for an input or close a cycle.  Whether it can be pasted is settled by
its nodes, before anything is put into the graph.  After that nothing fails any more: an edge that
is out of range or refused is passed over (`Fragment.InTurn`).

Which edges are left in the end is not said here, as they may displace each other in any way.  But
each of them joins two ports that an edge of the fragment asks for, and since one of these is an
output and the other an input, it can only run in the direction asked for
(`WellFormed.standsFor_of_between`).
-/

namespace ScriptGraph

variable {K : NodeKind → Prop}

/-! ## Edges by places -/

/-- Lists that look the same have elements that look the same at each place. -/
theorem exists_getElem?_of_map_eq {α β : Type} {f : α → β} {l l' : List α}
    (hsame : l'.map f = l.map f) {i : Nat} {a : α} (ha : l[i]? = some a) :
    ∃ b, l'[i]? = some b ∧ f b = f a := by
  have hlook : (l'.map f)[i]? = some (f a) := by
    rw [hsame, List.getElem?_map, ha, Option.map_some]
  rw [List.getElem?_map] at hlook
  exact Option.map_eq_some_iff.mp hlook

/-- A change of the edges at ports does not show without them. -/
theorem clear_map_mapPorts (nodes : List Node) {f : Port → Port} (hf : ∀ p, (f p).clear = p.clear) :
    (nodes.map (·.mapPorts f)).map (·.mapPorts Port.clear) =
      nodes.map (·.mapPorts Port.clear) := by
  rw [List.map_map]
  refine List.map_congr_left fun n _ => ?_
  exact (n.mapPorts_mapPorts f Port.clear).trans (Node.mapPorts_congr fun p _ => hf p)

theorem map_id_of_clear {nodes nodes' : List Node}
    (hsame : nodes'.map (·.mapPorts Port.clear) = nodes.map (·.mapPorts Port.clear)) :
    nodes'.map Node.id = nodes.map Node.id := by
  simpa [Function.comp_def] using congrArg (List.map Node.id) hsame

/-- Places do not depend on the edges at the ports. -/
theorem FragmentEdge.StandsFor.of_clear {entry : FragmentEdge} {nodes nodes' : List Node} {e : Edge}
    (h : entry.StandsFor nodes e)
    (hsame : nodes'.map (·.mapPorts Port.clear) = nodes.map (·.mapPorts Port.clear)) :
    entry.StandsFor nodes' e := by
  obtain ⟨⟨n, p, hn, hp, hsource⟩, ⟨m, q, hm, hq, htarget⟩⟩ := h
  constructor
  · obtain ⟨n', hn', hnode⟩ := exists_getElem?_of_map_eq hsame hn
    obtain ⟨p', hp', hport⟩ := exists_getElem?_of_map_eq (congrArg Node.outputs hnode) hp
    have hid : n'.id = n.id := by simpa using congrArg Node.id hnode
    have hidPort : p'.id = p.id := by simpa [Port.clear] using congrArg Port.id hport
    exact ⟨n', p', hn', hp', by rw [hsource, hid, hidPort]⟩
  · obtain ⟨m', hm', hnode⟩ := exists_getElem?_of_map_eq hsame hm
    obtain ⟨q', hq', hport⟩ := exists_getElem?_of_map_eq (congrArg Node.inputs hnode) hq
    have hid : m'.id = m.id := by simpa using congrArg Node.id hnode
    have hidPort : q'.id = q.id := by simpa [Port.clear] using congrArg Port.id hport
    exact ⟨m', q', hm', hq', by rw [htarget, hid, hidPort]⟩

namespace Fragment

/-- The ports that an edge of a fragment asks for are those of the edges it can stand for. -/
theorem ends?_eq_some_iff {nodes : List Node} {entry : FragmentEdge} {a b : PortId} :
    ends? nodes entry = some (a, b) ↔
      ∃ e : Edge, entry.StandsFor nodes e ∧ e.source.port = a ∧ e.target.port = b := by
  simp only [ends?, Option.bind_eq_bind, Option.bind_eq_some_iff, Option.pure_def,
    Option.some.injEq, Prod.mk.injEq]
  constructor
  · rintro ⟨s, hs, p, hp, t, ht, q, hq, rfl, rfl⟩
    exact ⟨⟨default, ⟨s.id, p.id⟩, ⟨t.id, q.id⟩⟩, ⟨⟨s, p, hs, hp, rfl⟩, ⟨t, q, ht, hq, rfl⟩⟩,
      rfl, rfl⟩
  · rintro ⟨e, ⟨⟨s, p, hs, hp, hsource⟩, ⟨t, q, ht, hq, htarget⟩⟩, rfl, rfl⟩
    exact ⟨s, hs, p, hp, t, ht, q, hq, by rw [hsource], by rw [htarget]⟩

theorem ends?_eq_none {nodes : List Node} {entry : FragmentEdge}
    (h : ∀ e, ¬ entry.StandsFor nodes e) : ends? nodes entry = none := by
  refine Option.eq_none_iff_forall_ne_some.mpr fun ends hends => ?_
  obtain ⟨e, he, -⟩ := ends?_eq_some_iff.mp hends
  exact h e he

/-- One edge of a fragment is connected between two ports that it asks for, or leaves a notice. -/
theorem connectEdge_cases (nodes : List Node) (w : Wiring) (entry : FragmentEdge) :
    (∃ a b refused, ends? nodes entry = some (a, b) ∧
      connectEdge nodes w entry = w.connect a b refused) ∨
    ∃ notices, connectEdge nodes w entry = { w with notices } := by
  unfold connectEdge
  cases hends : ends? nodes entry with
  | none => exact Or.inr ⟨_, rfl⟩
  | some ends => exact Or.inl ⟨ends.1, ends.2, _, rfl, rfl⟩

end Fragment

/-- An edge between two ports that an edge of a fragment asks for is one that it stands for. -/
theorem Graph.WellFormed.standsFor_of_between {g : Graph} (hwf : g.WellFormed) {nodes : List Node}
    (hnodes : nodes ⊆ g.nodes) {entry : FragmentEdge} {a b : PortId}
    (hends : Fragment.ends? nodes entry = some (a, b)) {e : Edge} (he : g.Joins e)
    (hbetween : e.Between a b) : entry.StandsFor nodes e := by
  obtain ⟨e', ⟨⟨n, p, hn, hp, hsource⟩, ⟨m, q, hm, hq, htarget⟩⟩, rfl, rfl⟩ :=
    Fragment.ends?_eq_some_iff.mp hends
  rw [hsource, htarget] at hbetween
  have hnmem := hnodes (List.mem_of_getElem? hn)
  have hmmem := hnodes (List.mem_of_getElem? hm)
  have hp' := List.mem_of_getElem? hp
  have hq' := List.mem_of_getElem? hq
  have hpport : p ∈ g.ports := mem_ports.mpr ⟨n, hnmem, Node.mem_ports_of_mem_outputs hp'⟩
  have hqport : q ∈ g.ports := mem_ports.mpr ⟨m, hmmem, Node.mem_ports_of_mem_inputs hq'⟩
  -- whichever end it is that meets the output, an edge can only leave it
  have hfrom : e.source = p.endpoint := by
    have hsends := (hwf.nodes_made n hnmem).outputs_send p hp'
    refine (he.touchesPort_output_iff hwf hpport hsends).mp ?_
    rcases hbetween with ⟨hend, -⟩ | ⟨-, hend⟩ <;> simp [Edge.touchesPort, hend]
  have hto : e.target = q.endpoint := by
    have hreceives := (hwf.nodes_made m hmmem).inputs_receive q hq'
    refine (he.touchesPort_input_iff hwf hqport hreceives).mp ?_
    rcases hbetween with ⟨-, hend⟩ | ⟨hend, -⟩ <;> simp [Edge.touchesPort, hend]
  have hpnode : p.node = n.id :=
    (hwf.nodes_made n hnmem).ports_own p (Node.mem_ports_of_mem_outputs hp')
  have hqnode : q.node = m.id :=
    (hwf.nodes_made m hmmem).ports_own q (Node.mem_ports_of_mem_inputs hq')
  exact ⟨⟨n, p, hn, hp, by rw [hfrom, Port.endpoint, hpnode]⟩,
    ⟨m, q, hm, hq, by rw [hto, Port.endpoint, hqnode]⟩⟩

/-- Nodes at the end of a well-formed graph share no identifier with the nodes before them. -/
theorem Graph.WellFormed.apart_of_append {g g' : Graph} (hwf : g'.WellFormed) {added : List Node}
    (hnodes : g'.nodes = g.nodes ++ added) :
    (added.map Node.id).Nodup ∧
      ∀ n ∈ added, n.id ∉ g.nodes.map Node.id ∧ ∀ port ∈ n.portIds, port ∉ g.portIds := by
  have hdistinct := hwf.nodes_distinct
  have hports := hwf.ports_distinct
  rw [hnodes, List.map_append, List.nodup_append] at hdistinct
  rw [portIds_eq_flatMap, hnodes, List.flatMap_append, ← portIds_eq_flatMap,
    List.nodup_append] at hports
  refine ⟨hdistinct.2.1, fun n hn => ⟨fun hmem => ?_, fun port hport hmem => ?_⟩⟩
  · exact hdistinct.2.2 n.id hmem n.id (List.mem_map_of_mem hn) rfl
  · exact hports.2.2 port hmem port (List.mem_flatMap.mpr ⟨n, hn, hport⟩) rfl

namespace Fragment

/-! ## Runs of a paste -/

/-- The source after a paste, if every edge draws an identifier. -/
def idsAfter (f : Fragment) (palette : Palette) (offset : Position) (ids : IdSource) : IdSource :=
  match makeNodes palette offset ids f.nodes with
  | .ok (_, later) => later.skip f.edges.length
  | .error _ => ids

/-- The graph when nodes have been put in up to the first one that is refused. -/
def putIn (g : Graph) : List Node → Graph
  | [] => g
  | n :: nodes =>
    match g.insert n with
    | .ok g => putIn g nodes
    | .error _ => g

/-- The graph that a paste leaves behind when it works on a graph in place.  Nodes that are in when
another one is refused stay there. -/
def graphAfter (f : Fragment) (palette : Palette) (g : Graph) (offset : Position)
    (ids : IdSource) : Graph :=
  match makeNodes palette offset ids f.nodes with
  | .error _ => g
  | .ok (nodes, ids) =>
    match insertNodes g nodes with
    | .error _ => putIn g nodes
    | .ok graph => (f.edges.foldl (connectEdge nodes) { graph, ids }).graph

/-- Paste a fragment with other edges. -/
def pasteWith (f : Fragment) (palette : Palette) (g : Graph) (offset : Position) (ids : IdSource)
    (edges : List FragmentEdge) : Attempt Pasted :=
  { f with edges }.paste palette g offset ids

/-- What becomes of an edge of a fragment in its turn, after some edges, when the graph so far is
`graph` and the pasted nodes are `added`. -/
structure InTurn (f : Fragment) (palette : Palette) (g : Graph) (offset : Position) (ids : IdSource)
    (added : List Node) (before : List FragmentEdge) (entry : FragmentEdge) (notices : List Notice)
    (graph : Graph) (later : IdSource) : Prop where
  pasted : f.pasteWith palette g offset ids before =
    { notices, outcome := .ok ⟨added.map Node.id, graph, later⟩ }
  /-- if it can be connected, it is, without a notice -/
  connected : ∀ e graph', entry.StandsFor added e →
    graph.connect ⟨later.next.1⟩ e.source.port e.target.port = .ok graph' →
    f.pasteWith palette g offset ids (before ++ [entry]) =
      { notices, outcome := .ok ⟨added.map Node.id, graph', later.next.2⟩ }
  /-- if it is refused, nothing changes and there is one notice -/
  refused : ∀ e cause, entry.StandsFor added e →
    graph.connect ⟨later.next.1⟩ e.source.port e.target.port = .error cause →
    f.pasteWith palette g offset ids (before ++ [entry]) =
      { notices := notices ++ [.pastedEdgeSkipped cause]
        outcome := .ok ⟨added.map Node.id, graph, later⟩ }
  /-- and likewise if there are no ports at its places -/
  out_of_range : (∀ e, ¬ entry.StandsFor added e) →
    f.pasteWith palette g offset ids (before ++ [entry]) =
      { notices := notices ++ [.pastedEdgeOutOfRange]
        outcome := .ok ⟨added.map Node.id, graph, later⟩ }

section

variable {f : Fragment} {palette : Palette} {g graph : Graph} {offset : Position}
  {ids mid : IdSource} {nodes : List Node}

theorem paste_of_insertNodes (hmake : makeNodes palette offset ids f.nodes = .ok (nodes, mid))
    (hinsert : insertNodes g nodes = .ok graph) :
    f.paste palette g offset ids =
      { notices := (f.edges.foldl (connectEdge nodes) ⟨graph, mid, []⟩).notices
        outcome := .ok ⟨nodes.map Node.id,
          (f.edges.foldl (connectEdge nodes) ⟨graph, mid, []⟩).graph,
          (f.edges.foldl (connectEdge nodes) ⟨graph, mid, []⟩).ids⟩ } := by
  unfold paste
  rw [hmake]
  simp only [hinsert]

/-- Edges draw one identifier each at most. -/
theorem drawn_foldl_connectEdge_le (nodes : List Node) (entries : List FragmentEdge) (w : Wiring) :
    (entries.foldl (connectEdge nodes) w).ids.drawn ≤ w.ids.drawn + entries.length := by
  have hstep : ∀ w entry, (connectEdge nodes w entry).ids.drawn ≤ w.ids.drawn + 1 := by
    intro w entry
    rcases connectEdge_cases nodes w entry with ⟨a, b, refused, -, heq⟩ | ⟨notices, heq⟩
    · rw [heq]
      unfold Wiring.connect
      dsimp only
      split
      · exact Nat.le_refl _
      · exact Nat.le_succ _
    · rw [heq]
      exact Nat.le_succ _
  induction entries generalizing w with
  | nil => exact Nat.le_refl _
  | cons entry entries ih =>
      have hfirst := hstep w entry
      have hrest := ih (connectEdge nodes w entry)
      rw [List.foldl_cons, List.length_cons]
      omega

variable (hwf : g.WellFormed) (hfresh : g.AllFresh ids (f.idsAfter palette offset ids))
  (hmake : makeNodes palette offset ids f.nodes = .ok (nodes, mid))
include hwf hfresh hmake

/-- The nodes of a fragment are not refused. -/
theorem insertNodes_of_makeNodes :
    insertNodes g nodes = .ok (g.withNodes nodes) ∧ (g.withNodes nodes).WellFormed := by
  obtain ⟨hdescribed, count, hmid, huuids⟩ := makeNodes_eq_ok hmake
  have hlater : ids.drawn + count ≤ (f.idsAfter palette offset ids).drawn := by
    rw [idsAfter, hmake, hmid]
    exact Nat.le_add_right _ _
  obtain ⟨hnodes, hports⟩ := hfresh.nodup hwf huuids hlater
  obtain ⟨hmade, -⟩ :=
    Session.Closed.makeNodes_made (K := fun _ => True) (fun _ _ _ _ => trivial) hmake
  exact hwf.insertNodes_eq (fun n hn => (hmade n hn).wellMade) hnodes hports

/-- After the nodes and edges that were there, the graph has the nodes of the fragment and edges
that its edges stand for. -/
theorem exists_added :
    (f.edges.foldl (connectEdge nodes) ⟨g.withNodes nodes, mid, []⟩).graph.WellFormed ∧
    ∃ added new,
      (f.edges.foldl (connectEdge nodes) ⟨g.withNodes nodes, mid, []⟩).graph.nodes =
        g.nodes ++ added ∧
      (f.edges.foldl (connectEdge nodes) ⟨g.withNodes nodes, mid, []⟩).graph.edges =
        g.edges ++ new ∧
      added.map (·.mapPorts Port.clear) = nodes.map (·.mapPorts Port.clear) ∧
      ∀ e ∈ new, ∃ entry ∈ f.edges, entry.StandsFor added e := by
  obtain ⟨hinsert, -⟩ := insertNodes_of_makeNodes hwf hfresh hmake
  have hpaste := paste_of_insertNodes hmake hinsert
  generalize hlast : f.edges.foldl (connectEdge nodes) ⟨g.withNodes nodes, mid, []⟩ = last at *
  have hfresh' : g.Fresh ids last.ids := by
    have hbound := drawn_foldl_connectEdge_le nodes f.edges ⟨g.withNodes nodes, mid, []⟩
    rw [hlast] at hbound
    have hlater : last.ids.drawn ≤ (f.idsAfter palette offset ids).drawn := by
      rw [idsAfter, hmake]
      exact hbound
    exact ⟨fun i j hi hij hj => hfresh.distinct i j hi hij (hj.trans_le hlater),
      fun i hi hj => hfresh.unused i hi (hj.trans_le hlater)⟩
  obtain ⟨hwf', hext⟩ := Graph.Extends.paste hwf (congrArg Attempt.outcome hpaste) hfresh'
  obtain ⟨added, hadded, -⟩ := hext.nodes_append
  obtain ⟨new, hnew, -⟩ := hext.edges_append
  obtain ⟨hsame, hbrought⟩ := Wiring.foldl_spec
    (R := fun entry a b => ends? nodes entry = some (a, b)) (connectEdge_cases nodes)
    ⟨g.withNodes nodes, mid, []⟩ f.edges
  rw [hlast] at hsame hbrought
  have hclear : added.map (·.mapPorts Port.clear) = nodes.map (·.mapPorts Port.clear) := by
    rw [hadded, Graph.withNodes, List.map_append, List.map_append] at hsame
    exact (List.append_cancel_left hsame).trans (clear_map_mapPorts nodes fun _ => rfl)
  refine ⟨hwf', added, new, hadded, hnew, hclear, fun e he => ?_⟩
  have hmem : e ∈ last.graph.edges := hnew ▸ List.mem_append_right _ he
  rcases hbrought e hmem with hold | ⟨entry, hentry, a, b, hends, hbetween⟩
  · -- new edges have other identifiers than old ones
    have hdistinct := hwf'.edges_distinct
    rw [hnew, List.map_append, List.nodup_append] at hdistinct
    exact absurd rfl (hdistinct.2.2 e.id (List.mem_map_of_mem hold) e.id (List.mem_map_of_mem he))
  · obtain ⟨e', he', hsource, htarget⟩ := ends?_eq_some_iff.mp hends
    have hends' : ends? added entry = some (a, b) :=
      ends?_eq_some_iff.mpr ⟨e', he'.of_clear hclear, hsource, htarget⟩
    have hsub : added ⊆ last.graph.nodes := hadded ▸ List.subset_append_right _ _
    exact ⟨entry, hentry, hwf'.standsFor_of_between hsub hends' (hwf'.edges_join e hmem) hbetween⟩

/-- Each edge of a fragment has its turn. -/
theorem exists_inTurn {added : List Node}
    (hclear : added.map (·.mapPorts Port.clear) = nodes.map (·.mapPorts Port.clear))
    (before : List FragmentEdge) (entry : FragmentEdge) :
    ∃ notices graph later,
      f.InTurn palette g offset ids added before entry notices graph later := by
  obtain ⟨hinsert, -⟩ := insertNodes_of_makeNodes hwf hfresh hmake
  have hids : nodes.map Node.id = added.map Node.id := (map_id_of_clear hclear).symm
  have hpaste : ∀ edges, f.pasteWith palette g offset ids edges =
      { notices := (edges.foldl (connectEdge nodes) ⟨g.withNodes nodes, mid, []⟩).notices
        outcome := .ok ⟨added.map Node.id,
          (edges.foldl (connectEdge nodes) ⟨g.withNodes nodes, mid, []⟩).graph,
          (edges.foldl (connectEdge nodes) ⟨g.withNodes nodes, mid, []⟩).ids⟩ } := by
    intro edges
    rw [← hids]
    exact paste_of_insertNodes (f := { f with edges }) hmake hinsert
  obtain ⟨graph, later, notices, hbefore⟩ : ∃ graph later notices,
      before.foldl (connectEdge nodes) ⟨g.withNodes nodes, mid, []⟩ = ⟨graph, later, notices⟩ :=
    ⟨_, _, _, rfl⟩
  have hnext : f.pasteWith palette g offset ids (before ++ [entry]) =
      { notices := (connectEdge nodes ⟨graph, later, notices⟩ entry).notices
        outcome := .ok ⟨added.map Node.id, (connectEdge nodes ⟨graph, later, notices⟩ entry).graph,
          (connectEdge nodes ⟨graph, later, notices⟩ entry).ids⟩ } := by
    rw [hpaste, List.foldl_append, hbefore]
    rfl
  have hends : ∀ {e}, entry.StandsFor added e →
      ends? nodes entry = some (e.source.port, e.target.port) :=
    fun he => ends?_eq_some_iff.mpr ⟨_, he.of_clear hclear.symm, rfl, rfl⟩
  refine ⟨notices, graph, later, ?_, fun e graph' he hconnect => ?_, fun e cause he hconnect => ?_,
    fun hnone => ?_⟩
  · rw [hpaste, hbefore]
  · have hstep : connectEdge nodes ⟨graph, later, notices⟩ entry =
        ⟨graph', later.next.2, notices⟩ := by
      rw [connectEdge, hends he]
      exact Wiring.connect_of_ok (w := ⟨graph, later, notices⟩) hconnect _
    rw [hnext, hstep]
  · have hstep : connectEdge nodes ⟨graph, later, notices⟩ entry =
        ⟨graph, later, notices ++ [.pastedEdgeSkipped cause]⟩ := by
      rw [connectEdge, hends he]
      exact Wiring.connect_of_error (w := ⟨graph, later, notices⟩) hconnect _
    rw [hnext, hstep]
  · have hnone' : ends? nodes entry = none :=
      ends?_eq_none fun e he => hnone e (he.of_clear hclear)
    rw [hnext, connectEdge, hnone']

end

/-! ## The whole paste -/

/-- Pasting fails exactly if an entry of the fragment is of an unknown kind.  It names the first one
and leaves the graph as it was.  Otherwise it succeeds: after the nodes and edges that were there,
as they were, the graph has a new node for each entry, in order, and edges between new nodes that
edges of the fragment stand for.  Each edge of the fragment is connected in its turn, or passed over
with one notice.  The identifiers that are drawn must be new. -/
theorem paste_all_or_nothing {g : Graph} (h : g.Reachable K) (f : Fragment) (palette : Palette)
    (offset : Position) {ids : IdSource}
    (hfresh : g.AllFresh ids (f.idsAfter palette offset ids)) :
    ((∃ cause, (f.paste palette g offset ids).outcome = .error cause) ↔
      ∃ entry ∈ f.nodes, palette.get? entry.tag = none) ∧
    (∀ cause, (f.paste palette g offset ids).outcome = .error cause →
      (∃ entry, f.nodes.find? (fun entry => (palette.get? entry.tag).isNone) = some entry ∧
        cause = .unknownKind entry.tag) ∧
      f.graphAfter palette g offset ids = g) ∧
    ((∀ entry ∈ f.nodes, palette.get? entry.tag ≠ none) →
      ∃ pasted added new, (f.paste palette g offset ids).outcome = .ok pasted ∧
        f.graphAfter palette g offset ids = pasted.graph ∧
        pasted.graph.nodes = g.nodes ++ added ∧
        pasted.graph.edges = g.edges ++ new ∧
        pasted.nodes = added.map Node.id ∧ pasted.nodes.Nodup ∧
        List.Forall₂ (FragmentNode.Describes palette offset) f.nodes added ∧
        (∀ n ∈ added, n.id ∉ g.nodes.map Node.id ∧ ∀ port ∈ n.portIds, port ∉ g.portIds) ∧
        (∀ e ∈ new, ∃ entry ∈ f.edges, entry.StandsFor added e) ∧
        ∀ before entry after, f.edges = before ++ entry :: after →
          ∃ notices graph later,
            f.InTurn palette g offset ids added before entry notices graph later) := by
  have hwf := h.sound.wellFormed
  cases hmake : makeNodes palette offset ids f.nodes with
  | error cause =>
      have houtcome : (f.paste palette g offset ids).outcome = .error cause := by
        rw [paste, hmake]
      have hafter : f.graphAfter palette g offset ids = g := by
        rw [graphAfter, hmake]
      obtain ⟨entry, hentry, hunknown⟩ := exists_makeNodes_error_iff.mp ⟨cause, hmake⟩
      refine ⟨⟨fun _ => ⟨entry, hentry, hunknown⟩, fun _ => ⟨cause, houtcome⟩⟩, ?_, ?_⟩
      · intro other hother
        obtain rfl := Except.error.inj (houtcome.symm.trans hother)
        exact ⟨makeNodes_eq_error_iff.mp hmake, hafter⟩
      · intro hknown
        exact absurd hunknown (hknown entry hentry)
  | ok made =>
      obtain ⟨nodes, mid⟩ := made
      obtain ⟨hinsert, -⟩ := insertNodes_of_makeNodes hwf hfresh hmake
      obtain ⟨hwf', added, new, hadded, hnew, hclear, hstand⟩ := exists_added hwf hfresh hmake
      have hpaste := congrArg Attempt.outcome (paste_of_insertNodes hmake hinsert)
      have hnoerror : ∀ cause, (f.paste palette g offset ids).outcome ≠ .error cause := by
        intro cause herror
        cases hpaste.symm.trans herror
      have hafter : f.graphAfter palette g offset ids =
          (f.edges.foldl (connectEdge nodes) ⟨g.withNodes nodes, mid, []⟩).graph := by
        rw [graphAfter, hmake]
        simp only [hinsert]
      obtain ⟨hdistinct, hapart⟩ := hwf'.apart_of_append hadded
      obtain ⟨hdescribed, -⟩ := makeNodes_eq_ok hmake
      refine ⟨⟨fun ⟨cause, herror⟩ => absurd herror (hnoerror cause), fun hunknown => ?_⟩,
        fun cause herror => absurd herror (hnoerror cause), fun _ => ?_⟩
      · -- an unknown entry would have stopped the making of nodes
        obtain ⟨cause, herror⟩ := exists_makeNodes_error_iff.mpr hunknown
        cases hmake.symm.trans herror
      · refine ⟨_, added, new, hpaste, hafter, hadded, hnew, (map_id_of_clear hclear).symm, ?_, ?_,
          hapart, hstand, fun before entry after _ => ?_⟩
        · rw [← map_id_of_clear hclear]
          exact hdistinct
        · exact forall₂_of_map_eq (fun _ _ _ hd hsame => hd.of_clear hsame) hdescribed hclear
        · exact exists_inTurn hwf hfresh hmake hclear before entry

/-- Two greetings with a ring of edges, one of them twice, an edge between a flow and a text, and
one without a source. -/
def scrap : Fragment :=
  { Graph.ring with edges := Graph.ring.edges ++ [⟨0, 0, 1, 0⟩, ⟨0, 0, 1, 1⟩, ⟨0, 7, 1, 0⟩] }

/-- The same with two entries of unknown kinds. -/
def torn : Fragment :=
  let entry (tag : String) : FragmentNode := ⟨tag, "", .origin, ∅⟩
  { scrap with nodes := entry "shout" :: scrap.nodes ++ [entry "whisper"] }

theorem sample_allFresh {later : IdSource} (hlater : later.drawn ≤ 200) :
    Graph.sample.AllFresh Graph.laterIds later := by
  have hdrawn : ∀ i, 100 ≤ i → i < 200 → 100 ≤ (Graph.laterIds.sequence i).bits.toNat := by
    intro i hi hj
    simp only [Graph.laterIds, IdSource.counting, BitVec.toNat_ofNat]
    omega
  have hnodes : ∀ id ∈ Graph.sample.nodes.map Node.id, id.uuid.bits.toNat < 100 := by decide
  have hports : ∀ id ∈ Graph.sample.portIds, id.uuid.bits.toNat < 100 := by decide
  refine ⟨Graph.sample_fresh hlater, fun i hi hj hmem => ?_, fun i hi hj hmem => ?_⟩
  · exact absurd (hdrawn i hi (hj.trans_le hlater)) (hnodes _ hmem).not_ge
  · exact absurd (hdrawn i hi (hj.trans_le hlater)) (hports _ hmem).not_ge

/-- The scrap is pasted with one of its edges and three notices.  The torn fragment is refused. -/
theorem paste_all_or_nothing_scrap :
    (Graph.sample.Reachable fun _ => True) ∧
    Graph.sample.AllFresh Graph.laterIds (scrap.idsAfter .standard .origin Graph.laterIds) ∧
    Graph.sample.AllFresh Graph.laterIds (torn.idsAfter .standard .origin Graph.laterIds) ∧
    (∃ pasted added new,
      (scrap.paste .standard .sample .origin Graph.laterIds).outcome = .ok pasted ∧
      (scrap.paste .standard .sample .origin Graph.laterIds).notices.length = 3 ∧
      pasted.graph.nodes = Graph.sample.nodes ++ added ∧
      pasted.graph.edges = Graph.sample.edges ++ new ∧ new.length = 1 ∧
      ∀ e ∈ new, ∃ entry ∈ scrap.edges, entry.StandsFor added e) ∧
    (torn.paste .standard .sample .origin Graph.laterIds).outcome =
      .error (.unknownKind "shout") ∧
    torn.graphAfter .standard .sample .origin Graph.laterIds = .sample := by
  have hreach : Graph.sample.Reachable fun _ => True := Graph.sample_reachable fun _ _ => trivial
  have hscrap : Graph.sample.AllFresh Graph.laterIds
      (scrap.idsAfter .standard .origin Graph.laterIds) := sample_allFresh (by decide)
  have htorn : Graph.sample.AllFresh Graph.laterIds
      (torn.idsAfter .standard .origin Graph.laterIds) := sample_allFresh (by decide)
  obtain ⟨-, -, hpasted⟩ := paste_all_or_nothing hreach scrap .standard .origin hscrap
  obtain ⟨-, hfails, -⟩ := paste_all_or_nothing hreach torn .standard .origin htorn
  obtain ⟨pasted, added, new, hok, -, hnodes, hedges, -, -, -, -, hstand, -⟩ :=
    hpasted (by decide)
  have herror : (torn.paste .standard .sample .origin Graph.laterIds).outcome =
      .error (.unknownKind "shout") := rfl
  have hcount : new.length = 1 := by
    have hlength : pasted.graph.edges.length = Graph.sample.edges.length + 1 := by
      have hsame : (scrap.paste .standard .sample .origin Graph.laterIds).outcome = .ok _ := rfl
      obtain rfl := Except.ok.inj (hsame.symm.trans hok)
      rfl
    rw [hedges, List.length_append] at hlength
    omega
  exact ⟨hreach, hscrap, htorn,
    ⟨pasted, added, new, hok, by decide, hnodes, hedges, hcount, hstand⟩, herror,
    (hfails _ herror).2⟩

end Fragment

end ScriptGraph
