import ScriptGraph.Proofs.Session.Invariant

/-!
# Pasting adds to a graph and changes nothing in it

A fragment may hold anything: edges that repeat each other, that compete for an input or that close
a cycle.  So pasting it may displace edges, and it is to be shown that these are always edges of the
fragment itself.

`Graph.Extends` says that a graph has come about by additions.  The old nodes are there as they
were, down to the edges that their ports list, because no new edge ends at an old port.  A node that
is put in keeps this, and so does a connection between new ports (`Extends.insert`,
`Extends.connect`): what it displaces runs into a new port.  Pasting is made of such steps
(`Extends.paste`).
-/

namespace ScriptGraph

/-- The kinds that a palette has for the nodes of a fragment. -/
def Fragment.Uses (f : Fragment) (palette : Palette) (kind : NodeKind) : Prop :=
  ∃ entry ∈ f.nodes, palette.get? entry.tag = some kind

namespace Graph

/-- A graph that another one has grown to: after its nodes there are nodes of the given kinds, and
after its edges there are edges that end at none of its ports. -/
structure Extends (K : NodeKind → Prop) (g g' : Graph) : Prop where
  nodes_append : ∃ added, g'.nodes = g.nodes ++ added ∧ ∀ n ∈ added, n.Made K
  edges_append : ∃ added, g'.edges = g.edges ++ added ∧
    ∀ e ∈ added, ∀ port ∈ g.portIds, e.touchesPort port = false

namespace Extends

variable {K : NodeKind → Prop} {g g' g'' : Graph}

theorem refl (g : Graph) : g.Extends K g where
  nodes_append := ⟨[], (List.append_nil _).symm, fun _ hn => absurd hn List.not_mem_nil⟩
  edges_append := ⟨[], (List.append_nil _).symm, fun _ he => absurd he List.not_mem_nil⟩

theorem nodes_subset (h : g.Extends K g') : g.nodes ⊆ g'.nodes := by
  obtain ⟨added, hnodes, -⟩ := h.nodes_append
  rw [hnodes]
  exact List.subset_append_left _ _

theorem edges_subset (h : g.Extends K g') : g.edges ⊆ g'.edges := by
  obtain ⟨added, hedges, -⟩ := h.edges_append
  rw [hedges]
  exact List.subset_append_left _ _

theorem ports_subset (h : g.Extends K g') : g.ports ⊆ g'.ports := by
  intro p hp
  obtain ⟨n, hn, hport⟩ := mem_ports.mp hp
  exact mem_ports.mpr ⟨n, h.nodes_subset hn, hport⟩

theorem insert (hwf : g'.WellFormed) (h : g.Extends K g') {n : Node} (hmade : n.Made K)
    (hinsert : g'.insert n = .ok g'') : g.Extends K g'' := by
  obtain ⟨-, rfl⟩ := hwf.insert_eq_ok_iff.mp hinsert
  obtain ⟨added, hnodes, hadded⟩ := h.nodes_append
  refine ⟨⟨added ++ [n.mapPorts Port.clear], ?_, ?_⟩, h.edges_append⟩
  · rw [← List.append_assoc, ← hnodes]
  · intro m hm
    rcases List.mem_append.mp hm with hold | hnew
    · exact hadded m hold
    · obtain rfl := List.mem_singleton.mp hnew
      exact hmade.mapPorts (fun _ => rfl) (fun _ => rfl) (fun _ => rfl)

end Extends

/-- The ports of a graph list no edges but its own, as long as no other edge ends at them. -/
theorem WellFormed.wire_append {g : Graph} (h : g.WellFormed) {more : List Edge}
    (hmore : ∀ e ∈ more, ∀ port ∈ g.portIds, e.touchesPort port = false) :
    g.nodes.map (·.mapPorts (Port.wire (g.edges ++ more))) = g.nodes := by
  refine (List.map_congr_left fun n hn => ?_).trans (List.map_id _)
  refine Node.mapPorts_eq_self fun p hp => ?_
  have hport : p ∈ g.ports := mem_ports.mpr ⟨n, hn, hp⟩
  have hnone : incident more p.id = [] := by
    rw [incident, List.map_eq_nil_iff, List.filter_eq_nil_iff]
    intro e he
    rw [hmore e he p.id (List.mem_map_of_mem hport)]
    exact Bool.false_ne_true
  rw [Port.wire, incident_append, hnone, List.append_nil, ← h.ports_wired p hport]

variable {K : NodeKind → Prop} {g g' g'' : Graph}

/-- Other edges in place of the new ones. -/
theorem Extends.withEdges (hwf : g.WellFormed) (h : g.Extends K g') {more : List Edge}
    (hmore : ∀ e ∈ more, ∀ port ∈ g.portIds, e.touchesPort port = false) :
    g.Extends K (g'.withEdges (g.edges ++ more)) := by
  obtain ⟨added, hnodes, hmade⟩ := h.nodes_append
  refine ⟨⟨added.map (·.mapPorts (Port.wire (g.edges ++ more))), ?_, ?_⟩, more, rfl, hmore⟩
  · rw [withEdges_nodes, hnodes, List.map_append, hwf.wire_append hmore]
  · intro n hn
    obtain ⟨m, hm, rfl⟩ := List.mem_map.mp hn
    exact (hmade m hm).wire _

/-- A connection between new ports.  An edge that makes room for it runs into one of these, so it is
new as well. -/
theorem Extends.connect (hwf : g.WellFormed) (hwf' : g'.WellFormed) (h : g.Extends K g')
    {id : EdgeId} {a b : PortId} (ha : a ∉ g.portIds) (hb : b ∉ g.portIds)
    (hconnect : g'.connect id a b = .ok g'') : g.Extends K g'' := by
  obtain ⟨source, target, hwiring, rfl⟩ := connect_eq_ok_iff.mp hconnect
  obtain ⟨hwires, hends⟩ := hwf'.wiring_eq_ok_iff.mp hwiring
  have hnew : source.id ∉ g.portIds ∧ target.id ∉ g.portIds := by
    rcases hends with ⟨rfl, rfl⟩ | ⟨rfl, rfl⟩
    · exact ⟨ha, hb⟩
    · exact ⟨hb, ha⟩
  obtain ⟨edges, hedges, hapart⟩ := h.edges_append
  -- old edges run into old ports, so none of them is displaced
  have hkept : (g.edges.filter fun e => e.target.port != target.id) = g.edges := by
    refine List.filter_eq_self.mpr fun e he => ?_
    have htarget : e.target.port ∈ g.portIds :=
      (hwf.edges_join e he).mem_portIds hwf (by simp [Edge.touchesPort])
    exact bne_iff_ne.mpr fun heq => hnew.2 (heq ▸ htarget)
  rw [hwf'.join_eq hwires, hedges, List.filter_append, hkept, List.append_assoc]
  refine h.withEdges hwf fun e he port hport => ?_
  rcases List.mem_append.mp he with hold | hlast
  · exact hapart e (List.mem_of_mem_filter hold) port hport
  · obtain rfl := List.mem_singleton.mp hlast
    have hsource : source.id ≠ port := fun heq => hnew.1 (heq ▸ hport)
    have htarget : target.id ≠ port := fun heq => hnew.2 (heq ▸ hport)
    simp [Edge.touchesPort, Port.endpoint, hsource, htarget]

/-- Nodes that can be put in one after the other bring their own ports with them. -/
theorem Extends.insertNodes {nodes : List Node} (hmade : ∀ n ∈ nodes, n.Made K)
    (hwf : g'.WellFormed) (h : g.Extends K g')
    (hinsert : Fragment.insertNodes g' nodes = .ok g'') :
    g''.WellFormed ∧ g.Extends K g'' ∧ g''.edges = g'.edges ∧
      ∀ n ∈ nodes, ∀ id ∈ n.portIds, id ∉ g.portIds := by
  induction nodes generalizing g' with
  | nil =>
      obtain rfl : g' = g'' := by simpa [Fragment.insertNodes] using hinsert
      exact ⟨hwf, h, rfl, fun _ hn => absurd hn List.not_mem_nil⟩
  | cons n nodes ih =>
      rw [List.forall_mem_cons] at hmade
      unfold Fragment.insertNodes at hinsert
      cases hnode : g'.insert n with
      | error cause => simp [hnode] at hinsert
      | ok next =>
          simp only [hnode] at hinsert
          obtain ⟨hwf', h', hedges, hports⟩ := ih hmade.2 (hwf.insert hmade.1.wellMade hnode)
            (h.insert hwf hmade.1 hnode) hinsert
          have hfree := (hwf.insert_eq_ok_iff.mp hnode).1.2.2
          refine ⟨hwf', h', hedges.trans (insert_edges hnode), ?_⟩
          refine List.forall_mem_cons.mpr ⟨fun id hid hmem => ?_, hports⟩
          exact hfree id hid (List.map_subset _ h.ports_subset hmem)

end Graph

/-- An edge of a fragment joins ports of the pasted nodes. -/
theorem Fragment.mem_of_ends? {nodes : List Node} {e : FragmentEdge} {a b : PortId}
    (h : ends? nodes e = some (a, b)) :
    (∃ n ∈ nodes, a ∈ n.portIds) ∧ ∃ n ∈ nodes, b ∈ n.portIds := by
  simp only [ends?, Option.bind_eq_bind, Option.bind_eq_some_iff, Option.pure_def,
    Option.some.injEq, Prod.mk.injEq] at h
  obtain ⟨s, hs, p, hp, t, ht, q, hq, rfl, rfl⟩ := h
  refine ⟨⟨s, List.mem_of_getElem? hs, ?_⟩, ⟨t, List.mem_of_getElem? ht, ?_⟩⟩
  · exact List.mem_map_of_mem (Node.mem_ports_of_mem_outputs (List.mem_of_getElem? hp))
  · exact List.mem_map_of_mem (Node.mem_ports_of_mem_inputs (List.mem_of_getElem? hq))

/-- A pasted fragment extends the graph. -/
theorem Graph.Extends.paste {g : Graph} (hwf : g.WellFormed) {f : Fragment} {palette : Palette}
    {offset : Position} {ids : IdSource} {pasted : Fragment.Pasted}
    (hpaste : (f.paste palette g offset ids).outcome = .ok pasted)
    (hfresh : g.Fresh ids pasted.ids) :
    pasted.graph.WellFormed ∧ g.Extends (f.Uses palette) pasted.graph := by
  unfold Fragment.paste at hpaste
  split at hpaste
  · cases hpaste
  · rename_i nodes ids' hmake
    have hkinds : ∀ entry ∈ f.nodes, ∀ kind, palette.get? entry.tag = some kind →
        f.Uses palette kind := fun entry hentry kind hkind => ⟨entry, hentry, hkind⟩
    obtain ⟨hmade, hseq, hdrawn⟩ := Session.Closed.makeNodes_made hkinds hmake
    split at hpaste
    · cases hpaste
    · rename_i graph hinsert
      obtain ⟨hgraph, hext, hedges, hports⟩ :=
        Extends.insertNodes hmade hwf (Extends.refl g) hinsert
      obtain rfl := Except.ok.inj hpaste
      refine Wiring.foldl_connect (P := fun g' => g'.WellFormed ∧ g.Extends (f.Uses palette) g')
        (A := fun port => port ∉ g.portIds) ?_ (fun w e => ?_) ⟨hgraph, hext⟩
        (hfresh.advance hedges hseq hdrawn)
      · rintro g' g'' id a b ⟨hwf', hext'⟩ ha hb hid hconnect
        refine ⟨?_, hext'.connect hwf hwf' ha hb hconnect⟩
        obtain ⟨source, target, hwiring, rfl⟩ := connect_eq_ok_iff.mp hconnect
        exact hwf'.join (hwf'.wiring_eq_ok_iff.mp hwiring).1 hid
      · unfold Fragment.connectEdge
        split
        · rename_i a b hends
          obtain ⟨⟨s, hs, ha⟩, ⟨t, ht, hb⟩⟩ := Fragment.mem_of_ends? hends
          exact Or.inl ⟨a, b, _, hports s hs a ha, hports t ht b hb, rfl⟩
        · exact Or.inr ⟨_, rfl⟩

end ScriptGraph
