import ScriptGraph.Proofs.Fragment.Pasting

/-!
# Copying what was pasted

A fragment that was copied from a graph can be pasted as a whole, and a copy of what was pasted is
the same fragment again, but for its place on the canvas (`copied_again`).

The pasted nodes have the same ports as the copied ones, place by place (`Node.Duplicates`).  So for
each copied edge there is one edge between pasted nodes at the same places (`Edge.Matches`), and it
fits its ports and runs into a port of its own because the copied edge does.  Together with the
graph that was there, these edges are well-formed (`WellFormed.withDuplicates`) and have no cycle:
a cycle among them would be one among the copied edges.  Edges of such a graph are never refused
when they are connected in their order (`WellFormed.foldl_connect_later`).
-/

namespace ScriptGraph

variable {K : NodeKind → Prop}

/-- A fragment moved by an offset. -/
def Fragment.shift (f : Fragment) (offset : Position) : Fragment :=
  { f with nodes := f.nodes.map fun n =>
      { n with position := ⟨n.position.x + offset.x, n.position.y + offset.y⟩ } }

/-! ## Nodes and their duplicates -/

/-- A node that looks like another one, moved by an offset. -/
structure Node.Duplicates (offset : Position) (n m : Node) : Prop where
  tag_eq : m.tag = n.tag
  title_eq : m.title = n.title
  position_eq : m.position = ⟨n.position.x + offset.x, n.position.y + offset.y⟩
  properties_eq : m.properties = n.properties
  inputs_eq : m.inputs.map Port.spec = n.inputs.map Port.spec
  outputs_eq : m.outputs.map Port.spec = n.outputs.map Port.spec

theorem Node.Duplicates.of_clear {offset : Position} {n m m' : Node} (h : n.Duplicates offset m)
    (hsame : m'.mapPorts Port.clear = m.mapPorts Port.clear) : n.Duplicates offset m' where
  tag_eq := (congrArg Node.tag hsame).trans h.tag_eq
  title_eq := (congrArg Node.title hsame).trans h.title_eq
  position_eq := (congrArg Node.position hsame).trans h.position_eq
  properties_eq := (congrArg Node.properties hsame).trans h.properties_eq
  inputs_eq := by
    have hclear := congrArg (fun k : Node => k.inputs.map Port.spec) hsame
    simp only [Node.mapPorts_inputs, List.map_map] at hclear
    exact hclear.trans h.inputs_eq
  outputs_eq := by
    have hclear := congrArg (fun k : Node => k.outputs.map Port.spec) hsame
    simp only [Node.mapPorts_outputs, List.map_map] at hclear
    exact hclear.trans h.outputs_eq

/-- The entries for duplicates are those for the originals, moved. -/
theorem Node.map_ofNode_of_duplicates {offset : Position} {nodes nodes' : List Node}
    (h : List.Forall₂ (Node.Duplicates offset) nodes nodes') :
    nodes'.map FragmentNode.ofNode = (nodes.map FragmentNode.ofNode).map fun entry =>
      { entry with position := ⟨entry.position.x + offset.x, entry.position.y + offset.y⟩ } := by
  induction h with
  | nil => rfl
  | cons hfirst _ ih =>
      rw [List.map_cons, List.map_cons, List.map_cons, ih, FragmentNode.ofNode, hfirst.tag_eq,
        hfirst.title_eq, hfirst.position_eq, hfirst.properties_eq]
      rfl

theorem exists_getElem?_of_forall₂ {α β : Type} {R : α → β → Prop} {l : List α} {m : List β}
    (h : List.Forall₂ R l m) {i : Nat} {a : α} (ha : l[i]? = some a) :
    ∃ b, m[i]? = some b ∧ R a b := by
  induction h generalizing i with
  | nil => simp at ha
  | cons hfirst _ ih =>
      cases i with
      | zero =>
          obtain rfl : _ = a := by simpa using ha
          exact ⟨_, rfl, hfirst⟩
      | succ i => exact ih (by simpa using ha)

/-! ## Edges at the same places -/

/-- Two edges among two lists of nodes have the same places. -/
def Edge.Matches (nodes nodes' : List Node) (e e' : Edge) : Prop :=
  ∃ entry : FragmentEdge, entry.StandsFor nodes e ∧ entry.StandsFor nodes' e'

section

variable {offset : Position} {nodes nodes' : List Node}
  (hdup : List.Forall₂ (Node.Duplicates offset) nodes nodes')
include hdup

/-- At the places of an edge, there is room for one among the duplicates. -/
theorem FragmentEdge.StandsFor.exists_matching {entry : FragmentEdge} {e : Edge}
    (h : entry.StandsFor nodes e) (id : EdgeId) :
    ∃ e' : Edge, e'.id = id ∧ entry.StandsFor nodes' e' := by
  obtain ⟨⟨s, p, hs, hp, -⟩, ⟨t, q, ht, hq, -⟩⟩ := h
  obtain ⟨s', hs', hsdup⟩ := exists_getElem?_of_forall₂ hdup hs
  obtain ⟨t', ht', htdup⟩ := exists_getElem?_of_forall₂ hdup ht
  obtain ⟨p', hp', -⟩ := exists_getElem?_of_map_eq hsdup.outputs_eq hp
  obtain ⟨q', hq', -⟩ := exists_getElem?_of_map_eq htdup.inputs_eq hq
  exact ⟨⟨id, ⟨s'.id, p'.id⟩, ⟨t'.id, q'.id⟩⟩, rfl, ⟨s', p', hs', hp', rfl⟩,
    ⟨t', q', ht', hq', rfl⟩⟩

/-- The same for a list of edges, with identifiers from another list. -/
theorem exists_matching_edges {edges : List Edge} {entries : List FragmentEdge}
    (h : List.Forall₂ (fun e entry => entry.StandsFor nodes e) edges entries) (ids : List EdgeId)
    (hlength : ids.length = entries.length) :
    ∃ new : List Edge, new.map Edge.id = ids ∧
      List.Forall₂ (fun e entry => entry.StandsFor nodes' e) new entries ∧
      List.Forall₂ (Edge.Matches nodes nodes') edges new := by
  induction h generalizing ids with
  | nil =>
      obtain rfl := List.eq_nil_of_length_eq_zero hlength
      exact ⟨[], rfl, .nil, .nil⟩
  | @cons e entry edges entries hfirst _ ih =>
      cases ids with
      | nil => cases hlength
      | cons id ids =>
          obtain ⟨e', hid, he'⟩ := hfirst.exists_matching hdup id
          obtain ⟨new, hids, hstand, hmatch⟩ := ih ids (Nat.succ.inj hlength)
          refine ⟨e' :: new, ?_, .cons he' hstand, .cons ⟨entry, hfirst, he'⟩ hmatch⟩
          rw [List.map_cons, hid, hids]

/-- At the same places there are ports that look the same, be it among the inputs or the
outputs. -/
theorem spec_eq_of_places {ports : Node → List Port}
    (hports : ∀ n m, n.Duplicates offset m → (ports m).map Port.spec = (ports n).map Port.spec)
    {i k : Nat} {n n' : Node} {p p' : Port} (hn : nodes[i]? = some n) (hn' : nodes'[i]? = some n')
    (hp : (ports n)[k]? = some p) (hp' : (ports n')[k]? = some p') : p'.spec = p.spec := by
  obtain ⟨m, hm, hnm⟩ := exists_getElem?_of_forall₂ hdup hn
  obtain rfl := Option.some.inj (hm.symm.trans hn')
  obtain ⟨q, hq, hspec⟩ := exists_getElem?_of_map_eq (hports n m hnm) hp
  obtain rfl := Option.some.inj (hq.symm.trans hp')
  exact hspec

/-- Among duplicates, an edge at the places of a fitting edge fits. -/
theorem Edge.Matches.joins {g g' : Graph} (hwf : g.WellFormed) (hnodes : nodes ⊆ g.nodes)
    (hnodes' : nodes' ⊆ g'.nodes) (hdistinct : (nodes'.map Node.id).Nodup) {e e' : Edge}
    (hmatch : e.Matches nodes nodes' e') (he : g.Joins e) : g'.Joins e' := by
  obtain ⟨entry, ⟨⟨s, p, hs, hp, hsource⟩, ⟨t, q, ht, hq, htarget⟩⟩,
    ⟨⟨s', p', hs', hp', hsource'⟩, ⟨t', q', ht', hq', htarget'⟩⟩⟩ := hmatch
  obtain ⟨s₀, hs₀, t₀, ht₀, p₀, hp₀, q₀, hq₀, hsource₀, htarget₀, hne, htype⟩ := he
  obtain ⟨hsid, hpid⟩ := Endpoint.mk.inj (hsource.symm.trans hsource₀)
  obtain ⟨htid, hqid⟩ := Endpoint.mk.inj (htarget.symm.trans htarget₀)
  have hpmem := Node.mem_ports_of_mem_outputs (List.mem_of_getElem? hp)
  have hqmem := Node.mem_ports_of_mem_inputs (List.mem_of_getElem? hq)
  obtain rfl : p = p₀ := hwf.port_unique
    (Graph.mem_ports.mpr ⟨s, hnodes (List.mem_of_getElem? hs), hpmem⟩)
    (Graph.mem_ports.mpr ⟨s₀, hs₀, Node.mem_ports_of_mem_outputs hp₀⟩) hpid
  obtain rfl : q = q₀ := hwf.port_unique
    (Graph.mem_ports.mpr ⟨t, hnodes (List.mem_of_getElem? ht), hqmem⟩)
    (Graph.mem_ports.mpr ⟨t₀, ht₀, Node.mem_ports_of_mem_inputs hq₀⟩) hqid
  have hpspec : p'.spec = p.spec :=
    spec_eq_of_places hdup (fun _ _ h => h.outputs_eq) hs hs' hp hp'
  have hqspec : q'.spec = q.spec :=
    spec_eq_of_places hdup (fun _ _ h => h.inputs_eq) ht ht' hq hq'
  refine ⟨s', hnodes' (List.mem_of_getElem? hs'), t', hnodes' (List.mem_of_getElem? ht'), p',
    List.mem_of_getElem? hp', q', List.mem_of_getElem? hq', hsource', htarget', ?_, ?_⟩
  · -- one node among the duplicates is at one place, and so is one among the originals
    refine fun heq => hne ?_
    have hplace := place_unique Node.id hdistinct hs' ht' heq
    rw [hplace] at hs
    obtain rfl := Option.some.inj (hs.symm.trans ht)
    exact hsid.symm.trans htid
  · calc p'.spec.type = p.spec.type := by rw [hpspec]
      _ = q.spec.type := htype
      _ = q'.spec.type := by rw [hqspec]

omit hdup in
/-- Edges with a common target among the duplicates have one among the originals. -/
theorem Edge.Matches.target_eq (hdistinct : (nodes'.map Node.id).Nodup)
    (hports : ∀ n ∈ nodes', n.portIds.Nodup) {e₁ e₂ e₁' e₂' : Edge}
    (h₁ : e₁.Matches nodes nodes' e₁') (h₂ : e₂.Matches nodes nodes' e₂')
    (htarget : e₁'.target = e₂'.target) : e₁.target = e₂.target := by
  obtain ⟨x, ⟨-, ⟨n₁, p₁, hn₁, hp₁, h₁⟩⟩, ⟨-, ⟨m₁, q₁, hm₁, hq₁, h₁'⟩⟩⟩ := h₁
  obtain ⟨y, ⟨-, ⟨n₂, p₂, hn₂, hp₂, h₂⟩⟩, ⟨-, ⟨m₂, q₂, hm₂, hq₂, h₂'⟩⟩⟩ := h₂
  obtain ⟨hnode, hport⟩ := Endpoint.mk.inj (h₁'.symm.trans (htarget.trans h₂'))
  have hplace := place_unique Node.id hdistinct hm₁ hm₂ hnode
  rw [hplace] at hm₁ hn₁
  obtain rfl := Option.some.inj (hm₁.symm.trans hm₂)
  obtain rfl := Option.some.inj (hn₁.symm.trans hn₂)
  have hinputs := (hports m₁ (List.mem_of_getElem? hm₁)).sublist
    ((List.sublist_append_left m₁.inputs m₁.outputs).map _)
  have hinput := place_unique Port.id hinputs hq₁ hq₂ hport
  rw [hinput] at hp₁
  obtain rfl := Option.some.inj (hp₁.symm.trans hp₂)
  exact h₁.trans h₂.symm

end

theorem pairwise_of_forall₂ {α β : Type} {R : α → β → Prop} {S : α → α → Prop} {T : β → β → Prop}
    (hST : ∀ {a a' b b'}, R a b → R a' b' → S a a' → T b b') {l : List α} {m : List β}
    (h : List.Forall₂ R l m) (hl : l.Pairwise S) : m.Pairwise T := by
  induction h with
  | nil => exact .nil
  | cons hfirst hrest ih =>
      rw [List.pairwise_cons] at hl
      refine List.Pairwise.cons (fun b hb => ?_) (ih hl.2)
      obtain ⟨a, ha, hab⟩ := exists_of_forall₂ hrest.flip hb
      exact hST hfirst hab (hl.1 a ha)

/-! ## The graph to come -/

section

variable {offset : Position} {g h : Graph} {nodes made : List Node} {edges new : List Edge}
  (hmade : (h.withNodes made).WellFormed)
  (hmatch : List.Forall₂ (Edge.Matches nodes (made.map (·.mapPorts Port.clear))) edges new)
include hmade hmatch

/-- New edges run between new nodes. -/
theorem Graph.WellFormed.ends_of_matches {e : Edge} (he : e ∈ new) :
    (e.source.node ∉ h.nodes.map Node.id ∧ e.source.port ∉ h.portIds) ∧
      e.target.node ∉ h.nodes.map Node.id ∧ e.target.port ∉ h.portIds := by
  obtain ⟨-, hapart⟩ := hmade.apart_of_append (g := h) rfl
  obtain ⟨_, -, entry, -, ⟨s, p, hs, hp, hsource⟩, ⟨t, q, ht, hq, htarget⟩⟩ :=
    exists_of_forall₂ hmatch.flip he
  rw [hsource, htarget]
  have hs := hapart s (List.mem_of_getElem? hs)
  have ht := hapart t (List.mem_of_getElem? ht)
  have hp := Node.mem_ports_of_mem_outputs (List.mem_of_getElem? hp)
  have hq := Node.mem_ports_of_mem_inputs (List.mem_of_getElem? hq)
  exact ⟨⟨hs.1, hs.2 p.id (List.mem_map_of_mem hp)⟩, ht.1, ht.2 q.id (List.mem_map_of_mem hq)⟩

/-- New edges leave the old nodes as they are. -/
theorem Graph.WellFormed.nodes_withDuplicates (hh : h.WellFormed) :
    ((h.withNodes made).withEdges (h.edges ++ new)).nodes =
      h.nodes ++ (made.map (·.mapPorts Port.clear)).map
        (·.mapPorts (Port.wire (h.edges ++ new))) := by
  rw [Graph.withEdges_nodes, Graph.withNodes, List.map_append, hh.wire_append]
  intro e he port hport
  obtain ⟨⟨-, hsource⟩, -, htarget⟩ := hmade.ends_of_matches hmatch he
  have hsource : e.source.port ≠ port := fun heq => hsource (heq ▸ hport)
  have htarget : e.target.port ≠ port := fun heq => htarget (heq ▸ hport)
  simp [Edge.touchesPort, hsource, htarget]

/-- A graph with duplicates of nodes and of the edges between them is well-formed. -/
theorem Graph.WellFormed.withDuplicates (hg : g.WellFormed) (hh : h.WellFormed)
    (hnodes : nodes ⊆ g.nodes) (hedges : edges.Sublist g.edges)
    (hdup : List.Forall₂ (Node.Duplicates offset) nodes (made.map (·.mapPorts Port.clear)))
    (hids : ((h.edges ++ new).map Edge.id).Nodup) :
    ((h.withNodes made).withEdges (h.edges ++ new)).WellFormed := by
  obtain ⟨hdistinct, -⟩ := hmade.apart_of_append (g := h) rfl
  have hsub : made.map (·.mapPorts Port.clear) ⊆ (h.withNodes made).nodes :=
    List.subset_append_right _ _
  have hjoins : ∀ e ∈ new, (h.withNodes made).Joins e := by
    intro e' he'
    obtain ⟨e, he, hee'⟩ := exists_of_forall₂ hmatch.flip he'
    exact Edge.Matches.joins hdup hg hnodes hsub hdistinct hee' (hg.edges_join e (hedges.subset he))
  have hsingle : (new.map fun e => e.target.port).Nodup := by
    have horiginals : edges.Pairwise fun e₁ e₂ => e₁.target ≠ e₂.target := by
      have hinputs := List.pairwise_map.mp (hg.inputs_single.sublist (hedges.map _))
      exact hinputs.imp fun hne heq => hne (congrArg Endpoint.port heq)
    have htargets : new.Pairwise fun e₁ e₂ => e₁.target ≠ e₂.target :=
      pairwise_of_forall₂ (fun h₁ h₂ hne heq => hne (h₁.target_eq hdistinct
        (fun n hn => hmade.node_portIds_nodup (hsub hn)) h₂ heq)) hmatch horiginals
    -- in a well-formed graph the port of a target says where it is
    refine List.pairwise_map.mpr (htargets.imp_of_mem fun {e₁ e₂} he₁ he₂ hne heq => hne ?_)
    obtain ⟨_, -, q, hq, -, -, -, htarget, -, -⟩ := (hjoins e₂ he₂).ports hmade
    rw [htarget] at heq ⊢
    exact ((hjoins e₁ he₁).target_eq_iff hmade hq).mpr heq
  refine hmade.withEdges hids (fun e he => ?_) ?_
  · rcases List.mem_append.mp he with hold | hnew
    · exact hmade.edges_join e hold
    · exact hjoins e hnew
  · rw [List.map_append, List.nodup_append]
    refine ⟨hh.inputs_single, hsingle, ?_⟩
    rintro port hold _ hnew rfl
    obtain ⟨e, he, rfl⟩ := List.mem_map.mp hold
    obtain ⟨e', he', heq⟩ := List.mem_map.mp hnew
    have hport : e.target.port ∈ h.portIds :=
      (hh.edges_join e he).mem_portIds hh (by simp [Edge.touchesPort])
    exact (hmade.ends_of_matches hmatch he').2.2 (heq ▸ hport)

/-- Duplicates of edges without a cycle bring none into a graph. -/
theorem Graph.WellFormed.acyclic_withDuplicates (hh : h.WellFormed) (hacyclic : Acyclic h.edges)
    (hedges : Acyclic edges) (hlength : nodes.length = made.length) :
    Acyclic (h.edges ++ new) := by
  obtain ⟨hdistinct, -⟩ := hmade.apart_of_append (g := h) rfl
  obtain ⟨φ, hφ⟩ := exists_renaming hdistinct (nodes.map Node.id) (by simp [hlength])
  have hback : ∀ {i : Nat} {n n' : Node}, nodes[i]? = some n →
      (made.map (·.mapPorts Port.clear))[i]? = some n' → φ n'.id = n.id := by
    intro i n n' hn hn'
    have hplace : (nodes.map Node.id)[i]? = some (φ n'.id) := by
      rw [← hφ, List.getElem?_map, List.getElem?_map, hn', Option.map_some, Option.map_some]
    rw [List.getElem?_map, hn, Option.map_some, Option.some.injEq] at hplace
    exact hplace.symm
  have hnew : Acyclic new := by
    refine hedges.of_map φ fun e' he' => ?_
    obtain ⟨e, he, entry, ⟨⟨s, _, hs, -, hsource⟩, ⟨t, _, ht, -, htarget⟩⟩,
      ⟨⟨s', _, hs', -, hsource'⟩, ⟨t', _, ht', -, htarget'⟩⟩⟩ := exists_of_forall₂ hmatch.flip he'
    refine ⟨e, he, ?_, ?_⟩
    · rw [hsource, hsource']
      exact (hback hs hs').symm
    · rw [htarget, htarget']
      exact (hback ht ht').symm
  refine hacyclic.append hnew (P := fun id => id ∈ h.nodes.map Node.id) (fun e he => ?_)
    (fun e he => ?_)
  · obtain ⟨s, hs, t, ht, _, -, _, -, hsource, htarget, -⟩ := hh.edges_join e he
    rw [hsource, htarget]
    exact ⟨List.mem_map_of_mem hs, List.mem_map_of_mem ht⟩
  · have hends := hmade.ends_of_matches hmatch he
    exact ⟨hends.1.1, hends.2.1⟩

end

namespace Fragment

/-! ## Copying the end of a graph -/

/-- A copy of the last nodes of a graph holds the edges between them. -/
theorem copy_of_append {g h : Graph} (hwf : g.WellFormed) (hh : h.WellFormed) {added : List Node}
    {new : List Edge} {entries : List FragmentEdge} (hnodes : g.nodes = h.nodes ++ added)
    (hedges : g.edges = h.edges ++ new)
    (hstand : List.Forall₂ (fun e entry => entry.StandsFor added e) new entries) :
    copy g (added.map Node.id) = { nodes := added.map .ofNode, edges := entries } := by
  obtain ⟨hdistinct, hapart⟩ := hwf.apart_of_append hnodes
  have hsub : added ⊆ g.nodes := hnodes ▸ List.subset_append_right _ _
  have hselected : selection g (added.map Node.id) = added :=
    selection_map_id hwf hsub hdistinct
  have hplaces : ∀ e entry, edgeOf? added e = some entry ↔ entry.StandsFor added e :=
    fun e entry => edgeOf?_eq_some_iff hdistinct fun n hn => hwf.node_portIds_nodup (hsub hn)
  have hold : h.edges.filterMap (edgeOf? added) = [] := by
    refine List.filterMap_eq_nil_iff.mpr fun e he => ?_
    refine Option.eq_none_iff_forall_ne_some.mpr fun entry hentry => ?_
    obtain ⟨s, hs, _, -, _, -, _, -, hsource, -⟩ := hh.edges_join e he
    obtain ⟨⟨n, p, hn, -, hsource'⟩, -⟩ := (hplaces e entry).mp hentry
    obtain ⟨hid, -⟩ := Endpoint.mk.inj (hsource.symm.trans hsource')
    exact (hapart n (List.mem_of_getElem? hn)).1 (hid ▸ List.mem_map_of_mem hs)
  have hnew : new.filterMap (edgeOf? added) = entries := by
    clear hedges hold
    induction hstand with
    | nil => rfl
    | cons hfirst _ ih => rw [List.filterMap_cons_some ((hplaces _ _).mpr hfirst), ih]
  simp only [copy, hselected, hedges, List.filterMap_append, hold, hnew, List.nil_append]

/-- The nodes of a copy can be made again, each like the copied one. -/
theorem makeNodes_copy {g : Graph} {palette : Palette} (hg : g.Sound palette.Has)
    (ids : List NodeId) (offset : Position) (source : IdSource) :
    ∃ made mid, makeNodes palette offset source (copy g ids).nodes = .ok (made, mid) ∧
      List.Forall₂ (Node.Duplicates offset) (selection g ids) made := by
  have hkinds : ∀ n ∈ selection g ids, ∃ kind, palette.get? n.tag = some kind ∧ n.OfKind kind := by
    intro n hn
    obtain ⟨kind, hkind, hof⟩ := hg.nodes_made n ((mem_selection hg.wellFormed).mp hn).1
    exact ⟨kind, hof.tag_eq ▸ hkind, hof⟩
  cases hmake : makeNodes palette offset source (copy g ids).nodes with
  | error cause =>
      obtain ⟨entry, hentry, hunknown⟩ := exists_makeNodes_error_iff.mp ⟨cause, hmake⟩
      obtain ⟨n, hn, rfl⟩ := List.mem_map.mp hentry
      obtain ⟨kind, hkind, -⟩ := hkinds n hn
      cases hkind.symm.trans hunknown
  | ok result =>
      obtain ⟨made, mid⟩ := result
      obtain ⟨hdescribed, -⟩ := makeNodes_eq_ok hmake
      refine ⟨made, mid, rfl, ?_⟩
      have hboth := (List.forall₂_and_left _ _).mpr
        ⟨hkinds, List.forall₂_map_left_iff.mp hdescribed⟩
      refine hboth.imp fun n m hnm => ?_
      obtain ⟨⟨kind, hkind, hof⟩, hdesc⟩ := hnm
      obtain ⟨kind', hkind', hof'⟩ := hdesc.of_kind
      obtain rfl : kind = kind' := Option.some.inj (hkind.symm.trans hkind')
      exact
        { tag_eq := hof'.tag_eq.trans hof.tag_eq.symm
          title_eq := hdesc.title_eq
          position_eq := hdesc.position_eq
          properties_eq := hdesc.properties_eq
          inputs_eq := hof'.inputs_eq.trans hof.inputs_eq.symm
          outputs_eq := hof'.outputs_eq.trans hof.outputs_eq.symm }

/-! ## There and back -/

/-- What is new for a graph when the nodes of a fragment are made is new for its edges later. -/
theorem fresh_of_makeNodes {f : Fragment} {palette : Palette} {h : Graph} {offset : Position}
    {source mid : IdSource} {made : List Node}
    (hfresh : h.AllFresh source (f.idsAfter palette offset source))
    (hmake : makeNodes palette offset source f.nodes = .ok (made, mid)) :
    h.Fresh mid (mid.skip f.edges.length) := by
  obtain ⟨-, count, rfl, -⟩ := makeNodes_eq_ok hmake
  rw [idsAfter, hmake] at hfresh
  exact hfresh.toFresh.advance rfl rfl (Nat.le_add_right _ _)

/-- The last edges of a graph without cycles can be connected by the edges of a fragment that stand
for them. -/
theorem foldl_connectEdge_later {g : Graph} (hwf : g.WellFormed) (hacyclic : Acyclic g.edges)
    {before later : List Edge} (hedges : g.edges = before ++ later) {nodes : List Node}
    {entries : List FragmentEdge}
    (hstand : List.Forall₂ (fun e entry => entry.StandsFor nodes e) later entries) (ids : IdSource)
    (hdrawn : later.map Edge.id = ids.upcoming later.length) :
    entries.foldl (connectEdge nodes) { graph := g.withEdges before, ids } =
      { graph := g, ids := ids.skip later.length } := by
  have hrename : ∀ l : List Edge, l.map (Edge.rename id) = l := fun l => List.map_id l
  have hstep : List.Forall₂ (fun e entry => ∀ w, ∃ refused,
      connectEdge nodes w entry = w.connect e.source.port e.target.port refused) later entries := by
    refine hstand.imp fun e entry he w => ⟨.pastedEdgeSkipped, ?_⟩
    rw [connectEdge, ends?_eq_some_iff.mpr ⟨e, he, rfl, rfl⟩]
  have hfold := hwf.foldl_connect_later hacyclic (ρ := id) (fun _ _ _ _ heq => heq) hedges hstep ids
    hdrawn
  rw [← hwf.withEdges_rename, hrename, hrename, hwf.withEdges_self] at hfold
  exact hfold

/-- Copied edges have duplicates between the new nodes, with the identifiers that are drawn next,
and the graph that has them as well is well-formed and without cycles. -/
theorem exists_duplicate_edges {g h : Graph} (hg : g.WellFormed) (hgacyclic : Acyclic g.edges)
    (hh : h.WellFormed) (hhacyclic : Acyclic h.edges) (ids : List NodeId) {offset : Position}
    {made : List Node} (hmade : (h.withNodes made).WellFormed)
    (hdup : List.Forall₂ (Node.Duplicates offset) (selection g ids)
      (made.map (·.mapPorts Port.clear)))
    {mid : IdSource} (hfresh : h.Fresh mid (mid.skip (copy g ids).edges.length)) :
    ∃ new : List Edge, new.map Edge.id = mid.upcoming new.length ∧
      List.Forall₂ (fun e entry => entry.StandsFor (made.map (·.mapPorts Port.clear)) e) new
        (copy g ids).edges ∧
      ((h.withNodes made).withEdges (h.edges ++ new)).WellFormed ∧ Acyclic (h.edges ++ new) ∧
      ((h.withNodes made).withEdges (h.edges ++ new)).nodes = h.nodes ++
        (made.map (·.mapPorts Port.clear)).map (·.mapPorts (Port.wire (h.edges ++ new))) := by
  obtain ⟨new, hids, hstand, hmatch⟩ := exists_matching_edges hdup (forall₂_copy_edges hg ids)
    (mid.upcoming (copy g ids).edges.length) (by simp [IdSource.upcoming])
  have hdistinct : ((h.edges ++ new).map Edge.id).Nodup := by
    rw [List.map_append, hids]
    exact hfresh.nodup_upcoming hh.edges_distinct
  have hselected : selection g ids ⊆ g.nodes := fun n hn => ((mem_selection hg).mp hn).1
  have hinner : (g.inner ids.contains).Sublist g.edges := List.filter_sublist
  have hlength : (selection g ids).length = made.length := by simpa using hdup.length_eq
  refine ⟨new, by rw [hids, hstand.length_eq], hstand, ?_, ?_, ?_⟩
  · exact hmade.withDuplicates hmatch hg hh hselected hinner hdup hdistinct
  · exact hmade.acyclic_withDuplicates hmatch hh hhacyclic (hgacyclic.of_subset hinner.subset)
      hlength
  · exact hmade.nodes_withDuplicates hmatch hh

/-- A fragment that was copied from a graph with nodes of the palette is pasted into any graph as a
whole: no edge is passed over or displaced, each new node looks like the one it was copied from, and
each edge of the fragment stands for one new edge, in order.  A copy of the new nodes is the
fragment again, moved by the offset.  The identifiers that are drawn must be new. -/
theorem copied_again {g h : Graph} {palette : Palette} (hg : g.Reachable palette.Has)
    (hh : h.Reachable K) (ids : List NodeId) (offset : Position) {source : IdSource}
    (hfresh : h.AllFresh source ((copy g ids).idsAfter palette offset source)) :
    ∃ pasted added new,
      (copy g ids).paste palette h offset source = { notices := [], outcome := .ok pasted } ∧
      pasted.graph.nodes = h.nodes ++ added ∧ pasted.nodes = added.map Node.id ∧
      List.Forall₂ (Node.Duplicates offset) (selection g ids) added ∧
      pasted.graph.edges = h.edges ++ new ∧
      List.Forall₂ (fun e entry => entry.StandsFor added e) new (copy g ids).edges ∧
      copy pasted.graph pasted.nodes = (copy g ids).shift offset := by
  have hgwf := hg.sound.wellFormed
  have hhwf := hh.sound.wellFormed
  obtain ⟨made, mid, hmake, hdup⟩ := makeNodes_copy hg.sound ids offset source
  obtain ⟨hinsert, hmade⟩ := insertNodes_of_makeNodes hhwf hfresh hmake
  have hclear : (made.map (·.mapPorts Port.clear)).map (·.mapPorts Port.clear) =
      made.map (·.mapPorts Port.clear) := clear_map_mapPorts made fun _ => rfl
  have hdup' := forall₂_of_map_eq (fun _ _ _ hd hsame => hd.of_clear hsame) hdup hclear
  obtain ⟨new, hdrawn, hstand, hwf, hacyclic, hnodes⟩ := exists_duplicate_edges hgwf hg.acyclic hhwf
    hh.acyclic ids hmade hdup' (fresh_of_makeNodes hfresh hmake)
  have hfold : (copy g ids).edges.foldl (connectEdge made) ⟨h.withNodes made, mid, []⟩ =
      ⟨(h.withNodes made).withEdges (h.edges ++ new), mid.skip new.length, []⟩ := by
    have hstart : ((h.withNodes made).withEdges (h.edges ++ new)).withEdges h.edges =
        h.withNodes made := by
      rw [Graph.withEdges_withEdges]
      exact hmade.withEdges_self
    have hlater := foldl_connectEdge_later hwf hacyclic rfl
      (hstand.imp fun e entry he => he.of_clear hclear.symm) mid hdrawn
    rw [hstart] at hlater
    exact hlater
  -- the new nodes as they are with their edges
  generalize hadded : (made.map (·.mapPorts Port.clear)).map
    (·.mapPorts (Port.wire (h.edges ++ new))) = added at hnodes
  have hsame : added.map (·.mapPorts Port.clear) = made.map (·.mapPorts Port.clear) := by
    rw [← hadded]
    exact (clear_map_mapPorts _ (f := Port.wire (h.edges ++ new)) fun _ => rfl).trans hclear
  have hstand' := hstand.imp fun e entry he => he.of_clear (hsame.trans hclear.symm)
  have hids' : made.map Node.id = added.map Node.id := (map_id_of_clear hsame).symm
  have hdup'' := forall₂_of_map_eq (fun _ _ _ hd hsame => hd.of_clear hsame) hdup hsame
  refine ⟨⟨made.map Node.id, (h.withNodes made).withEdges (h.edges ++ new), mid.skip new.length⟩,
    added, new, ?_, hnodes, hids', hdup'', rfl, hstand', ?_⟩
  · rw [paste_of_insertNodes hmake hinsert, hfold]
  · rw [hids', copy_of_append hwf hhwf hnodes rfl hstand', Node.map_ofNode_of_duplicates hdup'']
    rfl

/-- The call, the test and the greeting of the sample, pasted into the sample itself. -/
theorem copied_again_sample :
    let ids : List NodeId := [15, 2, 15, 99, 11].map fun id => ⟨⟨BitVec.ofNat 128 id⟩⟩
    Graph.sample.Reachable Palette.standard.Has ∧
    Graph.sample.AllFresh Graph.laterIds
      ((copy .sample ids).idsAfter .standard ⟨40, 30⟩ Graph.laterIds) ∧
    (copy .sample ids).edges.length = 2 ∧
    ∃ pasted added new,
      (copy .sample ids).paste .standard .sample ⟨40, 30⟩ Graph.laterIds =
        { notices := [], outcome := .ok pasted } ∧
      pasted.graph.nodes = Graph.sample.nodes ++ added ∧
      List.Forall₂ (Node.Duplicates ⟨40, 30⟩) (selection .sample ids) added ∧
      pasted.graph.edges = Graph.sample.edges ++ new ∧
      List.Forall₂ (fun e entry => entry.StandsFor added e) new (copy .sample ids).edges ∧
      copy pasted.graph pasted.nodes = (copy .sample ids).shift ⟨40, 30⟩ := by
  intro ids
  have hreach : Graph.sample.Reachable Palette.standard.Has :=
    Graph.sample_reachable fun _ => Palette.standard_has_iff.mpr
  have hfresh : Graph.sample.AllFresh Graph.laterIds
      ((copy .sample ids).idsAfter .standard ⟨40, 30⟩ Graph.laterIds) := sample_allFresh (by decide)
  obtain ⟨pasted, added, new, hpaste, hnodes, -, hduplicates, hedges, hstand, hcopy⟩ :=
    copied_again hreach hreach ids ⟨40, 30⟩ hfresh
  exact ⟨hreach, hfresh, by decide, pasted, added, new, hpaste, hnodes, hduplicates, hedges, hstand,
    hcopy⟩

end Fragment

end ScriptGraph
