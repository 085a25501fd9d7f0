import ScriptGraph.Proofs.Session.Basic

/-!
# Invariants of sessions

What holds of every reachable graph is shown here once for all.  A property is `Session.Closed` if
the empty graph has it and each elementary operation keeps it: putting a node in, taking one out,
connecting, disconnecting, editing.  Loading a document and pasting a fragment are loops of such
operations (`Closed.insertRecords`, `Closed.insertNodes`, `Wiring.foldl_connect`), so they keep it
too, and with them every run (`Closed.run`).

The first closed property is `Graph.Sound`: the graph is well-formed and its nodes follow their
kinds.  Any further one may rely on it (`Reachable.induction`); `Reachable.acyclic` is one.
-/

namespace ScriptGraph

variable {K : NodeKind → Prop}

/-- A well-formed graph with nodes of the given kinds. -/
structure Graph.Sound (K : NodeKind → Prop) (g : Graph) : Prop where
  wellFormed : g.WellFormed
  nodes_made : ∀ n ∈ g.nodes, n.Made K

namespace Session

/-- A property of graphs that holds of the empty graph and is kept by the elementary operations. -/
structure Closed (K : NodeKind → Prop) (P : Graph → Prop) : Prop where
  empty : P ∅
  insert : ∀ {g g' : Graph} {n : Node}, P g → n.Made K → g.insert n = .ok g' → P g'
  remove : ∀ {g g' : Graph} {id : NodeId} {n : Node}, P g → g.remove? id = some (n, g') → P g'
  connect : ∀ {g g' : Graph} {id : EdgeId} {a b : PortId}, P g → id ∉ g.edges.map Edge.id →
    g.connect id a b = .ok g' → P g'
  disconnect : ∀ {g : Graph} (id : EdgeId), P g → P (g.disconnect id)
  edit : ∀ {g : Graph} (id : NodeId) (title : String) (position : Position)
    (properties : Properties), P g → P (g.updateNode id fun n => n.edit title position properties)

end Session

/-! ## Soundness -/

namespace Graph

theorem wellFormed_empty : (∅ : Graph).WellFormed := by
  constructor <;> simp [EmptyCollection.emptyCollection, Graph.empty, portIds, ports]

theorem connect_eq_ok_iff {g g' : Graph} {id : EdgeId} {a b : PortId} :
    g.connect id a b = .ok g' ↔
      ∃ source target, g.wiring a b = .ok (source, target) ∧ g.join id source target = g' := by
  unfold connect
  cases hwiring : g.wiring a b with
  | error cause => simp [Except.map]
  | ok ends => simp [Except.map, Prod.ext_iff]

namespace Sound

variable {g : Graph} (h : g.Sound K)
include h

theorem withEdges_nodes_made (edges : List Edge) : ∀ n ∈ (g.withEdges edges).nodes, n.Made K := by
  intro n hn
  obtain ⟨m, hm, rfl⟩ := List.mem_map.mp hn
  exact (h.nodes_made m hm).wire edges

theorem insert {n : Node} {g' : Graph} (hmade : n.Made K) (hinsert : g.insert n = .ok g') :
    g'.Sound K := by
  refine ⟨h.wellFormed.insert hmade.wellMade hinsert, ?_⟩
  obtain ⟨-, rfl⟩ := h.wellFormed.insert_eq_ok_iff.mp hinsert
  intro m hm
  rcases List.mem_append.mp hm with hold | hnew
  · exact h.nodes_made m hold
  · obtain rfl := List.mem_singleton.mp hnew
    exact hmade.mapPorts (fun _ => rfl) (fun _ => rfl) (fun _ => rfl)

/-- A node that is taken out is still of its kind. -/
theorem removed_made {id : NodeId} {n : Node} {g' : Graph}
    (hremove : g.remove? id = some (n, g')) : n.Made K :=
  h.withEdges_nodes_made _ n (h.wellFormed.remove?_eq_some hremove).1

theorem remove {id : NodeId} {n : Node} {g' : Graph} (hremove : g.remove? id = some (n, g')) :
    g'.Sound K := by
  refine ⟨h.wellFormed.remove? hremove, ?_⟩
  obtain ⟨-, -, rfl⟩ := h.wellFormed.remove?_eq_some hremove
  exact fun m hm => h.withEdges_nodes_made _ m (List.mem_of_mem_filter hm)

theorem connect {id : EdgeId} {a b : PortId} {g' : Graph} (hfresh : id ∉ g.edges.map Edge.id)
    (hconnect : g.connect id a b = .ok g') : g'.Sound K := by
  obtain ⟨source, target, hwiring, rfl⟩ := connect_eq_ok_iff.mp hconnect
  have hwires := (h.wellFormed.wiring_eq_ok_iff.mp hwiring).1
  refine ⟨h.wellFormed.join hwires hfresh, ?_⟩
  rw [h.wellFormed.join_eq hwires]
  exact h.withEdges_nodes_made _

theorem disconnect (id : EdgeId) : (g.disconnect id).Sound K := by
  refine ⟨h.wellFormed.disconnect id, ?_⟩
  rw [h.wellFormed.disconnect_eq]
  exact h.withEdges_nodes_made _

theorem edit (id : NodeId) (title : String) (position : Position) (properties : Properties) :
    (g.updateNode id fun n => n.edit title position properties).Sound K := by
  refine ⟨h.wellFormed.edit id title position properties, ?_⟩
  intro m hm
  obtain ⟨n, hn, rfl⟩ := List.mem_map.mp hm
  split
  · exact (h.nodes_made n hn).edit title position properties
  · exact h.nodes_made n hn

end Sound

theorem sound_closed : Session.Closed K (Graph.Sound K) where
  empty := ⟨wellFormed_empty, fun _ hn => absurd hn List.not_mem_nil⟩
  insert h hmade hinsert := h.insert hmade hinsert
  remove h hremove := h.remove hremove
  connect h hfresh hconnect := h.connect hfresh hconnect
  disconnect id h := h.disconnect id
  edit id title position properties h := h.edit id title position properties

theorem insert_edges {g g' : Graph} {n : Node} (hinsert : g.insert n = .ok g') :
    g'.edges = g.edges := by
  unfold Graph.insert at hinsert
  split at hinsert
  · cases hinsert
  · split at hinsert
    · cases hinsert
    · cases hinsert
      rfl

/-! ## Wiring with new identifiers -/

theorem disconnect_edges_subset (g : Graph) (id : EdgeId) :
    (g.disconnect id).edges ⊆ g.edges := by
  unfold disconnect
  split
  · exact List.Subset.refl _
  · exact List.filter_subset_self _

theorem disconnectAll_edges_subset (g : Graph) (ids : List EdgeId) :
    (g.disconnectAll ids).edges ⊆ g.edges := by
  induction ids generalizing g with
  | nil => exact List.Subset.refl _
  | cons id ids ih => exact List.Subset.trans (ih _) (g.disconnect_edges_subset id)

/-- A connection brings in one edge, with the given identifier. -/
theorem mem_edges_of_connect {g g' : Graph} {id : EdgeId} {a b : PortId}
    (hconnect : g.connect id a b = .ok g') {e : Edge} (he : e ∈ g'.edges) :
    e ∈ g.edges ∨ e.id = id := by
  obtain ⟨source, target, -, rfl⟩ := connect_eq_ok_iff.mp hconnect
  rcases List.mem_append.mp he with hold | hnew
  · exact Or.inl (disconnectAll_edges_subset g target.edges hold)
  · obtain rfl := List.mem_singleton.mp hnew
    exact Or.inr rfl

end Graph

/-- What is new for a graph stays new when some of it has been drawn, and for a graph with the same
edges. -/
theorem Graph.Fresh.advance {g g' : Graph} {ids ids' later : IdSource} (h : g.Fresh ids later)
    (hedges : g'.edges = g.edges) (hseq : ids'.sequence = ids.sequence)
    (hdrawn : ids.drawn ≤ ids'.drawn) : g'.Fresh ids' later where
  distinct i j hi hij hj := by
    rw [hseq]
    exact h.distinct i j (hdrawn.trans hi) hij hj
  unused i hi hlater := by
    rw [hseq, hedges]
    exact h.unused i (hdrawn.trans hi) hlater

/-- A wiring that began at a graph and a source of identifiers: its edges are those of the graph and
ones with identifiers drawn since. -/
structure Wiring.Since (P : Graph → Prop) (g : Graph) (ids : IdSource) (w : Wiring) : Prop where
  holds : P w.graph
  sequence_eq : w.ids.sequence = ids.sequence
  drawn_le : ids.drawn ≤ w.ids.drawn
  edges_since : ∀ e ∈ w.graph.edges, e.id ∈ g.edges.map Edge.id ∨
    ∃ i, ids.drawn ≤ i ∧ i < w.ids.drawn ∧ e.id = ⟨ids.sequence i⟩

namespace Wiring

theorem connect_of_ok {w : Wiring} {a b : PortId} {g : Graph}
    (h : w.graph.connect ⟨w.ids.next.1⟩ a b = .ok g) (refused : ConnectError → Notice) :
    w.connect a b refused = { w with graph := g, ids := w.ids.next.2 } := by
  simp only [connect, h]

theorem connect_of_error {w : Wiring} {a b : PortId} {cause : ConnectError}
    (h : w.graph.connect ⟨w.ids.next.1⟩ a b = .error cause) (refused : ConnectError → Notice) :
    w.connect a b refused = { w with notices := w.notices ++ [refused cause] } := by
  simp only [connect, h]

theorem drawn_le_connect (w : Wiring) (a b : PortId) (refused : ConnectError → Notice) :
    w.ids.drawn ≤ (w.connect a b refused).ids.drawn := by
  unfold connect
  dsimp only
  split
  · exact Nat.le_succ _
  · exact Nat.le_refl _

variable {P : Graph → Prop} {g : Graph} {ids later : IdSource} {w : Wiring}

/-- One connection in a wiring: its identifier is new, because the source does not repeat itself. -/
theorem Since.connect {a b : PortId}
    (hP : ∀ {id g'}, id ∉ w.graph.edges.map Edge.id → w.graph.connect id a b = .ok g' → P g')
    (hfresh : g.Fresh ids later) (h : w.Since P g ids) (refused : ConnectError → Notice)
    (hlater : (w.connect a b refused).ids.drawn ≤ later.drawn) :
    (w.connect a b refused).Since P g ids := by
  cases hconnect : w.graph.connect ⟨w.ids.next.1⟩ a b with
  | error cause =>
      rw [connect_of_error hconnect]
      exact ⟨h.holds, h.sequence_eq, h.drawn_le, h.edges_since⟩
  | ok g' =>
      rw [connect_of_ok hconnect] at hlater ⊢
      have hdrawn : w.ids.drawn < later.drawn := hlater
      have hid : (⟨w.ids.next.1⟩ : EdgeId) = ⟨ids.sequence w.ids.drawn⟩ := by
        rw [IdSource.next_fst, h.sequence_eq]
      have hnew : (⟨w.ids.next.1⟩ : EdgeId) ∉ w.graph.edges.map Edge.id := by
        rw [hid]
        intro hmem
        -- the edge that has it is an old one, or took it when it was drawn before
        obtain ⟨e, he, heid⟩ := List.mem_map.mp hmem
        rcases h.edges_since e he with hold | ⟨i, hlow, hhigh, hi⟩
        · exact hfresh.unused _ h.drawn_le hdrawn (heid ▸ hold)
        · refine hfresh.distinct i _ hlow hhigh hdrawn ?_
          exact congrArg EdgeId.uuid (hi.symm.trans heid)
      refine ⟨hP hnew hconnect, h.sequence_eq, Nat.le_succ_of_le h.drawn_le, ?_⟩
      intro e he
      rcases Graph.mem_edges_of_connect hconnect he with hold | hnewest
      · rcases h.edges_since e hold with hused | ⟨i, hlow, hhigh, hi⟩
        · exact Or.inl hused
        · exact Or.inr ⟨i, hlow, Nat.lt_succ_of_lt hhigh, hi⟩
      · exact Or.inr ⟨w.ids.drawn, h.drawn_le, Nat.lt_succ_self _, hnewest.trans hid⟩

theorem drawn_le_foldl {α : Type} {step : Wiring → α → Wiring}
    (hmono : ∀ w x, w.ids.drawn ≤ (step w x).ids.drawn) (l : List α) (w : Wiring) :
    w.ids.drawn ≤ (l.foldl step w).ids.drawn := by
  induction l generalizing w with
  | nil => exact Nat.le_refl _
  | cons x rest ih => exact (hmono w x).trans (ih (step w x))

/-- A loop of connections, as long as the source has not passed its later state. -/
theorem Since.foldl {α : Type} {step : Wiring → α → Wiring}
    (hmono : ∀ w x, w.ids.drawn ≤ (step w x).ids.drawn)
    (hstep : ∀ w x, w.Since P g ids → (step w x).ids.drawn ≤ later.drawn →
      (step w x).Since P g ids)
    (h : w.Since P g ids) {l : List α} (hlater : (l.foldl step w).ids.drawn ≤ later.drawn) :
    (l.foldl step w).Since P g ids := by
  induction l generalizing w with
  | nil => exact h
  | cons x rest ih =>
      have hnext : (step w x).ids.drawn ≤ later.drawn :=
        (drawn_le_foldl hmono rest (step w x)).trans hlater
      exact ih (hstep w x h hnext) hlater

/-- A loop of connections between ports of some sort keeps what each of them keeps, if it draws new
identifiers only. -/
theorem foldl_connect {α : Type} {step : Wiring → α → Wiring} {A : PortId → Prop}
    (hP : ∀ {g g' : Graph} {id : EdgeId} {a b : PortId}, P g → A a → A b →
      id ∉ g.edges.map Edge.id → g.connect id a b = .ok g' → P g')
    (hstep : ∀ w x, (∃ a b refused, A a ∧ A b ∧ step w x = w.connect a b refused) ∨
      ∃ notices, step w x = { w with notices })
    {l : List α} (hg : P g) (hfresh : g.Fresh ids (l.foldl step { graph := g, ids }).ids) :
    P (l.foldl step { graph := g, ids }).graph := by
  have hstart : Wiring.Since P g ids { graph := g, ids } :=
    ⟨hg, rfl, Nat.le_refl _, fun e he => Or.inl (List.mem_map_of_mem he)⟩
  refine (hstart.foldl ?_ ?_ (Nat.le_refl _)).holds
  · intro w x
    rcases hstep w x with ⟨a, b, refused, -, -, heq⟩ | ⟨notices, heq⟩
    · rw [heq]
      exact w.drawn_le_connect a b refused
    · rw [heq]
  · intro w x hw hlater
    rcases hstep w x with ⟨a, b, refused, ha, hb, heq⟩ | ⟨notices, heq⟩
    · rw [heq] at hlater ⊢
      exact hw.connect (hP hw.holds ha hb) hfresh refused hlater
    · rw [heq]
      exact ⟨hw.holds, hw.sequence_eq, hw.drawn_le, hw.edges_since⟩

end Wiring

/-! ## Loading and pasting -/

namespace Session.Closed

variable {P : Graph → Prop} (hP : Session.Closed K P)
include hP

/-- Putting in the nodes of records keeps a closed property and adds no edge. -/
theorem insertRecords {palette : Palette} {records : List NodeRecord}
    (hkinds : ∀ r ∈ records, ∀ kind, palette.get? r.tag = some kind → K kind) {g g' : Graph}
    {ids ids' : IdSource} (hg : P g)
    (hinsert : ScriptGraph.insertRecords palette g ids records = .ok (g', ids')) :
    P g' ∧ g'.edges = g.edges ∧ ids'.sequence = ids.sequence ∧ ids.drawn ≤ ids'.drawn := by
  induction records generalizing g ids with
  | nil =>
      obtain ⟨rfl, rfl⟩ : g = g' ∧ ids = ids' := by
        simpa [ScriptGraph.insertRecords, Prod.ext_iff] using hinsert
      exact ⟨hg, rfl, rfl, Nat.le_refl _⟩
  | cons r records ih =>
      rw [List.forall_mem_cons] at hkinds
      unfold ScriptGraph.insertRecords NodeRecord.toNode? at hinsert
      cases hkind : palette.get? r.tag with
      | none => simp [hkind] at hinsert
      | some kind =>
          simp only [hkind, Option.map_some] at hinsert
          have hmade : (r.restore (kind.instantiate ids).1).Made K :=
            ⟨kind, hkinds.1 kind hkind, (kind.instantiate_ofKind ids).restore r⟩
          cases hnode : g.insert (r.restore (kind.instantiate ids).1) with
          | error cause => simp [hnode] at hinsert
          | ok next =>
              simp only [hnode] at hinsert
              obtain ⟨hholds, hedges, hseq, hdrawn⟩ :=
                ih hkinds.2 (hP.insert hg hmade hnode) hinsert
              refine ⟨hholds, hedges.trans (Graph.insert_edges hnode), ?_, ?_⟩
              · rw [hseq, NodeKind.instantiate_snd_sequence]
              · rw [NodeKind.instantiate_snd_drawn] at hdrawn
                omega

/-- Loading a document gives a graph with every closed property. -/
theorem load {d : Document} {palette : Palette} {ids later : IdSource} {g : Graph}
    (hkinds : ∀ r ∈ d.nodes, ∀ kind, palette.get? r.tag = some kind → K kind)
    (hload : (d.toGraph palette ids).outcome = .ok (g, later)) (hfresh : Graph.Fresh ∅ ids later) :
    P g := by
  unfold Document.toGraph at hload
  split at hload
  · cases hload
  · rename_i nodes ids' hinsert
    obtain ⟨hnodes, hedges, hseq, hdrawn⟩ := hP.insertRecords hkinds hP.empty hinsert
    obtain ⟨rfl, rfl⟩ := Prod.mk.inj (Except.ok.inj hload)
    have hfresh := hfresh.advance hedges hseq hdrawn
    exact Wiring.foldl_connect (A := fun _ => True)
      (fun hg _ _ hid hconnect => hP.connect hg hid hconnect)
      (fun w (r : EdgeRecord) => Or.inl ⟨r.source, r.target, _, trivial, trivial, rfl⟩) hnodes
      hfresh

/-- Putting in nodes one after the other keeps a closed property and adds no edge. -/
theorem insertNodes {nodes : List Node} (hmade : ∀ n ∈ nodes, n.Made K) {g g' : Graph} (hg : P g)
    (hinsert : Fragment.insertNodes g nodes = .ok g') : P g' ∧ g'.edges = g.edges := by
  induction nodes generalizing g with
  | nil =>
      obtain rfl : g = g' := by simpa [Fragment.insertNodes] using hinsert
      exact ⟨hg, rfl⟩
  | cons n nodes ih =>
      rw [List.forall_mem_cons] at hmade
      unfold Fragment.insertNodes at hinsert
      cases hnode : g.insert n with
      | error cause => simp [hnode] at hinsert
      | ok next =>
          simp only [hnode] at hinsert
          obtain ⟨hholds, hedges⟩ := ih hmade.2 (hP.insert hg hmade.1 hnode) hinsert
          exact ⟨hholds, hedges.trans (Graph.insert_edges hnode)⟩

omit hP in
/-- The nodes made for a fragment are of the kinds that its entries name. -/
theorem makeNodes_made {palette : Palette} {offset : Position} {entries : List FragmentNode}
    (hkinds : ∀ entry ∈ entries, ∀ kind, palette.get? entry.tag = some kind → K kind)
    {ids ids' : IdSource} {nodes : List Node}
    (hmake : Fragment.makeNodes palette offset ids entries = .ok (nodes, ids')) :
    (∀ n ∈ nodes, n.Made K) ∧ ids'.sequence = ids.sequence ∧ ids.drawn ≤ ids'.drawn := by
  induction entries generalizing ids nodes with
  | nil =>
      obtain ⟨rfl, rfl⟩ : [] = nodes ∧ ids = ids' := by
        simpa [Fragment.makeNodes, Prod.ext_iff] using hmake
      exact ⟨fun _ hn => absurd hn List.not_mem_nil, rfl, Nat.le_refl _⟩
  | cons entry entries ih =>
      rw [List.forall_mem_cons] at hkinds
      unfold Fragment.makeNodes at hmake
      cases hkind : palette.get? entry.tag with
      | none => simp [hkind] at hmake
      | some kind =>
          simp only [hkind] at hmake
          cases hrest : Fragment.makeNodes palette offset (kind.instantiate ids).2 entries with
          | error cause => simp [hrest, Except.map] at hmake
          | ok made =>
              obtain ⟨rest, later⟩ := made
              simp only [hrest, Except.map, Except.ok.injEq, Prod.mk.injEq] at hmake
              obtain ⟨rfl, rfl⟩ := hmake
              obtain ⟨hmade, hseq, hdrawn⟩ := ih hkinds.2 hrest
              have hfirst : ((kind.instantiate ids).1.edit entry.title
                  (entry.position.shift offset) entry.properties).Made K :=
                ⟨kind, hkinds.1 kind hkind, (kind.instantiate_ofKind ids).edit ..⟩
              refine ⟨List.forall_mem_cons.mpr ⟨hfirst, hmade⟩, ?_, ?_⟩
              · rw [hseq, NodeKind.instantiate_snd_sequence]
              · rw [NodeKind.instantiate_snd_drawn] at hdrawn
                omega

/-- Pasting a fragment keeps a closed property. -/
theorem paste {f : Fragment} {palette : Palette} {offset : Position} {ids : IdSource}
    {pasted : Fragment.Pasted} {g : Graph} (hg : P g)
    (hkinds : ∀ entry ∈ f.nodes, ∀ kind, palette.get? entry.tag = some kind → K kind)
    (hpaste : (f.paste palette g offset ids).outcome = .ok pasted)
    (hfresh : g.Fresh ids pasted.ids) : P pasted.graph := by
  unfold Fragment.paste at hpaste
  split at hpaste
  · cases hpaste
  · rename_i nodes ids' hmake
    obtain ⟨hmade, hseq, hdrawn⟩ := makeNodes_made hkinds hmake
    split at hpaste
    · cases hpaste
    · rename_i graph hinsert
      obtain ⟨hgraph, hedges⟩ := hP.insertNodes hmade hg hinsert
      obtain rfl := Except.ok.inj hpaste
      refine Wiring.foldl_connect (A := fun _ => True)
        (fun hg _ _ hid hconnect => hP.connect hg hid hconnect) (fun w e => ?_) hgraph
        (hfresh.advance hedges hseq hdrawn)
      unfold Fragment.connectEdge
      split
      · exact Or.inl ⟨_, _, _, trivial, trivial, rfl⟩
      · exact Or.inr ⟨_, rfl⟩

/-! ## Runs -/

/-- One step keeps a closed property of the graph, and keeps the nodes at hand of their kinds. -/
theorem step (hsound : ∀ g, P g → g.Sound K) {s s' : Session} (hstep : Session.Step K s s')
    (hs : P s.graph ∧ ∀ n ∈ s.loose, n.Made K) : P s'.graph ∧ ∀ n ∈ s'.loose, n.Made K := by
  obtain ⟨hgraph, hloose⟩ := hs
  cases hstep with
  | make ids hkind =>
      refine ⟨hgraph, List.forall_mem_cons.mpr ⟨⟨_, hkind, ?_⟩, hloose⟩⟩
      exact NodeKind.instantiate_ofKind _ ids
  | clone hn => exact ⟨hgraph, List.forall_mem_cons.mpr ⟨(hsound _ hgraph).nodes_made _ hn, hloose⟩⟩
  | prepare title position properties hn =>
      exact ⟨hgraph, List.forall_mem_cons.mpr ⟨(hloose _ hn).edit .., hloose⟩⟩
  | insert hn hinsert => exact ⟨hP.insert hgraph (hloose _ hn) hinsert, hloose⟩
  | remove hremove =>
      exact ⟨hP.remove hgraph hremove,
        List.forall_mem_cons.mpr ⟨(hsound _ hgraph).removed_made hremove, hloose⟩⟩
  | connect hfresh hconnect => exact ⟨hP.connect hgraph hfresh hconnect, hloose⟩
  | disconnect hremove =>
      obtain ⟨e, -, heq⟩ := Option.map_eq_some_iff.mp hremove
      obtain ⟨-, rfl⟩ := Prod.mk.inj heq
      exact ⟨hP.disconnect _ hgraph, hloose⟩
  | edit id title position properties =>
      exact ⟨hP.edit id title position properties hgraph, hloose⟩
  | renew => exact ⟨hP.empty, hloose⟩
  | load hkinds hload hfresh => exact ⟨hP.load hkinds hload hfresh, hloose⟩
  | paste hkinds hpaste hfresh => exact ⟨hP.paste hgraph hkinds hpaste hfresh, hloose⟩

/-- A closed property holds at the end of every run. -/
theorem run (hsound : ∀ g, P g → g.Sound K) {s : Session} (hrun : Session.Run K s) :
    P s.graph ∧ ∀ n ∈ s.loose, n.Made K := by
  induction hrun with
  | refl => exact ⟨hP.empty, fun _ hn => absurd hn List.not_mem_nil⟩
  | tail _ hstep ih => exact hP.step hsound hstep ih

end Session.Closed

namespace Graph

/-- Reachable graphs are sound. -/
theorem Reachable.sound {g : Graph} (h : g.Reachable K) : g.Sound K := by
  obtain ⟨loose, hrun⟩ := h
  exact (sound_closed.run (fun _ hs => hs) hrun).1

/-- What holds of the empty graph and is kept by the elementary operations on sound graphs holds of
every reachable graph. -/
theorem Reachable.induction {P : Graph → Prop} (empty : P ∅)
    (insert : ∀ {g g' : Graph} {n : Node}, g.Sound K → P g → n.Made K → g.insert n = .ok g' → P g')
    (remove : ∀ {g g' : Graph} {id : NodeId} {n : Node}, g.Sound K → P g →
      g.remove? id = some (n, g') → P g')
    (connect : ∀ {g g' : Graph} {id : EdgeId} {a b : PortId}, g.Sound K → P g →
      id ∉ g.edges.map Edge.id → g.connect id a b = .ok g' → P g')
    (disconnect : ∀ {g : Graph} (id : EdgeId), g.Sound K → P g → P (g.disconnect id))
    (edit : ∀ {g : Graph} (id : NodeId) (title : String) (position : Position)
      (properties : Properties), g.Sound K → P g →
      P (g.updateNode id fun n => n.edit title position properties))
    {g : Graph} (h : g.Reachable K) : P g := by
  have hclosed : Session.Closed K fun g => g.Sound K ∧ P g :=
    { empty := ⟨sound_closed.empty, empty⟩
      insert := fun hg hmade hins => ⟨hg.1.insert hmade hins, insert hg.1 hg.2 hmade hins⟩
      remove := fun hg hrem => ⟨hg.1.remove hrem, remove hg.1 hg.2 hrem⟩
      connect := fun hg hid hcon => ⟨hg.1.connect hid hcon, connect hg.1 hg.2 hid hcon⟩
      disconnect := fun id hg => ⟨hg.1.disconnect id, disconnect id hg.1 hg.2⟩
      edit := fun id t p q hg => ⟨hg.1.edit id t p q, edit id t p q hg.1 hg.2⟩ }
  obtain ⟨loose, hrun⟩ := h
  exact (hclosed.run (fun _ hg => hg.1) hrun).1.2

/-! ## No cycles -/

/-- The edges of a reachable graph form no cycle: an edge that would close one is refused, and the
edges it takes the place of are gone by then. -/
theorem Reachable.acyclic {g : Graph} (h : g.Reachable K) : Acyclic g.edges := by
  refine Reachable.induction (P := fun g => Acyclic g.edges) ?empty ?insert ?remove ?connect
    ?disconnect ?edit h
  case empty => exact acyclic_nil
  case insert =>
    intro g g' n _ hg _ hinsert
    rw [insert_edges hinsert]
    exact hg
  case remove =>
    intro g g' id n hsound hg hremove
    obtain ⟨-, -, rfl⟩ := hsound.wellFormed.remove?_eq_some hremove
    exact hg.of_subset (List.filter_subset_self _)
  case connect =>
    intro g g' id a b hsound hg _ hconnect
    obtain ⟨source, target, hwiring, rfl⟩ := connect_eq_ok_iff.mp hconnect
    have hwires := (hsound.wellFormed.wiring_eq_ok_iff.mp hwiring).1
    rw [hsound.wellFormed.join_eq hwires]
    refine acyclic_append_singleton (hg.of_subset (List.filter_subset_self _)) fun hback => ?_
    exact hwires.no_path_back (path_mono (List.filter_subset_self _) hback)
  case disconnect =>
    intro g id _ hg
    exact hg.of_subset (disconnect_edges_subset g id)
  case edit =>
    intro g id title position properties _ hg
    exact hg

end Graph

end ScriptGraph
