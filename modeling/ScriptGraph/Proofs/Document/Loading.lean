import ScriptGraph.Proofs.Document.Restoring
import ScriptGraph.Proofs.Session.Acyclic

/-!
# Loading any document

Whether a document loads is settled by its nodes (`NodeRecord.insertRecords_spec`).  After that
nothing fails any more: an edge that cannot be connected is passed over.

Nothing is known of the graph in between, as edges of a damaged document may displace each other in
any way.  But whatever a connection does, it does it to the edge lists of ports
(`Graph.clear_connect`), so the nodes stay as they were restored; and the one edge that it brings in
joins the ports it was asked to join (`Graph.between_of_connect`).  Notices are only ever added
(`connectRecords_notices`), so a record that is passed over can be cut out of the document, and
nothing is missing but its notice.
-/

namespace ScriptGraph

/-! ## What a connection changes -/

/-- An edge joins two ports, in either order. -/
def Edge.Between (e : Edge) (a b : PortId) : Prop :=
  e.source.port = a ∧ e.target.port = b ∨ e.source.port = b ∧ e.target.port = a

namespace Graph

variable {g g' : Graph}

theorem clear_updatePort (g : Graph) (at_ : Endpoint) {f : Port → Port}
    (hf : ∀ p, (f p).clear = p.clear) :
    (g.updatePort at_ f).nodes.map (·.mapPorts Port.clear) =
      g.nodes.map (·.mapPorts Port.clear) := by
  change (g.nodes.map fun n => if n.id = at_.node then n.updatePort at_.port f else n).map _ = _
  rw [List.map_map]
  refine List.map_congr_left fun n _ => ?_
  change (if n.id = at_.node then n.updatePort at_.port f else n).mapPorts Port.clear = _
  split
  · rw [Node.updatePort, Node.mapPorts_mapPorts]
    refine Node.mapPorts_congr fun p _ => ?_
    change (if p.id = at_.port then f p else p).clear = p.clear
    split
    · exact hf p
    · rfl
  · rfl

theorem clear_disconnect (g : Graph) (id : EdgeId) :
    (g.disconnect id).nodes.map (·.mapPorts Port.clear) =
      g.nodes.map (·.mapPorts Port.clear) := by
  unfold disconnect
  split
  · rfl
  · refine (clear_updatePort _ _ (f := (·.detach id)) fun _ => rfl).trans ?_
    exact clear_updatePort _ _ fun _ => rfl

theorem clear_disconnectAll (g : Graph) (ids : List EdgeId) :
    (g.disconnectAll ids).nodes.map (·.mapPorts Port.clear) =
      g.nodes.map (·.mapPorts Port.clear) := by
  induction ids generalizing g with
  | nil => rfl
  | cons id ids ih => exact (ih (g.disconnect id)).trans (g.clear_disconnect id)

/-- A connection changes no node but for the edges that its ports list. -/
theorem clear_connect {id : EdgeId} {a b : PortId} (hconnect : g.connect id a b = .ok g') :
    g'.nodes.map (·.mapPorts Port.clear) = g.nodes.map (·.mapPorts Port.clear) := by
  obtain ⟨source, target, -, rfl⟩ := connect_eq_ok_iff.mp hconnect
  calc (g.join id source target).nodes.map (·.mapPorts Port.clear)
      = ((g.disconnectAll target.edges).updatePort source.endpoint (·.attach id)).nodes.map
          (·.mapPorts Port.clear) := clear_updatePort _ _ fun _ => rfl
    _ = (g.disconnectAll target.edges).nodes.map (·.mapPorts Port.clear) :=
        clear_updatePort _ _ fun _ => rfl
    _ = g.nodes.map (·.mapPorts Port.clear) := clear_disconnectAll g target.edges

theorem id_of_port? {id : PortId} {p : Port} (h : g.port? id = some p) : p.id = id := by
  obtain ⟨n, -, hport⟩ := Option.bind_eq_some_iff.mp h
  simpa using List.find?_some hport

/-- Two ports are wired in the order given or in the other one. -/
theorem ids_of_wiring {a b : PortId} {source target : Port}
    (h : g.wiring a b = .ok (source, target)) :
    source.id = a ∧ target.id = b ∨ source.id = b ∧ target.id = a := by
  unfold wiring at h
  split at h
  · cases h
  · cases h
  · rename_i p q hp hq
    have hends : orient p q = (source, target) := by
      split at h
      · cases h
      · split at h
        · cases h
        · dsimp only at h
          split at h
          · cases h
          · split at h
            · cases h
            · exact Except.ok.inj h
    unfold orient at hends
    split at hends
    · obtain ⟨rfl, rfl⟩ := Prod.mk.inj hends
      exact Or.inl ⟨id_of_port? hp, id_of_port? hq⟩
    · obtain ⟨rfl, rfl⟩ := Prod.mk.inj hends
      exact Or.inr ⟨id_of_port? hq, id_of_port? hp⟩

/-- The edges after a connection are among those before, but for one between the two ports. -/
theorem between_of_connect {id : EdgeId} {a b : PortId} (hconnect : g.connect id a b = .ok g')
    {e : Edge} (he : e ∈ g'.edges) : e ∈ g.edges ∨ e.Between a b := by
  obtain ⟨source, target, hwiring, rfl⟩ := connect_eq_ok_iff.mp hconnect
  rcases List.mem_append.mp he with hold | hnew
  · exact Or.inl (disconnectAll_edges_subset g target.edges hold)
  · obtain rfl := List.mem_singleton.mp hnew
    exact Or.inr (ids_of_wiring hwiring)

end Graph

/-! ## Loops of connections -/

namespace Wiring

theorem connect_spec (w : Wiring) (a b : PortId) (refused : ConnectError → Notice) :
    (w.connect a b refused).graph.nodes.map (·.mapPorts Port.clear) =
      w.graph.nodes.map (·.mapPorts Port.clear) ∧
    ∀ e ∈ (w.connect a b refused).graph.edges, e ∈ w.graph.edges ∨ e.Between a b := by
  cases hconnect : w.graph.connect ⟨w.ids.next.1⟩ a b with
  | error cause =>
      rw [connect_of_error hconnect]
      exact ⟨rfl, fun e he => Or.inl he⟩
  | ok next =>
      rw [connect_of_ok hconnect]
      exact ⟨Graph.clear_connect hconnect, fun e he => Graph.between_of_connect hconnect he⟩

/-- A loop of connections leaves the nodes as they are, and each edge that it brings in joins two
ports that one of the items asks for. -/
theorem foldl_spec {α : Type} {step : Wiring → α → Wiring} {R : α → PortId → PortId → Prop}
    (hstep : ∀ w x, (∃ a b refused, R x a b ∧ step w x = w.connect a b refused) ∨
      ∃ notices, step w x = { w with notices })
    (w : Wiring) (l : List α) :
    (l.foldl step w).graph.nodes.map (·.mapPorts Port.clear) =
      w.graph.nodes.map (·.mapPorts Port.clear) ∧
    ∀ e ∈ (l.foldl step w).graph.edges,
      e ∈ w.graph.edges ∨ ∃ x ∈ l, ∃ a b, R x a b ∧ e.Between a b := by
  induction l generalizing w with
  | nil => exact ⟨rfl, fun e he => Or.inl he⟩
  | cons x l ih =>
      obtain ⟨hnodes, hedges⟩ := ih (step w x)
      rw [List.foldl_cons]
      have hlater : ∀ e : Edge, (∃ y ∈ l, ∃ a b, R y a b ∧ e.Between a b) →
          ∃ y ∈ x :: l, ∃ a b, R y a b ∧ e.Between a b := by
        rintro e ⟨y, hy, hbetween⟩
        exact ⟨y, List.mem_cons_of_mem _ hy, hbetween⟩
      rcases hstep w x with ⟨a, b, refused, hasked, heq⟩ | ⟨notices, heq⟩
      · obtain ⟨hsame, hbrought⟩ := w.connect_spec a b refused
        rw [heq] at hnodes hedges
        rw [heq]
        refine ⟨hnodes.trans hsame, fun e he => ?_⟩
        rcases hedges e he with hold | hnew
        · rcases hbrought e hold with hold | hbetween
          · exact Or.inl hold
          · exact Or.inr ⟨x, List.mem_cons_self, a, b, hasked, hbetween⟩
        · exact Or.inr (hlater e hnew)
      · rw [heq] at hnodes hedges
        rw [heq]
        exact ⟨hnodes, fun e he => (hedges e he).imp_right (hlater e)⟩

end Wiring

/-! ## Edge records -/

theorem connectRecords_cons (w : Wiring) (r : EdgeRecord) (records : List EdgeRecord) :
    connectRecords w (r :: records) =
      connectRecords (w.connect r.source r.target (.edgeSkipped r.id)) records := rfl

theorem connectRecords_append (w : Wiring) (before after : List EdgeRecord) :
    connectRecords w (before ++ after) = connectRecords (connectRecords w before) after :=
  List.foldl_append

/-- What was noticed before makes no difference to what edge records do, and stays. -/
theorem connectRecords_notices (g : Graph) (ids : IdSource) (records : List EdgeRecord) :
    ∃ g' ids' added, ∀ notices,
      connectRecords ⟨g, ids, notices⟩ records = ⟨g', ids', notices ++ added⟩ := by
  induction records generalizing g ids with
  | nil =>
      refine ⟨g, ids, [], fun notices => ?_⟩
      rw [List.append_nil]
      rfl
  | cons r records ih =>
      cases hconnect : g.connect ⟨ids.next.1⟩ r.source r.target with
      | error cause =>
          obtain ⟨g', ids', added, hrest⟩ := ih g ids
          refine ⟨g', ids', .edgeSkipped r.id cause :: added, fun notices => ?_⟩
          rw [connectRecords_cons, Wiring.connect_of_error (w := ⟨g, ids, notices⟩) hconnect, hrest,
            List.append_assoc, List.singleton_append]
      | ok next =>
          obtain ⟨g', ids', added, hrest⟩ := ih next ids.next.2
          refine ⟨g', ids', added, fun notices => ?_⟩
          rw [connectRecords_cons, Wiring.connect_of_ok (w := ⟨g, ids, notices⟩) hconnect, hrest]

/-- Edge records leave the nodes as they are, and each edge that they bring in joins the ports of
one of them. -/
theorem connectRecords_spec (w : Wiring) (records : List EdgeRecord) :
    (connectRecords w records).graph.nodes.map (·.mapPorts Port.clear) =
      w.graph.nodes.map (·.mapPorts Port.clear) ∧
    ∀ e ∈ (connectRecords w records).graph.edges,
      e ∈ w.graph.edges ∨ ∃ r ∈ records, e.Between r.source r.target := by
  obtain ⟨hnodes, hedges⟩ := Wiring.foldl_spec
    (R := fun (r : EdgeRecord) a b => a = r.source ∧ b = r.target)
    (fun w r => Or.inl ⟨r.source, r.target, .edgeSkipped r.id, ⟨rfl, rfl⟩, rfl⟩) w records
  refine ⟨hnodes, fun e he => (hedges e he).imp_right ?_⟩
  rintro ⟨r, hr, _, _, ⟨rfl, rfl⟩, hbetween⟩
  exact ⟨r, hr, hbetween⟩

/-! ## Whole documents -/

/-- A document whose nodes can be restored loads. -/
theorem Document.toGraph_of_insertRecords {d : Document} {palette : Palette} {ids mid : IdSource}
    {g : Graph} (hnodes : insertRecords palette ∅ ids d.nodes = .ok (g, mid)) :
    d.toGraph palette ids =
      { notices := d.versionNotices ++ (connectRecords ⟨g, mid, []⟩ d.edges).notices
        outcome := .ok ((connectRecords ⟨g, mid, []⟩ d.edges).graph,
          (connectRecords ⟨g, mid, []⟩ d.edges).ids) } := by
  unfold Document.toGraph
  rw [hnodes]

theorem Document.toGraph_of_error {d : Document} {palette : Palette} {ids : IdSource}
    {cause : LoadError} (hnodes : insertRecords palette ∅ ids d.nodes = .error cause) :
    (d.toGraph palette ids).outcome = .error cause := by
  unfold Document.toGraph
  rw [hnodes]

/-- Load a document with other edge records. -/
def Document.toGraphWith (d : Document) (palette : Palette) (ids : IdSource)
    (edges : List EdgeRecord) : Attempt (Graph × IdSource) :=
  { d with edges }.toGraph palette ids

/-- What becomes of an edge record in its turn, after some records and before others, when the graph
so far is `h`. -/
structure Document.InTurn (d : Document) (palette : Palette) (ids : IdSource)
    (before : List EdgeRecord) (r : EdgeRecord) (after : List EdgeRecord) (h : Graph)
    (later : IdSource) : Prop where
  loaded : (d.toGraphWith palette ids before).outcome = .ok (h, later)
  /-- if it can be connected, it is, without a notice -/
  connected : ∀ h', h.connect ⟨later.next.1⟩ r.source r.target = .ok h' →
    d.toGraphWith palette ids (before ++ [r]) =
      { notices := (d.toGraphWith palette ids before).notices
        outcome := .ok (h', later.next.2) }
  /-- if not, it could be cut out of the document with nothing missing but one notice -/
  passed_over : ∀ cause, h.connect ⟨later.next.1⟩ r.source r.target = .error cause →
    ∃ rest,
      d.toGraphWith palette ids (before ++ r :: after) =
        { notices := (d.toGraphWith palette ids before).notices ++ .edgeSkipped r.id cause :: rest
          outcome := (d.toGraphWith palette ids (before ++ after)).outcome } ∧
      (d.toGraphWith palette ids (before ++ after)).notices =
        (d.toGraphWith palette ids before).notices ++ rest

theorem Document.exists_inTurn {d : Document} {palette : Palette} {ids mid : IdSource} {g : Graph}
    (hnodes : insertRecords palette ∅ ids d.nodes = .ok (g, mid)) (before : List EdgeRecord)
    (r : EdgeRecord) (after : List EdgeRecord) :
    ∃ h later, d.InTurn palette ids before r after h later := by
  have hload : ∀ edges, d.toGraphWith palette ids edges =
      { notices := d.versionNotices ++ (connectRecords ⟨g, mid, []⟩ edges).notices
        outcome := .ok ((connectRecords ⟨g, mid, []⟩ edges).graph,
          (connectRecords ⟨g, mid, []⟩ edges).ids) } :=
    fun edges => Document.toGraph_of_insertRecords hnodes
  obtain ⟨h, later, seen, hbefore⟩ : ∃ h later seen,
      connectRecords ⟨g, mid, []⟩ before = ⟨h, later, seen⟩ := ⟨_, _, _, rfl⟩
  have hnotices : (d.toGraphWith palette ids before).notices = d.versionNotices ++ seen := by
    rw [hload, hbefore]
  refine ⟨h, later, ?_, fun h' hconnect => ?_, fun cause hconnect => ?_⟩
  · rw [hload, hbefore]
  · have hstep : connectRecords ⟨g, mid, []⟩ (before ++ [r]) = ⟨h', later.next.2, seen⟩ := by
      rw [connectRecords_append, hbefore]
      exact Wiring.connect_of_ok (w := ⟨h, later, seen⟩) hconnect _
    rw [hnotices, hload, hstep]
  · -- the graph is still `h`, so the records after it do the same with and without the notice
    obtain ⟨g', ids', rest, hrest⟩ := connectRecords_notices h later after
    have hstep : connectRecords ⟨g, mid, []⟩ (before ++ r :: after) =
        ⟨g', ids', seen ++ [.edgeSkipped r.id cause] ++ rest⟩ := by
      rw [connectRecords_append, hbefore, ← hrest]
      exact congrArg (connectRecords · after)
        (Wiring.connect_of_error (w := ⟨h, later, seen⟩) hconnect _)
    have hcut : connectRecords ⟨g, mid, []⟩ (before ++ after) = ⟨g', ids', seen ++ rest⟩ := by
      rw [connectRecords_append, hbefore, hrest]
    refine ⟨rest, ?_, ?_⟩
    · rw [hnotices, hload, hstep, hload, hcut]
      simp only [List.append_assoc, List.singleton_append]
    · rw [hnotices, hload, hcut, List.append_assoc]

theorem NodeRecord.exists_faultAt_iff {palette : Palette} {records : List NodeRecord} :
    (∃ i cause, FaultAt palette records i cause) ↔
      ∃ i r, records[i]? = some r ∧ NodeRecord.Faulty palette (records.take i) r := by
  constructor
  · rintro ⟨i, cause, r, hr, hfault⟩
    exact ⟨i, r, hr, exists_fault_iff.mp ⟨cause, hfault⟩⟩
  · rintro ⟨i, r, hr, hfaulty⟩
    obtain ⟨cause, hfault⟩ := exists_fault_iff.mpr hfaulty
    exact ⟨i, cause, r, hr, hfault⟩

/-- A document loads unless one of its node records has a fault, and then the first fault is the
one reported.  A graph that was loaded has the nodes that the records describe, in their order, and
its edges join the ports of edge records.  Each edge record is connected in its turn, or passed over
with one notice.  The identifiers that are drawn for the nodes must be new. -/
theorem loading_fails_at_first_fault {d : Document} {palette : Palette} {ids : IdSource}
    (hfresh : NodeRecord.Fresh palette d.nodes ids) :
    ((∃ cause, (d.toGraph palette ids).outcome = .error cause) ↔
      ∃ i r, d.nodes[i]? = some r ∧ NodeRecord.Faulty palette (d.nodes.take i) r) ∧
    (∀ cause, (d.toGraph palette ids).outcome = .error cause ↔
      NodeRecord.FirstFault palette d.nodes cause) ∧
    ((∀ i r, d.nodes[i]? = some r → ¬ NodeRecord.Faulty palette (d.nodes.take i) r) →
      ∃ g later, (d.toGraph palette ids).outcome = .ok (g, later) ∧
        List.Forall₂ (NodeRecord.Restores palette) d.nodes g.nodes ∧
        (∀ e ∈ g.edges, ∃ r ∈ d.edges, e.Between r.source r.target) ∧
        ∀ before r after, d.edges = before ++ r :: after →
          ∃ h mid, d.InTurn palette ids before r after h mid) := by
  have hiff : (∃ i cause, NodeRecord.FaultAt palette d.nodes i cause) ↔
      ∃ i r, d.nodes[i]? = some r ∧ NodeRecord.Faulty palette (d.nodes.take i) r :=
    NodeRecord.exists_faultAt_iff
  rw [← hiff]
  rcases NodeRecord.insertRecords_spec hfresh with
    ⟨cause, hnodes, hfirst⟩ | ⟨⟨g₀, mid, hnodes, hloaded⟩, hclear⟩
  · have houtcome := Document.toGraph_of_error hnodes
    have ⟨i, hfault, _⟩ := hfirst
    refine ⟨⟨fun _ => ⟨i, cause, hfault⟩, fun _ => ⟨cause, houtcome⟩⟩, fun other => ?_,
      fun hnone => ?_⟩
    · rw [houtcome, Except.error.injEq]
      constructor
      · rintro rfl
        exact hfirst
      · exact hfirst.unique
    · obtain ⟨j, r, hr, hfaulty⟩ := hiff.mp ⟨i, cause, hfault⟩
      exact absurd hfaulty (hnone j r hr)
  · have hload := Document.toGraph_of_insertRecords hnodes
    have hnoerror : ∀ cause, (d.toGraph palette ids).outcome ≠ .error cause := by
      intro cause herror
      rw [hload] at herror
      cases herror
    refine ⟨⟨?_, ?_⟩, fun cause => ⟨fun herror => absurd herror (hnoerror cause), ?_⟩, fun _ => ?_⟩
    · rintro ⟨cause, herror⟩
      exact absurd herror (hnoerror cause)
    · rintro ⟨i, cause, hfault⟩
      exact absurd hfault (hclear i cause)
    · rintro ⟨i, hfault, -⟩
      exact absurd hfault (hclear i cause)
    · obtain ⟨hsame, hedges⟩ := connectRecords_spec ⟨g₀, mid, []⟩ d.edges
      refine ⟨_, _, congrArg Attempt.outcome hload,
        NodeRecord.restores_of_clear hloaded.restores hsame, fun e he => ?_,
        fun before r after _ => Document.exists_inTurn hnodes before r after⟩
      rcases hedges e he with hold | hnew
      · rw [hloaded.edges_eq] at hold
        cases hold
      · exact hnew

/-! ## Two damaged documents -/

/-- Records that list too few ports and too many, and edges that are drawn backwards, close a cycle
or end at no port. -/
def Document.damaged : Document :=
  let id (i : Nat) : Uuid := ⟨BitVec.ofNat 128 i⟩
  let port (i : Nat) : PortRecord := ⟨⟨id i⟩, "", .exec⟩
  let edge (i a b : Nat) : EdgeRecord := ⟨⟨id i⟩, ⟨id a⟩, ⟨id b⟩⟩
  { nodes := [
      { id := ⟨id 1⟩, tag := "start", title := "Go", position := .origin,
        outputs := [port 2, port 2] },
      { id := ⟨id 3⟩, tag := "echo", title := "First", position := .origin,
        inputs := [port 4], outputs := [port 5] },
      { id := ⟨id 6⟩, tag := "echo", title := "Second", position := .origin,
        properties := some ∅, inputs := [port 7, port 8], outputs := [port 9, port 10] }]
    edges := [edge 1 4 2, edge 2 5 7, edge 3 9 4, edge 4 99 4] }

/-- The same with two more records: one with a port of the record before and a port twice, and one
of an unknown kind. -/
def Document.ruined : Document :=
  let id (i : Nat) : Uuid := ⟨BitVec.ofNat 128 i⟩
  let port (i : Nat) : PortRecord := ⟨⟨id i⟩, "", .exec⟩
  { Document.damaged with
    nodes := Document.damaged.nodes ++ [
      { id := ⟨id 11⟩, tag := "echo", title := "Third", position := .origin,
        inputs := [port 12, port 8], outputs := [port 12] },
      { id := ⟨id 13⟩, tag := "shout", title := "Fourth", position := .origin }] }

theorem NodeRecord.fresh_laterIds {palette : Palette} {records : List NodeRecord}
    (hdemand : demand palette records ≤ 100)
    (hports : ∀ port ∈ allRestored palette records, port.uuid.bits.toNat < 100) :
    Fresh palette records Graph.laterIds where
  distinct i j _ hij hj heq := by
    have hnat := congrArg (fun id : Uuid => id.bits.toNat) heq
    have hj : j < 100 + demand palette records := hj
    simp only [Graph.laterIds, IdSource.counting, BitVec.toNat_ofNat] at hnat
    omega
  unused i hi hj hmem := by
    have hlt := hports _ hmem
    have hi : 100 ≤ i := hi
    have hj : i < 100 + demand palette records := hj
    simp only [Graph.laterIds, IdSource.counting, BitVec.toNat_ofNat] at hlt
    omega

/-- The damaged document loads without two of its edges, and the ruined one fails at the port of the
fourth record that the third one has. -/
theorem loading_fails_at_first_fault_ruined :
    NodeRecord.Fresh .standard Document.damaged.nodes Graph.laterIds ∧
    NodeRecord.Fresh .standard Document.ruined.nodes Graph.laterIds ∧
    (∃ g later, (Document.damaged.toGraph .standard Graph.laterIds).outcome = .ok (g, later) ∧
      (Document.damaged.toGraph .standard Graph.laterIds).notices.length = 2 ∧
      g.edges.length = 2 ∧
      List.Forall₂ (NodeRecord.Restores .standard) Document.damaged.nodes g.nodes ∧
      ∀ e ∈ g.edges, ∃ r ∈ Document.damaged.edges, e.Between r.source r.target) ∧
    (Document.ruined.toGraph .standard Graph.laterIds).outcome =
      .error (.insert (.duplicatePort ⟨⟨8⟩⟩)) ∧
    NodeRecord.FirstFault .standard Document.ruined.nodes (.insert (.duplicatePort ⟨⟨8⟩⟩)) := by
  have hdamaged : NodeRecord.Fresh .standard Document.damaged.nodes Graph.laterIds :=
    NodeRecord.fresh_laterIds (by decide) (by decide)
  have hruined : NodeRecord.Fresh .standard Document.ruined.nodes Graph.laterIds :=
    NodeRecord.fresh_laterIds (by decide) (by decide)
  have hok : (Document.damaged.toGraph .standard Graph.laterIds).outcome = .ok _ := rfl
  have herror : (Document.ruined.toGraph .standard Graph.laterIds).outcome =
      .error (.insert (.duplicatePort ⟨⟨8⟩⟩)) := rfl
  obtain ⟨hfails, -, hloaded⟩ := loading_fails_at_first_fault hdamaged
  obtain ⟨-, hfault, -⟩ := loading_fails_at_first_fault hruined
  obtain ⟨g, later, hsame, hnodes, hedges, -⟩ := hloaded fun i r hr hfaulty => by
    obtain ⟨cause, hfailed⟩ := hfails.mpr ⟨i, r, hr, hfaulty⟩
    cases hok.symm.trans hfailed
  obtain ⟨rfl, rfl⟩ := Prod.mk.inj (Except.ok.inj (hok.symm.trans hsame))
  exact ⟨hdamaged, hruined, ⟨_, _, hok, by decide, by decide, hnodes, hedges⟩, herror,
    (hfault _).mp herror⟩

end ScriptGraph
