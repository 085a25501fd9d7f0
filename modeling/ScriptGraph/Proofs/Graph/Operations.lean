import ScriptGraph.Proofs.Graph.Path
import ScriptGraph.Proofs.Graph.WellFormed

/-!
# The operations on well-formed graphs

Every operation on edges replaces the edge list of a well-formed graph:

* `disconnect_eq`, `disconnectAll_eq`: some edges are left out;
* `addEdge_eq`: an edge comes in at the end;
* `join_eq`: the edges into the target are left out, then the new edge comes in at the end.

Nodes come and go without edges (`WellFormed.insert`, `WellFormed.dropNode`), and a change of title,
position and properties touches nothing that is recorded twice (`WellFormed.edit`).  What it takes
to connect two ports is said once, by `Graph.Wires` and `wiring_eq_ok_iff`.
-/

namespace ScriptGraph

/-- Change what a user may change of a node. -/
def Node.edit (n : Node) (title : String) (position : Position) (properties : Properties) : Node :=
  { n with title, position, properties }

/-! ## Lists of incident edges -/

theorem incident_append (edges more : List Edge) (port : PortId) :
    incident (edges ++ more) port = incident edges port ++ incident more port := by
  simp [incident]

/-- Leaving out edges by identifier leaves them out at every port. -/
theorem incident_filter (keep : EdgeId → Bool) (edges : List Edge) (port : PortId) :
    incident (edges.filter fun e => keep e.id) port = (incident edges port).filter keep := by
  simp only [incident, List.filter_map, List.filter_filter]
  congr 1
  exact List.filter_congr fun e _ => Bool.and_comm ..

/-- The same, if the edges are told apart by their identifiers. -/
theorem incident_filter_of_id {edges : List Edge} {keep : Edge → Bool} (keepId : EdgeId → Bool)
    (hkeep : ∀ e ∈ edges, keep e = keepId e.id) (port : PortId) :
    incident (edges.filter keep) port = (incident edges port).filter keepId := by
  rw [List.filter_congr hkeep, incident_filter]

theorem mem_incident {edges : List Edge} {port : PortId} {id : EdgeId} :
    id ∈ incident edges port ↔ ∃ e ∈ edges, e.touchesPort port = true ∧ e.id = id := by
  simp [incident, and_assoc]

namespace Graph

variable {g : Graph}

/-! ## Ports of edges -/

/-- The two ports of an edge that suits the nodes. -/
theorem Joins.ports (h : g.WellFormed) {e : Edge} (he : g.Joins e) :
    ∃ p ∈ g.ports, ∃ q ∈ g.ports, p.direction = .output ∧ q.direction = .input ∧
      e.source = p.endpoint ∧ e.target = q.endpoint ∧ p.node ≠ q.node ∧ p.type = q.type := by
  obtain ⟨s, hs, t, ht, p, hp, q, hq, hfrom, hto, hne, htype⟩ := he
  have hpn := Node.mem_ports_of_mem_outputs hp
  have hqn := Node.mem_ports_of_mem_inputs hq
  have hpOwn : p.node = s.id := (h.nodes_made s hs).ports_own p hpn
  have hqOwn : q.node = t.id := (h.nodes_made t ht).ports_own q hqn
  have hsends := (h.nodes_made s hs).outputs_send p hp
  have hreceives := (h.nodes_made t ht).inputs_receive q hq
  refine ⟨p, mem_ports.mpr ⟨s, hs, hpn⟩, q, mem_ports.mpr ⟨t, ht, hqn⟩, hsends, hreceives, ?_, ?_,
    ?_, htype⟩
  · rw [hfrom, Port.endpoint, hpOwn]
  · rw [hto, Port.endpoint, hqOwn]
  · rwa [hpOwn, hqOwn]

/-- An edge starts at a port exactly when it names the port as its source. -/
theorem Joins.source_eq_iff (h : g.WellFormed) {e : Edge} (he : g.Joins e) {p : Port}
    (hp : p ∈ g.ports) : e.source = p.endpoint ↔ e.source.port = p.id := by
  refine ⟨fun heq => congrArg Endpoint.port heq, fun hid => ?_⟩
  obtain ⟨source, hsource, -, -, -, -, hfrom, -⟩ := he.ports h
  rw [hfrom] at hid ⊢
  rw [h.port_unique hsource hp hid]

/-- An edge ends at a port exactly when it names the port as its target. -/
theorem Joins.target_eq_iff (h : g.WellFormed) {e : Edge} (he : g.Joins e) {p : Port}
    (hp : p ∈ g.ports) : e.target = p.endpoint ↔ e.target.port = p.id := by
  refine ⟨fun heq => congrArg Endpoint.port heq, fun hid => ?_⟩
  obtain ⟨-, -, target, htarget, -, -, -, hto, -⟩ := he.ports h
  rw [hto] at hid ⊢
  rw [h.port_unique htarget hp hid]

/-- An edge touches a port exactly when the port is one of its ends. -/
theorem Joins.touchesPort_iff (h : g.WellFormed) {e : Edge} (he : g.Joins e) {p : Port}
    (hp : p ∈ g.ports) :
    e.touchesPort p.id = true ↔ p.endpoint = e.source ∨ p.endpoint = e.target := by
  rw [eq_comm (a := p.endpoint) (b := e.source), he.source_eq_iff h hp,
    eq_comm (a := p.endpoint) (b := e.target), he.target_eq_iff h hp]
  simp [Edge.touchesPort]

/-- Changing the port at an endpoint changes every port that has this endpoint, and there are no
others at the node. -/
theorem updatePort_eq (howned : ∀ n ∈ g.nodes, ∀ p ∈ n.ports, p.node = n.id) (at_ : Endpoint)
    (f : Port → Port) :
    g.updatePort at_ f =
      { g with
        nodes := g.nodes.map (·.mapPorts fun p => if p.endpoint = at_ then f p else p) } := by
  have hnodes : ∀ n ∈ g.nodes, (if n.id = at_.node then n.updatePort at_.port f else n) =
      n.mapPorts fun p => if p.endpoint = at_ then f p else p := by
    intro n hn
    obtain ⟨node, port⟩ := at_
    -- at this node an endpoint says no more than its port does, and no other node has a port there
    by_cases hid : n.id = node
    · rw [if_pos hid, Node.updatePort]
      refine Node.mapPorts_congr fun p hp => ?_
      simp [Port.endpoint, howned n hn p hp, hid]
    · rw [if_neg hid, Node.mapPorts_eq_self]
      intro p hp
      simp [Port.endpoint, howned n hn p hp, hid]
  simp only [updatePort, updateNode, List.map_congr_left hnodes]

/-- Changing the ports at two endpoints, one after the other. -/
theorem updatePort_updatePort_eq (h : g.WellFormed) {a b : Endpoint} (hne : a ≠ b)
    (f : Port → Port) (hkeep : ∀ p, (f p).endpoint = p.endpoint) {edges : List Edge}
    (hwire : ∀ p ∈ g.ports,
      p.wire edges = if p.endpoint = a ∨ p.endpoint = b then f p else p) :
    (g.updatePort a f).updatePort b f =
      { g with nodes := g.nodes.map (·.mapPorts (Port.wire edges)) } := by
  have howned : ∀ n ∈ g.nodes, ∀ p ∈ n.ports, p.node = n.id :=
    fun n hn => (h.nodes_made n hn).ports_own
  rw [updatePort_eq howned, updatePort_eq]
  · simp only [List.map_map, Function.comp_def, Node.mapPorts_mapPorts]
    congr 1
    refine List.map_congr_left fun n hn => Node.mapPorts_congr fun p hp => ?_
    rw [hwire p (mem_ports.mpr ⟨n, hn, hp⟩)]
    by_cases ha : p.endpoint = a
    · simp [ha, hkeep, hne]
    · simp [ha]
  · -- the first change keeps the node of every port
    intro n hn p hp
    obtain ⟨m, hm, rfl⟩ := List.mem_map.mp hn
    obtain ⟨q, hq, rfl⟩ := List.mem_map.mp (by simpa using hp)
    have hnode : (f q).node = q.node := congrArg Endpoint.node (hkeep q)
    split
    · exact hnode.trans (howned m hm q hq)
    · exact howned m hm q hq

/-! ## Taking edges out -/

theorem Joins.source_ne_target {e : Edge} (he : g.Joins e) : e.source ≠ e.target := by
  obtain ⟨s, -, t, -, p, -, q, -, hfrom, hto, hne, -⟩ := he
  rw [hfrom, hto]
  exact fun heq => hne (congrArg Endpoint.node heq)

/-- A port lists exactly the edges that touch it. -/
theorem WellFormed.mem_edges (h : g.WellFormed) {e : Edge} (he : e ∈ g.edges) {p : Port}
    (hp : p ∈ g.ports) : e.id ∈ p.edges ↔ e.touchesPort p.id = true := by
  rw [h.ports_wired p hp, mem_incident]
  constructor
  · rintro ⟨f, hf, htouch, hid⟩
    rwa [← h.edge_unique hf he hid]
  · exact fun htouch => ⟨e, he, htouch, rfl⟩

/-- An edge is among some of the edges exactly when one of these has its identifier. -/
theorem WellFormed.contains_map_id_filter (h : g.WellFormed) {e : Edge} (he : e ∈ g.edges)
    (keep : Edge → Bool) : ((g.edges.filter keep).map Edge.id).contains e.id = keep e := by
  rw [Bool.eq_iff_iff, List.contains_iff_mem]
  constructor
  · intro hmem
    obtain ⟨f, hf, hid⟩ := List.mem_map.mp hmem
    obtain ⟨hf, hkeep⟩ := List.mem_filter.mp hf
    rwa [← h.edge_unique hf he hid]
  · exact fun hkeep => List.mem_map_of_mem (List.mem_filter.mpr ⟨he, hkeep⟩)

theorem WellFormed.disconnect_eq (h : g.WellFormed) (id : EdgeId) :
    g.disconnect id = g.withEdges (g.edges.filter fun e => e.id != id) := by
  unfold disconnect
  cases hedge : g.edge? id with
  | none =>
      have hkept : (g.edges.filter fun e => e.id != id) = g.edges := by
        rw [List.filter_eq_self]
        intro e he
        simpa [bne_iff_ne] using List.find?_eq_none.mp hedge e he
      rw [hkept, h.withEdges_self]
  | some e =>
      obtain ⟨he, rfl⟩ := h.edge?_eq_some_iff.mp hedge
      have hjoin := h.edges_join e he
      -- only the two ends listed the edge, so leaving it out changes nothing elsewhere
      have hwire : ∀ p ∈ g.ports, p.wire (g.edges.filter fun f => f.id != e.id) =
          if p.endpoint = e.source ∨ p.endpoint = e.target then p.detach e.id else p := by
        intro p hp
        rw [Port.wire, incident_filter (fun id => id != e.id), ← h.ports_wired p hp]
        by_cases hends : p.endpoint = e.source ∨ p.endpoint = e.target
        · rw [if_pos hends]
          rfl
        · rw [if_neg hends, List.filter_eq_self.mpr]
          intro id hid
          have hmem : e.id ∉ p.edges := by
            rwa [h.mem_edges he hp, hjoin.touchesPort_iff h hp]
          simpa using fun heq : id = e.id => hmem (heq ▸ hid)
      have hnodes := updatePort_updatePort_eq h hjoin.source_ne_target (·.detach e.id)
        (fun _ => rfl) hwire
      exact congrArg
        (fun changed : Graph => { changed with edges := g.edges.filter fun f => f.id != e.id })
        hnodes

theorem WellFormed.disconnect (h : g.WellFormed) (id : EdgeId) : (g.disconnect id).WellFormed := by
  rw [h.disconnect_eq]
  exact h.withEdges_sublist List.filter_sublist

theorem WellFormed.disconnectAll_eq (h : g.WellFormed) (ids : List EdgeId) :
    g.disconnectAll ids = g.withEdges (g.edges.filter fun e => !ids.contains e.id) := by
  induction ids generalizing g with
  | nil => simp [disconnectAll, h.withEdges_self]
  | cons id ids ih =>
      have hstep : g.disconnectAll (id :: ids) = (g.disconnect id).disconnectAll ids := rfl
      rw [hstep, ih (h.disconnect id), h.disconnect_eq, withEdges_withEdges, withEdges_edges,
        List.filter_filter]
      congr 1
      refine List.filter_congr fun e _ => ?_
      by_cases hid : e.id = id <;> simp [hid]

/-! ## Adding an edge -/

theorem WellFormed.addEdge_eq (h : g.WellFormed) {e : Edge} (he : g.Joins e) :
    g.addEdge e = g.withEdges (g.edges ++ [e]) := by
  have hwire : ∀ p ∈ g.ports, p.wire (g.edges ++ [e]) =
      if p.endpoint = e.source ∨ p.endpoint = e.target then p.attach e.id else p := by
    intro p hp
    rw [Port.wire, incident_append, ← h.ports_wired p hp]
    by_cases hends : p.endpoint = e.source ∨ p.endpoint = e.target
    · have htouch := (he.touchesPort_iff h hp).mpr hends
      simp [incident, htouch, hends, Port.attach]
    · have htouch : ¬ e.touchesPort p.id = true := fun ht => hends ((he.touchesPort_iff h hp).mp ht)
      simp [incident, htouch, hends]
  have hnodes := updatePort_updatePort_eq h he.source_ne_target (·.attach e.id)
    (fun _ => rfl) hwire
  unfold addEdge
  simp only [hnodes]
  rfl

/-- A graph stays well-formed when an edge comes in that suits the nodes, has an identifier of its
own and ends at a free input. -/
theorem WellFormed.append_edge (h : g.WellFormed) {e : Edge} (he : g.Joins e)
    (hfresh : e.id ∉ g.edges.map Edge.id)
    (hfree : e.target.port ∉ g.edges.map fun f => f.target.port) :
    (g.withEdges (g.edges ++ [e])).WellFormed := by
  refine h.withEdges ?_ ?_ ?_
  · rw [List.map_append]
    exact h.edges_distinct.append (List.nodup_singleton _) (by simpa using hfresh)
  · intro f hf
    rcases List.mem_append.mp hf with hold | hnew
    · exact h.edges_join f hold
    · obtain rfl := List.mem_singleton.mp hnew
      exact he
  · rw [List.map_append]
    exact h.inputs_single.append (List.nodup_singleton _) (by simpa using hfree)

/-! ## Connecting two ports -/

/-- What it takes to draw an edge from one port to another. -/
structure Wires (g : Graph) (source target : Port) : Prop where
  source_mem : source ∈ g.ports
  target_mem : target ∈ g.ports
  nodes_differ : source.node ≠ target.node
  source_sends : source.direction = .output
  target_receives : target.direction = .input
  types_agree : source.type = target.type
  no_path_back : ¬ Path g.edges target.node source.node

/-- The last two checks of `wiring`, on ports that face the right way. -/
theorem checks_eq_ok_iff {source target s t : Port} :
    (if !source.type.fits target.type then
        Except.error (ConnectError.typeMismatch source.type target.type)
      else if g.reaches target.node source.node then .error .wouldCreateCycle
      else .ok (source, target)) = .ok (s, t) ↔
    (source.type = target.type ∧ ¬ Path g.edges target.node source.node) ∧
      source = s ∧ target = t := by
  rw [← reaches_eq_true_iff]
  by_cases htype : source.type = target.type
  · cases hreach : g.reaches target.node source.node <;> simp [PortType.fits, htype]
  · simp [PortType.fits, htype]

/-- Two ports can be connected exactly when they wire in one order or the other. -/
theorem WellFormed.wiring_eq_ok_iff (h : g.WellFormed) {a b : PortId} {s t : Port} :
    g.wiring a b = .ok (s, t) ↔
      g.Wires s t ∧ (s.id = a ∧ t.id = b ∨ s.id = b ∧ t.id = a) := by
  constructor
  · intro hw
    unfold wiring at hw
    split at hw
    · cases hw
    · cases hw
    · rename_i p q hp hq
      obtain ⟨hpMem, rfl⟩ := h.port?_eq_some_iff.mp hp
      obtain ⟨hqMem, rfl⟩ := h.port?_eq_some_iff.mp hq
      by_cases hnode : p.node = q.node
      · simp [hnode] at hw
      · -- two inputs or two outputs are refused, and an input given first is the target
        cases hpd : p.direction <;> cases hqd : q.direction
        · simp [hnode, hpd, hqd] at hw
        · simp only [hnode, hpd, hqd, orient, if_false, reduceCtorEq] at hw
          obtain ⟨⟨htype, hpath⟩, rfl, rfl⟩ := checks_eq_ok_iff.mp hw
          exact ⟨⟨hqMem, hpMem, Ne.symm hnode, hqd, hpd, htype, hpath⟩, Or.inr ⟨rfl, rfl⟩⟩
        · simp only [hnode, hpd, hqd, orient, if_false, reduceCtorEq] at hw
          obtain ⟨⟨htype, hpath⟩, rfl, rfl⟩ := checks_eq_ok_iff.mp hw
          exact ⟨⟨hpMem, hqMem, hnode, hpd, hqd, htype, hpath⟩, Or.inl ⟨rfl, rfl⟩⟩
        · simp [hnode, hpd, hqd] at hw
  · rintro ⟨hwires, hends⟩
    have hs : g.port? s.id = some s := h.port?_eq_some_iff.mpr ⟨hwires.source_mem, rfl⟩
    have ht : g.port? t.id = some t := h.port?_eq_some_iff.mpr ⟨hwires.target_mem, rfl⟩
    have hchecks := checks_eq_ok_iff.mpr
      ⟨⟨hwires.types_agree, hwires.no_path_back⟩, rfl, rfl⟩
    rcases hends with ⟨rfl, rfl⟩ | ⟨rfl, rfl⟩
    · simp only [wiring, hs, ht, hwires.nodes_differ, hwires.source_sends, hwires.target_receives,
        orient, if_false, reduceCtorEq]
      exact hchecks
    · simp only [wiring, hs, ht, Ne.symm hwires.nodes_differ, hwires.source_sends,
        hwires.target_receives, orient, if_false, reduceCtorEq]
      exact hchecks

/-- A port that sends is among the outputs of the node that it names. -/
theorem WellFormed.mem_outputs (h : g.WellFormed) {p : Port} (hp : p ∈ g.ports)
    (hdir : p.direction = .output) : ∃ n ∈ g.nodes, p ∈ n.outputs ∧ p.endpoint = ⟨n.id, p.id⟩ := by
  obtain ⟨n, hn, hpn⟩ := mem_ports.mp hp
  have hown : p.endpoint = ⟨n.id, p.id⟩ := by
    rw [Port.endpoint, (h.nodes_made n hn).ports_own p hpn]
  rcases List.mem_append.mp hpn with hin | hout
  · rw [(h.nodes_made n hn).inputs_receive p hin] at hdir
    cases hdir
  · exact ⟨n, hn, hout, hown⟩

/-- A port that receives is among the inputs of the node that it names. -/
theorem WellFormed.mem_inputs (h : g.WellFormed) {p : Port} (hp : p ∈ g.ports)
    (hdir : p.direction = .input) : ∃ n ∈ g.nodes, p ∈ n.inputs ∧ p.endpoint = ⟨n.id, p.id⟩ := by
  obtain ⟨n, hn, hpn⟩ := mem_ports.mp hp
  have hown : p.endpoint = ⟨n.id, p.id⟩ := by
    rw [Port.endpoint, (h.nodes_made n hn).ports_own p hpn]
  rcases List.mem_append.mp hpn with hin | hout
  · exact ⟨n, hn, hin, hown⟩
  · rw [(h.nodes_made n hn).outputs_send p hout] at hdir
    cases hdir

theorem Wires.joins (h : g.WellFormed) {source target : Port} (hwires : g.Wires source target)
    (id : EdgeId) : g.Joins ⟨id, source.endpoint, target.endpoint⟩ := by
  obtain ⟨s, hs, hout, hfrom⟩ := h.mem_outputs hwires.source_mem hwires.source_sends
  obtain ⟨t, ht, hin, hto⟩ := h.mem_inputs hwires.target_mem hwires.target_receives
  have hnodes : s.id ≠ t.id := by
    have := hwires.nodes_differ
    rwa [show source.node = s.id from congrArg Endpoint.node hfrom,
      show target.node = t.id from congrArg Endpoint.node hto] at this
  exact ⟨s, hs, t, ht, source, hout, target, hin, hfrom, hto, hnodes, hwires.types_agree⟩

/-- The edges that touch an output are those that start there. -/
theorem Joins.touchesPort_output_iff (h : g.WellFormed) {e : Edge} (he : g.Joins e) {p : Port}
    (hp : p ∈ g.ports) (hdir : p.direction = .output) :
    e.touchesPort p.id = true ↔ e.source = p.endpoint := by
  rw [he.touchesPort_iff h hp]
  constructor
  · rintro (heq | heq)
    · exact heq.symm
    · obtain ⟨-, -, q, hq, -, hqd, -, hto, -⟩ := he.ports h
      rw [hto] at heq
      obtain rfl := h.port_unique hp hq (congrArg Endpoint.port heq)
      rw [hdir] at hqd
      cases hqd
  · exact fun heq => Or.inl heq.symm

/-- The edges that touch an input are those that end there. -/
theorem Joins.touchesPort_input_iff (h : g.WellFormed) {e : Edge} (he : g.Joins e) {p : Port}
    (hp : p ∈ g.ports) (hdir : p.direction = .input) :
    e.touchesPort p.id = true ↔ e.target = p.endpoint := by
  rw [he.touchesPort_iff h hp]
  constructor
  · rintro (heq | heq)
    · obtain ⟨q, hq, -, -, hqd, -, hfrom, -⟩ := he.ports h
      rw [hfrom] at heq
      obtain rfl := h.port_unique hp hq (congrArg Endpoint.port heq)
      rw [hdir] at hqd
      cases hqd
    · exact heq.symm
  · exact fun heq => Or.inr heq.symm

/-- Joining leaves out the edges into the target and adds the new one at the end. -/
theorem WellFormed.join_eq (h : g.WellFormed) {source target : Port}
    (hwires : g.Wires source target) (id : EdgeId) :
    g.join id source target =
      g.withEdges ((g.edges.filter fun e => e.target.port != target.id) ++
        [⟨id, source.endpoint, target.endpoint⟩]) := by
  -- `join` goes by the list of edges at the target, which names those that end there
  have hkept : (g.edges.filter fun e => !target.edges.contains e.id) =
      g.edges.filter fun e => e.target.port != target.id := by
    refine List.filter_congr fun e he => ?_
    have hiff : e.id ∈ target.edges ↔ e.target.port = target.id := by
      rw [h.mem_edges he hwires.target_mem,
        (h.edges_join e he).touchesPort_input_iff h hwires.target_mem hwires.target_receives,
        (h.edges_join e he).target_eq_iff h hwires.target_mem]
    by_cases hmem : e.id ∈ target.edges
    · simp [hmem, hiff.mp hmem]
    · simp [hmem, mt hiff.mpr hmem]
  have hjoins := hwires.joins h id
  rw [join, h.disconnectAll_eq, hkept]
  rw [(h.withEdges_sublist List.filter_sublist).addEdge_eq (joins_withEdges.mpr hjoins),
    withEdges_withEdges, withEdges_edges]

/-- Joining two ports by an edge with a new identifier keeps a graph well-formed. -/
theorem WellFormed.join (h : g.WellFormed) {source target : Port}
    (hwires : g.Wires source target) {id : EdgeId} (hfresh : id ∉ g.edges.map Edge.id) :
    (g.join id source target).WellFormed := by
  have hfreed := h.withEdges_sublist
    (List.filter_sublist (p := fun e : Edge => e.target.port != target.id) (l := g.edges))
  have hadded := hfreed.append_edge (joins_withEdges.mpr (hwires.joins h id))
    (by
      intro hmem
      exact hfresh (List.map_subset _ (List.filter_subset_self _) hmem))
    (by
      intro hmem
      obtain ⟨e, he, heq⟩ := List.mem_map.mp hmem
      have hne : e.target.port ≠ target.id := by simpa using (List.mem_filter.mp he).2
      exact hne heq)
  rw [h.join_eq hwires]
  rwa [withEdges_withEdges, withEdges_edges] at hadded

/-! ## Putting nodes in -/

theorem firstClash?_eq_none_iff {taken ids : List PortId} :
    firstClash? taken ids = none ↔ ids.Nodup ∧ ∀ id ∈ ids, id ∉ taken := by
  induction ids generalizing taken with
  | nil => simp [firstClash?]
  | cons id rest ih =>
      by_cases hid : id ∈ taken
      · simp [firstClash?, hid]
      · simp only [firstClash?, if_neg hid, ih, List.nodup_cons, List.mem_cons, not_or,
          forall_eq_or_imp]
        constructor
        · rintro ⟨hrest, hfree⟩
          have hnew : id ∉ rest := fun hmem => (hfree id hmem).1 rfl
          exact ⟨⟨hnew, hrest⟩, hid, fun other ho => (hfree other ho).2⟩
        · rintro ⟨⟨hne, hrest⟩, -, hfree⟩
          exact ⟨hrest, fun other ho => ⟨fun heq => hne (heq ▸ ho), hfree other ho⟩⟩

/-- A node can be put in exactly when its identifier and those of its ports are free. -/
theorem WellFormed.insert_eq_ok_iff (h : g.WellFormed) {n : Node} {g' : Graph} :
    g.insert n = .ok g' ↔
      (n.id ∉ g.nodes.map Node.id ∧ n.portIds.Nodup ∧ ∀ id ∈ n.portIds, id ∉ g.portIds) ∧
        g' = { g with
          nodes := g.nodes ++ [n.mapPorts Port.clear]
          owners := g.owners ++ n.owned } := by
  have hnode : (g.node? n.id).isSome = true ↔ n.id ∈ g.nodes.map Node.id := by
    simp [node?, List.find?_isSome]
  unfold Graph.insert
  by_cases htaken : n.id ∈ g.nodes.map Node.id
  · simp [hnode.mpr htaken, htaken]
  · rw [if_neg (mt hnode.mp htaken), h.map_fst_owners]
    cases hclash : firstClash? g.portIds n.portIds with
    | some id =>
        simp only [reduceCtorEq, false_iff]
        rintro ⟨⟨-, hfree⟩, -⟩
        rw [firstClash?_eq_none_iff.mpr hfree] at hclash
        cases hclash
    | none =>
        have hfree := firstClash?_eq_none_iff.mp hclash
        rw [Except.ok.injEq, eq_comm]
        exact ⟨fun heq => ⟨⟨htaken, hfree⟩, heq⟩, And.right⟩

/-- An edge ends at ports of the graph only. -/
theorem Joins.mem_portIds (h : g.WellFormed) {e : Edge} (he : g.Joins e) {port : PortId}
    (htouch : e.touchesPort port = true) : port ∈ g.portIds := by
  obtain ⟨p, hp, q, hq, -, -, hfrom, hto, -⟩ := he.ports h
  simp only [Edge.touchesPort, hfrom, hto, Port.endpoint, Bool.or_eq_true, beq_iff_eq] at htouch
  rcases htouch with rfl | rfl
  · exact List.mem_map_of_mem hp
  · exact List.mem_map_of_mem hq

theorem incident_eq_nil_of_notMem (h : g.WellFormed) {port : PortId} (hport : port ∉ g.portIds) :
    incident g.edges port = [] := by
  rw [incident, List.map_eq_nil_iff, List.filter_eq_nil_iff]
  exact fun e he htouch => hport ((h.edges_join e he).mem_portIds h htouch)

/-- Putting in a well-made node keeps a graph well-formed. -/
theorem WellFormed.insert (h : g.WellFormed) {n : Node} (hmade : n.WellMade) {g' : Graph}
    (hinsert : g.insert n = .ok g') : g'.WellFormed := by
  obtain ⟨⟨hnode, hports, hfree⟩, rfl⟩ := h.insert_eq_ok_iff.mp hinsert
  have hids : (n.mapPorts Port.clear).portIds = n.portIds := Node.portIds_mapPorts fun _ => rfl
  refine
    { nodes_distinct := ?_, nodes_made := ?_, ports_distinct := ?_, owners_eq := ?_,
      edges_distinct := h.edges_distinct, edges_join := ?_, inputs_single := h.inputs_single,
      ports_wired := ?_ }
  · rw [List.map_append]
    exact h.nodes_distinct.append (List.nodup_singleton _) (by simpa using hnode)
  · intro m hm
    rcases List.mem_append.mp hm with hold | hnew
    · exact h.nodes_made m hold
    · obtain rfl := List.mem_singleton.mp hnew
      exact hmade.mapPorts (fun _ => rfl) (fun _ => rfl)
  · rw [portIds_eq_flatMap, List.flatMap_append, ← portIds_eq_flatMap]
    simp only [List.flatMap_cons, List.flatMap_nil, List.append_nil, hids]
    exact h.ports_distinct.append hports fun id hold hnew => hfree id hnew hold
  · rw [List.flatMap_append, ← h.owners_eq]
    simp [Node.owned_mapPorts (f := Port.clear) fun _ => rfl]
  · intro e he
    obtain ⟨s, hs, t, ht, hends⟩ := h.edges_join e he
    exact ⟨s, List.mem_append_left _ hs, t, List.mem_append_left _ ht, hends⟩
  · intro p hp
    obtain ⟨m, hm, hpm⟩ := mem_ports.mp hp
    rcases List.mem_append.mp hm with hold | hnew
    · exact h.ports_wired p (mem_ports.mpr ⟨m, hold, hpm⟩)
    · -- the new ports list no edge, and no edge of the graph ends at them
      obtain rfl := List.mem_singleton.mp hnew
      have hid : p.id ∈ n.portIds := hids ▸ List.mem_map_of_mem hpm
      obtain ⟨q, -, rfl⟩ := List.mem_map.mp (by simpa using hpm)
      exact (incident_eq_nil_of_notMem h (hfree _ hid)).symm

/-! ## Taking nodes out -/

/-- Taking out the edges of a node leaves the edges that do not end at it. -/
theorem WellFormed.isolate_eq (h : g.WellFormed) (id : NodeId) :
    g.disconnectAll ((g.edgesAt id).map Edge.id) =
      g.withEdges (g.edges.filter fun e => !e.touchesNode id) := by
  rw [h.disconnectAll_eq]
  congr 1
  refine List.filter_congr fun e he => ?_
  rw [edgesAt, h.contains_map_id_filter he]

/-- Different nodes have different ports. -/
theorem WellFormed.node_eq_of_port (h : g.WellFormed) {n m : Node} (hn : n ∈ g.nodes)
    (hm : m ∈ g.nodes) {id : PortId} (hidn : id ∈ n.portIds) (hidm : id ∈ m.portIds) : n = m := by
  obtain ⟨p, hp, rfl⟩ := List.mem_map.mp hidn
  obtain ⟨q, hq, hid⟩ := List.mem_map.mp hidm
  obtain rfl := h.port_unique (mem_ports.mpr ⟨m, hm, hq⟩) (mem_ports.mpr ⟨n, hn, hp⟩) hid
  refine h.node_unique hn hm ?_
  rw [← (h.nodes_made n hn).ports_own q hp, ← (h.nodes_made m hm).ports_own q hq]

theorem WellFormed.owners_dropNode (h : g.WellFormed) {n : Node} (hn : n ∈ g.nodes) :
    (g.dropNode n).owners = (g.dropNode n).nodes.flatMap Node.owned := by
  simp only [Graph.dropNode, h.owners_eq]
  -- the index has one block for each node, and a block goes or stays as a whole
  refine filter_flatMap_of_blocks _ _ _ fun m hm => ?_
  by_cases hid : m.id = n.id
  · obtain rfl := h.node_unique hm hn hid
    simp only [bne_self_eq_false, if_false, Bool.false_eq_true]
    rw [List.filter_eq_nil_iff]
    rintro ⟨port, node⟩ hentry
    simpa using (Node.mem_owned.mp hentry).1
  · have hne : (m.id != n.id) = true := by simpa using hid
    rw [if_pos hne, List.filter_eq_self]
    rintro ⟨port, node⟩ hentry
    have hport : port ∉ n.portIds := fun hmem =>
      hid (congrArg Node.id (h.node_eq_of_port hm hn (Node.mem_owned.mp hentry).1 hmem))
    simpa using hport

/-- Dropping a node that no edge ends at keeps a graph well-formed. -/
theorem WellFormed.dropNode (h : g.WellFormed) {n : Node} (hn : n ∈ g.nodes)
    (hisolated : ∀ e ∈ g.edges, e.touchesNode n.id = false) : (g.dropNode n).WellFormed := by
  have hsub : (g.dropNode n).nodes.Sublist g.nodes := List.filter_sublist
  refine
    { nodes_distinct := h.nodes_distinct.sublist (hsub.map _)
      nodes_made := fun m hm => h.nodes_made m (hsub.subset hm)
      ports_distinct := ?_
      owners_eq := h.owners_dropNode hn
      edges_distinct := h.edges_distinct
      edges_join := ?_
      inputs_single := h.inputs_single
      ports_wired := ?_ }
  · have hports : (g.dropNode n).portIds.Sublist g.portIds := by
      rw [portIds_eq_flatMap, portIds_eq_flatMap]
      exact hsub.flatMap _
    exact h.ports_distinct.sublist hports
  · intro e he
    obtain ⟨s, hs, t, ht, p, hp, q, hq, hfrom, hto, hrest⟩ := h.edges_join e he
    have hkeep := hisolated e he
    simp only [Edge.touchesNode, hfrom, hto, Bool.or_eq_false_iff, beq_eq_false_iff_ne] at hkeep
    exact ⟨s, List.mem_filter.mpr ⟨hs, by simpa using hkeep.1⟩,
      t, List.mem_filter.mpr ⟨ht, by simpa using hkeep.2⟩, p, hp, q, hq, hfrom, hto, hrest⟩
  · intro p hp
    obtain ⟨m, hm, hpm⟩ := mem_ports.mp hp
    exact h.ports_wired p (mem_ports.mpr ⟨m, hsub.subset hm, hpm⟩)

/-- What is taken out with a node, and what is left. -/
theorem WellFormed.remove?_eq_some (h : g.WellFormed) {id : NodeId} {n : Node} {g' : Graph}
    (hremove : g.remove? id = some (n, g')) :
    n ∈ (g.withEdges (g.edges.filter fun e => !e.touchesNode id)).nodes ∧ n.id = id ∧
      g' = (g.withEdges (g.edges.filter fun e => !e.touchesNode id)).dropNode n := by
  have hisolated := h.withEdges_sublist
    (List.filter_sublist (p := fun e : Edge => !e.touchesNode id) (l := g.edges))
  simp only [Graph.remove?, h.isolate_eq, Option.map_eq_some_iff, Prod.mk.injEq,
    hisolated.node?_eq_some_iff] at hremove
  obtain ⟨m, ⟨hm, hid⟩, rfl, rfl⟩ := hremove
  exact ⟨hm, hid, rfl⟩

theorem WellFormed.remove? (h : g.WellFormed) {id : NodeId} {n : Node} {g' : Graph}
    (hremove : g.remove? id = some (n, g')) : g'.WellFormed := by
  obtain ⟨hn, rfl, rfl⟩ := h.remove?_eq_some hremove
  refine (h.withEdges_sublist List.filter_sublist).dropNode hn fun e he => ?_
  simpa using (List.mem_filter.mp he).2

/-! ## Editing nodes -/

/-- A change of nodes that keeps identifiers and ports keeps a graph well-formed. -/
theorem WellFormed.mapNodes (h : g.WellFormed) {f : Node → Node} (hid : ∀ n, (f n).id = n.id)
    (hin : ∀ n, (f n).inputs = n.inputs) (hout : ∀ n, (f n).outputs = n.outputs) :
    WellFormed { g with nodes := g.nodes.map f } := by
  have hports : ∀ n, (f n).ports = n.ports := fun n => by rw [Node.ports, hin, hout]; rfl
  have hportIds : ∀ n, (f n).portIds = n.portIds := fun n => by rw [Node.portIds, hports]; rfl
  have hall : Graph.ports { g with nodes := g.nodes.map f } = g.ports := by
    simp only [Graph.ports, List.flatMap_map, hports]
  refine
    { nodes_distinct := ?_, nodes_made := ?_, ports_distinct := ?_, owners_eq := ?_,
      edges_distinct := h.edges_distinct, edges_join := ?_, inputs_single := h.inputs_single,
      ports_wired := ?_ }
  · simpa [Function.comp_def, hid] using h.nodes_distinct
  · intro m hm
    obtain ⟨n, hn, rfl⟩ := List.mem_map.mp hm
    have hmade := h.nodes_made n hn
    constructor
    · rw [hports, hid]; exact hmade.ports_own
    · rw [hin]; exact hmade.inputs_receive
    · rw [hout]; exact hmade.outputs_send
  · rw [portIds, hall]
    exact h.ports_distinct
  · simp only [List.flatMap_map, Node.owned, hportIds, hid]
    exact h.owners_eq
  · intro e he
    obtain ⟨s, hs, t, ht, p, hp, q, hq, hends⟩ := h.edges_join e he
    refine ⟨f s, List.mem_map_of_mem hs, f t, List.mem_map_of_mem ht, p, ?_, q, ?_, ?_⟩
    · rwa [hout]
    · rwa [hin]
    · rwa [hid, hid]
  · rw [hall]
    exact h.ports_wired

theorem WellFormed.edit (h : g.WellFormed) (id : NodeId) (title : String) (position : Position)
    (properties : Properties) :
    (g.updateNode id fun n => n.edit title position properties).WellFormed := by
  refine h.mapNodes (fun n => ?_) (fun n => ?_) (fun n => ?_)
  all_goals split <;> rfl

end Graph

end ScriptGraph
