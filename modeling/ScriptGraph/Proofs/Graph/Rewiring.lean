import ScriptGraph.Proofs.Graph.Connection

/-!
# What a connection changes, and how it is taken back

A new edge takes the place of what fed its input before.  Up to four ports on up to three nodes are
touched by this, and `Graph.Draws` says what becomes of all of them: the edge list loses the edges
into the target and has the new edge at its end, each port lists the same edges in the same order
but for these, and nothing else changes.

* `wiring_comm`: it does not matter which of the two ports is given first, unless neither exists;
  then the one given first is named.
* `WellFormed.disconnect_join`: taking the new edge out leaves the graph without the edges that made
  room for it.  This is the graph itself if the input was free, and otherwise the graph without the
  one edge that fed it.
-/

namespace ScriptGraph

variable {K : NodeKind → Prop}

/-- A port after an edge has been drawn and others have made room for it: they are gone from its
list, and the new edge is the last one if it ends here. -/
def Port.rewire (displaced : List EdgeId) (e : Edge) (p : Port) : Port :=
  { p with
    edges := (p.edges.filter fun id => !displaced.contains id) ++
      if e.touchesPort p.id then [e.id] else [] }

theorem Workspace.connect_eq (w : Workspace) (a b : PortId) :
    w.connect a b = (w.graph.connect ⟨w.ids.next.1⟩ a b).map fun graph =>
      (⟨w.ids.next.1⟩, { w with graph, ids := w.ids.next.2 }) := rfl

/-- The graph of a workspace is connected by the identifier that the workspace reports. -/
theorem Workspace.connect_graph {w w' : Workspace} {a b : PortId} {id : EdgeId}
    (hconnect : w.connect a b = .ok (id, w')) : w.graph.connect id a b = .ok w'.graph := by
  rw [Workspace.connect_eq] at hconnect
  cases hgraph : w.graph.connect ⟨w.ids.next.1⟩ a b with
  | error cause =>
      rw [hgraph] at hconnect
      cases hconnect
  | ok graph =>
      rw [hgraph] at hconnect
      obtain ⟨rfl, rfl⟩ := Prod.mk.inj (Except.ok.inj hconnect)
      exact hgraph

namespace Graph

variable {g g' : Graph} {new : EdgeId} {a b : PortId} {source target : Port}

/-- The second graph is the first one after an edge has been drawn. -/
structure Draws (g : Graph) (e : Edge) (g' : Graph) : Prop where
  /-- the edges into the target make room, and the new one comes last -/
  edges_eq : g'.edges = (g.edges.filter fun f => f.target.port != e.target.port) ++ [e]
  /-- nothing changes about nodes but the edges that their ports list -/
  nodes_eq : g'.nodes =
    g.nodes.map (·.mapPorts (Port.rewire ((g.edgesTo e.target.port).map Edge.id) e))
  owners_eq : g'.owners = g.owners
  /-- no more than one edge makes room -/
  displaced_le_one : (g.edgesTo e.target.port).length ≤ 1
  target_single : g'.edgesTo e.target.port = [e]

theorem Wires.ends (hwires : g.Wires source target)
    (hnamed : source.id = a ∧ target.id = b ∨ source.id = b ∧ target.id = a) :
    g.Ends a b source target :=
  ⟨hnamed, hwires.source_mem, hwires.target_mem, hwires.nodes_differ, hwires.source_sends,
    hwires.target_receives⟩

/-! ## The order of the two ports -/

theorem orient_comm {p q : Port} (hne : p.direction ≠ q.direction) : orient q p = orient p q := by
  unfold orient
  cases hp : p.direction <;> cases hq : q.direction <;> simp_all

/-- The checks come out the same for both orders, if one of the ports exists. -/
theorem wiring_comm (hport : g.port? a ≠ none ∨ g.port? b ≠ none) :
    g.wiring b a = g.wiring a b := by
  unfold wiring
  cases ha : g.port? a with
  | none =>
      cases hb : g.port? b with
      | none => simp [ha, hb] at hport
      | some q => rfl
  | some p =>
      cases hb : g.port? b with
      | none => rfl
      | some q =>
          dsimp only
          by_cases hnodes : p.node = q.node
          · rw [if_pos hnodes, if_pos hnodes.symm]
          · rw [if_neg hnodes, if_neg (Ne.symm hnodes)]
            by_cases hdirections : p.direction = q.direction
            · rw [if_pos hdirections, if_pos hdirections.symm]
            · rw [if_neg hdirections, if_neg (Ne.symm hdirections), orient_comm hdirections]

theorem connect_comm (hport : g.port? a ≠ none ∨ g.port? b ≠ none) :
    g.connect new b a = g.connect new a b := by
  rw [connect, wiring_comm hport, connect]

/-- A connection that is accepted is accepted the other way round as well. -/
theorem WellFormed.connect_swap (h : g.WellFormed) (hconnect : g.connect new a b = .ok g') :
    g.connect new b a = .ok g' := by
  obtain ⟨source, target, hwiring, hjoin⟩ := connect_eq_ok_iff.mp hconnect
  obtain ⟨hwires, hnamed⟩ := h.wiring_eq_ok_iff.mp hwiring
  exact connect_eq_ok_iff.mpr
    ⟨source, target, h.wiring_eq_ok_iff.mpr ⟨hwires, hnamed.symm⟩, hjoin⟩

theorem WellFormed.port?_ne_none_iff (h : g.WellFormed) {id : PortId} :
    g.port? id ≠ none ↔ id ∈ g.portIds := by
  constructor
  · intro hport
    by_contra hid
    exact hport (h.port?_eq_none hid)
  · intro hid
    obtain ⟨n, p, hp⟩ := exists_hasPort hid
    rw [hp.port?_eq h]
    exact Option.some_ne_none p

/-! ## The effect -/

theorem mem_edgesTo {port : PortId} {e : Edge} :
    e ∈ g.edgesTo port ↔ e ∈ g.edges ∧ e.target.port = port := by
  simp [edgesTo]

section

variable (h : g.WellFormed)
include h

/-- An input is fed by one edge at most. -/
theorem WellFormed.edgesTo_eq_singleton {e : Edge} (he : e ∈ g.edges) :
    g.edgesTo e.target.port = [e] :=
  filter_key_eq_singleton (fun f : Edge => f.target.port) h.inputs_single he

theorem WellFormed.length_edgesTo_le_one (port : PortId) : (g.edgesTo port).length ≤ 1 := by
  cases hedges : g.edgesTo port with
  | nil => exact Nat.zero_le _
  | cons e rest =>
      have hmem : e ∈ g.edgesTo port := hedges ▸ List.mem_cons_self
      obtain ⟨he, hport⟩ := mem_edgesTo.mp hmem
      rw [← hedges, ← hport, h.edgesTo_eq_singleton he]
      exact Nat.le_refl _

/-- What a port lists once the edges into a target have made room for a new one. -/
theorem WellFormed.wire_rewired {p : Port} (hp : p ∈ g.ports) (e : Edge) :
    p.wire ((g.edges.filter fun f => f.target.port != e.target.port) ++ [e]) =
      p.rewire ((g.edgesTo e.target.port).map Edge.id) e := by
  have hkept : incident (g.edges.filter fun f => f.target.port != e.target.port) p.id =
      p.edges.filter fun id => !((g.edgesTo e.target.port).map Edge.id).contains id := by
    rw [h.ports_wired p hp]
    refine incident_filter_of_id _ (fun f hf => ?_) p.id
    rw [edgesTo, h.contains_map_id_filter hf]
    rfl
  have hnew : incident [e] p.id = if e.touchesPort p.id then [e.id] else [] := by
    by_cases htouch : e.touchesPort p.id = true <;> simp [incident, htouch]
  rw [Port.wire, incident_append, hkept, hnew]
  rfl

theorem WellFormed.draws_join (hwires : g.Wires source target) (new : EdgeId) :
    g.Draws ⟨new, source.endpoint, target.endpoint⟩ (g.join new source target) := by
  rw [h.join_eq hwires]
  refine ⟨rfl, ?_, rfl, h.length_edgesTo_le_one _, ?_⟩
  · refine List.map_congr_left fun n hn => Node.mapPorts_congr fun p hp => ?_
    exact h.wire_rewired (mem_ports.mpr ⟨n, hn, hp⟩) ⟨new, source.endpoint, target.endpoint⟩
  · simp [edgesTo, Port.endpoint, List.filter_append, List.filter_filter]

end

/-- Connecting two ports of a graph that a session can come to, given in either order, draws one
edge from the output to the input.  The edges into the input make room, the others keep their order,
and nothing changes about nodes and index but for the edges that ports list.  Both orders give the
same graph or are refused for the same reason, unless neither port exists; then each names the port
that it was given first.  A workspace connects its graph by the identifier that it reports. -/
theorem reachable_connection_effect (h : g.Reachable K) (new : EdgeId) (a b : PortId) :
    (∀ g', g.connect new a b = .ok g' → ∃ source target, g.Ends a b source target ∧
      g.Draws ⟨new, source.endpoint, target.endpoint⟩ g') ∧
    (a ∈ g.portIds ∨ b ∈ g.portIds → g.connect new b a = g.connect new a b) ∧
    (a ∉ g.portIds → b ∉ g.portIds → g.connect new a b = .error (.portNotFound a) ∧
      g.connect new b a = .error (.portNotFound b)) ∧
    ∀ w : Workspace, w.graph = g →
      (a ∈ g.portIds ∨ b ∈ g.portIds → w.connect b a = w.connect a b) ∧
      ∀ id w', w.connect a b = .ok (id, w') → g.connect id a b = .ok w'.graph := by
  have hwf := h.sound.wellFormed
  have hport : a ∈ g.portIds ∨ b ∈ g.portIds → g.port? a ≠ none ∨ g.port? b ≠ none := by
    rw [hwf.port?_ne_none_iff, hwf.port?_ne_none_iff]
    exact id
  refine ⟨fun g' hconnect => ?_, fun hmem => connect_comm (hport hmem), fun ha hb => ?_, ?_⟩
  · obtain ⟨source, target, hwiring, rfl⟩ := connect_eq_ok_iff.mp hconnect
    obtain ⟨hwires, hnamed⟩ := hwf.wiring_eq_ok_iff.mp hwiring
    exact ⟨source, target, hwires.ends hnamed, hwf.draws_join hwires new⟩
  · have hacyclic := h.acyclic
    exact ⟨(connect_eq_error_iff hwf hacyclic).mpr (.firstMissing ha),
      (connect_eq_error_iff hwf hacyclic).mpr (.firstMissing hb)⟩
  · rintro w rfl
    refine ⟨fun hmem => ?_, fun id w' hconnect => ?_⟩
    · rw [Workspace.connect_eq, Workspace.connect_eq, connect_comm (hport hmem)]
    · exact Workspace.connect_graph hconnect

/-- In the sample the greeting moves to the other branch.  Its old edge is gone from the branch that
it came from, and it does not matter that the input is given first. -/
theorem sample_connection_effect :
    let port (id : Nat) : PortId := ⟨⟨BitVec.ofNat 128 id⟩⟩
    let new : EdgeId := ⟨laterIds.next.1⟩
    (sample.Reachable fun _ => True) ∧ (sample.edgesTo (port 12)).length = 1 ∧
    ∃ g', sample.connect new (port 12) (port 5) = .ok g' ∧
      sample.connect new (port 5) (port 12) = .ok g' ∧
      ∃ source target, sample.Ends (port 12) (port 5) source target ∧
        sample.Draws ⟨new, source.endpoint, target.endpoint⟩ g' := by
  intro port new
  have hreach : sample.Reachable fun _ => True := sample_reachable fun _ _ => trivial
  obtain ⟨heffect, hcomm, -⟩ := reachable_connection_effect hreach new (port 12) (port 5)
  refine ⟨hreach, by decide, _, rfl, ?_, heffect _ rfl⟩
  exact hcomm (.inl (by decide))

/-! ## Taking a connection back -/

theorem removeEdge?_of_notMem {id : EdgeId} (hid : id ∉ g.edges.map Edge.id) :
    g.removeEdge? id = none ∧ g.disconnect id = g := by
  have hedge : g.edge? id = none := by
    refine List.find?_eq_none.mpr fun e he heq => hid ?_
    exact beq_iff_eq.mp heq ▸ List.mem_map_of_mem he
  rw [removeEdge?, disconnect, hedge]
  exact ⟨rfl, rfl⟩

theorem WellFormed.removeEdge?_of_mem (h : g.WellFormed) {e : Edge} (he : e ∈ g.edges) :
    g.removeEdge? e.id = some (e, g.disconnect e.id) := by
  rw [removeEdge?, h.edge?_eq_some_iff.mpr ⟨he, rfl⟩]
  rfl

/-- Without the new edge, what is left are the edges that did not have to make room. -/
theorem WellFormed.disconnect_join (h : g.WellFormed) (hwires : g.Wires source target)
    (hfresh : new ∉ g.edges.map Edge.id) :
    (g.join new source target).disconnect new =
      g.withEdges (g.edges.filter fun e => e.target.port != target.id) := by
  have hold : ((g.edges.filter fun e => e.target.port != target.id).filter fun e => e.id != new) =
      g.edges.filter fun e => e.target.port != target.id := by
    refine List.filter_eq_self.mpr fun e he => bne_iff_ne.mpr fun heq => hfresh ?_
    exact heq ▸ List.mem_map_of_mem (List.mem_of_mem_filter he)
  have hnew : ([⟨new, source.endpoint, target.endpoint⟩] : List Edge).filter
      (fun e => e.id != new) = [] := by simp
  rw [(h.join hwires hfresh).disconnect_eq, h.join_eq hwires, withEdges_withEdges, withEdges_edges,
    List.filter_append, hold, hnew, List.append_nil]

/-- The one edge that made room is left out by its identifier as well. -/
theorem WellFormed.disconnect_displaced (h : g.WellFormed) {old : Edge} (hold : old ∈ g.edges) :
    g.disconnect old.id =
      g.withEdges (g.edges.filter fun e => e.target.port != old.target.port) := by
  rw [h.disconnect_eq]
  congr 1
  refine List.filter_congr fun e he => ?_
  have hiff : e.id = old.id ↔ e.target.port = old.target.port := by
    constructor
    · exact fun hid => by rw [h.edge_unique he hold hid]
    · exact fun hport => by rw [List.inj_on_of_nodup_map h.inputs_single he hold hport]
  rw [bne, bne, Bool.eq_iff_iff.mpr (beq_iff_eq.trans (hiff.trans beq_iff_eq.symm))]

/-- In a graph that a session can come to, taking out the edge of a connection returns this edge.
What is left is the graph as it was before, if the input was free, and otherwise the graph that
taking out the edge of the input would have left, in all their parts and with everything in the same
order.  Taking out an edge that is not there gives nothing and changes nothing. -/
theorem reachable_connection_undone (h : g.Reachable K) :
    (∀ new a b g₁, new ∉ g.edges.map Edge.id → g.connect new a b = .ok g₁ →
      ∃ source target g₂, g.Ends a b source target ∧
        g₁.removeEdge? new = some (⟨new, source.endpoint, target.endpoint⟩, g₂) ∧
        (g.edgesTo target.id = [] → g₂ = g) ∧
        ∀ old ∈ g.edgesTo target.id, g.removeEdge? old.id = some (old, g₂)) ∧
    ∀ id, id ∉ g.edges.map Edge.id → g.removeEdge? id = none ∧ g.disconnect id = g := by
  have hwf := h.sound.wellFormed
  refine ⟨fun new a b g₁ hfresh hconnect => ?_, fun id => removeEdge?_of_notMem⟩
  obtain ⟨source, target, hwiring, rfl⟩ := connect_eq_ok_iff.mp hconnect
  obtain ⟨hwires, hnamed⟩ := hwf.wiring_eq_ok_iff.mp hwiring
  have hundone := hwf.disconnect_join hwires hfresh
  refine ⟨source, target, (g.join new source target).disconnect new, hwires.ends hnamed, ?_,
    fun hfree => ?_, fun old hold => ?_⟩
  · have hmem : ⟨new, source.endpoint, target.endpoint⟩ ∈ (g.join new source target).edges := by
      rw [hwf.join_eq hwires]
      exact List.mem_append_right _ (List.mem_singleton_self _)
    exact (hwf.join hwires hfresh).removeEdge?_of_mem hmem
  · have hall : (g.edges.filter fun e => e.target.port != target.id) = g.edges := by
      refine List.filter_eq_self.mpr fun e he => bne_iff_ne.mpr fun hport => ?_
      have hfeeds : e ∈ g.edgesTo target.id := mem_edgesTo.mpr ⟨he, hport⟩
      rw [hfree] at hfeeds
      cases hfeeds
    rw [hundone, hall, hwf.withEdges_self]
  · obtain ⟨hmem, hport⟩ := mem_edgesTo.mp hold
    rw [hundone, ← hport, ← hwf.disconnect_displaced hmem]
    exact hwf.removeEdge?_of_mem hmem

theorem Reachable.disconnect (h : g.Reachable K) (id : EdgeId) : (g.disconnect id).Reachable K := by
  obtain ⟨loose, hrun⟩ := h
  by_cases hid : id ∈ g.edges.map Edge.id
  · obtain ⟨e, he, rfl⟩ := List.mem_map.mp hid
    have hwf := Reachable.sound ⟨loose, hrun⟩ |>.wellFormed
    exact ⟨loose, hrun.tail (.disconnect _ (hwf.removeEdge?_of_mem he))⟩
  · rw [(removeEdge?_of_notMem hid).2]
    exact ⟨loose, hrun⟩

/-- In the sample the greeting moves to the other branch, and when the move is taken back it has no
edge any more.  Without the edge it had, the move is an addition, and taking it back leaves things
as they were. -/
theorem sample_connection_undone :
    let port (id : Nat) : PortId := ⟨⟨BitVec.ofNat 128 id⟩⟩
    let new : EdgeId := ⟨laterIds.next.1⟩
    let bare : Graph := sample.disconnect ⟨⟨3⟩⟩
    (sample.Reachable fun _ => True) ∧ new ∉ sample.edges.map Edge.id ∧
    (∃ old e g₁, sample.edgesTo (port 12) = [old] ∧
      sample.connect new (port 12) (port 5) = .ok g₁ ∧ g₁.removeEdge? new = some (e, bare) ∧
      sample.removeEdge? old.id = some (old, bare)) ∧
    (∃ e g₁, bare.edgesTo (port 12) = [] ∧
      bare.connect new (port 12) (port 5) = .ok g₁ ∧ g₁.removeEdge? new = some (e, bare)) ∧
    sample.removeEdge? new = none := by
  intro port new bare
  have hreach : sample.Reachable fun _ => True := sample_reachable fun _ _ => trivial
  have hfresh : new ∉ sample.edges.map Edge.id := by decide
  have htarget : ∀ (g : Graph) (source target : Port), g.Ends (port 12) (port 5) source target →
      (∀ p ∈ g.ports, p.id = port 5 → p.direction = .output) → target.id = port 12 := by
    intro g source target hends hsends
    rcases hends.named with ⟨-, hid⟩ | ⟨-, hid⟩
    · have hdirection := hsends target hends.target_mem hid
      rw [hends.target_receives] at hdirection
      cases hdirection
    · exact hid
  obtain ⟨hmoved, habsent⟩ := reachable_connection_undone hreach
  obtain ⟨hadded, -⟩ := reachable_connection_undone (hreach.disconnect ⟨⟨3⟩⟩)
  refine ⟨hreach, hfresh, ?_, ?_, (habsent new hfresh).1⟩
  · obtain ⟨source, target, g₂, hends, hremove, -, hheld⟩ :=
      hmoved new (port 12) (port 5) _ hfresh rfl
    rw [htarget _ _ _ hends (by decide)] at hheld
    have hbare := hheld _ List.mem_cons_self
    obtain rfl : bare = g₂ := (Prod.mk.inj (Option.some.inj hbare)).2
    exact ⟨_, _, _, rfl, rfl, hremove, hbare⟩
  · obtain ⟨source, target, g₂, hends, hremove, hfree, -⟩ :=
      hadded new (port 12) (port 5) _ (by decide) rfl
    rw [htarget _ _ _ hends (by decide)] at hfree
    obtain rfl : g₂ = bare := hfree rfl
    exact ⟨_, _, rfl, rfl, hremove⟩

end Graph

end ScriptGraph
