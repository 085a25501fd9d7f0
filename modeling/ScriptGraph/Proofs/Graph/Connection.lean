import ScriptGraph.Proofs.Session.Acyclic
import ScriptGraph.Workspace

/-!
# The connection rule

Two ports can be connected exactly when they exist, belong to different nodes, face opposite ways
and have one type, and the edges form no cycle once the new one has taken the place of what fed the
input before (`Graph.Connectable`).  Otherwise the first of these conditions that fails is reported
(`Graph.Refuses`), and nothing changes.

The search that guards against cycles runs before the old edge is gone, so it might find a way that
uses this edge.  It does not: such a way would come back to the node of the input, where it began,
and the graph has no cycle yet (`Acyclic.path_filter`).  Hence the search gives the right answer for
the edges to come (`acyclic_rewired_iff`).
-/

namespace ScriptGraph

open Relation

variable {K : NodeKind → Prop}

/-- Without cycles a path never comes back to where it began, so it does without the edges that end
there. -/
theorem Acyclic.path_filter {edges : List Edge} (h : Acyclic edges) {a b : NodeId}
    (hpath : Path edges a b) {keep : Edge → Bool}
    (hkeep : ∀ e ∈ edges, e.target.node ≠ a → keep e = true) : Path (edges.filter keep) a b := by
  induction hpath with
  | refl => exact ReflTransGen.refl
  | tail hbefore hstep ih =>
      obtain ⟨e, he, hsource, htarget⟩ := hstep
      have hleaves : e.target.node ≠ a := by
        intro hback
        exact h a (TransGen.tail' hbefore ⟨e, he, hsource, hback⟩)
      exact ih.tail ⟨e, List.mem_filter.mpr ⟨he, hkeep e he hleaves⟩, hsource, htarget⟩

theorem Workspace.connect?_eq_none_iff {w : Workspace} {a b : PortId} :
    w.connect? a b = none ↔ ∃ cause, w.graph.connect ⟨w.ids.next.1⟩ a b = .error cause := by
  unfold Workspace.connect? Workspace.connect
  dsimp only
  cases w.graph.connect ⟨w.ids.next.1⟩ a b with
  | error cause => exact ⟨fun _ => ⟨cause, rfl⟩, fun _ => rfl⟩
  | ok g => exact ⟨nofun, nofun⟩

namespace Graph

variable {g : Graph} {new : EdgeId} {a b : PortId} {source target : Port}

/-! ## The rule -/

/-- The edges once a new one has taken the place of what fed the target. -/
def rewired (g : Graph) (new : EdgeId) (source target : Port) : List Edge :=
  (g.edges.filter fun e => e.target.port != target.id) ++
    [⟨new, source.endpoint, target.endpoint⟩]

/-- A node of the graph has this port, under this identifier. -/
structure HasPort (g : Graph) (id : PortId) (n : Node) (p : Port) : Prop where
  node_mem : n ∈ g.nodes
  port_mem : p ∈ n.ports
  id_eq : p.id = id

/-- Two identifiers, in one order or the other, name an output of a node and an input of another
node. -/
structure Ends (g : Graph) (a b : PortId) (source target : Port) : Prop where
  named : source.id = a ∧ target.id = b ∨ source.id = b ∧ target.id = a
  source_mem : source ∈ g.ports
  target_mem : target ∈ g.ports
  nodes_differ : source.node ≠ target.node
  source_sends : source.direction = .output
  target_receives : target.direction = .input

/-- What it takes to connect two ports. -/
structure Connectable (g : Graph) (new : EdgeId) (a b : PortId) (source target : Port) : Prop
    extends g.Ends a b source target where
  types_agree : source.type = target.type
  acyclic : Acyclic (g.rewired new source target)

/-- The first condition that two ports do not meet. -/
inductive Refuses (g : Graph) (new : EdgeId) (a b : PortId) : ConnectError → Prop
  | firstMissing : a ∉ g.portIds → Refuses g new a b (.portNotFound a)
  | secondMissing : a ∈ g.portIds → b ∉ g.portIds → Refuses g new a b (.portNotFound b)
  | sameNode {n : Node} {p q : Port} : g.HasPort a n p → g.HasPort b n q →
      Refuses g new a b .sameNode
  | sameDirection {n m : Node} {p q : Port} : g.HasPort a n p → g.HasPort b m q → n.id ≠ m.id →
      p.direction = q.direction → Refuses g new a b .sameDirection
  | typeMismatch {source target : Port} : g.Ends a b source target → source.type ≠ target.type →
      Refuses g new a b (.typeMismatch source.type target.type)
  | wouldCreateCycle {source target : Port} : g.Ends a b source target →
      source.type = target.type → ¬ Acyclic (g.rewired new source target) →
      Refuses g new a b .wouldCreateCycle

/-! ## The guard against cycles -/

/-- The search on the edges at hand answers for the edges to come. -/
theorem WellFormed.acyclic_rewired_iff (h : g.WellFormed) (hacyclic : Acyclic g.edges)
    (htarget : target ∈ g.ports) :
    Acyclic (g.rewired new source target) ↔ ¬ Path g.edges target.node source.node := by
  constructor
  · intro hrewired hback
    have hkept : Path (g.edges.filter fun e => e.target.port != target.id)
        target.node source.node := by
      refine hacyclic.path_filter hback fun e he hleaves => bne_iff_ne.mpr fun hport => ?_
      have hto := ((h.edges_join e he).target_eq_iff h htarget).mpr hport
      exact hleaves (congrArg Endpoint.node hto)
    have hnew : Leads (g.rewired new source target) source.node target.node :=
      ⟨_, List.mem_append_right _ (List.mem_singleton_self _), rfl, rfl⟩
    exact hrewired _ (TransGen.head' hnew (path_mono (List.subset_append_left _ _) hkept))
  · intro hback
    refine acyclic_append_singleton (hacyclic.of_subset (List.filter_subset_self _)) fun hpath => ?_
    exact hback (path_mono (List.filter_subset_self _) hpath)

/-! ## What the checks find -/

theorem WellFormed.port?_eq_none (h : g.WellFormed) {id : PortId} (hid : id ∉ g.portIds) :
    g.port? id = none := by
  cases hport : g.port? id with
  | none => rfl
  | some p =>
      obtain ⟨hp, rfl⟩ := h.port?_eq_some_iff.mp hport
      exact absurd (List.mem_map_of_mem hp) hid

theorem exists_hasPort {id : PortId} (hid : id ∈ g.portIds) : ∃ n p, g.HasPort id n p := by
  obtain ⟨p, hp, rfl⟩ := List.mem_map.mp hid
  obtain ⟨n, hn, hpn⟩ := mem_ports.mp hp
  exact ⟨n, p, hn, hpn, rfl⟩

namespace HasPort

variable {id : PortId} {n : Node} {p : Port} (hp : g.HasPort id n p)
include hp

theorem mem_ports : p ∈ g.ports := Graph.mem_ports.mpr ⟨n, hp.node_mem, hp.port_mem⟩

theorem port?_eq (h : g.WellFormed) : g.port? id = some p :=
  h.port?_eq_some_iff.mpr ⟨hp.mem_ports, hp.id_eq⟩

theorem node_eq (h : g.WellFormed) : p.node = n.id :=
  (h.nodes_made n hp.node_mem).ports_own p hp.port_mem

end HasPort

/-- Two ports of different nodes that face opposite ways are an output and an input. -/
theorem HasPort.exists_ends (h : g.WellFormed) {n m : Node} {p q : Port} (hp : g.HasPort a n p)
    (hq : g.HasPort b m q) (hnodes : n.id ≠ m.id) (hdirections : p.direction ≠ q.direction) :
    ∃ source target, g.Ends a b source target := by
  have hne : p.node ≠ q.node := by rwa [hp.node_eq h, hq.node_eq h]
  cases hpd : p.direction with
  | output =>
      have hqd : q.direction = .input := by
        cases hqd : q.direction with
        | input => rfl
        | output => exact absurd (hpd.trans hqd.symm) hdirections
      exact ⟨p, q, .inl ⟨hp.id_eq, hq.id_eq⟩, hp.mem_ports, hq.mem_ports, hne, hpd, hqd⟩
  | input =>
      have hqd : q.direction = .output := by
        cases hqd : q.direction with
        | output => rfl
        | input => exact absurd (hpd.trans hqd.symm) hdirections
      exact ⟨q, p, .inr ⟨hq.id_eq, hp.id_eq⟩, hq.mem_ports, hp.mem_ports, hne.symm, hqd, hpd⟩

/-- Whichever two ports are named, they can be connected or some condition is the first to fail. -/
theorem WellFormed.refuses_or_connectable (h : g.WellFormed) (new : EdgeId) (a b : PortId) :
    (∃ cause, g.Refuses new a b cause) ∨ ∃ source target, g.Connectable new a b source target := by
  by_cases ha : a ∈ g.portIds
  swap
  · exact .inl ⟨_, .firstMissing ha⟩
  by_cases hb : b ∈ g.portIds
  swap
  · exact .inl ⟨_, .secondMissing ha hb⟩
  obtain ⟨n, p, hp⟩ := exists_hasPort ha
  obtain ⟨m, q, hq⟩ := exists_hasPort hb
  by_cases hnodes : n.id = m.id
  · obtain rfl := h.node_unique hp.node_mem hq.node_mem hnodes
    exact .inl ⟨_, .sameNode hp hq⟩
  by_cases hdirections : p.direction = q.direction
  · exact .inl ⟨_, .sameDirection hp hq hnodes hdirections⟩
  obtain ⟨source, target, hends⟩ := hp.exists_ends h hq hnodes hdirections
  by_cases htypes : source.type = target.type
  swap
  · exact .inl ⟨_, .typeMismatch hends htypes⟩
  by_cases hcycle : Acyclic (g.rewired new source target)
  · exact .inr ⟨source, target, hends, htypes, hcycle⟩
  · exact .inl ⟨_, .wouldCreateCycle hends htypes hcycle⟩

/-- For an output and an input of different nodes, given in either order, two checks are left. -/
theorem Ends.wiring_eq (h : g.WellFormed) (hends : g.Ends a b source target) :
    g.wiring a b =
      if source.type = target.type then
        if g.reaches target.node source.node then .error .wouldCreateCycle else .ok (source, target)
      else .error (.typeMismatch source.type target.type) := by
  have hsource : g.port? source.id = some source :=
    h.port?_eq_some_iff.mpr ⟨hends.source_mem, rfl⟩
  have htarget : g.port? target.id = some target :=
    h.port?_eq_some_iff.mpr ⟨hends.target_mem, rfl⟩
  have hchecks : (if !source.type.fits target.type then
        .error (.typeMismatch source.type target.type)
      else if g.reaches target.node source.node then .error .wouldCreateCycle
      else .ok (source, target) : Except ConnectError (Port × Port)) =
      if source.type = target.type then
        if g.reaches target.node source.node then .error .wouldCreateCycle else .ok (source, target)
      else .error (.typeMismatch source.type target.type) := by
    by_cases htypes : source.type = target.type <;> simp [PortType.fits, htypes]
  rw [← hchecks]
  obtain ⟨rfl, rfl⟩ | ⟨rfl, rfl⟩ := hends.named
  · simp only [wiring, hsource, htarget, hends.nodes_differ, hends.source_sends,
      hends.target_receives, orient, if_false, reduceCtorEq]
  · simp only [wiring, hsource, htarget, hends.nodes_differ.symm, hends.source_sends,
      hends.target_receives, orient, if_false, reduceCtorEq]

section

variable (h : g.WellFormed) (hacyclic : Acyclic g.edges)
include h hacyclic

theorem Connectable.wiring_eq (hconnectable : g.Connectable new a b source target) :
    g.wiring a b = .ok (source, target) := by
  have hback := (h.acyclic_rewired_iff hacyclic hconnectable.target_mem).mp hconnectable.acyclic
  rw [hconnectable.toEnds.wiring_eq h, if_pos hconnectable.types_agree, if_neg]
  rwa [reaches_eq_true_iff]

theorem Refuses.wiring_eq {cause : ConnectError} (hrefuses : g.Refuses new a b cause) :
    g.wiring a b = .error cause := by
  cases hrefuses with
  | firstMissing ha => simp only [wiring, h.port?_eq_none ha]
  | secondMissing ha hb =>
      obtain ⟨n, p, hp⟩ := exists_hasPort ha
      simp only [wiring, hp.port?_eq h, h.port?_eq_none hb]
  | sameNode hp hq =>
      have hnodes := (hp.node_eq h).trans (hq.node_eq h).symm
      simp only [wiring, hp.port?_eq h, hq.port?_eq h, hnodes, if_true]
  | sameDirection hp hq hne hdirections =>
      rw [← hp.node_eq h, ← hq.node_eq h] at hne
      simp only [wiring, hp.port?_eq h, hq.port?_eq h, hne, hdirections, if_false, if_true]
  | typeMismatch hends htypes => rw [hends.wiring_eq h, if_neg htypes]
  | wouldCreateCycle hends htypes hcycle =>
      rw [h.acyclic_rewired_iff hacyclic hends.target_mem, not_not] at hcycle
      rw [hends.wiring_eq h, if_pos htypes, if_pos (reaches_eq_true_iff.mpr hcycle)]

theorem connect_eq_error_iff {cause : ConnectError} :
    g.connect new a b = .error cause ↔ g.Refuses new a b cause := by
  constructor
  · intro hconnect
    rcases h.refuses_or_connectable new a b with ⟨other, hrefuses⟩ | ⟨source, target, hconnectable⟩
    · rw [connect, hrefuses.wiring_eq h hacyclic, Except.map, Except.error.injEq] at hconnect
      exact hconnect ▸ hrefuses
    · rw [connect, hconnectable.wiring_eq h hacyclic] at hconnect
      cases hconnect
  · intro hrefuses
    rw [connect, hrefuses.wiring_eq h hacyclic]
    rfl

theorem exists_connect_eq_ok_iff :
    (∃ g', g.connect new a b = .ok g') ↔ ∃ source target, g.Connectable new a b source target := by
  constructor
  · rintro ⟨g', hconnect⟩
    rcases h.refuses_or_connectable new a b with ⟨cause, hrefuses⟩ | hconnectable
    · rw [(connect_eq_error_iff h hacyclic).mpr hrefuses] at hconnect
      cases hconnect
    · exact hconnectable
  · rintro ⟨source, target, hconnectable⟩
    rw [connect, hconnectable.wiring_eq h hacyclic]
    exact ⟨_, rfl⟩

end

/-- In a graph that a session can come to, two ports are connected exactly when they are an output
and an input of different nodes, of one type, and the edges form no cycle after the new one has
taken the place of the old.  Otherwise the first condition that fails is reported and nothing
changes, but for the notice where one is left, and there is no edge to speak of. -/
theorem reachable_connection_rule (h : g.Reachable K) (new : EdgeId) (a b : PortId) :
    ((∃ g', g.connect new a b = .ok g') ↔
      ∃ source target, g.Connectable new a b source target) ∧
    (∀ cause, g.connect new a b = .error cause ↔ g.Refuses new a b cause) ∧
    (∀ (w : Wiring) (refused : ConnectError → Notice), w.graph = g →
      ∀ cause, g.Refuses ⟨w.ids.next.1⟩ a b cause →
        w.connect a b refused = { w with notices := w.notices ++ [refused cause] }) ∧
    ∀ w : Workspace, w.graph = g →
      (w.connect? a b = none ↔ ∃ cause, g.Refuses ⟨w.ids.next.1⟩ a b cause) := by
  have hwf := h.sound.wellFormed
  have hacyclic := h.acyclic
  refine ⟨exists_connect_eq_ok_iff hwf hacyclic, fun cause => connect_eq_error_iff hwf hacyclic,
    ?_, ?_⟩
  · rintro w refused rfl cause hrefuses
    exact Wiring.connect_of_error ((connect_eq_error_iff hwf hacyclic).mpr hrefuses) refused
  · rintro w rfl
    simp only [← connect_eq_error_iff hwf hacyclic]
    exact Workspace.connect?_eq_none_iff

/-- In the sample the greeting moves back to the branch that it was taken from, although the edge
that has to give way is still there when the search is made; but it does not lead on to the test. -/
theorem sample_connection_rule :
    let port (id : Nat) : PortId := ⟨⟨BitVec.ofNat 128 id⟩⟩
    let w : Workspace := { graph := sample, ids := laterIds }
    (sample.Reachable fun _ => True) ∧
    sample.edgesTo (port 12) ≠ [] ∧
    (∃ source target, sample.Connectable ⟨w.ids.next.1⟩ (port 12) (port 5) source target) ∧
    sample.Refuses ⟨w.ids.next.1⟩ (port 14) (port 3) .wouldCreateCycle ∧
    w.connect? (port 14) (port 3) = none := by
  intro port w
  have hreach : sample.Reachable fun _ => True := sample_reachable fun _ _ => trivial
  have hback := reachable_connection_rule hreach ⟨w.ids.next.1⟩ (port 12) (port 5)
  have hon := reachable_connection_rule hreach ⟨w.ids.next.1⟩ (port 14) (port 3)
  have hrefuses : sample.Refuses ⟨w.ids.next.1⟩ (port 14) (port 3) .wouldCreateCycle :=
    (hon.2.1 _).mp rfl
  exact ⟨hreach, by decide, hback.1.mp ⟨_, rfl⟩, hrefuses, (hon.2.2.2 w rfl).mpr ⟨_, hrefuses⟩⟩

end Graph

end ScriptGraph
