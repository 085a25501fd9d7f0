import Mathlib.Data.List.Pairwise
import ScriptGraph.Emit.Walk
import ScriptGraph.Proofs.Palette.Regular
import ScriptGraph.Proofs.Session.Invariant

/-!
# The flow of control

An output drives the node at the end of the first edge that begins at it
(`Graph.WellFormed.execTarget?_eq_some_iff`), so a walk goes downstream
(`Graph.WellFormed.leads_of_execTarget?`).  In a regular drawing control comes to a node from one
place only (`Drawing.Regular.driver_unique`), because a node has one control input and an input one
edge, and it never comes to the definition of a function or to the start.
-/

namespace ScriptGraph

open Relation

/-! ## Along an output -/

/-- The first edge that begins at a port of one node ends at the other. -/
def Graph.FirstEdgeTo (g : Graph) (n : Node) (p : Port) (m : Node) : Prop :=
  m ∈ g.nodes ∧ ∃ e, g.edges.find? (fun e => e.source == ⟨n.id, p.id⟩) = some e ∧
    e.target.node = m.id

theorem Graph.FirstEdgeTo.exists_edge {g : Graph} {n m : Node} {p : Port}
    (h : g.FirstEdgeTo n p m) :
    m ∈ g.nodes ∧ ∃ e ∈ g.edges, e.source = ⟨n.id, p.id⟩ ∧ e.target.node = m.id := by
  obtain ⟨hm, e, hfirst, hid⟩ := h
  refine ⟨hm, e, List.mem_of_find?_eq_some hfirst, ?_, hid⟩
  simpa using List.find?_some hfirst

section

variable {g : Graph} (h : g.WellFormed) {n m : Node} {p : Port}
include h

/-- An output lists the edges that begin at it, in the order of the edge list. -/
theorem Graph.WellFormed.edges_of_output (hn : n ∈ g.nodes) (hp : p ∈ n.outputs) :
    p.edges = (g.edges.filter fun e => e.source == ⟨n.id, p.id⟩).map Edge.id := by
  have hmem := Node.mem_ports_of_mem_outputs hp
  have hport : p ∈ g.ports := Graph.mem_ports.mpr ⟨n, hn, hmem⟩
  have hsend := (h.nodes_made n hn).outputs_send p hp
  have hown := (h.nodes_made n hn).ports_own p hmem
  rw [h.ports_wired p hport, incident]
  refine congrArg (List.map Edge.id) (List.filter_congr fun e he => ?_)
  rw [Bool.eq_iff_iff, beq_iff_eq, (h.edges_join e he).touchesPort_output_iff h hport hsend,
    Port.endpoint, hown]

/-- The oldest edge at an output is the first one that begins there. -/
theorem Graph.WellFormed.firstEdge?_of_output (hn : n ∈ g.nodes) (hp : p ∈ n.outputs) :
    g.firstEdge? p.id = g.edges.find? fun e => e.source == ⟨n.id, p.id⟩ := by
  have hport : g.port? p.id = some p := h.port?_eq_some_iff.mpr
    ⟨Graph.mem_ports.mpr ⟨n, hn, Node.mem_ports_of_mem_outputs hp⟩, rfl⟩
  rw [Graph.firstEdge?, hport, Option.bind_some, h.edges_of_output hn hp, List.head?_map,
    List.head?_filter]
  cases hfirst : g.edges.find? fun e => e.source == ⟨n.id, p.id⟩ with
  | none => rfl
  | some e => exact h.edge?_eq_some_iff.mpr ⟨List.mem_of_find?_eq_some hfirst, rfl⟩

/-- An output drives the node at the end of the first edge that begins at it. -/
theorem Graph.WellFormed.execTarget?_eq_some_iff (hn : n ∈ g.nodes) (hp : p ∈ n.outputs) :
    g.execTarget? p.id = some m ↔ g.FirstEdgeTo n p m := by
  rw [Graph.execTarget?, h.firstEdge?_of_output hn hp, Option.bind_eq_some_iff, Graph.FirstEdgeTo]
  simp only [h.node?_eq_some_iff]
  constructor
  · rintro ⟨e, hfirst, hm, hid⟩
    exact ⟨hm, e, hfirst, hid.symm⟩
  · rintro ⟨hm, e, hfirst, hid⟩
    exact ⟨e, hfirst, hm, hid.symm⟩

/-- The node that an output drives stands at the end of an edge from it. -/
theorem Graph.WellFormed.edge_of_execTarget? (hn : n ∈ g.nodes) (hp : p ∈ n.outputs)
    (htarget : g.execTarget? p.id = some m) :
    m ∈ g.nodes ∧ ∃ e ∈ g.edges, ∃ q ∈ m.inputs,
      e.source = ⟨n.id, p.id⟩ ∧ e.target = ⟨m.id, q.id⟩ ∧ p.type = q.type := by
  obtain ⟨hm, e, he, hsource, hmid⟩ := ((h.execTarget?_eq_some_iff hn hp).mp htarget).exists_edge
  -- the ends of the edge are the output asked for and an input of the node found
  obtain ⟨s, hs, t, ht, p', hp', q, hq, hfrom, hto, -, htype⟩ := h.edges_join e he
  rw [hto] at hmid
  obtain rfl := h.node_unique hm ht hmid.symm
  have hsame : p' = p := by
    refine h.port_unique (Graph.mem_ports.mpr ⟨s, hs, Node.mem_ports_of_mem_outputs hp'⟩)
      (Graph.mem_ports.mpr ⟨n, hn, Node.mem_ports_of_mem_outputs hp⟩) ?_
    exact congrArg Endpoint.port (hfrom.symm.trans hsource)
  exact ⟨hm, e, he, q, hq, hsource, hto, hsame ▸ htype⟩

/-- An output leads downstream. -/
theorem Graph.WellFormed.leads_of_execTarget? (hn : n ∈ g.nodes) (hp : p ∈ n.outputs)
    (htarget : g.execTarget? p.id = some m) : m ∈ g.nodes ∧ Leads g.edges n.id m.id := by
  obtain ⟨hm, e, he, q, -, hsource, htarget, -⟩ := h.edge_of_execTarget? hn hp htarget
  exact ⟨hm, e, he, by rw [hsource], by rw [htarget]⟩

/-! ## Along an input -/

theorem Graph.WellFormed.firstEdge?_eq_some_iff (hp : p ∈ g.ports) {e : Edge} :
    g.firstEdge? p.id = some e ↔ e ∈ g.edges ∧ p.edges.head? = some e.id := by
  have hport : g.port? p.id = some p := h.port?_eq_some_iff.mpr ⟨hp, rfl⟩
  rw [Graph.firstEdge?, hport, Option.bind_some, Option.bind_eq_some_iff]
  constructor
  · rintro ⟨id, hhead, hedge⟩
    obtain ⟨he, rfl⟩ := h.edge?_eq_some_iff.mp hedge
    exact ⟨he, hhead⟩
  · rintro ⟨he, hhead⟩
    exact ⟨e.id, hhead, h.edge?_eq_some_iff.mpr ⟨he, rfl⟩⟩

/-- An input is fed along an edge from an output of the same type. -/
theorem Graph.WellFormed.edge_of_sourceOf? (hn : n ∈ g.nodes) (hp : p ∈ n.inputs) {q : Port}
    (hsource : g.sourceOf? p.id = some (m, q)) :
    m ∈ g.nodes ∧ q ∈ m.outputs ∧ ∃ e ∈ g.edges,
      e.source = ⟨m.id, q.id⟩ ∧ e.target = ⟨n.id, p.id⟩ ∧ q.type = p.type := by
  have hport : p ∈ g.ports := Graph.mem_ports.mpr ⟨n, hn, Node.mem_ports_of_mem_inputs hp⟩
  have hreceive := (h.nodes_made n hn).inputs_receive p hp
  have hown := (h.nodes_made n hn).ports_own p (Node.mem_ports_of_mem_inputs hp)
  obtain ⟨e, hfirst, hrest⟩ := Option.bind_eq_some_iff.mp hsource
  obtain ⟨he, hhead⟩ := (h.firstEdge?_eq_some_iff hport).mp hfirst
  have hjoin := h.edges_join e he
  have htarget : e.target = p.endpoint := (hjoin.touchesPort_input_iff h hport hreceive).mp
    ((h.mem_edges he hport).mp (List.mem_of_mem_head? hhead))
  obtain ⟨s, hnode, hsame⟩ := Option.bind_eq_some_iff.mp hrest
  obtain ⟨q', hq', hpair⟩ := Option.map_eq_some_iff.mp hsame
  obtain ⟨rfl, rfl⟩ := Prod.mk.inj hpair
  obtain ⟨hs, hsid⟩ := h.node?_eq_some_iff.mp hnode
  obtain ⟨s', hs', t, ht, out, hout, inp, hinp, hfrom, hto, -, htype⟩ := hjoin
  -- the two ends of the edge are the output found and the input asked for
  rw [hfrom] at hsid hq'
  obtain rfl := h.node_unique hs hs' hsid
  obtain ⟨hqMem, hqId⟩ :=
    (find?_eq_some_iff_mem Port.id (h.node_portIds_nodup hs)).mp hq'
  have hsameOut : q' = out := h.port_unique (Graph.mem_ports.mpr ⟨s, hs, hqMem⟩)
    (Graph.mem_ports.mpr ⟨s, hs, Node.mem_ports_of_mem_outputs hout⟩) hqId
  have hsameIn : inp = p := by
    refine h.port_unique (Graph.mem_ports.mpr ⟨t, ht, Node.mem_ports_of_mem_inputs hinp⟩) hport ?_
    rw [hto] at htarget
    exact congrArg Endpoint.port htarget
  subst hsameOut hsameIn
  exact ⟨hs, hout, e, he, hfrom, by rw [htarget, Port.endpoint, hown], htype⟩

/-- The node that feeds an input stands at the start of an edge to it. -/
theorem Graph.WellFormed.leads_of_sourceOf? (hn : n ∈ g.nodes) (hp : p ∈ n.inputs) {q : Port}
    (hsource : g.sourceOf? p.id = some (m, q)) : m ∈ g.nodes ∧ Leads g.edges m.id n.id := by
  obtain ⟨hm, -, e, he, hfrom, hto, -⟩ := h.edge_of_sourceOf? hn hp hsource
  exact ⟨hm, e, he, by rw [hfrom], by rw [hto]⟩

end

namespace Drawing

variable {D : Drawing} {n m : Node}

theorem leads_of_next? (h : D.graph.WellFormed) (hn : n ∈ D.graph.nodes) {output : String}
    (hnext : D.next? n output = some m) :
    m ∈ D.graph.nodes ∧ Leads D.graph.edges n.id m.id := by
  obtain ⟨p, hp, htarget⟩ := Option.bind_eq_some_iff.mp hnext
  exact h.leads_of_execTarget? hn (List.mem_of_find?_eq_some hp) htarget

theorem leads_of_successor? (h : D.graph.WellFormed) (hn : n ∈ D.graph.nodes)
    (hnext : D.successor? n = some m) :
    m ∈ D.graph.nodes ∧ Leads D.graph.edges n.id m.id := by
  obtain ⟨p, hp, htarget⟩ := Option.bind_eq_some_iff.mp hnext
  exact h.leads_of_execTarget? hn (List.mem_of_find?_eq_some hp) htarget

theorem leads_of_source? (h : D.graph.WellFormed) (hn : n ∈ D.graph.nodes) {input : String}
    (hsource : D.source? n input = some m) :
    m ∈ D.graph.nodes ∧ Leads D.graph.edges m.id n.id := by
  obtain ⟨p, hp, hfound⟩ := Option.bind_eq_some_iff.mp hsource
  obtain ⟨⟨m', q⟩, hpair, rfl⟩ := Option.map_eq_some_iff.mp hfound
  exact h.leads_of_sourceOf? hn (List.mem_of_find?_eq_some hp) hpair

/-! ## Regular drawings -/

/-- A well-formed drawing without cycles, all of whose nodes are of regular kinds that the palette
has. -/
structure Regular (D : Drawing) : Prop where
  wellFormed : D.graph.WellFormed
  acyclic : Acyclic D.graph.edges
  kinds : ∀ n ∈ D.graph.nodes, ∃ kind, D.palette.get? n.tag = some kind ∧ n.OfKind kind ∧
    kind.Regular

/-- A node drawn with the standard palette is of a built-in kind. -/
theorem exists_builtin {g : Graph} (h : g.Reachable Palette.standard.Has) (hn : n ∈ g.nodes) :
    ∃ kind ∈ NodeKind.builtin, n.OfKind kind ∧
      (⟨g, .standard⟩ : Drawing).behaviour? n = some kind.behaviour := by
  obtain ⟨kind, hhas, hof⟩ := h.sound.nodes_made n hn
  have hget : Palette.standard.get? kind.tag = some kind := hhas
  refine ⟨kind, Palette.standard_has_iff.mp hhas, hof, ?_⟩
  rw [behaviour?, Palette.behaviour?, hof.tag_eq, hget, Option.map_some]

/-- Whatever was drawn with the standard palette is regular. -/
theorem regular_of_reachable {g : Graph} (h : g.Reachable Palette.standard.Has) :
    Regular ⟨g, .standard⟩ where
  wellFormed := h.sound.wellFormed
  acyclic := h.acyclic
  kinds n hn := by
    obtain ⟨kind, hhas, hof⟩ := h.sound.nodes_made n hn
    refine ⟨kind, ?_, hof, NodeKind.regular_of_mem_builtin kind (Palette.standard_has_iff.mp hhas)⟩
    rw [hof.tag_eq]
    exact hhas

/-- A control output of one node drives another node. -/
structure Drives (D : Drawing) (n : Node) (p : Port) (m : Node) : Prop where
  mem_outputs : p ∈ n.outputs
  carries : p.type = .exec
  target : D.graph.execTarget? p.id = some m

theorem drives_of_successor? (hnext : D.successor? n = some m) : ∃ p, D.Drives n p m := by
  obtain ⟨p, hp, htarget⟩ := Option.bind_eq_some_iff.mp hnext
  have htype : p.type = .exec := by simpa using List.find?_some hp
  exact ⟨p, List.mem_of_find?_eq_some hp, htype, htarget⟩

namespace Regular

variable (h : D.Regular)
include h

theorem behaviour?_eq (hn : n ∈ D.graph.nodes) :
    ∃ kind, D.behaviour? n = some kind.behaviour ∧ n.OfKind kind ∧ kind.Regular := by
  obtain ⟨kind, hget, hof, hreg⟩ := h.kinds n hn
  exact ⟨kind, by rw [behaviour?, Palette.behaviour?, hget, Option.map_some], hof, hreg⟩

/-- Where a control structure goes on, it does so through a control output. -/
theorem drives_of_next? (hn : n ∈ D.graph.nodes) {behaviour : Behaviour}
    (hbehaviour : D.behaviour? n = some behaviour) {output : String}
    (houtlet : output ∈ behaviour.outlets) (hnext : D.next? n output = some m) :
    ∃ p, D.Drives n p m ∧ p.name = output := by
  obtain ⟨p, hp, htarget⟩ := Option.bind_eq_some_iff.mp hnext
  have hname : p.name = output := by simpa using List.find?_some hp
  have hmem := List.mem_of_find?_eq_some hp
  obtain ⟨kind, hkind, hof, hreg⟩ := h.behaviour?_eq hn
  obtain rfl := Option.some.inj (hbehaviour.symm.trans hkind)
  have hspec : p.spec ∈ kind.outputs := hof.outputs_eq ▸ List.mem_map_of_mem hmem
  refine ⟨p, ⟨hmem, hreg.outlets_exec p.spec hspec ?_, htarget⟩, hname⟩
  change p.name ∈ kind.behaviour.outlets
  rwa [hname]

/-- No two inputs of a node carry control. -/
theorem exec_input_unique (hn : n ∈ D.graph.nodes) {p q : Port} (hp : p ∈ n.inputs)
    (hq : q ∈ n.inputs) (hpt : p.type = .exec) (hqt : q.type = .exec) : p = q := by
  obtain ⟨kind, -, hof, hreg⟩ := h.kinds n hn
  have hpair : n.inputs.Pairwise fun p q => ¬ (p.type = .exec ∧ q.type = .exec) := by
    have hspecs := hreg.exec_input_single
    rwa [← hof.inputs_eq, List.pairwise_map] at hspecs
  have hsymm : Std.Symm fun p q : Port => ¬ (p.type = .exec ∧ q.type = .exec) :=
    ⟨fun _ _ hnot hboth => hnot hboth.symm⟩
  by_contra hne
  exact hpair.forall hp hq hne ⟨hpt, hqt⟩

/-- Control comes to a node through one control input, and from one output of one node. -/
theorem driver_unique {n' : Node} {p p' : Port} (hn : n ∈ D.graph.nodes)
    (hn' : n' ∈ D.graph.nodes) (hdrives : D.Drives n p m) (hdrives' : D.Drives n' p' m) :
    n = n' ∧ p = p' := by
  have hwf := h.wellFormed
  obtain ⟨hm, e, he, q, hq, hsource, htarget, htype⟩ :=
    hwf.edge_of_execTarget? hn hdrives.mem_outputs hdrives.target
  obtain ⟨-, e', he', q', hq', hsource', htarget', htype'⟩ :=
    hwf.edge_of_execTarget? hn' hdrives'.mem_outputs hdrives'.target
  have hport : q = q' := h.exec_input_unique hm hq hq' (htype ▸ hdrives.carries)
    (htype' ▸ hdrives'.carries)
  -- both edges end at the one control input of the node, and an input has one edge
  have hedge : e = e' := by
    refine List.inj_on_of_nodup_map hwf.inputs_single he he' ?_
    rw [htarget, htarget', hport]
  rw [← hedge, hsource] at hsource'
  obtain ⟨hnode, hid⟩ := Endpoint.mk.inj hsource'
  refine ⟨hwf.node_unique hn hn' hnode, hwf.port_unique ?_ ?_ hid⟩
  · exact Graph.mem_ports.mpr ⟨n, hn, Node.mem_ports_of_mem_outputs hdrives.mem_outputs⟩
  · exact Graph.mem_ports.mpr ⟨n', hn', Node.mem_ports_of_mem_outputs hdrives'.mem_outputs⟩

/-- A start and the definition of a function have no inputs. -/
theorem inputs_of_root (hn : n ∈ D.graph.nodes)
    (htag : n.tag ∈ [Graph.startTag, NodeKind.function.tag]) : n.inputs = [] := by
  obtain ⟨kind, -, hof, hreg⟩ := h.kinds n hn
  rw [hof.tag_eq] at htag
  rw [← List.map_eq_nil_iff (f := Port.spec), hof.inputs_eq, hreg.roots_closed htag]

/-- Nothing drives a start or the definition of a function. -/
theorem not_root_of_drives {p : Port} (hn : n ∈ D.graph.nodes) (hdrives : D.Drives n p m) :
    m.tag ∉ [Graph.startTag, NodeKind.function.tag] := by
  intro htag
  obtain ⟨hm, -, -, q, hq, -⟩ :=
    h.wellFormed.edge_of_execTarget? hn hdrives.mem_outputs hdrives.target
  rw [h.inputs_of_root hm htag] at hq
  cases hq

/-- The control input that control comes through has an edge. -/
theorem exec_input_connected {p q : Port} (hn : n ∈ D.graph.nodes) (hdrives : D.Drives n p m)
    (hq : q ∈ m.inputs) (hqt : q.type = .exec) : q.isConnected = true := by
  have hwf := h.wellFormed
  obtain ⟨hm, e, he, q', hq', -, htarget, htype⟩ :=
    hwf.edge_of_execTarget? hn hdrives.mem_outputs hdrives.target
  obtain rfl := h.exec_input_unique hm hq hq' hqt (htype ▸ hdrives.carries)
  have hport : q ∈ D.graph.ports :=
    Graph.mem_ports.mpr ⟨m, hm, Node.mem_ports_of_mem_inputs hq⟩
  have hmem : e.id ∈ q.edges := (hwf.mem_edges he hport).mpr (by simp [Edge.touchesPort, htarget])
  simpa [Port.isConnected] using List.ne_nil_of_mem hmem

/-- What control comes to is a plain statement, a branch or a loop. -/
theorem behaviour_of_drives {p : Port} (hn : n ∈ D.graph.nodes) (hdrives : D.Drives n p m) :
    ∃ behaviour, D.behaviour? m = some behaviour ∧
      (behaviour.isPlain = true ∨ behaviour ∈ [.branch, .forEach, .repeatWhile]) := by
  have hm := (h.wellFormed.leads_of_execTarget? hn hdrives.mem_outputs hdrives.target).1
  obtain ⟨kind, hbehaviour, hof, hreg⟩ := h.behaviour?_eq hm
  refine ⟨kind.behaviour, hbehaviour, ?_⟩
  have hnot : kind.behaviour ≠ .define := by
    intro hdefine
    refine h.not_root_of_drives hn hdrives ?_
    rw [hof.tag_eq, hreg.define_iff.mp hdefine]
    simp
  simpa [hnot] using hreg.behaviour_cases

end Regular

end Drawing

end ScriptGraph
