import ScriptGraph.Palette.Standard
import ScriptGraph.Proofs.Session.Invariant

/-!
# The records of a reachable graph agree

However a graph came about, its nodes are found under their identifiers, the index of ports names
the owner of every port and of nothing else, every edge runs from an output to an input of another
node, and the ports list their edges in the order of the edge list (`reachable_records_agree`).

For concrete graphs there is `Graph.sketch`, which puts in a node of each kind of a list and then
draws wires, with identifiers that count up.  Sketches are reachable (`Graph.sketch_reachable`).
-/

namespace ScriptGraph

variable {K : NodeKind → Prop}

/-- The source that counts up from zero. -/
def IdSource.counting : IdSource :=
  ⟨fun i => ⟨BitVec.ofNat 128 i⟩, 0⟩

namespace Graph

/-! ## Sketches -/

/-- Put in a node of a kind, unless it is refused. -/
def place (sketch : Graph × IdSource) (kind : NodeKind) : Graph × IdSource :=
  let (n, ids) := kind.instantiate sketch.2
  ((sketch.1.insert n).toOption.getD sketch.1, ids)

/-- Connect two ports by an edge with a new identifier, unless it is refused. -/
def wireUp (g : Graph) (wire : EdgeId × PortId × PortId) : Graph :=
  if wire.1 ∈ g.edges.map Edge.id then g
  else (g.connect wire.1 wire.2.1 wire.2.2).toOption.getD g

/-- A wire by the numbers of its edge and of the ports that it joins. -/
def wire (edge source target : Nat) : EdgeId × PortId × PortId :=
  (⟨⟨BitVec.ofNat 128 edge⟩⟩, ⟨⟨BitVec.ofNat 128 source⟩⟩, ⟨⟨BitVec.ofNat 128 target⟩⟩)

/-- A graph with a node of each kind and the given wires. -/
def sketch (kinds : List NodeKind) (wires : List (EdgeId × PortId × PortId)) : Graph :=
  wires.foldl wireUp (kinds.foldl place (∅, .counting)).1

theorem place_reachable {s : Graph × IdSource} (h : s.1.Reachable K) {kind : NodeKind}
    (hkind : K kind) : (place s kind).1.Reachable K := by
  have hplace : (place s kind).1 = (s.1.insert (kind.instantiate s.2).1).toOption.getD s.1 := rfl
  rw [hplace]
  cases hinsert : s.1.insert (kind.instantiate s.2).1 with
  | error cause => exact h
  | ok g =>
      obtain ⟨loose, hrun⟩ := h
      have hmade := hrun.tail (.make _ s.2 hkind)
      exact ⟨_, hmade.tail (.insert _ List.mem_cons_self hinsert)⟩

theorem wireUp_reachable {g : Graph} (h : g.Reachable K) (wire : EdgeId × PortId × PortId) :
    (g.wireUp wire).Reachable K := by
  unfold wireUp
  split
  · exact h
  · rename_i hnew
    cases hconnect : g.connect wire.1 wire.2.1 wire.2.2 with
    | error cause => exact h
    | ok g' =>
        obtain ⟨loose, hrun⟩ := h
        exact ⟨loose, hrun.tail (.connect _ hnew hconnect)⟩

/-- A sketch is reachable from the kinds that it uses. -/
theorem sketch_reachable {kinds : List NodeKind} (hkinds : ∀ kind ∈ kinds, K kind)
    (wires : List (EdgeId × PortId × PortId)) : (sketch kinds wires).Reachable K := by
  have hnodes : (kinds.foldl place (∅, .counting)).1.Reachable K := by
    refine List.foldlRecOn kinds place (motive := fun s => s.1.Reachable K) ?_ ?_
    · exact ⟨[], .refl⟩
    · intro s hs kind hkind
      exact place_reachable hs (hkinds kind hkind)
  exact List.foldlRecOn wires wireUp hnodes fun g hg wire _ => wireUp_reachable hg wire

/-- A test with an empty branch, a greeting in the other one and a call after it, and a function
that ends the script.  The fourth wire, given from input to output, takes the greeting away from the
first branch. -/
def sample : Graph :=
  sketch [.start, .branch, .fileExists, .echo, .call, .function, .exit]
    [wire 0 1 3, wire 1 10 4, wire 2 5 12, wire 3 12 6, wire 4 7 16, wire 5 19 21]

theorem sample_reachable (hbuiltin : ∀ kind ∈ NodeKind.builtin, K kind) : sample.Reachable K := by
  refine sketch_reachable (fun kind hkind => hbuiltin kind ?_) _
  revert kind
  simp [NodeKind.builtin, NodeKind.flow, NodeKind.commands, NodeKind.storage]

/-! ## The records -/

/-- An input has no more than one edge. -/
theorem WellFormed.edges_length_le_one {g : Graph} (h : g.WellFormed) {n : Node} (hn : n ∈ g.nodes)
    {p : Port} (hp : p ∈ n.inputs) : p.edges.length ≤ 1 := by
  have hport : p ∈ g.ports := mem_ports.mpr ⟨n, hn, Node.mem_ports_of_mem_inputs hp⟩
  have hdir : p.direction = .input := (h.nodes_made n hn).inputs_receive p hp
  have hlist : p.edges.length = (g.edges.map fun e => e.target.port).count p.id := by
    rw [h.ports_wired p hport, incident, List.length_map, List.count_eq_countP, List.countP_map,
      List.countP_eq_length_filter]
    congr 1
    refine List.filter_congr fun e he => Bool.eq_iff_iff.mpr ?_
    have hjoin := h.edges_join e he
    rw [hjoin.touchesPort_input_iff h hport hdir, hjoin.target_eq_iff h hport]
    simp
  rw [hlist]
  exact List.nodup_iff_count_le_one.mp h.inputs_single p.id

/-- In every graph that a session can come to, the nodes, the index of ports, the edge list and the
edges listed at the ports agree. -/
theorem reachable_records_agree {g : Graph} (h : g.Reachable K) :
    g.WellFormed ∧
    (∀ n ∈ g.nodes, g.node? n.id = some n) ∧
    (∀ id node, g.ownerId? id = some node ↔ ∃ n ∈ g.nodes, n.id = node ∧ id ∈ n.portIds) ∧
    (∀ e ∈ g.edges, g.edge? e.id = some e) ∧
    (∀ n ∈ g.nodes, ∀ p ∈ n.inputs, p.edges.length ≤ 1) ∧
    ∀ p ∈ g.ports, p.edges.Nodup := by
  have hwf := h.sound.wellFormed
  refine ⟨hwf, fun n hn => ?_, fun id node => hwf.ownerId?_eq_some_iff, fun e he => ?_,
    fun n hn p hp => hwf.edges_length_le_one hn hp, fun p hp => ?_⟩
  · exact hwf.node?_eq_some_iff.mpr ⟨hn, rfl⟩
  · exact hwf.edge?_eq_some_iff.mpr ⟨he, rfl⟩
  · rw [hwf.ports_wired p hp]
    exact hwf.edges_distinct.sublist (List.filter_sublist.map _)

theorem sample_records_agree :
    (sample.Reachable fun _ => True) ∧ sample.edges.length = 5 ∧ sample.WellFormed ∧
      ∀ n ∈ sample.nodes, ∀ p ∈ n.inputs, p.edges.length ≤ 1 := by
  have hreach : sample.Reachable fun _ => True := sample_reachable fun _ _ => trivial
  have hagree := reachable_records_agree hreach
  exact ⟨hreach, rfl, hagree.1, hagree.2.2.2.2.1⟩

end Graph

end ScriptGraph
