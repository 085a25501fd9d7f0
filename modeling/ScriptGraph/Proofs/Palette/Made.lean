import ScriptGraph.Document.Load
import ScriptGraph.Proofs.Graph.Operations

/-!
# Nodes follow their kinds

A node made from a kind has the tag of the kind and a port for each of its specifications, and it
keeps these for good: neither a record that it takes on from a document, nor an edit, nor the edges
that come and go at its ports change them.  `Node.OfKind` says so, and `Node.Made` says it for some
kind out of a given stock.
-/

namespace ScriptGraph

namespace Node

/-- A node that a kind can have made. -/
structure OfKind (n : Node) (kind : NodeKind) : Prop extends n.WellMade where
  tag_eq : n.tag = kind.tag
  inputs_eq : n.inputs.map Port.spec = kind.inputs
  outputs_eq : n.outputs.map Port.spec = kind.outputs

/-- A node of one of the given kinds. -/
def Made (K : NodeKind → Prop) (n : Node) : Prop :=
  ∃ kind, K kind ∧ n.OfKind kind

variable {n : Node} {kind : NodeKind} {K : NodeKind → Prop}

/-- A change of ports that keeps what a kind says about them. -/
theorem OfKind.mapPorts (h : n.OfKind kind) {f : Port → Port} (hnode : ∀ p, (f p).node = p.node)
    (hdir : ∀ p, (f p).direction = p.direction) (hspec : ∀ p, (f p).spec = p.spec) :
    (n.mapPorts f).OfKind kind where
  toWellMade := h.toWellMade.mapPorts hnode hdir
  tag_eq := h.tag_eq
  inputs_eq := by simpa [Function.comp_def, hspec] using h.inputs_eq
  outputs_eq := by simpa [Function.comp_def, hspec] using h.outputs_eq

theorem OfKind.edit (h : n.OfKind kind) (title : String) (position : Position)
    (properties : Properties) : (n.edit title position properties).OfKind kind :=
  { ports_own := h.ports_own, inputs_receive := h.inputs_receive, outputs_send := h.outputs_send,
    tag_eq := h.tag_eq, inputs_eq := h.inputs_eq, outputs_eq := h.outputs_eq }

theorem Made.mapPorts (h : n.Made K) {f : Port → Port} (hnode : ∀ p, (f p).node = p.node)
    (hdir : ∀ p, (f p).direction = p.direction) (hspec : ∀ p, (f p).spec = p.spec) :
    (n.mapPorts f).Made K := by
  obtain ⟨kind, hkind, hof⟩ := h
  exact ⟨kind, hkind, hof.mapPorts hnode hdir hspec⟩

theorem Made.wire (h : n.Made K) (edges : List Edge) : (n.mapPorts (Port.wire edges)).Made K :=
  h.mapPorts (fun _ => rfl) (fun _ => rfl) (fun _ => rfl)

theorem Made.edit (h : n.Made K) (title : String) (position : Position) (properties : Properties) :
    (n.edit title position properties).Made K := by
  obtain ⟨kind, hkind, hof⟩ := h
  exact ⟨kind, hkind, hof.edit title position properties⟩

theorem Made.wellMade (h : n.Made K) : n.WellMade := by
  obtain ⟨kind, -, hof⟩ := h
  exact hof.toWellMade

/-! ## Taking on saved identifiers -/

theorem adoptIds_map_spec (ids : List PortId) (ports : List Port) :
    (adoptIds ids ports).map Port.spec = ports.map Port.spec := by
  fun_induction adoptIds ids ports with
  | case1 id ids p ports ih => simp [ih]
  | case2 => rfl

theorem mem_adoptIds {ids : List PortId} {ports : List Port} {p : Port}
    (hp : p ∈ adoptIds ids ports) : ∃ q ∈ ports, p.node = q.node ∧ p.direction = q.direction := by
  fun_induction adoptIds ids ports with
  | case1 id ids q ports ih =>
      rcases List.mem_cons.mp hp with rfl | hp
      · exact ⟨q, List.mem_cons_self .., rfl, rfl⟩
      · obtain ⟨r, hr, hsame⟩ := ih hp
        exact ⟨r, List.mem_cons_of_mem _ hr, hsame⟩
  | case2 => exact ⟨p, hp, rfl, rfl⟩

theorem OfKind.withId (h : n.OfKind kind) (id : NodeId) : (n.withId id).OfKind kind where
  ports_own p hp := by
    obtain ⟨q, -, rfl⟩ := List.mem_map.mp
      (show p ∈ n.ports.map fun q => { q with node := id } by simpa [Node.withId, ports] using hp)
    rfl
  inputs_receive p hp := by
    obtain ⟨q, hq, rfl⟩ := List.mem_map.mp (by simpa [Node.withId] using hp)
    exact h.inputs_receive q hq
  outputs_send p hp := by
    obtain ⟨q, hq, rfl⟩ := List.mem_map.mp (by simpa [Node.withId] using hp)
    exact h.outputs_send q hq
  tag_eq := h.tag_eq
  inputs_eq := by simpa [Node.withId, Function.comp_def] using h.inputs_eq
  outputs_eq := by simpa [Node.withId, Function.comp_def] using h.outputs_eq

theorem OfKind.withPortIds (h : n.OfKind kind) (inputs outputs : List PortId) :
    (n.withPortIds inputs outputs).OfKind kind where
  ports_own p hp := by
    rcases List.mem_append.mp hp with hin | hout
    · obtain ⟨q, hq, hnode, -⟩ := mem_adoptIds hin
      exact hnode.trans (h.ports_own q (mem_ports_of_mem_inputs hq))
    · obtain ⟨q, hq, hnode, -⟩ := mem_adoptIds hout
      exact hnode.trans (h.ports_own q (mem_ports_of_mem_outputs hq))
  inputs_receive p hp := by
    obtain ⟨q, hq, -, hdir⟩ := mem_adoptIds hp
    exact hdir.trans (h.inputs_receive q hq)
  outputs_send p hp := by
    obtain ⟨q, hq, -, hdir⟩ := mem_adoptIds hp
    exact hdir.trans (h.outputs_send q hq)
  tag_eq := h.tag_eq
  inputs_eq := (adoptIds_map_spec _ _).trans h.inputs_eq
  outputs_eq := (adoptIds_map_spec _ _).trans h.outputs_eq

end Node

theorem Node.OfKind.restore {n : Node} {kind : NodeKind} (h : n.OfKind kind) (r : NodeRecord) :
    (r.restore n).OfKind kind :=
  ((h.withId r.id).withPortIds _ _).edit r.title r.position _

/-! ## Making nodes -/

namespace IdSource

@[simp] theorem next_fst (ids : IdSource) : ids.next.1 = ids.sequence ids.drawn := rfl

@[simp] theorem next_snd_sequence (ids : IdSource) : ids.next.2.sequence = ids.sequence := rfl

@[simp] theorem next_snd_drawn (ids : IdSource) : ids.next.2.drawn = ids.drawn + 1 := rfl

theorem forEach_map_snd {α : Type} (ids : IdSource) (l : List α) :
    (ids.forEach l).1.map Prod.snd = l := by
  induction l generalizing ids with
  | nil => rfl
  | cons a rest ih => simp [forEach, ih]

@[simp] theorem forEach_snd_sequence {α : Type} (ids : IdSource) (l : List α) :
    (ids.forEach l).2.sequence = ids.sequence := by
  induction l generalizing ids with
  | nil => rfl
  | cons a rest ih => simp [forEach, ih]

@[simp] theorem forEach_snd_drawn {α : Type} (ids : IdSource) (l : List α) :
    (ids.forEach l).2.drawn = ids.drawn + l.length := by
  induction l generalizing ids with
  | nil => rfl
  | cons a rest ih =>
      simp only [forEach, ih, next_snd_drawn, List.length_cons]
      omega

end IdSource

namespace NodeKind

theorem drawPorts_map_spec (node : NodeId) (direction : Direction) (specs : List PortSpec)
    (ids : IdSource) : (drawPorts node direction specs ids).1.map Port.spec = specs := by
  simp only [drawPorts, List.map_map, Function.comp_def]
  exact ids.forEach_map_snd specs

theorem mem_drawPorts {node : NodeId} {direction : Direction} {specs : List PortSpec}
    {ids : IdSource} {p : Port} (hp : p ∈ (drawPorts node direction specs ids).1) :
    p.node = node ∧ p.direction = direction ∧ p.edges = [] := by
  obtain ⟨⟨id, spec⟩, -, rfl⟩ := List.mem_map.mp hp
  exact ⟨rfl, rfl, rfl⟩

/-- A kind makes nodes of this kind. -/
theorem instantiate_ofKind (kind : NodeKind) (ids : IdSource) :
    (kind.instantiate ids).1.OfKind kind where
  ports_own p hp := by
    rcases List.mem_append.mp hp with hin | hout
    · exact (mem_drawPorts hin).1
    · exact (mem_drawPorts hout).1
  inputs_receive p hp := (mem_drawPorts hp).2.1
  outputs_send p hp := (mem_drawPorts hp).2.1
  tag_eq := rfl
  inputs_eq := drawPorts_map_spec ..
  outputs_eq := drawPorts_map_spec ..

@[simp] theorem instantiate_snd_sequence (kind : NodeKind) (ids : IdSource) :
    (kind.instantiate ids).2.sequence = ids.sequence := by
  simp [instantiate, drawPorts]

@[simp] theorem instantiate_snd_drawn (kind : NodeKind) (ids : IdSource) :
    (kind.instantiate ids).2.drawn =
      ids.drawn + 1 + kind.inputs.length + kind.outputs.length := by
  simp [instantiate, drawPorts]

end NodeKind

end ScriptGraph
