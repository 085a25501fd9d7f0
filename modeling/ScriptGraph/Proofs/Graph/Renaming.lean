import Mathlib.Data.List.Find
import Mathlib.Data.Set.Function
import ScriptGraph.Proofs.Graph.WellFormed

/-!
# Renaming edges

The identifier of an edge serves to find it from its ports and for nothing else.
`Graph.renameEdges` gives the edges other identifiers, in the edge list and at the ports, and leaves
all else as it is.  As long as no two edges get the same one, every look-up in the renamed graph
gives what it gave before, renamed.
-/

namespace ScriptGraph

variable (ρ : EdgeId → EdgeId)

def Port.renameEdges (p : Port) : Port :=
  { p with edges := p.edges.map ρ }

def Node.renameEdges (n : Node) : Node :=
  n.mapPorts (Port.renameEdges ρ)

def Edge.rename (e : Edge) : Edge :=
  { e with id := ρ e.id }

/-- The same graph with other identifiers for its edges. -/
def Graph.renameEdges (g : Graph) : Graph :=
  { g with
    nodes := g.nodes.map (Node.renameEdges ρ)
    edges := g.edges.map (Edge.rename ρ) }

/-- No two edges of a graph get the same identifier. -/
def Graph.RenamedApart (g : Graph) : Prop :=
  Set.InjOn ρ { id | id ∈ g.edges.map Edge.id }

variable {ρ}

namespace Node

variable (n : Node)

@[simp] theorem renameEdges_id : (n.renameEdges ρ).id = n.id := rfl

theorem port?_renameEdges (id : PortId) :
    (n.renameEdges ρ).port? id = (n.port? id).map (Port.renameEdges ρ) := by
  unfold port? renameEdges
  rw [mapPorts_ports, List.find?_map]
  rfl

theorem input?_renameEdges (name : String) :
    (n.renameEdges ρ).input? name = (n.input? name).map (Port.renameEdges ρ) := by
  unfold input? renameEdges
  rw [mapPorts_inputs, List.find?_map]
  rfl

theorem output?_renameEdges (name : String) :
    (n.renameEdges ρ).output? name = (n.output? name).map (Port.renameEdges ρ) := by
  unfold output? renameEdges
  rw [mapPorts_outputs, List.find?_map]
  rfl

theorem execOutput?_renameEdges :
    (n.renameEdges ρ).execOutput? = n.execOutput?.map (Port.renameEdges ρ) := by
  unfold execOutput? renameEdges
  rw [mapPorts_outputs, List.find?_map]
  rfl

end Node

namespace Graph

variable {g : Graph}

theorem node?_renameEdges (id : NodeId) :
    (g.renameEdges ρ).node? id = (g.node? id).map (Node.renameEdges ρ) := by
  unfold node? renameEdges
  rw [List.find?_map]
  rfl

theorem port?_renameEdges (id : PortId) :
    (g.renameEdges ρ).port? id = (g.port? id).map (Port.renameEdges ρ) := by
  have howner : (g.renameEdges ρ).owner? id = (g.owner? id).map (Node.renameEdges ρ) := by
    unfold owner?
    rw [Option.map_bind]
    exact Option.bind_congr fun node _ => node?_renameEdges node
  unfold port?
  rw [howner, Option.bind_map, Option.map_bind]
  exact Option.bind_congr fun n _ => n.port?_renameEdges id

section

variable (hwf : g.WellFormed) (hapart : g.RenamedApart ρ)
include hapart

theorem edge?_renameEdges {id : EdgeId} (hid : id ∈ g.edges.map Edge.id) :
    (g.renameEdges ρ).edge? (ρ id) = (g.edge? id).map (Edge.rename ρ) := by
  unfold edge? renameEdges
  rw [List.find?_map]
  congr 1
  refine List.find?_congr fun e he => Bool.eq_iff_iff.mpr ?_
  have hinj : ρ e.id = ρ id ↔ e.id = id := hapart.eq_iff (List.mem_map_of_mem he) hid
  simpa [Edge.rename] using hinj

include hwf

/-- The oldest edge at a port is the same one. -/
theorem firstEdge?_renameEdges (port : PortId) :
    (g.renameEdges ρ).firstEdge? port = (g.firstEdge? port).map (Edge.rename ρ) := by
  unfold firstEdge?
  rw [port?_renameEdges, Option.bind_map, Option.map_bind]
  refine Option.bind_congr fun p hp => ?_
  have hport := (hwf.port?_eq_some_iff.mp hp).1
  cases hedges : p.edges with
  | nil => simp [Port.renameEdges, hedges]
  | cons id rest =>
      have hid : id ∈ g.edges.map Edge.id := by
        have hmem : id ∈ p.edges := hedges ▸ List.mem_cons_self
        rw [hwf.ports_wired p hport] at hmem
        obtain ⟨e, he, rfl⟩ := List.mem_map.mp hmem
        exact List.mem_map_of_mem (List.mem_of_mem_filter he)
      simpa [Port.renameEdges, hedges] using edge?_renameEdges hapart hid

theorem execTarget?_renameEdges (port : PortId) :
    (g.renameEdges ρ).execTarget? port = (g.execTarget? port).map (Node.renameEdges ρ) := by
  unfold execTarget?
  rw [firstEdge?_renameEdges hwf hapart, Option.bind_map, Option.map_bind]
  exact Option.bind_congr fun e _ => node?_renameEdges e.target.node

theorem sourceOf?_renameEdges (port : PortId) :
    (g.renameEdges ρ).sourceOf? port =
      (g.sourceOf? port).map fun (n, p) => (n.renameEdges ρ, p.renameEdges ρ) := by
  unfold sourceOf?
  rw [firstEdge?_renameEdges hwf hapart, Option.bind_map, Option.map_bind]
  refine Option.bind_congr fun e _ => ?_
  change ((g.renameEdges ρ).node? e.source.node).bind _ = ((g.node? e.source.node).bind _).map _
  rw [node?_renameEdges, Option.bind_map, Option.map_bind]
  refine Option.bind_congr fun n _ => ?_
  change ((n.renameEdges ρ).port? e.source.port).map _ = ((n.port? e.source.port).map _).map _
  rw [n.port?_renameEdges, Option.map_map, Option.map_map]
  rfl

end

theorem clear_renameEdges (g : Graph) (ρ : EdgeId → EdgeId) :
    (g.renameEdges ρ).nodes.map (·.mapPorts Port.clear) = g.nodes.map (·.mapPorts Port.clear) := by
  rw [renameEdges, List.map_map]
  refine List.map_congr_left fun n _ => ?_
  exact n.mapPorts_mapPorts _ _

/-- Writing the renamed edges to the ports renames them there. -/
theorem WellFormed.withEdges_rename (hwf : g.WellFormed) :
    g.withEdges (g.edges.map (Edge.rename ρ)) = g.renameEdges ρ := by
  have hincident : ∀ port, incident (g.edges.map (Edge.rename ρ)) port =
      (incident g.edges port).map ρ := by
    intro port
    unfold incident
    rw [List.filter_map, List.map_map, List.map_map]
    rfl
  have hnodes : g.nodes.map (·.mapPorts (Port.wire (g.edges.map (Edge.rename ρ)))) =
      g.nodes.map (Node.renameEdges ρ) := by
    refine List.map_congr_left fun n hn => Node.mapPorts_congr fun p hp => ?_
    rw [Port.wire, hincident, ← hwf.ports_wired p (mem_ports.mpr ⟨n, hn, hp⟩)]
    rfl
  unfold Graph.withEdges renameEdges
  rw [hnodes]

end Graph

end ScriptGraph
