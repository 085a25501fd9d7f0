import ScriptGraph.Document.Fragment
import ScriptGraph.Proofs.Palette.Made

/-!
# Sessions

A session is a graph together with the nodes at hand that are not in it: nodes made from a kind,
copies of nodes of a graph, and nodes that were taken out.  A step makes such a node or changes the
graph, and a graph is reachable if some finite number of steps leads to it from nothing.  Operations
that are refused change nothing and are no steps.

The stock of kinds that nodes are made from is a parameter.  The new identifiers of edges are
whatever the source gives out, as long as they are new (`Graph.Fresh`).
-/

namespace ScriptGraph

/-- The identifiers that a source gives out up to a later state differ from each other and from
those of the edges of a graph. -/
structure Graph.Fresh (g : Graph) (ids later : IdSource) : Prop where
  distinct : ∀ i j, ids.drawn ≤ i → i < j → j < later.drawn → ids.sequence i ≠ ids.sequence j
  unused : ∀ i, ids.drawn ≤ i → i < later.drawn →
    (⟨ids.sequence i⟩ : EdgeId) ∉ g.edges.map Edge.id

/-- A graph that is worked on, and nodes that are at hand. -/
structure Session where
  graph : Graph := ∅
  loose : List Node := []

namespace Session

/-- One step of a session with nodes of the given kinds. -/
inductive Step (K : NodeKind → Prop) : Session → Session → Prop
  /-- make a node -/
  | make (s : Session) {kind : NodeKind} (ids : IdSource) : K kind →
      Step K s { s with loose := (kind.instantiate ids).1 :: s.loose }
  /-- copy a node of the graph, with its identifiers -/
  | clone (s : Session) {n : Node} : n ∈ s.graph.nodes → Step K s { s with loose := n :: s.loose }
  /-- edit a node at hand -/
  | prepare (s : Session) {n : Node} (title : String) (position : Position)
      (properties : Properties) : n ∈ s.loose →
      Step K s { s with loose := n.edit title position properties :: s.loose }
  /-- put a node at hand into the graph -/
  | insert (s : Session) {n : Node} {g : Graph} : n ∈ s.loose → s.graph.insert n = .ok g →
      Step K s { s with graph := g }
  /-- take a node out, with its edges -/
  | remove (s : Session) {id : NodeId} {n : Node} {g : Graph} : s.graph.remove? id = some (n, g) →
      Step K s ⟨g, n :: s.loose⟩
  /-- connect two ports, given in either order -/
  | connect (s : Session) {id : EdgeId} {a b : PortId} {g : Graph} :
      id ∉ s.graph.edges.map Edge.id → s.graph.connect id a b = .ok g →
      Step K s { s with graph := g }
  /-- take an edge out -/
  | disconnect (s : Session) {id : EdgeId} {e : Edge} {g : Graph} :
      s.graph.removeEdge? id = some (e, g) → Step K s { s with graph := g }
  /-- edit a node of the graph -/
  | edit (s : Session) (id : NodeId) (title : String) (position : Position)
      (properties : Properties) :
      Step K s { s with graph := s.graph.updateNode id fun n => n.edit title position properties }
  /-- begin a new graph -/
  | renew (s : Session) : Step K s { s with graph := ∅ }
  /-- open a document -/
  | load (s : Session) {d : Document} {palette : Palette} {ids later : IdSource} {g : Graph} :
      (∀ r ∈ d.nodes, ∀ kind, palette.get? r.tag = some kind → K kind) →
      (d.toGraph palette ids).outcome = .ok (g, later) → Graph.Fresh ∅ ids later →
      Step K s { s with graph := g }
  /-- paste a fragment -/
  | paste (s : Session) {f : Fragment} {palette : Palette} {offset : Position} {ids : IdSource}
      {pasted : Fragment.Pasted} :
      (∀ entry ∈ f.nodes, ∀ kind, palette.get? entry.tag = some kind → K kind) →
      (f.paste palette s.graph offset ids).outcome = .ok pasted → s.graph.Fresh ids pasted.ids →
      Step K s { s with graph := pasted.graph }

/-- The sessions that some steps lead to from an empty one. -/
def Run (K : NodeKind → Prop) : Session → Prop :=
  Relation.ReflTransGen (Step K) {}

end Session

/-- The graphs that a session can come to with nodes of the given kinds. -/
def Graph.Reachable (K : NodeKind → Prop) (g : Graph) : Prop :=
  ∃ loose, Session.Run K ⟨g, loose⟩

/-- The kinds that a palette has under their tags. -/
def Palette.Has (palette : Palette) (kind : NodeKind) : Prop :=
  palette.get? kind.tag = some kind

end ScriptGraph
