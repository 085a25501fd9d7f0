import ScriptGraph.Document.Fragment

/-!
# Workspaces

A workspace is what an editor has open: a palette, a graph with its comments, a clipboard, and the
source from which new identifiers come.
-/

namespace ScriptGraph

/-- What an editor has open. -/
structure Workspace where
  palette : Palette := .standard
  graph : Graph := ∅
  comments : List Json.Value := []
  clipboard : Fragment := {}
  ids : IdSource

namespace Workspace

/-- The graph with its palette. -/
def drawing (w : Workspace) : Drawing :=
  ⟨w.graph, w.palette⟩

/-- Make a node of a kind.  It is not yet part of the graph. -/
def create? (w : Workspace) (tag : String) : Option (Node × Workspace) :=
  (w.palette.get? tag).map fun kind =>
    let (n, ids) := kind.instantiate w.ids
    (n, { w with ids })

/-- Put a node into the graph. -/
def insert (w : Workspace) (n : Node) : Except InsertError Workspace :=
  (w.graph.insert n).map fun graph => { w with graph }

/-- Connect two ports by a new edge. -/
def connect (w : Workspace) (a b : PortId) : Except ConnectError (EdgeId × Workspace) :=
  let (id, ids) := w.ids.next
  (w.graph.connect ⟨id⟩ a b).map fun graph => (⟨id⟩, { w with graph, ids })

/-- Connect two ports by a new edge, without the reason where it is refused. -/
def connect? (w : Workspace) (a b : PortId) : Option (EdgeId × Workspace) :=
  (w.connect a b).toOption

/-- The document of the graph and its comments. -/
def document (w : Workspace) : Document :=
  .ofGraph w.graph w.comments

/-- Open a document in place of the graph and its comments. -/
def load (w : Workspace) (d : Document) : Attempt Workspace :=
  let attempt := d.toGraph w.palette w.ids
  { notices := attempt.notices
    outcome := attempt.outcome.map fun (graph, ids) =>
      { w with graph, ids, comments := d.comments } }

/-- Copy nodes to the clipboard. -/
def copy (w : Workspace) (nodes : List NodeId) : Workspace :=
  { w with clipboard := .copy w.graph nodes }

/-- Paste a fragment, and return the new nodes. -/
def paste (w : Workspace) (f : Fragment) (offset : Position) :
    Attempt (List NodeId × Workspace) :=
  let attempt := f.paste w.palette w.graph offset w.ids
  { notices := attempt.notices
    outcome := attempt.outcome.map fun pasted =>
      (pasted.nodes, { w with graph := pasted.graph, ids := pasted.ids }) }

end Workspace

end ScriptGraph
