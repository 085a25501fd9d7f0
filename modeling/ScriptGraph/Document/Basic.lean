import ScriptGraph.Graph.Basic
import ScriptGraph.Json.Value
import ScriptGraph.Notice

/-!
# Documents

A document is a graph at rest.  Each node is a record with its identifier and the identifiers of its
ports, and edges name ports, so nothing depends on the order of the records.  What belongs to the
kind of a node is not repeated; only the names and types of the ports are, for the reader.

Comments are carried along as they are.
-/

namespace ScriptGraph

/-- A port at rest. -/
structure PortRecord where
  id : PortId
  name : String
  type : PortType
  deriving DecidableEq, Inhabited

/-- A node at rest. -/
structure NodeRecord where
  id : NodeId
  tag : String
  title : String
  position : Position
  /-- if absent, the node takes those of its kind -/
  properties : Option Properties := none
  inputs : List PortRecord := []
  outputs : List PortRecord := []
  deriving Inhabited

/-- An edge at rest. -/
structure EdgeRecord where
  id : EdgeId
  source : PortId
  target : PortId
  deriving DecidableEq, Inhabited

/-- A graph at rest. -/
structure Document where
  version : String := documentVersion
  nodes : List NodeRecord := []
  edges : List EdgeRecord := []
  comments : List Json.Value := []
  deriving Inhabited

def PortRecord.ofPort (p : Port) : PortRecord :=
  { id := p.id, name := p.name, type := p.type }

def NodeRecord.ofNode (n : Node) : NodeRecord :=
  { id := n.id
    tag := n.tag
    title := n.title
    position := n.position
    properties := some n.properties
    inputs := n.inputs.map .ofPort
    outputs := n.outputs.map .ofPort }

def EdgeRecord.ofEdge (e : Edge) : EdgeRecord :=
  { id := e.id, source := e.source.port, target := e.target.port }

/-- The document of a graph and comments. -/
def Document.ofGraph (g : Graph) (comments : List Json.Value) : Document :=
  { nodes := g.nodes.map .ofNode, edges := g.edges.map .ofEdge, comments }

end ScriptGraph
