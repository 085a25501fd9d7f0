import ScriptGraph.Node

/-!
# Graphs

A graph holds nodes and the edges between them, both in the order in which they came in.  An edge
runs from an output port to an input port and names the two nodes as well.  Each port keeps the
list of its own edges, so an edge is recorded three times: in the edge list, at its source and at
its target.  A graph also keeps an index that says which node has a port, so that a port is found
without going through the nodes.  Every operation keeps all of these in step.

This module has the type, the look-ups, and the operations that put nodes in and take nodes and
edges out.  Connecting two ports is in `ScriptGraph.Graph.Connect`.
-/

namespace ScriptGraph

/-- One end of an edge: a port and the node it belongs to. -/
structure Endpoint where
  node : NodeId
  port : PortId
  deriving DecidableEq, Inhabited

/-- The end of an edge at a port. -/
def Port.endpoint (p : Port) : Endpoint := ⟨p.node, p.id⟩

/-- An edge from an output port to an input port. -/
structure Edge where
  id : EdgeId
  source : Endpoint
  target : Endpoint
  deriving DecidableEq, Inhabited

/-- Whether an edge ends at a node. -/
def Edge.touchesNode (e : Edge) (node : NodeId) : Bool :=
  e.source.node == node || e.target.node == node

/-- Whether an edge ends at a port. -/
def Edge.touchesPort (e : Edge) (port : PortId) : Bool :=
  e.source.port == port || e.target.port == port

/-- Nodes and edges in insertion order. -/
structure Graph where
  nodes : List Node := []
  edges : List Edge := []
  /-- the index of ports: each port with the node that has it -/
  owners : List (PortId × NodeId) := []
  deriving Inhabited

/-- Why a node cannot be put into a graph. -/
inductive InsertError where
  | duplicateNode (id : NodeId)
  | duplicatePort (id : PortId)
  deriving DecidableEq

def InsertError.message : InsertError → String
  | .duplicateNode id => "Duplicate node id: " ++ id.uuid.text
  | .duplicatePort id => "Duplicate port id: " ++ id.uuid.text

namespace Graph

/-- The graph with nothing in it. -/
def empty : Graph := {}

instance : EmptyCollection Graph := ⟨empty⟩

/-! ### Look-ups -/

def node? (g : Graph) (id : NodeId) : Option Node :=
  g.nodes.find? fun n => n.id == id

def edge? (g : Graph) (id : EdgeId) : Option Edge :=
  g.edges.find? fun e => e.id == id

/-- Every port of every node, in order. -/
def ports (g : Graph) : List Port :=
  g.nodes.flatMap Node.ports

def portIds (g : Graph) : List PortId :=
  g.ports.map Port.id

/-- The identifier of the node that has a port, by the index. -/
def ownerId? (g : Graph) (id : PortId) : Option NodeId :=
  g.owners.lookup id

/-- The node that has a port. -/
def owner? (g : Graph) (id : PortId) : Option Node :=
  (g.ownerId? id).bind g.node?

def port? (g : Graph) (id : PortId) : Option Port :=
  (g.owner? id).bind fun n => n.port? id

/-- The tag of the kind that a script starts from. -/
def startTag : String := "start"

/-- The node a script starts from: the first of its kind. -/
def start? (g : Graph) : Option Node :=
  g.nodes.find? fun n => n.tag == startTag

/-- The oldest edge at a port. -/
def firstEdge? (g : Graph) (port : PortId) : Option Edge :=
  (g.port? port).bind fun p => p.edges.head?.bind g.edge?

/-- The node that an output drives.  Only its oldest edge counts. -/
def execTarget? (g : Graph) (port : PortId) : Option Node :=
  (g.firstEdge? port).bind fun e => g.node? e.target.node

/-- The node and port that feed an input. -/
def sourceOf? (g : Graph) (port : PortId) : Option (Node × Port) :=
  (g.firstEdge? port).bind fun e =>
    (g.node? e.source.node).bind fun n => (n.port? e.source.port).map fun p => (n, p)

def edgesFrom (g : Graph) (port : PortId) : List Edge :=
  g.edges.filter fun e => e.source.port == port

def edgesTo (g : Graph) (port : PortId) : List Edge :=
  g.edges.filter fun e => e.target.port == port

def edgesAt (g : Graph) (node : NodeId) : List Edge :=
  g.edges.filter fun e => e.touchesNode node

/-- The statements that nothing leads to: nodes with a control input that has no edge. -/
def detachedStatements (g : Graph) : List Node :=
  g.nodes.filter fun n => n.inputs.any fun p => p.type == .exec && !p.isConnected

/-! ### Changing nodes -/

/-- Change the node of one identifier. -/
def updateNode (g : Graph) (id : NodeId) (f : Node → Node) : Graph :=
  { g with nodes := g.nodes.map fun n => if n.id = id then f n else n }

/-- Change the port at an endpoint. -/
def updatePort (g : Graph) (at_ : Endpoint) (f : Port → Port) : Graph :=
  g.updateNode at_.node fun n => n.updatePort at_.port f

/-- The first identifier of a list that is taken or comes a second time. -/
def firstClash? (taken : List PortId) : List PortId → Option PortId
  | [] => none
  | id :: rest => if id ∈ taken then some id else firstClash? (id :: taken) rest

/-- Put a node at the end.  It comes without edges, whatever edges it had elsewhere. -/
def insert (g : Graph) (n : Node) : Except InsertError Graph :=
  if (g.node? n.id).isSome then .error (.duplicateNode n.id)
  else
    match firstClash? (g.owners.map Prod.fst) n.portIds with
    | some id => .error (.duplicatePort id)
    | none =>
      .ok { g with
        nodes := g.nodes ++ [n.mapPorts Port.clear]
        owners := g.owners ++ n.owned }

/-! ### Taking out -/

/-- Take an edge out of the edge list and off its two ports. -/
def disconnect (g : Graph) (id : EdgeId) : Graph :=
  match g.edge? id with
  | none => g
  | some e =>
    let g := { g with edges := g.edges.filter fun e => e.id != id }
    (g.updatePort e.source (·.detach id)).updatePort e.target (·.detach id)

/-- Take out an edge and return it. -/
def removeEdge? (g : Graph) (id : EdgeId) : Option (Edge × Graph) :=
  (g.edge? id).map fun e => (e, g.disconnect id)

/-- Take out several edges, one after the other. -/
def disconnectAll (g : Graph) (ids : List EdgeId) : Graph :=
  ids.foldl disconnect g

/-- Take a node out of the nodes and its ports out of the index. -/
def dropNode (g : Graph) (n : Node) : Graph :=
  { g with
    nodes := g.nodes.filter fun m => m.id != n.id
    owners := g.owners.filter fun entry => !n.portIds.contains entry.1 }

/-- Take out a node with all its edges, and return it. -/
def remove? (g : Graph) (id : NodeId) : Option (Node × Graph) :=
  let g := g.disconnectAll ((g.edgesAt id).map Edge.id)
  (g.node? id).map fun n => (n, g.dropNode n)

end Graph

end ScriptGraph
