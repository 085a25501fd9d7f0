import ScriptGraph.Document.Load
import ScriptGraph.Document.Text

/-!
# Fragments

A fragment is a part of a graph on the clipboard: some nodes and the edges among them.  It holds no
identifiers.  Edges name nodes by their place in the fragment and ports by their place in the node,
so a fragment can be pasted many times and into other graphs.
-/

namespace ScriptGraph

/-- A node of a fragment. -/
structure FragmentNode where
  tag : String
  title : String
  position : Position
  properties : Properties
  deriving Inhabited

/-- An edge of a fragment, by places. -/
structure FragmentEdge where
  sourceNode : Nat
  sourceOutput : Nat
  targetNode : Nat
  targetInput : Nat
  deriving DecidableEq, Inhabited

/-- A part of a graph without identifiers. -/
structure Fragment where
  nodes : List FragmentNode := []
  edges : List FragmentEdge := []
  deriving Inhabited

def FragmentNode.ofNode (n : Node) : FragmentNode :=
  { tag := n.tag, title := n.title, position := n.position, properties := n.properties }

namespace Fragment

/-! ### Copying -/

/-- The nodes of a graph that are selected, in the order in which they are first named. -/
def selection (g : Graph) (ids : List NodeId) : List Node :=
  ids.eraseDups.filterMap g.node?

/-- The place of a port in a list. -/
def place? (ports : List Port) (id : PortId) : Option Nat :=
  ports.findIdx? fun p => p.id == id

/-- An edge among selected nodes, by places. -/
def edgeOf? (selected : List Node) (e : Edge) : Option FragmentEdge := do
  let sourceNode ← selected.findIdx? fun n => n.id == e.source.node
  let targetNode ← selected.findIdx? fun n => n.id == e.target.node
  let source ← selected[sourceNode]?
  let target ← selected[targetNode]?
  let sourceOutput ← place? source.outputs e.source.port
  let targetInput ← place? target.inputs e.target.port
  return { sourceNode, sourceOutput, targetNode, targetInput }

/-- Copy the selected nodes and the edges among them. -/
def copy (g : Graph) (ids : List NodeId) : Fragment :=
  let selected := selection g ids
  { nodes := selected.map .ofNode, edges := g.edges.filterMap (edgeOf? selected) }

/-! ### Pasting -/

/-- Make the nodes of a fragment, moved by an offset. -/
def makeNodes (palette : Palette) (offset : Position) (ids : IdSource) :
    List FragmentNode → Except LoadError (List Node × IdSource)
  | [] => .ok ([], ids)
  | entry :: entries =>
    match palette.get? entry.tag with
    | none => .error (.unknownKind entry.tag)
    | some kind =>
      let (n, ids) := kind.instantiate ids
      let n := { n with
        title := entry.title
        position := entry.position.shift offset
        properties := entry.properties }
      (makeNodes palette offset ids entries).map fun (nodes, ids) => (n :: nodes, ids)

/-- Put nodes into a graph one after the other. -/
def insertNodes (g : Graph) : List Node → Except LoadError Graph
  | [] => .ok g
  | n :: nodes =>
    match g.insert n with
    | .error cause => .error (.insert cause)
    | .ok g => insertNodes g nodes

/-- The ports that an edge of a fragment joins among the pasted nodes. -/
def ends? (nodes : List Node) (e : FragmentEdge) : Option (PortId × PortId) := do
  let source ← (← nodes[e.sourceNode]?).outputs[e.sourceOutput]?
  let target ← (← nodes[e.targetNode]?).inputs[e.targetInput]?
  return (source.id, target.id)

/-- Connect an edge of a fragment among the pasted nodes. -/
def connectEdge (nodes : List Node) (w : Wiring) (e : FragmentEdge) : Wiring :=
  match ends? nodes e with
  | some (source, target) => w.connect source target .pastedEdgeSkipped
  | none => { w with notices := w.notices ++ [.pastedEdgeOutOfRange] }

/-- What pasting gives: the new nodes and the graph that has them. -/
structure Pasted where
  nodes : List NodeId
  graph : Graph
  ids : IdSource

/-- Paste a fragment into a graph, moved by an offset.  A node of an unknown kind makes it fail
before anything changes; an edge that cannot be connected is passed over with a notice. -/
def paste (f : Fragment) (palette : Palette) (g : Graph) (offset : Position) (ids : IdSource) :
    Attempt Pasted :=
  match makeNodes palette offset ids f.nodes with
  | .error cause => { outcome := .error cause }
  | .ok (nodes, ids) =>
    match insertNodes g nodes with
    | .error cause => { outcome := .error cause }
    | .ok graph =>
      let w := f.edges.foldl (connectEdge nodes) { graph, ids }
      { notices := w.notices
        outcome := .ok { nodes := nodes.map Node.id, graph := w.graph, ids := w.ids } }

end Fragment

/-! ### Written form -/

open Json (Tree required? optional?)

namespace FragmentNode

def fieldNames : List String := ["type", "title", "x", "y", "properties"]

def toTree (n : FragmentNode) : Tree :=
  .fields
    [("type", .text n.tag), ("title", .text n.title), ("x", .ofSingle n.position.x),
     ("y", .ofSingle n.position.y), ("properties", Properties.toTree n.properties)]

def ofTree? (tree : Tree) : Option FragmentNode := do
  let fields ← tree.record? fieldNames
  let tag ← required? fields "type" Tree.text?
  let title ← required? fields "title" Tree.text?
  let x ← required? fields "x" Tree.single?
  let y ← required? fields "y" Tree.single?
  let properties ← required? fields "properties" Properties.ofTree?
  return { tag, title, position := ⟨x, y⟩, properties }

end FragmentNode

namespace FragmentEdge

def fieldNames : List String :=
  ["source_node", "source_output_index", "target_node", "target_input_index"]

def toTree (e : FragmentEdge) : Tree :=
  .fields
    [("source_node", .ofNat e.sourceNode), ("source_output_index", .ofNat e.sourceOutput),
     ("target_node", .ofNat e.targetNode), ("target_input_index", .ofNat e.targetInput)]

def ofTree? (tree : Tree) : Option FragmentEdge := do
  let fields ← tree.record? fieldNames
  let sourceNode ← required? fields "source_node" Tree.nat?
  let sourceOutput ← required? fields "source_output_index" Tree.nat?
  let targetNode ← required? fields "target_node" Tree.nat?
  let targetInput ← required? fields "target_input_index" Tree.nat?
  return { sourceNode, sourceOutput, targetNode, targetInput }

end FragmentEdge

namespace Fragment

def fieldNames : List String := ["nodes", "edges"]

def toTree (f : Fragment) : Tree :=
  .fields [("nodes", .array (f.nodes.map FragmentNode.toTree)),
    ("edges", .array (f.edges.map FragmentEdge.toTree))]

def ofTree? (tree : Tree) : Option Fragment := do
  let fields ← tree.record? fieldNames
  let nodes ← required? fields "nodes" (Tree.list? FragmentNode.ofTree?)
  let edges ← required? fields "edges" (Tree.list? FragmentEdge.ofTree?)
  return { nodes, edges }

/-- The text of a fragment, without white space. -/
def text (f : Fragment) : String := f.toTree.compact

/-- Read a fragment. -/
def ofText? (text : String) : Option Fragment := (Tree.ofText? text).bind ofTree?

end Fragment

end ScriptGraph
