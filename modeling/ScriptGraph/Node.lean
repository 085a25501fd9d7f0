import ScriptGraph.Port

/-!
# Nodes

A node is one box of a drawing: an instance of a node kind, named by the kind's tag, with its own
title, place on the canvas, properties and ports.  Inputs and outputs are listed in the order of
the kind's declaration, and a port asked for by name is the first of that name.
-/

namespace ScriptGraph

/-- A place on the canvas.  It has no effect on the script. -/
structure Position where
  x : Float32
  y : Float32
  deriving Inhabited

/-- The corner of the canvas, where a new node stands. -/
def Position.origin : Position := ⟨0, 0⟩

/-- A place moved by an offset. -/
def Position.shift (p offset : Position) : Position :=
  ⟨p.x + offset.x, p.y + offset.y⟩

/-- An instance of a node kind. -/
structure Node where
  id : NodeId
  /-- the tag of the node's kind -/
  tag : String
  title : String
  position : Position := .origin
  properties : Properties
  inputs : List Port
  outputs : List Port
  deriving Inhabited

namespace Node

/-- All ports, inputs first. -/
def ports (n : Node) : List Port :=
  n.inputs ++ n.outputs

def portIds (n : Node) : List PortId :=
  n.ports.map Port.id

/-- The entries of a node in an index of ports. -/
def owned (n : Node) : List (PortId × NodeId) :=
  n.portIds.map fun id => (id, n.id)

def port? (n : Node) (id : PortId) : Option Port :=
  n.ports.find? fun p => p.id == id

def input? (n : Node) (name : String) : Option Port :=
  n.inputs.find? fun p => p.name == name

def output? (n : Node) (name : String) : Option Port :=
  n.outputs.find? fun p => p.name == name

/-- The first output that carries control. -/
def execOutput? (n : Node) : Option Port :=
  n.outputs.find? fun p => p.type == .exec

def property? (n : Node) (key : String) : Option PropertyValue :=
  n.properties.get? key

/-- A property as it stands in a script, or a text in its place. -/
def propertyText (n : Node) (key fallback : String) : String :=
  ((n.property? key).map PropertyValue.render).getD fallback

def setProperty (n : Node) (key : String) (value : PropertyValue) : Node :=
  { n with properties := n.properties.set key value }

def eraseProperty (n : Node) (key : String) : Node :=
  { n with properties := n.properties.erase key }

/-- Change every port. -/
def mapPorts (n : Node) (f : Port → Port) : Node :=
  { n with inputs := n.inputs.map f, outputs := n.outputs.map f }

/-- Change the port of one identifier. -/
def updatePort (n : Node) (id : PortId) (f : Port → Port) : Node :=
  n.mapPorts fun p => if p.id = id then f p else p

/-- Rename the node.  Its ports follow. -/
def withId (n : Node) (id : NodeId) : Node :=
  { n.mapPorts (fun p => { p with node := id }) with id }

/-- Give ports the identifiers of a list, position by position: identifiers left over are ignored
and ports left over keep theirs. -/
def adoptIds : List PortId → List Port → List Port
  | id :: ids, p :: ports => { p with id } :: adoptIds ids ports
  | _, ports => ports

/-- Give the ports saved identifiers. -/
def withPortIds (n : Node) (inputs outputs : List PortId) : Node :=
  { n with inputs := adoptIds inputs n.inputs, outputs := adoptIds outputs n.outputs }

/-- Name of the property that a function definition is named by. -/
def functionProperty : String := "name"

/-- Name of a function whose node has no name. -/
def defaultFunction : String := "my_function"

/-- The function that this node defines, if it defines one. -/
def functionName (n : Node) : String :=
  n.propertyText functionProperty defaultFunction

end Node

end ScriptGraph
