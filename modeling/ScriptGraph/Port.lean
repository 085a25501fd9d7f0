import ScriptGraph.Table
import ScriptGraph.Uuid

/-!
# Ports and property values

A node takes part in a drawing through its ports.  A port carries one type of signal in one
direction; what flows is either control (`exec`) or a shell expression of some type.  There is no
coercion: two ports fit when their directions differ and their types are the same.

A port lists the edges attached to it in the order in which they were connected.  That order
matters, because an output that drives several nodes follows only its first edge.
-/

namespace ScriptGraph

/-- A value stored in a node's properties or as a port's default. -/
inductive PropertyValue where
  | bool (b : Bool)
  | int (i : Int64)
  | text (s : String)
  deriving DecidableEq, Inhabited

/-- How a property value stands in a script. -/
def PropertyValue.render : PropertyValue → String
  | .bool true => "true"
  | .bool false => "false"
  | .int i => toString i.toInt
  | .text s => s

/-- The properties of a node, in order. -/
abbrev Properties := Table PropertyValue

/-- Whether a port receives or sends. -/
inductive Direction where
  | input
  | output
  deriving DecidableEq, Inhabited

/-- What flows through a port. -/
inductive PortType where
  /-- control flow -/
  | exec
  /-- an integer expression -/
  | int
  /-- a text expression -/
  | string
  /-- a path in the file system -/
  | path
  /-- the value of a variable -/
  | value
  /-- a test that is true or false -/
  | condition
  deriving DecidableEq, Inhabited

namespace PortType

/-- Every port type, in palette order. -/
def all : List PortType := [.exec, .int, .string, .path, .value, .condition]

/-- The name shown to a user. -/
def displayName : PortType → String
  | .exec => "Exec"
  | .int => "Int"
  | .string => "String"
  | .path => "Path"
  | .value => "Variable"
  | .condition => "Condition"

/-- The name in a document. -/
def wireName : PortType → String
  | .exec => "EXEC"
  | .int => "INT"
  | .string => "STRING"
  | .path => "PATH"
  | .value => "VARIABLE"
  | .condition => "CONDITION"

/-- The port type of a document name. -/
def ofWireName? (name : String) : Option PortType :=
  all.find? fun type => type.wireName == name

theorem ofWireName?_wireName (type : PortType) : ofWireName? type.wireName = some type := by
  cases type <;> decide

/-- Red, green and blue of the port's dot on the canvas. -/
def color : PortType → Nat × Nat × Nat
  | .exec => (200, 200, 200)
  | .int => (80, 200, 200)
  | .string => (200, 180, 150)
  | .path => (100, 150, 200)
  | .value => (200, 150, 80)
  | .condition => (200, 80, 80)

/-- Whether an output of one type may drive an input of the other. -/
def fits (output input : PortType) : Bool :=
  output == input

end PortType

/-- What a node kind says about one of its ports. -/
structure PortSpec where
  name : String
  type : PortType
  description : String := ""
  /-- the value of an input that nothing drives -/
  default : Option PropertyValue := none
  deriving DecidableEq, Inhabited

/-- A port of a node. -/
structure Port where
  id : PortId
  /-- the node that has this port -/
  node : NodeId
  direction : Direction
  spec : PortSpec
  /-- the edges attached, oldest first -/
  edges : List EdgeId := []
  deriving DecidableEq, Inhabited

namespace Port

def name (p : Port) : String := p.spec.name

def type (p : Port) : PortType := p.spec.type

def isInput (p : Port) : Bool := p.direction == .input

/-- Whether an edge is attached. -/
def isConnected (p : Port) : Bool := !p.edges.isEmpty

/-- Whether two ports could be joined, as far as direction and type go. -/
def fits (p q : Port) : Bool :=
  p.direction != q.direction && p.type.fits q.type

/-- Add an edge as the newest. -/
def attach (p : Port) (edge : EdgeId) : Port :=
  { p with edges := p.edges ++ [edge] }

/-- Drop an edge. -/
def detach (p : Port) (edge : EdgeId) : Port :=
  { p with edges := p.edges.filter (· != edge) }

/-- Drop every edge. -/
def clear (p : Port) : Port :=
  { p with edges := [] }

end Port

end ScriptGraph
