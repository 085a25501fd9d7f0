import ScriptGraph.Graph.Reach

/-!
# Connecting ports

Two ports given in either order are joined by an edge from the output to the input.  The rule is:
both ports exist, they belong to different nodes, their directions differ, their types agree, and
no path leads from the node of the input to the node of the output.  The first condition that fails
is the one reported, and nothing changes then.  An input holds one edge: a new one takes the place
of the old.
-/

namespace ScriptGraph

/-- Why two ports cannot be joined. -/
inductive ConnectError where
  | portNotFound (id : PortId)
  | sameNode
  | sameDirection
  | typeMismatch (output input : PortType)
  | wouldCreateCycle
  deriving DecidableEq

def ConnectError.message : ConnectError → String
  | .portNotFound id => "Port not found: " ++ id.uuid.text
  | .sameNode => "Cannot connect a node to itself"
  | .sameDirection => "Ports must have opposite directions"
  | .typeMismatch output input =>
    "Incompatible port types: " ++ output.displayName ++ " -> " ++ input.displayName
  | .wouldCreateCycle => "Connection would create a cycle"

namespace Graph

/-- Two ports of different directions, the output first. -/
def orient (p q : Port) : Port × Port :=
  match p.direction with
  | .output => (p, q)
  | .input => (q, p)

/-- The output and the input that an edge between two ports would join, or what forbids it. -/
def wiring (g : Graph) (a b : PortId) : Except ConnectError (Port × Port) :=
  match g.port? a, g.port? b with
  | none, _ => .error (.portNotFound a)
  | some _, none => .error (.portNotFound b)
  | some p, some q =>
    if p.node = q.node then .error .sameNode
    else if p.direction = q.direction then .error .sameDirection
    else
      let (source, target) := orient p q
      if !source.type.fits target.type then .error (.typeMismatch source.type target.type)
      else if g.reaches target.node source.node then .error .wouldCreateCycle
      else .ok (source, target)

/-- Add an edge as the newest: to its two ports and to the edge list. -/
def addEdge (g : Graph) (e : Edge) : Graph :=
  let wired := (g.updatePort e.source (·.attach e.id)).updatePort e.target (·.attach e.id)
  { wired with edges := wired.edges ++ [e] }

/-- Join an output and an input by a new edge, after freeing the input. -/
def join (g : Graph) (id : EdgeId) (source target : Port) : Graph :=
  (g.disconnectAll target.edges).addEdge ⟨id, source.endpoint, target.endpoint⟩

/-- Connect two ports, given in either order, by an edge with the given identifier. -/
def connect (g : Graph) (id : EdgeId) (a b : PortId) : Except ConnectError Graph :=
  (g.wiring a b).map fun (source, target) => g.join id source target

end Graph

end ScriptGraph
