import ScriptGraph.Graph.Basic

/-!
# Reachability

Whether one node leads to another by following edges downstream.  The search keeps a stack of nodes
to look at and a list of the nodes whose edges it has followed.  A node is marked when it is taken
from the stack and not when it is put there, so the stack may hold a node many times.  Still every
edge is followed once at most, so no more nodes are taken from the stack than there are edges, and
the one that the search starts from.
-/

namespace ScriptGraph.Graph

/-- The targets of the edges that leave a node, one for each edge. -/
def targets (edges : List Edge) (node : NodeId) : List NodeId :=
  (edges.filter fun e => e.source.node == node).map (·.target.node)

/-- Take nodes from the stack until the goal turns up or none is left.  The first argument bounds the
number of nodes taken; there is no answer if it is too small. -/
def search (edges : List Edge) (goal : NodeId) :
    (most : Nat) → (stack visited : List NodeId) → Option Bool
  | _, [], _ => some false
  | 0, _ :: _, _ => none
  | most + 1, node :: stack, visited =>
    if node = goal then some true
    else if node ∈ visited then search edges goal most stack visited
    else search edges goal most ((targets edges node).reverse ++ stack) (node :: visited)

/-- Whether a node leads to another along edges.  Every node leads to itself. -/
def reaches (g : Graph) (start goal : NodeId) : Bool :=
  (search g.edges goal (g.edges.length + 1) [start] []).getD false

end ScriptGraph.Graph
