import ScriptGraph.Document.Basic
import ScriptGraph.Palette.Basic

/-!
# Loading documents

Each node is made afresh from its kind and then takes on what its record says.  A record whose kind
is unknown, or whose identifiers are taken, makes the whole document fail.  An edge that cannot be
connected is passed over with a notice.
-/

namespace ScriptGraph

/-- Why a document or a fragment cannot become nodes of a graph. -/
inductive LoadError where
  | unknownKind (tag : String)
  | insert (cause : InsertError)
  deriving DecidableEq

def LoadError.message : LoadError → String
  | .unknownKind tag => "Unknown node type: " ++ tag
  | .insert cause => cause.message

/-- Take on what a record says. -/
def NodeRecord.restore (r : NodeRecord) (n : Node) : Node :=
  let n := (n.withId r.id).withPortIds (r.inputs.map PortRecord.id) (r.outputs.map PortRecord.id)
  { n with
    title := r.title, position := r.position, properties := r.properties.getD n.properties }

/-- The node of a record. -/
def NodeRecord.toNode? (r : NodeRecord) (palette : Palette) (ids : IdSource) :
    Option (Node × IdSource) :=
  (palette.get? r.tag).map fun kind =>
    let (n, ids) := kind.instantiate ids
    (r.restore n, ids)

/-- Put the nodes of records into a graph. -/
def insertRecords (palette : Palette) (g : Graph) (ids : IdSource) :
    List NodeRecord → Except LoadError (Graph × IdSource)
  | [] => .ok (g, ids)
  | r :: records =>
    match r.toNode? palette ids with
    | none => .error (.unknownKind r.tag)
    | some (n, ids) =>
      match g.insert n with
      | .error cause => .error (.insert cause)
      | .ok g => insertRecords palette g ids records

/-- A graph under construction: new edges draw identifiers, and edges that are refused leave
notices. -/
structure Wiring where
  graph : Graph
  ids : IdSource
  notices : List Notice := []

namespace Wiring

/-- Connect two ports, or leave a notice about what forbids it. -/
def connect (w : Wiring) (a b : PortId) (refused : ConnectError → Notice) : Wiring :=
  let (id, ids) := w.ids.next
  match w.graph.connect ⟨id⟩ a b with
  | .ok graph => { w with graph, ids }
  | .error cause => { w with notices := w.notices ++ [refused cause] }

end Wiring

/-- Connect the edges of records. -/
def connectRecords (w : Wiring) (records : List EdgeRecord) : Wiring :=
  records.foldl (fun w r => w.connect r.source r.target (.edgeSkipped r.id)) w

/-- What there is to say about the version of a document. -/
def Document.versionNotices (d : Document) : List Notice :=
  if d.version = documentVersion then [] else [.versionDiffers d.version]

/-- What an attempt gave, with what was noticed on the way. -/
structure Attempt (α : Type) where
  notices : List Notice := []
  outcome : Except LoadError α

/-- The graph of a document. -/
def Document.toGraph (d : Document) (palette : Palette) (ids : IdSource) :
    Attempt (Graph × IdSource) :=
  match insertRecords palette ∅ ids d.nodes with
  | .error cause => { notices := d.versionNotices, outcome := .error cause }
  | .ok (graph, ids) =>
    let w := connectRecords { graph, ids } d.edges
    { notices := d.versionNotices ++ w.notices, outcome := .ok (w.graph, w.ids) }

end ScriptGraph
