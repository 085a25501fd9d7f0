import ScriptGraph.Document.Basic
import ScriptGraph.Emit.Script
import ScriptGraph.Json.Reader
import ScriptGraph.Json.Record
import ScriptGraph.Json.Writer
import ScriptGraph.Palette.Basic

/-!
# Documents as JSON

The written form of documents and of their parts.  Every record lists its fields in a fixed order,
and reading one takes the same fields by name or by position.
-/

namespace ScriptGraph

open Json (Tree required? optional?)

/-! ### Identifiers, names and values -/

def Uuid.toTree (u : Uuid) : Tree := .text u.text

def Uuid.ofTree? (tree : Tree) : Option Uuid := tree.text?.bind Uuid.ofText?

def NodeId.ofTree? (tree : Tree) : Option NodeId := (Uuid.ofTree? tree).map NodeId.mk

def PortId.ofTree? (tree : Tree) : Option PortId := (Uuid.ofTree? tree).map PortId.mk

def EdgeId.ofTree? (tree : Tree) : Option EdgeId := (Uuid.ofTree? tree).map EdgeId.mk

def PortType.toTree (type : PortType) : Tree := .text type.wireName

def PortType.ofTree? (tree : Tree) : Option PortType := tree.choice?.bind PortType.ofWireName?

def Category.toTree (category : Category) : Tree := .text category.displayName

def Category.ofTree? (tree : Tree) : Option Category := tree.choice?.bind Category.ofDisplayName?

def PropertyValue.toTree : PropertyValue → Tree
  | .bool b => .bool b
  | .int i => .ofInt i.toInt
  | .text s => .text s

/-- An integer as a property, if 64 bits hold it. -/
def PropertyValue.ofInt? (i : Int) : Option PropertyValue :=
  if Int64.minValue.toInt ≤ i ∧ i ≤ Int64.maxValue.toInt then some (.int (Int64.ofInt i)) else none

def PropertyValue.ofTree? : Tree → Option PropertyValue
  | .bool b => some (.bool b)
  | .number n => n.toInt?.bind PropertyValue.ofInt?
  | .string s => s.map .text
  | _ => none

def Properties.toTree (properties : Properties) : Tree :=
  .fields (properties.entries.map fun (key, value) => (key, value.toTree))

/-- The value of one property. -/
def Properties.entry? (member : Option String × Tree) : Option (String × PropertyValue) :=
  match member.1, PropertyValue.ofTree? member.2 with
  | some key, some value => some (key, value)
  | _, _ => none

/-- Read properties.  Of a repeated key the first gives the place and the last the value. -/
def Properties.ofTree? : Tree → Option Properties
  | .object members => (members.mapM Properties.entry?).map Table.ofList
  | _ => none

/-! ### Records -/

namespace PortRecord

def fieldNames : List String := ["id", "name", "type"]

def toTree (r : PortRecord) : Tree :=
  .fields [("id", r.id.uuid.toTree), ("name", .text r.name), ("type", r.type.toTree)]

def ofTree? (tree : Tree) : Option PortRecord := do
  let fields ← tree.record? fieldNames
  let id ← required? fields "id" PortId.ofTree?
  let name ← required? fields "name" Tree.text?
  let type ← required? fields "type" PortType.ofTree?
  return { id, name, type }

end PortRecord

namespace NodeRecord

def fieldNames : List String :=
  ["id", "type", "title", "x", "y", "properties", "inputs", "outputs"]

def toTree (r : NodeRecord) : Tree :=
  .fields
    [("id", r.id.uuid.toTree), ("type", .text r.tag), ("title", .text r.title),
     ("x", .ofSingle r.position.x), ("y", .ofSingle r.position.y),
     ("properties", (r.properties.map Properties.toTree).getD .null),
     ("inputs", .array (r.inputs.map PortRecord.toTree)),
     ("outputs", .array (r.outputs.map PortRecord.toTree))]

def ofTree? (tree : Tree) : Option NodeRecord := do
  let fields ← tree.record? fieldNames
  let id ← required? fields "id" NodeId.ofTree?
  let tag ← required? fields "type" Tree.text?
  let title ← required? fields "title" Tree.text?
  let x ← required? fields "x" Tree.single?
  let y ← required? fields "y" Tree.single?
  let properties ← optional? fields "properties" none (Tree.nullable? Properties.ofTree?)
  let inputs ← optional? fields "inputs" [] (Tree.list? PortRecord.ofTree?)
  let outputs ← optional? fields "outputs" [] (Tree.list? PortRecord.ofTree?)
  return { id, tag, title, position := ⟨x, y⟩, properties, inputs, outputs }

end NodeRecord

namespace EdgeRecord

def fieldNames : List String := ["id", "source", "target"]

def toTree (r : EdgeRecord) : Tree :=
  .fields [("id", r.id.uuid.toTree), ("source", r.source.uuid.toTree),
    ("target", r.target.uuid.toTree)]

def ofTree? (tree : Tree) : Option EdgeRecord := do
  let fields ← tree.record? fieldNames
  let id ← required? fields "id" EdgeId.ofTree?
  let source ← required? fields "source" PortId.ofTree?
  let target ← required? fields "target" PortId.ofTree?
  return { id, source, target }

end EdgeRecord

namespace Document

def fieldNames : List String := ["version", "nodes", "edges", "comments"]

/-- How deep a comment may nest.  A text may hold 127 containers inside each other, and a comment
stands inside two. -/
def commentDepth : Nat := 125

def toTree (d : Document) : Tree :=
  .fields
    [("version", .text d.version), ("nodes", .array (d.nodes.map NodeRecord.toTree)),
     ("edges", .array (d.edges.map EdgeRecord.toTree)),
     ("comments", .array (d.comments.map Json.Value.toTree))]

def ofTree? (tree : Tree) : Option Document := do
  let fields ← tree.record? fieldNames
  let version ← required? fields "version" Tree.text?
  let nodes ← required? fields "nodes" (Tree.list? NodeRecord.ofTree?)
  let edges ← required? fields "edges" (Tree.list? EdgeRecord.ofTree?)
  let comments ← optional? fields "comments" [] (Tree.list? (Tree.toValue? commentDepth))
  return { version, nodes, edges, comments }

/-- The text of a document, with a line for each item. -/
def text (d : Document) : String := d.toTree.indented

/-- Read a document. -/
def ofText? (text : String) : Option Document := (Tree.ofText? text).bind ofTree?

end Document

/-! ### What can be chosen about a script -/

namespace Style

def fieldNames : List String := ["shebang", "indent_width"]

def toTree (style : Style) : Tree :=
  .fields [("shebang", (style.shebang.map Tree.text).getD .null),
    ("indent_width", .ofNat style.indentWidth.toNat)]

def ofTree? (tree : Tree) : Option Style := do
  let fields ← tree.record? fieldNames
  let shebang ← optional? fields "shebang" none (Tree.nullable? Tree.text?)
  let indentWidth ← required? fields "indent_width" Tree.nat?
  return { shebang, indentWidth := .ofNat indentWidth }

end Style

end ScriptGraph
