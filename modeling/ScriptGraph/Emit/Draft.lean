import ScriptGraph.Notice

/-!
# Scripts in the making

A draft is what a compilation has written so far.  Lines go to one of two buffers, the main part
and the functions, at the current depth of indentation; the function buffer ends up in front of the
main part.  A draft also knows the variables assigned and the functions declared so far, the
notices raised, the nodes asked for a statement so far, and the nodes that the walk is inside of at
the moment.
-/

namespace ScriptGraph

/-- The two parts of a script. -/
inductive Buffer where
  | main
  | functions
  deriving DecidableEq

/-- A script in the making. -/
structure Draft where
  /-- spaces per level of indentation -/
  width : Nat
  depth : Nat := 0
  /-- where lines go -/
  buffer : Buffer := .main
  main : List String := []
  functions : List String := []
  /-- the last expression assigned to each variable -/
  assignments : Table String := ∅
  /-- the functions known to be defined -/
  declared : List String := []
  notices : List Notice := []
  /-- the nodes asked for a statement, in this order -/
  asked : List NodeId := []
  /-- the nodes on the way from the start of the walk to where it is -/
  active : List NodeId := []

namespace Draft

/-- The lines of the buffer in use. -/
def current (d : Draft) : List String :=
  match d.buffer with
  | .main => d.main
  | .functions => d.functions

/-- A line at the current depth.  The empty line is not indented. -/
def indented (d : Draft) (text : String) : String :=
  if text.isEmpty then "" else String.ofList (List.replicate (d.width * d.depth) ' ') ++ text

/-- Write a line to the buffer in use. -/
def line (d : Draft) (text : String) : Draft :=
  match d.buffer with
  | .main => { d with main := d.main ++ [d.indented text] }
  | .functions => { d with functions := d.functions ++ [d.indented text] }

/-- Write a line that may be absent or empty, in which case nothing is written. -/
def line? (d : Draft) : Option String → Draft
  | none => d
  | some text => if text.isEmpty then d else d.line text

/-- Write a line to the functions as it is. -/
def functionLine (d : Draft) (text : String) : Draft :=
  { d with functions := d.functions ++ [text] }

def indent (d : Draft) : Draft :=
  { d with depth := d.depth + 1 }

/-- Go one level out.  The outermost level stays where it is. -/
def dedent (d : Draft) : Draft :=
  { d with depth := d.depth - 1 }

/-- Close a block that was opened by indenting `before`.  A block in which nothing was written gets
a `:`, because an empty body is an error in a script. -/
def endBlock (d before : Draft) : Draft :=
  (if d.current.length = before.current.length then d.line ":" else d).dedent

/-- Write a body one level deeper. -/
def block (d : Draft) (body : Draft → Draft) : Draft :=
  (body d.indent).endBlock d

/-- Turn to the functions, at the left margin. -/
def beginFunction (d : Draft) : Draft :=
  { d with buffer := .functions, depth := 0 }

/-- Turn back to the buffer and the depth that were in use before. -/
def endFunction (d before : Draft) : Draft :=
  { d with buffer := before.buffer, depth := before.depth }

/-- Run a body that writes to the functions, from the left margin. -/
def inFunction (d : Draft) (body : Draft → Draft) : Draft :=
  (body d.beginFunction).endFunction d

/-- Note what a variable is assigned. -/
def assign (d : Draft) (name expression : String) : Draft :=
  { d with assignments := d.assignments.set name expression }

def assignment? (d : Draft) (name : String) : Option String :=
  d.assignments.get? name

/-- Note that a function is defined. -/
def declare (d : Draft) (name : String) : Draft :=
  if name ∈ d.declared then d else { d with declared := d.declared ++ [name] }

def isDeclared (d : Draft) (name : String) : Bool :=
  d.declared.contains name

def note (d : Draft) (n : Notice) : Draft :=
  { d with notices := d.notices ++ [n] }

def warn (d : Draft) (w : Warning) : Draft :=
  d.note (.warning w)

/-- The warnings among the notices. -/
def warnings (d : Draft) : List Warning :=
  d.notices.filterMap Notice.warning?

/-- Note that a node is asked for its statement. -/
def ask (d : Draft) (node : NodeId) : Draft :=
  { d with asked := d.asked ++ [node] }

/-- Go into a node. -/
def enter (d : Draft) (node : NodeId) : Draft :=
  { d with active := node :: d.active }

/-- Come out of a node. -/
def leave (d : Draft) (node : NodeId) : Draft :=
  { d with active := d.active.erase node }

end Draft

end ScriptGraph
