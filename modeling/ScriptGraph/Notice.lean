import ScriptGraph.Graph.Connect

/-!
# Warnings and notices

A warning is a problem found while compiling that does not stop the compiler; it is part of the
result.  A notice is anything worth a line in the log: every warning, and what is passed over when
a document is loaded, a fragment pasted or a chain walked.
-/

namespace ScriptGraph

/-- The control structures that need a condition. -/
inductive Construct where
  | branch
  | loop
  deriving DecidableEq

def Construct.keyword : Construct → String
  | .branch => "if"
  | .loop => "while"

/-- A problem that does not stop the compiler. -/
inductive Warning where
  /-- no start node: the main part is empty -/
  | missingStart
  /-- a control structure has no condition and is left out -/
  | missingCondition (node : NodeId) (title : String) (construct : Construct)
  /-- the kind of a node is not in the palette -/
  | unregisteredNode (node : NodeId) (tag : String)
  /-- a call to a function that no node defines -/
  | undefinedFunction (node : NodeId) (name : String)
  deriving DecidableEq

def Warning.message : Warning → String
  | .missingStart => "No start node, generated an empty script"
  | .missingCondition _ title construct =>
    title ++ ": no condition connected, skipping " ++ construct.keyword ++ " block"
  | .unregisteredNode node tag =>
    "Node " ++ node.uuid.text ++ " has unregistered type `" ++ tag ++ "`"
  | .undefinedFunction _ name => "Call to undefined function `" ++ name ++ "`"

/-- The version that documents are written in. -/
def documentVersion : String := "0.0.0.beta"

/-- A line of the log. -/
inductive Notice where
  | warning (w : Warning)
  /-- a chain came back to a node it is inside of, and ends there -/
  | revisited (title : String) (node : NodeId)
  /-- a document of another version -/
  | versionDiffers (version : String)
  /-- an edge of a document that cannot be connected -/
  | edgeSkipped (edge : EdgeId) (cause : ConnectError)
  /-- an edge of a fragment that cannot be connected -/
  | pastedEdgeSkipped (cause : ConnectError)
  /-- an edge of a fragment that names a node or port the fragment does not have -/
  | pastedEdgeOutOfRange
  | unknownCategory (name : String)
  deriving DecidableEq

def Notice.message : Notice → String
  | .warning w => w.message
  | .revisited title node =>
    "Exec chain revisits " ++ title ++ " (" ++ node.uuid.text ++ "), truncating"
  | .versionDiffers version =>
    "Document version " ++ version ++ " differs from " ++ documentVersion ++ ", loading anyway"
  | .edgeSkipped edge cause => "Skipping edge " ++ edge.uuid.text ++ ": " ++ cause.message
  | .pastedEdgeSkipped cause => "Skipping pasted edge: " ++ cause.message
  | .pastedEdgeOutOfRange => "Skipping pasted edge with out-of-range endpoint"
  | .unknownCategory name => "Unknown category `" ++ name ++ "`"

/-- The warning in a notice, if it is one. -/
def Notice.warning? : Notice → Option Warning
  | .warning w => some w
  | _ => none

end ScriptGraph
