import ScriptGraph.Behaviour
import ScriptGraph.Decimal.Shortest
import ScriptGraph.Document.Basic
import ScriptGraph.Document.Fragment
import ScriptGraph.Document.Load
import ScriptGraph.Document.Text
import ScriptGraph.Emit.Draft
import ScriptGraph.Emit.Expression
import ScriptGraph.Emit.Quote
import ScriptGraph.Emit.Script
import ScriptGraph.Emit.Walk
import ScriptGraph.Graph.Basic
import ScriptGraph.Graph.Connect
import ScriptGraph.Graph.Reach
import ScriptGraph.Host.Action
import ScriptGraph.Host.FileTree
import ScriptGraph.Host.Invocation
import ScriptGraph.Host.Usage
import ScriptGraph.Json.Number
import ScriptGraph.Json.Reader
import ScriptGraph.Json.Record
import ScriptGraph.Json.Tree
import ScriptGraph.Json.Value
import ScriptGraph.Json.Writer
import ScriptGraph.Main
import ScriptGraph.Node
import ScriptGraph.Notation.Dialect
import ScriptGraph.Notation.Number
import ScriptGraph.Notation.Quoted
import ScriptGraph.Notation.Token
import ScriptGraph.Notation.Value
import ScriptGraph.Notice
import ScriptGraph.Palette.Basic
import ScriptGraph.Palette.Flow
import ScriptGraph.Palette.Standard
import ScriptGraph.Palette.Values
import ScriptGraph.Port
import ScriptGraph.Proofs.Document.Loading
import ScriptGraph.Proofs.Document.Rearranged
import ScriptGraph.Proofs.Document.RoundTrip
import ScriptGraph.Proofs.Document.Text
import ScriptGraph.Proofs.Emit.Alike
import ScriptGraph.Proofs.Emit.Arithmetic
import ScriptGraph.Proofs.Emit.Balance
import ScriptGraph.Proofs.Emit.Bodies
import ScriptGraph.Proofs.Emit.Bounds
import ScriptGraph.Proofs.Emit.Calls
import ScriptGraph.Proofs.Emit.Comparison
import ScriptGraph.Proofs.Emit.Conditions
import ScriptGraph.Proofs.Emit.Correspondence
import ScriptGraph.Proofs.Emit.Coverage
import ScriptGraph.Proofs.Emit.Dropping
import ScriptGraph.Proofs.Emit.Extension
import ScriptGraph.Proofs.Emit.Flow
import ScriptGraph.Proofs.Emit.Growth
import ScriptGraph.Proofs.Emit.Layout
import ScriptGraph.Proofs.Emit.Meaning
import ScriptGraph.Proofs.Emit.Places
import ScriptGraph.Proofs.Emit.Renaming
import ScriptGraph.Proofs.Emit.Statements
import ScriptGraph.Proofs.Emit.Steps
import ScriptGraph.Proofs.Emit.Upstream
import ScriptGraph.Proofs.Fragment.Copying
import ScriptGraph.Proofs.Fragment.Nodes
import ScriptGraph.Proofs.Fragment.Pasting
import ScriptGraph.Proofs.Fragment.RoundTrip
import ScriptGraph.Proofs.Graph.Connection
import ScriptGraph.Proofs.Graph.Lookup
import ScriptGraph.Proofs.Graph.Operations
import ScriptGraph.Proofs.Graph.Path
import ScriptGraph.Proofs.Graph.Reinstating
import ScriptGraph.Proofs.Graph.Removal
import ScriptGraph.Proofs.Graph.Renaming
import ScriptGraph.Proofs.Graph.Rewiring
import ScriptGraph.Proofs.Graph.WellFormed
import ScriptGraph.Proofs.Host.Configuring
import ScriptGraph.Proofs.Host.Files
import ScriptGraph.Proofs.Json.Numeral
import ScriptGraph.Proofs.Json.Record
import ScriptGraph.Proofs.Json.Text
import ScriptGraph.Proofs.Json.Value
import ScriptGraph.Proofs.Notation.Quoted
import ScriptGraph.Proofs.Notation.Token
import ScriptGraph.Proofs.Palette.Made
import ScriptGraph.Proofs.Palette.Regular
import ScriptGraph.Proofs.Session.Acyclic
import ScriptGraph.Proofs.Session.Agreement
import ScriptGraph.Proofs.Session.Basic
import ScriptGraph.Proofs.Session.Invariant
import ScriptGraph.Proofs.Settings.Change
import ScriptGraph.Proofs.Settings.RoundTrip
import ScriptGraph.Proofs.Shell.AndOr
import ScriptGraph.Proofs.Shell.Formula
import ScriptGraph.Proofs.Uuid
import ScriptGraph.Settings.Basic
import ScriptGraph.Settings.Text
import ScriptGraph.Table
import ScriptGraph.Text.Blank
import ScriptGraph.Text.Identifier
import ScriptGraph.Text.Visible
import ScriptGraph.Uuid
import ScriptGraph.Workspace
