import ScriptGraph.Host.FileTree
import ScriptGraph.Host.Invocation
import ScriptGraph.Settings.Text
import ScriptGraph.Workspace

/-!
# What the program does

An action works on a host: the files it sees, the identifiers it draws, what it prints and what it
notices.  An action that fails keeps what it printed and noticed before.
-/

namespace ScriptGraph

/-- What an action works on. -/
structure Host where
  files : FileTree
  ids : IdSource
  /-- what was printed -/
  printed : String := ""
  /-- what was noticed -/
  notices : List Notice := []

/-- Why an action fails. -/
inductive HostError where
  | file (cause : FileError)
  /-- a graph file is no document -/
  | malformedDocument
  | load (cause : LoadError)
  | settings (path : String) (cause : Settings.Refusal)
  | alreadyExists (path : String)
  /-- an indentation of so many spaces is longer than a text can be -/
  | indentTooWide (width : UInt64)
  /-- there is no directory to watch -/
  | nothingToWatch (path : String)
  deriving DecidableEq

def HostError.message : HostError → String
  | .file cause => "I/O error: " ++ cause.message
  | .malformedDocument => "Invalid graph document"
  | .load cause => cause.message
  | .settings path cause => "Invalid settings file " ++ path ++ ": " ++ cause.message
  | .alreadyExists path => path ++ " already exists (use --force to overwrite)"
  | .indentTooWide width => "No text holds " ++ toString width.toNat ++ " spaces"
  | .nothingToWatch path => "File watcher error: no directory for " ++ path

/-- The exit code of a program that fails. -/
def HostError.exitCode : HostError → Nat
  | .indentTooWide _ => 101
  | _ => 1

/-- An action: it changes the host, and gives a result or fails. -/
abbrev Action := ExceptT HostError (StateM Host)

namespace Action

/-- Print a text. -/
def print (text : String) : Action Unit :=
  modify fun host => { host with printed := host.printed ++ text }

/-- Notice things. -/
def note (notices : List Notice) : Action Unit :=
  modify fun host => { host with notices := host.notices ++ notices }

/-- Read a text file. -/
def readText (path : String) : Action String := do
  match (← get).files.read path with
  | .ok text => return text
  | .error cause => throw (.file cause)

/-- Change the files. -/
def changeFiles (f : FileTree → Except FileError FileTree) : Action Unit := do
  match f (← get).files with
  | .ok files => modify fun host => { host with files }
  | .error cause => throw (.file cause)

/-! ### Settings -/

/-- Load settings; there are none if there is no file. -/
def loadSettings (path : String) : Action (Option Settings) := do
  match (← get).files.read path with
  | .error .notFound => return none
  | .error cause => throw (.file cause)
  | .ok text =>
    match Settings.parse text with
    | .error cause => throw (.settings path cause)
    | .ok settings => return some settings

/-- Save settings. -/
def saveSettings (path : String) (settings : Settings) : Action Unit :=
  changeFiles fun files => files.write path settings.text

/-- Change settings, save them if there is anything to change, and show them. -/
def configure (path : String) (settings : Settings) (change : Settings.Change) :
    Action Unit := do
  let settings := settings.update change
  if !change.isEmpty then saveSettings path settings
  print settings.summary

/-! ### Graphs -/

/-- Load the graph of a file, with the standard palette. -/
def loadGraph (path : String) : Action Graph := do
  let text ← readText path
  match Document.ofText? text with
  | none => throw .malformedDocument
  | some document =>
    let attempt := document.toGraph .standard (← get).ids
    note attempt.notices
    match attempt.outcome with
    | .error cause => throw (.load cause)
    | .ok (graph, ids) =>
      modify fun host => { host with ids }
      return graph

/-- Compile a graph. -/
def compileGraph (graph : Graph) (style : Style) : Action Script :=
  match style.config? with
  | none => throw (.indentTooWide style.indentWidth)
  | some config => do
    let script := Drawing.compile ⟨graph, .standard⟩ config
    note script.notices
    return script

/-- Compile the graph of a file. -/
def compile (path : String) (style : Style) : Action Script := do
  compileGraph (← loadGraph path) style

/-- The form of scripts under settings, with another shebang if one is given. -/
def scriptStyle (settings : Settings) (shebang : Option String) : Style :=
  { settings.style with shebang := shebang.or settings.style.shebang }

/-- Write a script and make it executable. -/
def writeScript (path : String) (script : Script) : Action Unit := do
  changeFiles fun files => files.write path script.text
  changeFiles fun files => files.makeExecutable path

/-- Compile a graph to a file, or print the script. -/
def build (settings : Settings) (graph : String) (output shebang : Option String) :
    Action Unit := do
  let script ← compile graph (scriptStyle settings shebang)
  match output with
  | some path => writeScript path script
  | none => print script.text

/-- Compile a graph to a file before watching it.  A graph that does not compile is no failure,
because it may be half saved; settings that fit no graph and a directory that is not there are. -/
def startWatch (settings : Settings) (graph output : String) : Action Unit := do
  try build settings graph (some output) none
  catch
    | .indentTooWide width => throw (.indentTooWide width)
    | _ => pure ()
  if !((← get).files.directoryOf graph).toBool then throw (.nothingToWatch graph)

/-- Where the start node of a new document stands. -/
def newStart : Position := ⟨100, 100⟩

/-- The graph of a new document: a start node. -/
def newGraph (ids : IdSource) : Except LoadError (Graph × IdSource) :=
  match (Palette.standard).get? Graph.startTag with
  | none => .ok (∅, ids)
  | some kind =>
    let (n, ids) := kind.instantiate ids
    match Graph.insert ∅ { n with position := newStart } with
    | .error cause => .error (.insert cause)
    | .ok graph => .ok (graph, ids)

/-- Make a document with a start node.  A file that is there is kept, unless forced. -/
def new (path : String) (force : Bool) : Action Unit := do
  if (← get).files.contains path && !force then throw (.alreadyExists path)
  match newGraph (← get).ids with
  | .error cause => throw (.load cause)
  | .ok (graph, ids) =>
    modify fun host => { host with ids }
    changeFiles fun files => files.write path (Document.ofGraph graph []).text

/-- Fill a text up to a width. -/
def padTo (width : Nat) (text : String) : String :=
  text ++ String.ofList (List.replicate (width - text.length) ' ')

/-- The line of a kind in the listing of the palette. -/
def kindLine (kind : NodeKind) : String :=
  "  " ++ padTo 16 kind.tag ++ " " ++ padTo 18 kind.label ++ " " ++ kind.description ++ "\n"

/-- The listing of one category.  A category without kinds is left out. -/
def listCategory (category : Category) : String :=
  let kinds := (Palette.standard).inCategory category
  if kinds.isEmpty then "" else category.displayName ++ "\n" ++ String.join (kinds.map kindLine)

/-- The listing of the palette, or of one category. -/
def listNodes (category : Option String) : Action String :=
  match category with
  | none => return String.join (Category.all.map listCategory)
  | some name =>
    match Category.ofName? name with
    | some category => return listCategory category
    | none => do
      note [.unknownCategory name]
      return ""

/-- What is reported about a graph. -/
def report (path : String) (graph : Graph) (script : Script) : String :=
  path ++ ": " ++ toString graph.nodes.length ++ " nodes, " ++ toString graph.edges.length ++
    " edges, " ++ toString script.warnings.length ++ " warnings\n" ++
    String.join (script.warnings.map fun w => "  warning: " ++ w.message ++ "\n")

/-- Report the warnings of a graph, and say whether there are none. -/
def check (settings : Settings) (path : String) : Action Bool := do
  let graph ← loadGraph path
  let script ← compileGraph graph (scriptStyle settings none)
  print (report path graph script)
  return script.isClean

/-! ### Commands -/

/-- Carry out a command, and say whether all is well. -/
def perform (settingsPath : String) (settings : Settings) : Command → Action Bool
  | .build graph output shebang => do
    build settings graph output shebang
    return true
  | .watch graph output => do
    startWatch settings graph output
    return true
  | .new path force => do
    new path force
    return true
  | .nodes category => do
    print (← listNodes category)
    return true
  | .check graph => check settings graph
  | .config change => do
    configure settingsPath settings change
    return true

/-- Load the settings and carry out a command. -/
def invoke (i : Invocation) : Action Bool := do
  let settings ← loadSettings i.config
  perform i.config (settings.getD {}) i.command

end Action

/-- The name and version of the program. -/
def versionLine : String := "vbash 0.1.0\n"

/-- How to use the program. -/
def usageText : String :=
  Script.ofLines [
    "Compile Visual Bash Editor graphs into bash scripts",
    "",
    "Usage: vbash [--config <file>] [-v] <command>",
    "",
    "Commands:",
    "  build <graph> [-o <file>] [--shebang <line>]",
    "  watch <graph> -o <file>",
    "  new <path> [--force]",
    "  nodes [--category <name>]",
    "  check <graph>",
    "  config [--shebang <line>] [--indent-width <n>] [--debug <true|false>]"]

/-- What a run of the program gives. -/
structure Outcome where
  exitCode : Nat
  host : Host
  /-- why it failed, if it did -/
  failure : Option HostError := none

/-- Run the program. -/
def runProgram (host : Host) (arguments : List String) : Outcome :=
  match Invocation.parse arguments with
  | .error cause =>
    let text := match cause with
      | .version => versionLine
      | .help => usageText
      | _ => ""
    { exitCode := cause.exitCode, host := { host with printed := host.printed ++ text } }
  | .ok invocation =>
    match (Action.invoke invocation).run.run host with
    | (.ok true, host) => { exitCode := 0, host }
    | (.ok false, host) => { exitCode := 1, host }
    | (.error cause, host) => { exitCode := cause.exitCode, host, failure := some cause }

end ScriptGraph
