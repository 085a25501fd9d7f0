import ScriptGraph.Host.Usage
import ScriptGraph.Settings.Basic

/-!
# The command line of the program

The program has a parameter for the settings file and a flag for a detailed log, which may stand in
front of the command or behind it, and one command for each thing it does.
-/

namespace ScriptGraph

/-- What the program is asked to do. -/
inductive Command where
  /-- compile a graph, to a file or to the standard output -/
  | build (graph : String) (output shebang : Option String)
  /-- compile a graph now and whenever it changes -/
  | watch (graph output : String)
  /-- make a document with a start node -/
  | new (path : String) (force : Bool)
  /-- list the palette -/
  | nodes (category : Option String)
  /-- report the warnings of a graph -/
  | check (graph : String)
  /-- show or change the settings -/
  | config (change : Settings.Change)
  deriving DecidableEq

/-- A command with the parameters of the program. -/
structure Invocation where
  /-- the settings file -/
  config : String
  verbose : Bool
  command : Command
  deriving DecidableEq

namespace Invocation

/-- The parameters that may stand in front of the command or behind it. -/
def shared : List Parameter :=
  [{ name := "config", kind := .option .path },
   { name := "verbose", letter := some 'v', kind := .flag },
   { name := "help", letter := some 'h', kind := .help }]

def graph : Parameter := { name := "graph", kind := .position .path, required := true }

def output : Parameter := { name := "output", letter := some 'o', kind := .option .path }

def shebang : Parameter := { name := "shebang", kind := .option .text }

/-- The commands with their parameters. -/
def subcommands : List Subcommand :=
  [{ name := "build", parameters := graph :: output :: shebang :: shared },
   { name := "watch", parameters := graph :: { output with required := true } :: shared },
   { name := "new"
     parameters := { name := "path", kind := .position .path, required := true } ::
       { name := "force", kind := .flag } :: shared },
   { name := "nodes", parameters := { name := "category", kind := .option .text } :: shared },
   { name := "check", parameters := graph :: shared },
   { name := "config"
     parameters := shebang :: { name := "indent-width", kind := .option .natural } ::
       { name := "debug", kind := .option .truth } :: shared }]

/-- The program. -/
def program : Program :=
  { parameters := { name := "version", letter := some 'V', kind := .version } :: shared
    subcommands }

/-- A text among given values. -/
def text? (given : Table ArgumentValue) (name : String) : Option String :=
  match given.get? name with
  | some (.text s) => some s
  | _ => none

/-- A number among given values. -/
def natural? (given : Table ArgumentValue) (name : String) : Option UInt64 :=
  match given.get? name with
  | some (.natural n) => some n
  | _ => none

/-- A truth value among given values. -/
def truth? (given : Table ArgumentValue) (name : String) : Option Bool :=
  match given.get? name with
  | some (.truth b) => some b
  | _ => none

/-- The command of a name with given values. -/
def command? (name : String) (given : Table ArgumentValue) : Option Command :=
  match name with
  | "build" =>
    (text? given "graph").map fun graph =>
      .build graph (text? given "output") (text? given "shebang")
  | "watch" =>
    match text? given "graph", text? given "output" with
    | some graph, some output => some (.watch graph output)
    | _, _ => none
  | "new" =>
    (text? given "path").map fun path => .new path ((truth? given "force").getD false)
  | "nodes" => some (.nodes (text? given "category"))
  | "check" => (text? given "graph").map .check
  | "config" =>
    some (.config
      { shebang := text? given "shebang"
        indentWidth := natural? given "indent-width"
        debug := truth? given "debug" })
  | _ => none

/-- Read a command line.  A parameter given behind the command counts before one in front of it. -/
def parse (arguments : List String) : Except UsageError Invocation := do
  let parsed ← program.parse arguments
  match command? parsed.name parsed.given with
  | none => .error .missingArgument
  | some command =>
    return {
      config := ((text? parsed.given "config").or (text? parsed.own "config")).getD
        Settings.fileName
      verbose := parsed.given.contains "verbose" || parsed.own.contains "verbose"
      command }

end Invocation

end ScriptGraph
