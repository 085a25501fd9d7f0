import ScriptGraph.Host.Action

/-!
# The program

Takes in the files that a command line mentions, runs the command on them, and writes back what
changed.  A watched graph is looked at again at short intervals.
-/

namespace ScriptGraph.Main

/-- The paths that an invocation may read or write. -/
def mentioned (i : Invocation) : List String :=
  i.config :: match i.command with
    | .build graph output _ => graph :: output.toList
    | .watch graph output => [graph, output]
    | .new path _ => [path]
    | .nodes _ => []
    | .check graph => [graph]
    | .config _ => []

/-- What a path names.  A directory can be opened and not read, which is how it is told from a path
through a file. -/
def look (path : String) : IO (Option Entry) := do
  try return some (.file { bytes := (← IO.FS.readBinFile path).toList })
  catch
    | .inappropriateType none _ _ => return some .directory
    | _ => return none

/-- Take in what names from the top lead to. -/
def takeInNames (tree : FileTree) (names : List String) : IO FileTree := do
  match ← look ("/" ++ FileTree.key names) with
  | some entry => return tree.put names entry
  | none => return tree

/-- Take in the directories on the way of a path and what it names. -/
def takeIn (tree : FileTree) (path : String) : IO FileTree :=
  let names := FileTree.pathNames path
  (List.range (names.length + 1)).foldlM (fun tree count =>
    takeInNames tree ((names.take count).foldl FileTree.child (tree.start path))) tree

/-- Take in the files that a command line mentions. -/
def takeInAll (arguments : List String) : IO FileTree := do
  let tree : FileTree := { workingDirectory := FileTree.pathNames (← IO.currentDir).toString }
  match Invocation.parse arguments with
  | .error _ => return tree
  | .ok i => (mentioned i).foldlM takeIn tree

/-- The rights of an executable file. -/
def executableRights : IO.FileRight :=
  { user := ⟨true, true, true⟩, group := ⟨true, false, true⟩, other := ⟨true, false, true⟩ }

/-- Write back what changed. -/
def writeBack (before after : FileTree) : IO Unit := do
  for (path, file) in before.changes after do
    IO.FS.writeBinFile path ⟨file.bytes.toArray⟩
    if file.executable then IO.setAccessRights path executableRights

/-- Run a command line once. -/
def runOnce (arguments : List String) : IO Nat := do
  let files ← takeInAll arguments
  let seed ← IO.getRandomBytes 16
  let seed := seed.toList.foldl (fun n b => n * 256 + b.toNat) 0
  let outcome := runProgram { files, ids := .seeded seed } arguments
  writeBack files outcome.host.files
  (← IO.getStdout).putStr outcome.host.printed
  for notice in outcome.host.notices do
    IO.eprintln notice.message
  if let some failure := outcome.failure then IO.eprintln failure.message
  return outcome.exitCode

/-- Run a command line again whenever a file changes. -/
partial def watchFile (arguments : List String) (path : String) (last : Option Entry) :
    IO Nat := do
  IO.sleep 250
  let now ← look path
  if now.isSome && now != last then
    let code ← runOnce arguments
    if code != 0 then return code
  watchFile arguments path now

end ScriptGraph.Main

/-- Run the program. -/
def main (arguments : List String) : IO UInt32 := do
  let code ← ScriptGraph.Main.runOnce arguments
  let code ← match ScriptGraph.Invocation.parse arguments with
    | .ok { command := .watch graph _, .. } =>
      if code = 0 then
        ScriptGraph.Main.watchFile arguments graph (← ScriptGraph.Main.look graph)
      else pure code
    | _ => pure code
  return UInt32.ofNat code
