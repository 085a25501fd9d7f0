import ScriptGraph.Emit.Draft
import ScriptGraph.Emit.Expression

/-!
# Walking the chain of control

A chain of statements is walked from node to node.  A plain statement writes its line, and the walk
goes on at the node that its first control output drives.  A control structure writes its opening
line, its bodies one level deeper and its closing line, and goes on by itself at its output
`Next`.

The walk remembers the nodes it is inside of and does not enter one a second time, so it can nest no
deeper than there are nodes, whatever the edges look like.  As with expressions, each behaviour is
written once with the walk as a parameter, and the bound appears only where the recursion is
closed.
-/

namespace ScriptGraph.Drawing

/-- The node that an output of the given name drives. -/
def next? (D : Drawing) (n : Node) (output : String) : Option Node :=
  (n.output? output).bind fun p => D.graph.execTarget? p.id

/-- The node that comes after a plain statement. -/
def successor? (D : Drawing) (n : Node) : Option Node :=
  n.execOutput?.bind fun p => D.graph.execTarget? p.id

/-- Whether something is connected to an output. -/
def outputConnected (n : Node) (output : String) : Bool :=
  ((n.output? output).map Port.isConnected).getD false

/-- Whether something is connected to an input. -/
def inputConnected (n : Node) (input : String) : Bool :=
  ((n.input? input).map Port.isConnected).getD false

/-- Walk on at whatever an output drives. -/
def followWith (D : Drawing) (walk : Node → Draft → Draft) (n : Node) (output : String)
    (d : Draft) : Draft :=
  match D.next? n output with
  | none => d
  | some target => walk target d

/-- The expression that an assignment gives its variable. -/
def assigned (D : Drawing) (n : Node) : String :=
  ((D.source? n "Value").bind D.value?).getD (Quote.literal (n.propertyText "value" ""))

/-- A control structure without a condition is left out, and the walk goes on after it. -/
def skipConstruct (D : Drawing) (walk : Node → Draft → Draft) (n : Node) (construct : Construct)
    (d : Draft) : Draft :=
  D.followWith walk n "Next" (d.warn (.missingCondition n.id n.title construct))

/-- `if`: the branch taken, the other one if something is connected to it, and what comes next. -/
def writeBranch (D : Drawing) (walk : Node → Draft → Draft) (n : Node) (d : Draft) : Draft :=
  match D.resolveCondition D.condition? n "Condition" with
  | none => D.skipConstruct walk n .branch d
  | some condition =>
    let d := d.line ("if " ++ condition ++ "; then")
    let d := d.block (D.followWith walk n "True")
    let d := if outputConnected n "False" then
        (d.line "else").block (D.followWith walk n "False")
      else d
    D.followWith walk n "Next" (d.line "fi")

/-- `for`: the loop and what comes next. -/
def writeForEach (D : Drawing) (walk : Node → Draft → Draft) (n : Node) (d : Draft) : Draft :=
  let name := loopVariable n
  let list := D.resolveLiteral D.value? n "List" "list" "*"
  let d := (d.assign name "").line ("for " ++ name ++ " in " ++ list ++ "; do")
  let d := d.block (D.followWith walk n "Loop Body")
  D.followWith walk n "Next" (d.line "done")

/-- `while`: the loop and what comes next. -/
def writeRepeatWhile (D : Drawing) (walk : Node → Draft → Draft) (n : Node) (d : Draft) :
    Draft :=
  match D.resolveCondition D.condition? n "Condition" with
  | none => D.skipConstruct walk n .loop d
  | some condition =>
    let d := d.line ("while " ++ condition ++ "; do")
    let d := d.block (D.followWith walk n "Body")
    D.followWith walk n "Next" (d.line "done")

/-- The definition of a function, among the functions. -/
def writeDefinition (D : Drawing) (walk : Node → Draft → Draft) (n : Node) (d : Draft) : Draft :=
  let d := d.functionLine (n.functionName ++ "() \x7b")
  let d := d.inFunction fun d => d.block (D.followWith walk n "Exec")
  (d.functionLine "\x7d").functionLine ""

/-- The line of a call to a function.  Without a name there is nothing to call. -/
def callLine (n : Node) : Option String :=
  let name := n.propertyText "function" ""
  if name.isEmpty then none else some name

/-- `git clone`, with a destination if there is one. -/
def gitCloneLine (n : Node) : String :=
  let clone := "git clone " ++ Quote.always (n.propertyText "repo_url" "")
  let destination := n.propertyText "destination_path" ""
  if destination.isEmpty then clone else clone ++ " " ++ Quote.always destination

/-- The name of the variable that an assignment sets. -/
def assignedName (n : Node) : String :=
  n.propertyText "variable" "VAR"

/-- The line of a plain statement, if it has one. -/
def plainLine (D : Drawing) (n : Node) : Behaviour → Option String
  | .call => callLine n
  | .giveBack => some ("return " ++ D.resolveLiteral D.value? n "Value" "value" "0")
  | .runCommand =>
    let command := D.commandLine D.value? n
    if Text.allBlank command then none else some command
  | .echo => some ("echo " ++ Quote.once (D.resolveValue D.value? n "Text" "text" ""))
  | .exit => some ("exit " ++ D.resolveLiteral D.value? n "Code" "code" "0")
  | .setVariable => some (assignedName n ++ "=" ++ D.assigned n)
  | .sleep => some ("sleep " ++ D.resolveLiteral D.value? n "Duration" "duration" "1")
  | .download =>
    some ("curl -o " ++ Quote.always (n.propertyText "output_path" "") ++ " " ++
      Quote.always (n.propertyText "url" ""))
  | .gitClone => some (gitCloneLine n)
  | .openWebsite => some ("xdg-open " ++ Quote.always (n.propertyText "url" ""))
  | _ => none

/-- What a plain statement leaves in the draft apart from its line: an assignment is noted, and a
call to a function that is not declared is a problem. -/
def plainEffect (D : Drawing) (n : Node) (d : Draft) : Behaviour → Draft
  | .call =>
    match callLine n with
    | none => d
    | some name => if d.isDeclared name then d else d.warn (.undefinedFunction n.id name)
  | .setVariable => d.assign (assignedName n) (D.assigned n)
  | _ => d

/-- Make one detour. -/
def detourWith (D : Drawing) (walk : Node → Draft → Draft) (n : Node) (d : Draft) :
    Detour → Draft
  | .follow output => D.followWith walk n output d
  | .reenter => walk n d

/-- What a custom behaviour does before it gives its line. -/
def runCustom (D : Drawing) (walk : Node → Draft → Draft) (n : Node) (d : Draft) (c : Custom) :
    Draft :=
  c.detours.foldl (D.detourWith walk n) d

/-- A node as a statement: the line to write after what it writes itself, and the draft. -/
def writeWith (D : Drawing) (walk : Node → Draft → Draft) (n : Node) (d : Draft) :
    Behaviour → Option String × Draft
  | .branch => (none, D.writeBranch walk n d)
  | .forEach => (none, D.writeForEach walk n d)
  | .repeatWhile => (none, D.writeRepeatWhile walk n d)
  | .define => (none, D.writeDefinition walk n d)
  | .custom c => (c.statement, D.runCustom walk n d c)
  | plain => (D.plainLine n plain, D.plainEffect n d plain)

/-- Ask a node for its statement. -/
def statementWith (D : Drawing) (walk : Node → Draft → Draft) (n : Node) (d : Draft)
    (behaviour : Behaviour) : Option String × Draft :=
  D.writeWith walk n (d.ask n.id) behaviour

/-- Walk the chain that starts at a node, going into at most as many nodes at a time as the first
argument says. -/
def walkWithin (D : Drawing) : Nat → Node → Draft → Draft
  | 0, _, d => d
  | depth + 1, n, d =>
    if n.id ∈ d.active then d.note (.revisited n.title n.id)
    else
      let d := d.enter n.id
      let d := match D.behaviour? n with
        | none => d.warn (.unregisteredNode n.id n.tag)
        | some behaviour =>
          let (text, d) := D.statementWith (D.walkWithin depth) n d behaviour
          let d := d.line? text
          if behaviour.continues then
            match D.successor? n with
            | none => d
            | some target => D.walkWithin depth target d
          else d
      d.leave n.id

/-- How many nodes a walk can be inside of, and one more for coming back to one of them. -/
def walkDepth (D : Drawing) : Nat :=
  D.graph.nodes.length + 1

/-- Walk the chain that starts at a node. -/
def walk (D : Drawing) (n : Node) (d : Draft) : Draft :=
  D.walkWithin D.walkDepth n d

/-- Walk on at whatever an output of a node drives. -/
def follow (D : Drawing) (n : Node) (output : String) (d : Draft) : Draft :=
  D.followWith D.walk n output d

/-- A node as a statement, without going on to the next one.  A node whose kind is unknown is
none. -/
def statement (D : Drawing) (n : Node) (d : Draft) : Option String × Draft :=
  match D.behaviour? n with
  | none => (none, d)
  | some behaviour => D.statementWith D.walk n d behaviour

end ScriptGraph.Drawing
