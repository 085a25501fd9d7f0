import ScriptGraph.Emit.Quote
import ScriptGraph.Palette.Standard
import ScriptGraph.Text.Blank

/-!
# Expressions

The text of a node as a value or as a condition.  Both follow the edges backwards: an operator asks
the nodes that feed its inputs, and an input that nothing feeds is filled from a property of the
node, from the default of the port, or from a default of the behaviour, in this order.

The recursion runs along edges, so it is bounded by the number of nodes as long as the edges form
no cycle.  Each behaviour is written once, with the texts of other nodes as a parameter, and the
bound appears only where the recursion is closed.
-/

namespace ScriptGraph

/-- A graph together with the palette that gives its nodes their behaviour. -/
structure Drawing where
  graph : Graph
  palette : Palette

namespace Drawing

/-- The behaviour of a node, if its kind is in the palette. -/
def behaviour? (D : Drawing) (n : Node) : Option Behaviour :=
  D.palette.behaviour? n.tag

/-- The node that feeds an input. -/
def source? (D : Drawing) (n : Node) (input : String) : Option Node :=
  (n.input? input).bind fun p => (D.graph.sourceOf? p.id).map Prod.fst

/-- What stands in for an input that gives no text. -/
def fallback (n : Node) (input property default : String) : String :=
  match n.property? property with
  | some value => value.render
  | none =>
    match (n.input? input).bind fun p => p.spec.default with
    | some value => value.render
    | none => default

/-- The text of an input as an expression. -/
def resolveValue (D : Drawing) (value : Node → Option String) (n : Node)
    (input property default : String) : String :=
  ((D.source? n input).bind value).getD (fallback n input property default)

/-- The text of an input as it is typed: a node that keeps a literal is read through it, without
quotes. -/
def resolveLiteral (D : Drawing) (value : Node → Option String) (n : Node)
    (input property default : String) : String :=
  ((D.source? n input).bind fun source =>
    ((source.property? NodeKind.literalProperty).map PropertyValue.render).or (value source)).getD
      (fallback n input property default)

/-- The text of an input as a condition.  A blank text is no condition. -/
def resolveCondition (D : Drawing) (condition : Node → Option String) (n : Node)
    (input : String) : Option String :=
  ((D.source? n input).bind condition).filter fun text => !Text.allBlank text

/-- The operands of an integer operator. -/
def operandTexts (D : Drawing) (value : Node → Option String) (n : Node) : String × String :=
  (D.resolveValue value n "A" "a" "0", D.resolveValue value n "B" "b" "0")

/-- The name of the variable that a loop runs through. -/
def loopVariable (n : Node) : String :=
  n.propertyText "variable" "item"

/-- The command line of a node that runs a command. -/
def commandLine (D : Drawing) (value : Node → Option String) (n : Node) : String :=
  D.resolveLiteral value n "Command" "command" ""

/-- The test for a file. -/
def fileTest (D : Drawing) (value : Node → Option String) (n : Node) : String :=
  "[ -f \"" ++ D.resolveLiteral value n "Path" "path" "" ++ "\" ]"

/-- A node as a value, given the values of the nodes that feed it. -/
def valueOf (D : Drawing) (value : Node → Option String) (n : Node) :
    Behaviour → Option String
  | .forEach => some ("$" ++ loopVariable n)
  | .runCommand => some ("$(" ++ D.commandLine value n ++ ")")
  | .getVariable => some ("$" ++ n.propertyText "variable" "VAR")
  | .fileExists => some (D.fileTest value n)
  | .quoted => some (Quote.always (n.propertyText NodeKind.literalProperty ""))
  | .integer => some (n.propertyText NodeKind.literalProperty "0")
  | .arithmetic op =>
    let (a, b) := D.operandTexts value n
    some ("$((" ++ a ++ " " ++ op.symbol ++ " " ++ b ++ "))")
  | .comparison op =>
    let (a, b) := D.operandTexts value n
    some ("$(( " ++ a ++ " " ++ op.symbol ++ " " ++ b ++ " ))")
  | .toText => some (Quote.always (D.resolveValue value n "Input" "input" "0"))
  | .toInteger => some ("$(( " ++ D.resolveValue value n "Input" "input" "0" ++ " ))")
  | .custom c => c.value
  | _ => none

/-- A node as a condition, given the values and the conditions of the nodes that feed it. -/
def conditionOf (D : Drawing) (value condition : Node → Option String) (n : Node) :
    Behaviour → Option String
  | .fileExists => some (D.fileTest value n)
  | .comparison op =>
    let (a, b) := D.operandTexts value n
    some ("(( " ++ a ++ " " ++ op.symbol ++ " " ++ b ++ " ))")
  | .logical op => do
    let a ← D.resolveCondition condition n "A"
    let b ← D.resolveCondition condition n "B"
    return Quote.group a ++ " " ++ op.symbol ++ " " ++ Quote.group b
  | .negation => do
    let a ← D.resolveCondition condition n "A"
    return "! " ++ Quote.group a
  | .custom c => c.condition
  | _ => none

/-- A node as a value, following edges backwards at most as often as the first argument says. -/
def valueWithin (D : Drawing) : Nat → Node → Option String
  | 0, _ => none
  | steps + 1, n => (D.behaviour? n).bind (D.valueOf (D.valueWithin steps) n)

/-- A node as a condition, following edges backwards at most as often as the first argument
says. -/
def conditionWithin (D : Drawing) : Nat → Node → Option String
  | 0, _ => none
  | steps + 1, n =>
    (D.behaviour? n).bind (D.conditionOf (D.valueWithin steps) (D.conditionWithin steps) n)

/-- How far backwards an expression can lead: no further than through every node once. -/
def reach (D : Drawing) : Nat :=
  D.graph.nodes.length

/-- A node as a value. -/
def value? (D : Drawing) (n : Node) : Option String :=
  D.valueWithin D.reach n

/-- A node as a condition. -/
def condition? (D : Drawing) (n : Node) : Option String :=
  D.conditionWithin D.reach n

end Drawing

end ScriptGraph
