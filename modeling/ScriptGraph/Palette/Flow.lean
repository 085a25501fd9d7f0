import ScriptGraph.Palette.Basic

/-!
# Kinds for control flow and commands
-/

namespace ScriptGraph.NodeKind

/-- A control input, as every statement has one. -/
def execIn : PortSpec :=
  { name := "Exec", type := .exec, description := "Control flow input" }

/-- A control output to the statement after this one. -/
def execOut : PortSpec :=
  { name := "Exec", type := .exec, description := "Control flow output" }

def start : NodeKind where
  tag := "start"
  title := "Start"
  label := "Start"
  category := .flow
  description := "The starting point of the flow"
  color := (0x4A, 0x90, 0xE2)
  inputs := []
  outputs := [{ name := "Exec", type := .exec, description := "Start of the flow" }]
  properties := ∅
  behaviour := .start

def branch : NodeKind where
  tag := "if"
  title := "If"
  label := "If Condition"
  category := .flow
  description := "Evaluates a condition and branches the flow"
  color := (0xE9, 0x4B, 0x3C)
  inputs := [execIn,
    { name := "Condition", type := .condition, description := "Condition to evaluate" }]
  outputs := [
    { name := "True", type := .exec, description := "If condition is true" },
    { name := "False", type := .exec, description := "If condition is false" },
    { name := "Next", type := .exec, description := "Continue after if" }]
  properties := ∅
  behaviour := .branch

def forEach : NodeKind where
  tag := "for"
  title := "For Loop"
  label := "For Loop"
  category := .flow
  description := "Iterates over a list"
  color := (0x9B, 0x59, 0xB6)
  inputs := [execIn, { name := "List", type := .string, description := "List to iterate over" }]
  outputs := [
    { name := "Loop Body", type := .exec, description := "Executed for each item" },
    { name := "Item", type := .value, description := "Current item in the loop" },
    { name := "Next", type := .exec, description := "Continue after loop" }]
  properties := .ofList [("variable", .text "item"), ("list", .text "*")]
  behaviour := .forEach

def repeatWhile : NodeKind where
  tag := "while"
  title := "While"
  label := "While Loop"
  category := .flow
  description := "Repeats execution while a condition is true"
  color := (0x8E, 0x44, 0xAD)
  inputs := [execIn, { name := "Condition", type := .condition, description := "Loop condition" }]
  outputs := [
    { name := "Body", type := .exec, description := "Loop body" },
    { name := "Next", type := .exec, description := "Continue after loop" }]
  properties := ∅
  behaviour := .repeatWhile

def function : NodeKind where
  tag := "function"
  title := "Function"
  label := "Function"
  category := .flow
  description := "Defines a bash function"
  color := (0x1A, 0xBC, 0x9C)
  inputs := []
  outputs := [{ name := "Exec", type := .exec, description := "Function body" }]
  properties := .ofList [(Node.functionProperty, .text Node.defaultFunction)]
  behaviour := .define

def call : NodeKind where
  tag := "call"
  title := "Call"
  label := "Call Function"
  category := .flow
  description := "Calls a bash function"
  color := (0xF3, 0x9C, 0x12)
  inputs := [execIn]
  outputs := [execOut]
  properties := .ofList [("function", .text Node.defaultFunction)]
  behaviour := .call

def giveBack : NodeKind where
  tag := "return"
  title := "Return"
  label := "Return"
  category := .flow
  description := "Returns a status from a function"
  color := (0xE7, 0x4C, 0x3C)
  inputs := [execIn, { name := "Value", type := .string, description := "Return value" }]
  outputs := []
  properties := ∅
  behaviour := .giveBack

def runCommand : NodeKind where
  tag := "run_command"
  title := "Run Command"
  label := "Run Command"
  category := .commands
  description := "Executes a shell command"
  color := (0x2E, 0xCC, 0x71)
  inputs := [execIn, { name := "Command", type := .string, description := "Command to execute" }]
  outputs := [execOut, { name := "Output", type := .string, description := "Command output" }]
  properties := .ofList [("command", .text "ls")]
  behaviour := .runCommand

def echo : NodeKind where
  tag := "echo"
  title := "Echo"
  label := "Echo"
  category := .commands
  description := "Prints text to standard output"
  color := (0x27, 0xAE, 0x60)
  inputs := [execIn, { name := "Text", type := .value, description := "Text to print" }]
  outputs := [execOut]
  properties := .ofList [("text", .text "Hello")]
  behaviour := .echo

def exit : NodeKind where
  tag := "exit"
  title := "Exit"
  label := "Exit Script"
  category := .commands
  description := "Terminates the script with an exit code"
  color := (0xC0, 0x39, 0x2B)
  inputs := [execIn,
    { name := "Code", type := .int, description := "Exit code", default := some (.int 0) }]
  outputs := []
  properties := .ofList [("code", .int 0)]
  behaviour := .exit

/-- The kinds for control flow. -/
def flow : List NodeKind :=
  [start, branch, forEach, repeatWhile, function, call, giveBack]

/-- The kinds for commands. -/
def commands : List NodeKind :=
  [runCommand, echo, exit]

end ScriptGraph.NodeKind
