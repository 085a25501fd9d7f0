/-!
# Behaviours

What a node contributes to a script is fixed by the behaviour of its kind.  A statement contributes
lines where the chain of control passes through it; a value or a condition contributes an
expression where some other node asks for it.  The built-in behaviours are listed one by one, and
`custom` covers those made of fixed texts and of chains to walk.
-/

namespace ScriptGraph

/-- Integer operators. -/
inductive ArithOp where
  | add
  | sub
  | mul
  | div
  | mod
  deriving DecidableEq

def ArithOp.symbol : ArithOp → String
  | .add => "+"
  | .sub => "-"
  | .mul => "*"
  | .div => "/"
  | .mod => "%"

/-- Integer comparisons. -/
inductive CompareOp where
  | less
  | greater
  | equal
  deriving DecidableEq

def CompareOp.symbol : CompareOp → String
  | .less => "<"
  | .greater => ">"
  | .equal => "=="

/-- Connectives of two conditions. -/
inductive LogicOp where
  | and
  | or
  deriving DecidableEq

def LogicOp.symbol : LogicOp → String
  | .and => "&&"
  | .or => "||"

/-- A chain that a custom behaviour walks on behalf of its node. -/
inductive Detour where
  /-- the chain that an output drives, by name -/
  | follow (output : String)
  /-- the chain of the node itself -/
  | reenter
  deriving DecidableEq, Inhabited

/-- A behaviour made of fixed texts.  As a statement it makes some detours in turn, as many as it
likes, and then gives its line. -/
structure Custom where
  statement : Option String := none
  value : Option String := none
  condition : Option String := none
  detours : List Detour := []
  continues : Bool := true
  hoisted : Bool := false
  deriving DecidableEq, Inhabited

/-- What the nodes of a kind contribute to a script. -/
inductive Behaviour where
  | start
  /-- `if`, with a branch for each outcome -/
  | branch
  /-- `for` over a list of words -/
  | forEach
  /-- `while` a condition holds -/
  | repeatWhile
  /-- the definition of a function -/
  | define
  | call
  | giveBack
  | runCommand
  | echo
  | exit
  | setVariable
  | getVariable
  | fileExists
  /-- a literal written in double quotes -/
  | quoted
  | integer
  | arithmetic (op : ArithOp)
  | comparison (op : CompareOp)
  | logical (op : LogicOp)
  | negation
  | toText
  | toInteger
  | sleep
  | download
  | gitClone
  | openWebsite
  | custom (c : Custom)
  deriving DecidableEq, Inhabited

namespace Behaviour

/-- Whether the chain goes on at the node's first control output.  The control structures go on by
themselves, at the output for what comes next. -/
def continues : Behaviour → Bool
  | .branch | .forEach | .repeatWhile | .define => false
  | .custom c => c.continues
  | _ => true

/-- Whether the node is written before the main part, among the functions. -/
def hoisted : Behaviour → Bool
  | .define => true
  | .custom c => c.hoisted
  | _ => false

end Behaviour

end ScriptGraph
