/-!
# Quoting and grouping

How texts become words of a shell script: when to put double quotes around them, and when to put
braces around a condition so that it binds as one operand.
-/

namespace ScriptGraph.Quote

/-- A text between double quotes. -/
def always (text : String) : String :=
  "\"" ++ text ++ "\""

/-- Whether a text begins and ends with a double quote, with two different ones. -/
def isQuoted (text : String) : Bool :=
  text.length ≥ 2 && text.toList.head? == some '"' && text.toList.getLast? == some '"'

/-- A text between double quotes, unless it has them already. -/
def once (text : String) : String :=
  if isQuoted text then text else always text

/-- Whether a text can stand as it is on the right of an assignment: a number, an expansion, or
something quoted already. -/
def isBare (text : String) : Bool :=
  match text.toList with
  | [] => false
  | c :: cs => (c :: cs).all Char.isDigit || c ∈ ['$', '"', '\x27', '\x60']

/-- The right side of an assignment. -/
def literal (text : String) : String :=
  if isBare text then text else always text

/-- Whether two characters stand next to each other somewhere in a text. -/
def hasPair (first second : Char) : List Char → Bool
  | c :: d :: rest => (c == first && d == second) || hasPair first second (d :: rest)
  | _ => false

/-- Whether a condition has to be grouped to be an operand: it has a connective in it or starts
with a negation. -/
def isCompound (condition : String) : Bool :=
  let cs := condition.toList
  hasPair '&' '&' cs || hasPair '|' '|' cs || cs.head? == some '!'

/-- A condition as an operand of a connective or of a negation. -/
def group (condition : String) : String :=
  if isCompound condition then "\x7b " ++ condition ++ "; \x7d" else condition

end ScriptGraph.Quote
