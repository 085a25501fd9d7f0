import ScriptGraph.Palette.Flow

/-!
# Kinds for variables, constants and operators

Apart from the assignment these are pure producers: they have no control ports and are written
where another node asks for their value or their condition.
-/

namespace ScriptGraph.NodeKind

/-- Name of the property that a constant keeps its literal under. -/
def literalProperty : String := "value"

def setVariable : NodeKind where
  tag := "set_variable"
  title := "Set Variable"
  label := "Set Variable"
  category := .storage
  description := "Sets a variable to a specific value"
  color := (0xF3, 0x9C, 0x12)
  inputs := [execIn, { name := "Value", type := .value, description := "Value" }]
  outputs := [execOut]
  properties := .ofList [("variable", .text "VAR"), ("value", .text "")]
  behaviour := .setVariable

def getVariable : NodeKind where
  tag := "get_variable"
  title := "Get Variable"
  label := "Get Variable"
  category := .storage
  description := "Gets the value of a variable"
  color := (0xF3, 0x9C, 0x12)
  inputs := []
  outputs := [{ name := "Value", type := .value, description := "Variable value" }]
  properties := .ofList [("variable", .text "VAR")]
  behaviour := .getVariable

def fileExists : NodeKind where
  tag := "file_exists"
  title := "File Exists"
  label := "File Exists"
  category := .storage
  description := "Checks if a file exists"
  color := (0x1A, 0xBC, 0x9C)
  inputs := [{ name := "Path", type := .path, description := "File path" }]
  outputs := [{ name := "Result", type := .condition, description := "Existence check result" }]
  properties := .ofList [("path", .text "")]
  behaviour := .fileExists

def stringConstant : NodeKind where
  tag := "string_constant"
  title := "String Constant"
  label := "String Constant"
  category := .constants
  description := "Represents a string constant value"
  color := (0xBD, 0xC3, 0xC7)
  inputs := []
  outputs := [{ name := "Value", type := .string, description := "String value" }]
  properties := .ofList [(literalProperty, .text "")]
  behaviour := .quoted

def pathConstant : NodeKind where
  tag := "path_constant"
  title := "Path"
  label := "Path Constant"
  category := .constants
  description := "Represents a file system path"
  color := (0x95, 0xA5, 0xA6)
  inputs := []
  outputs := [{ name := "Value", type := .path, description := "Path value" }]
  properties := .ofList [(literalProperty, .text "")]
  behaviour := .quoted

def intConstant : NodeKind where
  tag := "int_constant"
  title := "Int"
  label := "Integer Constant"
  category := .constants
  description := "Represents an integer constant value"
  color := (0xBD, 0xC3, 0xC7)
  inputs := []
  outputs := [{ name := "Value", type := .int, description := "Integer value" }]
  properties := .ofList [(literalProperty, .int 0)]
  behaviour := .integer

/-- The two operands of an operator. -/
def operands (type : PortType) : List PortSpec :=
  [{ name := "A", type, description := "A" }, { name := "B", type, description := "B" }]

/-- The result of an operator. -/
def result (type : PortType) : List PortSpec :=
  [{ name := "Result", type, description := "Result" }]

/-- An operator on integers. -/
def arithmetic (tag title : String) (op : ArithOp) (color : Nat × Nat × Nat) : NodeKind where
  tag
  title
  label := title
  category := .math
  description := "Integer expression `a " ++ op.symbol ++ " b`"
  color
  inputs := operands .int
  outputs := result .int
  properties := .ofList [("a", .int 0), ("b", .int 0)]
  behaviour := .arithmetic op

/-- A comparison of integers. -/
def comparison (tag title : String) (op : CompareOp) (color : Nat × Nat × Nat) : NodeKind where
  tag
  title
  label := title
  category := .logic
  description := "Arithmetic test `a " ++ op.symbol ++ " b`"
  color
  inputs := operands .int
  outputs := result .condition
  properties := .ofList [("a", .int 0), ("b", .int 0)]
  behaviour := .comparison op

/-- A connective of two conditions. -/
def logical (tag title : String) (op : LogicOp) : NodeKind where
  tag
  title
  label := "Logical " ++ title
  category := .logic
  description := "Combines two conditions with `" ++ op.symbol ++ "`"
  color := (0x7F, 0x8C, 0x8D)
  inputs := operands .condition
  outputs := result .condition
  properties := ∅
  behaviour := .logical op

def negation : NodeKind where
  tag := "logical_not"
  title := "Not"
  label := "Logical Not"
  category := .logic
  description := "Negates a condition"
  color := (0x7F, 0x8C, 0x8D)
  inputs := [{ name := "A", type := .condition, description := "A" }]
  outputs := result .condition
  properties := ∅
  behaviour := .negation

/-- The kinds for variables and constants. -/
def storage : List NodeKind :=
  [setVariable, getVariable, fileExists, stringConstant, pathConstant]

/-- The kinds for integers and conditions. -/
def operators : List NodeKind :=
  [intConstant,
    arithmetic "addition" "Addition" .add (0xF1, 0xC4, 0x0F),
    arithmetic "subtraction" "Subtraction" .sub (0xE6, 0x7E, 0x22),
    arithmetic "multiplication" "Multiplication" .mul (0xD3, 0x54, 0x00),
    arithmetic "division" "Division" .div (0xC0, 0x39, 0x2B),
    arithmetic "modulo" "Modulo" .mod (0x9B, 0x59, 0xB6),
    comparison "less_than" "Less Than" .less (0x34, 0x98, 0xDB),
    comparison "greater_than" "Greater Than" .greater (0x29, 0x80, 0xB9),
    comparison "equals" "Equals" .equal (0x16, 0xA0, 0x85),
    logical "logical_and" "And" .and,
    logical "logical_or" "Or" .or,
    negation]

end ScriptGraph.NodeKind
