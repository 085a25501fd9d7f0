import ScriptGraph.Emit.Walk

/-!
# Compiling a drawing

A script has a shebang, a banner, the functions and the main part.  All functions are declared
before any is written, so a call is checked against every definition of the drawing; then the
functions are written in the order of the nodes, and last the chain that the start node drives.
-/

namespace ScriptGraph

/-- Spaces per level of indentation, unless another width is chosen. -/
def Style.defaultIndentWidth : UInt64 := 4

/-- What can be chosen about the written form of a script. -/
structure Style where
  shebang : Option String := none
  /-- spaces per level of indentation -/
  indentWidth : UInt64 := Style.defaultIndentWidth
  deriving DecidableEq, Inhabited

/-- The first line of a script that chooses no other. -/
def Style.defaultShebang : String := "#!/bin/bash"

/-- The first line of a script: the one chosen, unless it is blank. -/
def Style.shebangLine (style : Style) : String :=
  ((style.shebang.map Text.trim).filter fun line => !line.isEmpty).getD Style.defaultShebang

/-- The widest indentation that fits into a text, whose length is a signed number of 64 bits. -/
def Style.maxIndentWidth : UInt64 := 0x7fffffffffffffff

/-- A style that a script can have: its indentation fits into a text. -/
structure Config extends Style where
  fits : indentWidth ≤ Style.maxIndentWidth := by decide

/-- The style as a configuration, if a script can have it. -/
def Style.config? (style : Style) : Option Config :=
  if fits : style.indentWidth ≤ maxIndentWidth then some ⟨style, fits⟩ else none

/-- A finished script with what was noticed on the way. -/
structure Script where
  text : String
  notices : List Notice

/-- The problems found. -/
def Script.warnings (script : Script) : List Warning :=
  script.notices.filterMap Notice.warning?

/-- Whether no problem was found. -/
def Script.isClean (script : Script) : Bool :=
  script.warnings.isEmpty

/-- The comment under the shebang. -/
def Script.banner : String := "# Generated from Visual Bash Editor"

/-- Lines as a text, each with a line end. -/
def Script.ofLines (lines : List String) : String :=
  String.intercalate "\n" lines ++ "\n"

namespace Drawing

/-- The nodes that are written among the functions. -/
def hoisted (D : Drawing) : List Node :=
  D.graph.nodes.filter fun n => ((D.behaviour? n).map Behaviour.hoisted).getD false

/-- Write a hoisted node.  Its line goes to the functions as it is. -/
def hoist (D : Drawing) (n : Node) (d : Draft) : Draft :=
  let (text, d) := D.statement n d
  match text with
  | none => d
  | some text => if text.isEmpty then d else d.functionLine text

/-- Write the main part. -/
def writeMain (D : Drawing) (d : Draft) : Draft :=
  match D.graph.start? with
  | none => d.warn .missingStart
  | some start =>
    match D.successor? start with
    | none => d
    | some first => D.walk first d

/-- Write the functions, after all of them are declared. -/
def writeFunctions (D : Drawing) (d : Draft) : Draft :=
  let d := D.hoisted.foldl (fun d n => d.declare n.functionName) d
  D.hoisted.foldl (fun d n => D.hoist n d) d

/-- Write functions and main part. -/
def draft (D : Drawing) (config : Config) : Draft :=
  D.writeMain (D.writeFunctions { width := config.indentWidth.toNat })

/-- The lines in front of the functions. -/
def header (config : Config) : List String :=
  [config.shebangLine, "", Script.banner, ""]

/-- The lines of the script of a draft. -/
def scriptLines (config : Config) (d : Draft) : List String :=
  header config ++ d.functions ++ d.main

/-- Compile a drawing. -/
def compile (D : Drawing) (config : Config) : Script :=
  let d := D.draft config
  { text := Script.ofLines (scriptLines config d), notices := d.notices }

end Drawing

end ScriptGraph
