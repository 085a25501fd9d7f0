import ScriptGraph.Emit.Script

/-!
# Settings

What a user can set once for all scripts: the first line, the width of the indentation, and whether
the log is detailed.  Settings carry the version of their format, and those of a later version are
refused.
-/

namespace ScriptGraph

/-- The latest format version of settings that can be read. -/
def Settings.supportedVersion : UInt32 := 1

/-- What a user can set for all scripts. -/
structure Settings where
  formatVersion : UInt32 := Settings.supportedVersion
  shebang : Option String := none
  /-- spaces per level of indentation -/
  indentWidth : UInt64 := Style.defaultIndentWidth
  /-- whether the log is detailed -/
  debug : Bool := false
  deriving DecidableEq, Inhabited

namespace Settings

/-- The name of the settings file, unless another is asked for. -/
def fileName : String := "vbash.ron"

/-- The written form of scripts under these settings. -/
def style (s : Settings) : Style :=
  { shebang := s.shebang, indentWidth := s.indentWidth }

/-- Changes to settings; what is absent stays. -/
structure Change where
  /-- a blank line clears the shebang -/
  shebang : Option String := none
  indentWidth : Option UInt64 := none
  debug : Option Bool := none
  deriving DecidableEq, Inhabited

/-- Whether there is nothing to change. -/
def Change.isEmpty (c : Change) : Bool :=
  c.shebang.isNone && c.indentWidth.isNone && c.debug.isNone

/-- Apply changes. -/
def update (s : Settings) (c : Change) : Settings :=
  { s with
    shebang := match c.shebang with
      | none => s.shebang
      | some line => if Text.allBlank line then none else some line
    indentWidth := c.indentWidth.getD s.indentWidth
    debug := c.debug.getD s.debug }

/-- The settings as they are shown to a user. -/
def summary (s : Settings) : String :=
  "shebang:      " ++ s.style.shebangLine ++ "\nindent_width: " ++
    toString s.indentWidth.toNat ++
    "\ndebug:        " ++ (if s.debug then "true" else "false") ++ "\n"

end Settings

end ScriptGraph
