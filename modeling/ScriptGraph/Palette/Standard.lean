import ScriptGraph.Palette.Values

/-!
# The standard palette

The kinds for conversions and everyday tools, and the palette of all thirty-three built-in kinds.
-/

namespace ScriptGraph

namespace NodeKind

def toText : NodeKind where
  tag := "to_string"
  title := "To String"
  label := "To String"
  category := .conversion
  description := "Converts an integer to a string"
  color := (0x34, 0x49, 0x5E)
  inputs := [{ name := "Input", type := .int, description := "Value to convert to string" }]
  outputs := [{ name := "Output", type := .value, description := "String representation" }]
  properties := ∅
  behaviour := .toText

def toInteger : NodeKind where
  tag := "to_int"
  title := "To Int"
  label := "To Int"
  category := .conversion
  description := "Converts a value to an integer"
  color := (0x34, 0x49, 0x5E)
  inputs := [{ name := "Input", type := .value, description := "Value to convert to integer" }]
  outputs := [{ name := "Output", type := .int, description := "Integer representation" }]
  properties := ∅
  behaviour := .toInteger

def sleep : NodeKind where
  tag := "sleep"
  title := "Sleep"
  label := "Sleep"
  category := .utilities
  description := "Pauses execution for a specified duration"
  color := (0xE6, 0x7E, 0x22)
  inputs := [execIn,
    { name := "Duration", type := .int, description := "Duration to sleep in seconds" }]
  outputs := [execOut]
  properties := .ofList [("duration", .int 1)]
  behaviour := .sleep

def downloadFile : NodeKind where
  tag := "download_file"
  title := "Download File"
  label := "Download File"
  category := .utilities
  description := "Downloads a file from a specified URL"
  color := (0x1A, 0xBC, 0x9C)
  inputs := [execIn]
  outputs := [execOut]
  properties := .ofList [("url", .text ""), ("output_path", .text "")]
  behaviour := .download

def gitClone : NodeKind where
  tag := "git_clone"
  title := "Git Clone"
  label := "Git Clone"
  category := .utilities
  description := "Clones a Git repository to a specified destination"
  color := (0x34, 0x98, 0xDB)
  inputs := [execIn]
  outputs := [execOut]
  properties := .ofList [("repo_url", .text ""), ("destination_path", .text "")]
  behaviour := .gitClone

def openWebsite : NodeKind where
  tag := "open_website"
  title := "Open Website"
  label := "Open Website"
  category := .utilities
  description := "Opens a specified URL in the default web browser"
  color := (0x8E, 0x44, 0xAD)
  inputs := [execIn]
  outputs := [execOut]
  properties := .ofList [("url", .text "")]
  behaviour := .openWebsite

/-- The kinds for conversions and tools. -/
def tools : List NodeKind :=
  [toText, toInteger, sleep, downloadFile, gitClone, openWebsite]

/-- Every built-in kind, in palette order. -/
def builtin : List NodeKind :=
  flow ++ commands ++ storage ++ operators ++ tools

end NodeKind

/-- The palette of the built-in kinds. -/
def Palette.standard : Palette :=
  .ofKinds NodeKind.builtin

end ScriptGraph
