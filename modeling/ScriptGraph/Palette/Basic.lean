import ScriptGraph.Behaviour
import ScriptGraph.Graph.Basic

/-!
# Palettes of node kinds

A kind is the pattern that nodes are made from: a tag, the texts shown for it, its ports, the
properties a new node starts with, and a behaviour.  A palette lists kinds by tag.  Registering a
tag a second time replaces the kind and keeps its place.
-/

namespace ScriptGraph

/-- The sections of the palette. -/
inductive Category where
  | flow
  | commands
  | storage
  | constants
  | math
  | logic
  | conversion
  | utilities
  deriving DecidableEq, Inhabited

namespace Category

/-- Every category, in palette order. -/
def all : List Category :=
  [.flow, .commands, .storage, .constants, .math, .logic, .conversion, .utilities]

def displayName : Category → String
  | .flow => "Flow"
  | .commands => "Commands"
  | .storage => "Variables"
  | .constants => "Constants"
  | .math => "Math"
  | .logic => "Logic"
  | .conversion => "Conversion"
  | .utilities => "Utilities"

/-- The category of a display name in any case of its ASCII letters. -/
def ofName? (name : String) : Option Category :=
  all.find? fun c => c.displayName.toList.map Char.toLower == name.toList.map Char.toLower

/-- The category of exactly this display name. -/
def ofDisplayName? (name : String) : Option Category :=
  all.find? fun c => c.displayName == name

theorem ofDisplayName?_displayName (c : Category) :
    ofDisplayName? c.displayName = some c := by
  cases c <;> decide

end Category

/-- The pattern that nodes are made from. -/
structure NodeKind where
  tag : String
  /-- title of a new node -/
  title : String
  /-- name in the palette -/
  label : String
  category : Category
  description : String
  /-- red, green and blue of the node's header -/
  color : Nat × Nat × Nat
  inputs : List PortSpec
  outputs : List PortSpec
  properties : Properties
  behaviour : Behaviour
  deriving Inhabited

/-- Make ports from specifications, with drawn identifiers. -/
def NodeKind.drawPorts (node : NodeId) (direction : Direction) (specs : List PortSpec)
    (ids : IdSource) : List Port × IdSource :=
  let (pairs, ids) := ids.forEach specs
  (pairs.map fun (id, spec) => { id := ⟨id⟩, node, direction, spec }, ids)

/-- Make a node of a kind, with drawn identifiers for it and its ports. -/
def NodeKind.instantiate (kind : NodeKind) (ids : IdSource) : Node × IdSource :=
  let (id, ids) := ids.next
  let (inputs, ids) := drawPorts ⟨id⟩ .input kind.inputs ids
  let (outputs, ids) := drawPorts ⟨id⟩ .output kind.outputs ids
  ({ id := ⟨id⟩, tag := kind.tag, title := kind.title, properties := kind.properties,
     inputs, outputs }, ids)

/-- The known node kinds, by tag.  Each is listed under its own tag. -/
structure Palette extends Table NodeKind where
  keyed : ∀ entry ∈ entries, entry.2.tag = entry.1

namespace Palette

instance : EmptyCollection Palette := ⟨{ (∅ : Table NodeKind) with keyed := nofun }⟩

/-- Add a kind, or replace the kind of its tag. -/
def register (palette : Palette) (kind : NodeKind) : Palette :=
  { palette.set kind.tag kind with
    keyed := fun entry hentry =>
      (Table.mem_setEntries hentry).elim (fun hnew => hnew ▸ rfl) (palette.keyed entry) }

def ofKinds (kinds : List NodeKind) : Palette :=
  kinds.foldl register ∅

def behaviour? (palette : Palette) (tag : String) : Option Behaviour :=
  (palette.get? tag).map NodeKind.behaviour

def inCategory (palette : Palette) (category : Category) : List NodeKind :=
  palette.values.filter fun kind => kind.category == category

/-- Take a tag out. -/
def erase (palette : Palette) (tag : String) : Palette :=
  { palette.toTable.erase tag with
    keyed := fun entry hentry => palette.keyed entry (List.mem_filter.mp hentry).1 }

/-- The palette without some tags. -/
def without (palette : Palette) (tags : List String) : Palette :=
  tags.foldl erase palette

end Palette

end ScriptGraph
