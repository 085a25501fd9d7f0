import ScriptGraph.Json.Number
import ScriptGraph.Table

/-!
# Records in JSON

A record is written as an object with a member for each field.  It is read from such an object, in
which other members are passed over and a field may not come twice, or from an array with the
fields in order.  A field that is missing is for the reader of the record to refuse or to fill.
-/

namespace ScriptGraph.Json

/-- The members of an object that are among the given fields, or none if one of them comes twice or
a key is no text. -/
def knownMembers? (names : List String) (known : Table Tree) :
    List (Option String × Tree) → Option (Table Tree)
  | [] => some known
  | (none, _) :: _ => none
  | (some key, value) :: members =>
    if key ∈ names then
      if known.contains key then none else knownMembers? names (known.set key value) members
    else knownMembers? names known members

namespace Tree

/-- The fields of a record. -/
def record? (names : List String) : Tree → Option (Table Tree)
  | .object members => knownMembers? names ∅ members
  | .array items =>
    if items.length ≤ names.length then some (Table.ofList (names.zip items)) else none
  | _ => none

/-- A text. -/
def text? : Tree → Option String
  | .string s => s
  | _ => none

/-- A list of things of one kind. -/
def list? {α : Type} (item? : Tree → Option α) : Tree → Option (List α)
  | .array items => items.mapM item?
  | _ => none

/-- A thing or null. -/
def nullable? {α : Type} (item? : Tree → Option α) : Tree → Option (Option α)
  | .null => some none
  | tree => (item? tree).map some

/-- An unsigned integer of 64 bits. -/
def nat? : Tree → Option Nat
  | .number n => n.toInt?.bind Int.toNat?
  | _ => none

/-- A 32-bit floating-point number. -/
def single? : Tree → Option Float32
  | .number n => n.toSingle?
  | _ => none

/-- One of several names: the name itself, or an object with the name for its only key and nothing
under it. -/
def choice? : Tree → Option String
  | .string s => s
  | .object [(key, .null)] => key
  | _ => none

end Tree

/-- A field that must be there. -/
def required? {α : Type} (fields : Table Tree) (name : String) (read? : Tree → Option α) :
    Option α :=
  (fields.get? name).bind read?

/-- A field that may be missing, with what it is then. -/
def optional? {α : Type} (fields : Table Tree) (name : String) (missing : α)
    (read? : Tree → Option α) : Option α :=
  match fields.get? name with
  | none => some missing
  | some tree => read? tree

end ScriptGraph.Json
