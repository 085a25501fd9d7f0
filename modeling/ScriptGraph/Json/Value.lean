import ScriptGraph.Json.Number

/-!
# JSON values

A value is what a JSON text means when nothing is known about it: numbers are integers or
floating-point numbers, and an object is a map, kept in the order of its keys.  Of a repeated key
the last value counts.
-/

namespace ScriptGraph.Json

/-- The meaning of a JSON text. -/
inductive Value where
  | null
  | bool (b : Bool)
  | int (i : Int)
  | float (f : Float)
  | text (s : String)
  | list (items : List Value)
  /-- keys in ascending order -/
  | dict (entries : List (String × Value))
  deriving Inhabited

/-- Put a value under a key of a list in ascending order. -/
def insertSorted {α : Type} (key : String) (value : α) : List (String × α) → List (String × α)
  | [] => [(key, value)]
  | entry :: rest =>
    if key < entry.1 then (key, value) :: entry :: rest
    else if key = entry.1 then (key, value) :: rest
    else entry :: insertSorted key value rest

/-- Sort entries by key.  Of a repeated key the last value counts. -/
def sortEntries {α : Type} (entries : List (String × α)) : List (String × α) :=
  entries.foldl (fun sorted entry => insertSorted entry.1 entry.2 sorted) []

/-- The value of a numeral. -/
def Numeral.toValue? (n : Numeral) : Option Value :=
  match n.toInt? with
  | some i => some (.int i)
  | none => n.toFloat?.map .float

mutual

/-- The value of a tree that nests at most to a depth. -/
def Tree.toValue? (depth : Nat) : Tree → Option Value
  | .null => some .null
  | .bool b => some (.bool b)
  | .number n => n.toValue?
  | .string s => s.map .text
  | .array items =>
    match depth with
    | 0 => none
    | depth + 1 => (itemValues? depth items).map .list
  | .object members =>
    match depth with
    | 0 => none
    | depth + 1 => (memberValues? depth members).map fun entries => .dict (sortEntries entries)

/-- The values of the items of an array. -/
def itemValues? (depth : Nat) : List Tree → Option (List Value)
  | [] => some []
  | item :: items =>
    match item.toValue? depth, itemValues? depth items with
    | some value, some values => some (value :: values)
    | _, _ => none

/-- The values of the members of an object. -/
def memberValues? (depth : Nat) : List (Option String × Tree) → Option (List (String × Value))
  | [] => some []
  | (key, item) :: members =>
    match key, item.toValue? depth, memberValues? depth members with
    | some key, some value, some entries => some ((key, value) :: entries)
    | _, _, _ => none

end

mutual

/-- A value as a tree. -/
def Value.toTree : Value → Tree
  | .null => .null
  | .bool b => .bool b
  | .int i => .ofInt i
  | .float f => .ofFloat f
  | .text s => .text s
  | .list items => .array (itemTrees items)
  | .dict entries => .object (entryTrees entries)

/-- The trees of the items of a list. -/
def itemTrees : List Value → List Tree
  | [] => []
  | item :: items => item.toTree :: itemTrees items

/-- The trees of the entries of a map. -/
def entryTrees : List (String × Value) → List (Option String × Tree)
  | [] => []
  | (key, value) :: entries => (some key, value.toTree) :: entryTrees entries

end

end ScriptGraph.Json
