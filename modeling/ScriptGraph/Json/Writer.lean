import ScriptGraph.Json.Tree
import ScriptGraph.Uuid

/-!
# Writing JSON

There are two layouts: compact, without any white space, and indented, with two spaces per level, a
line for each item and member, and nothing between the brackets of what is empty.  Strings escape
what they must and nothing else.
-/

namespace ScriptGraph.Json

/-- The characters of a string that stand for one character. -/
def escape (c : Char) : List Char :=
  if c == '"' then ['\\', '"']
  else if c == '\\' then ['\\', '\\']
  else if c == '\x08' then ['\\', 'b']
  else if c == '\t' then ['\\', 't']
  else if c == '\n' then ['\\', 'n']
  else if c == '\x0c' then ['\\', 'f']
  else if c == '\r' then ['\\', 'r']
  else if c.toNat < 0x20 then '\\' :: 'u' :: Uuid.hexDigits 4 c.toNat
  else [c]

/-- A text as a JSON string. -/
def quote (s : String) : List Char :=
  '"' :: (s.toList.flatMap escape ++ ['"'])

/-- A number as it is written. -/
def Numeral.chars (n : Numeral) : List Char :=
  (if n.negative then ['-'] else []) ++ n.whole ++
    (if n.fraction.isEmpty then [] else '.' :: n.fraction) ++
    match n.exponent with
    | none => []
    | some e => 'e' :: (e.sign.text ++ e.digits)

/-- Where a layout puts white space. -/
structure Layout where
  /-- in front of each item, at a level of nesting -/
  lineStart : Nat → List Char
  /-- behind the colon of a member -/
  afterColon : List Char

/-- Without any white space. -/
def Layout.compact : Layout := ⟨fun _ => [], []⟩

/-- A line for each item, with two spaces per level. -/
def Layout.indented : Layout := ⟨fun level => '\n' :: List.replicate (2 * level) ' ', [' ']⟩

mutual

/-- A tree at a level of nesting. -/
def Tree.chars (layout : Layout) (level : Nat) : Tree → List Char
  | .null => "null".toList
  | .bool true => "true".toList
  | .bool false => "false".toList
  | .number n => n.chars
  | .string s => quote (s.getD "")
  | .array [] => ['[', ']']
  | .array (item :: items) =>
    '[' :: (layout.lineStart (level + 1) ++ item.chars layout (level + 1) ++
      itemChars layout (level + 1) items ++ layout.lineStart level ++ [']'])
  | .object [] => ['\x7b', '\x7d']
  | .object ((key, value) :: members) =>
    '\x7b' :: (layout.lineStart (level + 1) ++ quote (key.getD "") ++ ':' :: layout.afterColon ++
      value.chars layout (level + 1) ++ memberChars layout (level + 1) members ++
      layout.lineStart level ++ ['\x7d'])

/-- The items behind the first, each with a comma in front. -/
def itemChars (layout : Layout) (level : Nat) : List Tree → List Char
  | [] => []
  | item :: items =>
    ',' :: (layout.lineStart level ++ item.chars layout level ++ itemChars layout level items)

/-- The members behind the first, each with a comma in front. -/
def memberChars (layout : Layout) (level : Nat) : List (Option String × Tree) → List Char
  | [] => []
  | (key, value) :: members =>
    ',' :: (layout.lineStart level ++ quote (key.getD "") ++ ':' :: layout.afterColon ++
      value.chars layout level ++ memberChars layout level members)

end

/-- Write a tree. -/
def Tree.render (layout : Layout) (tree : Tree) : String :=
  String.ofList (tree.chars layout 0)

/-- Write a tree without white space. -/
def Tree.compact (tree : Tree) : String :=
  tree.render .compact

/-- Write a tree with a line for each item. -/
def Tree.indented (tree : Tree) : String :=
  tree.render .indented

end ScriptGraph.Json
