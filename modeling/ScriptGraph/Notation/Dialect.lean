import ScriptGraph.Notation.Token

/-!
# Dialects of object notation

Attributes in front of a text switch on extensions of the notation, which allow shorter spellings or
ask for longer ones.  The extensions that are on make up the dialect of the text.
-/

namespace ScriptGraph.Notation

/-- An extension of the notation. -/
inductive Extension where
  /-- wrappers of one value may be left out -/
  | bareWrappers
  /-- `Some`, or the parentheses behind it, may be left out -/
  | implicitSome
  /-- what stands in the parentheses of a variant may be the inside of a tuple or record -/
  | bareVariants
  /-- records must have their names -/
  | namedRecords
  deriving DecidableEq

/-- The extension of a name. -/
def Extension.ofName? : String → Option Extension
  | "unwrap_newtypes" => some .bareWrappers
  | "implicit_some" => some .implicitSome
  | "unwrap_variant_newtypes" => some .bareVariants
  | "explicit_struct_names" => some .namedRecords
  | _ => none

/-- The extensions that are on. -/
abbrev Dialect := List Extension

/-- The names in an attribute, separated by commas. -/
def extensionNames? : (fuel : Nat) → List Char → Option (Dialect × List Char)
  | 0, _ => none
  | fuel + 1, cs => do
    let (name, cs) ← identifier? cs
    let extension ← Extension.ofName? name
    let (more, cs) ← comma? cs
    if more && (cs.head?.map Text.isIdentifierStart).getD false then
      let (extensions, cs) ← extensionNames? fuel cs
      return (extension :: extensions, cs)
    else return ([extension], cs)

/-- An attribute that switches on extensions. -/
def attribute? (cs : List Char) : Option (Dialect × List Char) := do
  let cs ← tokens? ["#", "!", "[", "enable", "("] cs
  let (extensions, cs) ← extensionNames? (cs.length + 1) cs
  let cs ← tokens? [")", "]"] (← skipSpace? cs)
  return (extensions, cs)

/-- All attributes in front of a text. -/
def attributes? : (fuel : Nat) → List Char → Option (Dialect × List Char)
  | 0, _ => none
  | fuel + 1, cs =>
    if cs.head? == some '#' then do
      let (extensions, cs) ← attribute? cs
      let (others, cs) ← attributes? fuel cs
      return (extensions ++ others, cs)
    else some ([], cs)

/-- The dialect of a text, and the text behind its attributes. -/
def dialect? (cs : List Char) : Option (Dialect × List Char) :=
  attributes? (cs.length + 1) cs

end ScriptGraph.Notation
