import ScriptGraph.Notation.Value
import ScriptGraph.Settings.Basic

/-!
# Settings files

Settings are written as a record of object notation, one field per line.  They are read from such a
record with its fields in any order; only the format version has to be there.  A field may not come
twice, and fields that are not known are passed over.

The dialect of the text matters in three places: a shebang may stand without `Some`, the record must
have its name, and fields that are passed over may use all shorter spellings.
-/

namespace ScriptGraph.Settings

open Notation

/-! ### Writing -/

/-- The written form of settings. -/
def text (s : Settings) : String :=
  let shebang := match s.shebang with
    | none => ""
    | some line => "    custom_shebang: Some(" ++ String.ofList (quote line) ++ "),\n"
  "(\n    format_version: " ++ toString s.formatVersion.toNat ++ ",\n" ++ shebang ++
    "    indent_width: " ++ toString s.indentWidth.toNat ++ ",\n    debug: " ++
    (if s.debug then "true" else "false") ++ ",\n)"

/-! ### Fields -/

/-- A truth value. -/
def truth? (cs : List Char) : Option (Bool × List Char) :=
  match word? "true" cs with
  | some rest => some (true, rest)
  | none => (word? "false" cs).map fun rest => (false, rest)

/-- A text that is there without `Some`, if the dialect allows it. -/
def bareText? (dialect : Dialect) (cs : List Char) : Option (Option String × List Char) :=
  if dialect.contains .implicitSome then (text? cs).map fun (line, rest) => (some line, rest)
  else none

/-- A text that may be absent. -/
def optionalText? (dialect : Dialect) (cs : List Char) : Option (Option String × List Char) :=
  match word? "None" cs with
  | some rest => some (none, rest)
  | none =>
    match word? "Some" cs with
    | some rest => do
      match ← skipSpace? rest with
      | '(' :: cs =>
        let (line, cs) ← text? (← skipSpace? cs)
        let (_, cs) ← comma? cs
        return (some line, ← expect? ')' cs)
      | cs => bareText? dialect cs
    | none => bareText? dialect cs

/-- The fields read so far. -/
structure Fields where
  formatVersion : Option UInt32 := none
  shebang : Option (Option String) := none
  indentWidth : Option UInt64 := none
  debug : Option Bool := none

/-- How deep the value of a field may nest. -/
def fieldLimit : Nat := 126

/-- Read the value of a field.  A field that is known may not come twice. -/
def Fields.read? (fields : Fields) (dialect : Dialect) (name : String) (cs : List Char) :
    Option (Fields × List Char) :=
  match name with
  | "format_version" =>
    if fields.formatVersion.isSome then none
    else (natural? (.unsigned 32) cs).map fun (value, cs) =>
      ({ fields with formatVersion := some (.ofNat value) }, cs)
  | "custom_shebang" =>
    if fields.shebang.isSome then none
    else (optionalText? dialect cs).map fun (value, cs) =>
      ({ fields with shebang := some value }, cs)
  | "indent_width" =>
    if fields.indentWidth.isSome then none
    else (natural? (.unsigned 64) cs).map fun (value, cs) =>
      ({ fields with indentWidth := some (.ofNat value) }, cs)
  | "debug" =>
    if fields.debug.isSome then none
    else (truth? cs).map fun (value, cs) => ({ fields with debug := some value }, cs)
  | _ => (skipValue? dialect (skipFuel cs) fieldLimit cs).map fun cs => (fields, cs)

/-- Read fields up to the closing parenthesis.  The flag says whether a field may come next. -/
def Fields.readAll? (dialect : Dialect) :
    (fuel : Nat) → (more : Bool) → Fields → List Char → Option (Fields × List Char)
  | 0, _, _, _ => none
  | fuel + 1, more, fields, cs => do
    let cs ← skipSpace? cs
    match expect? ')' cs with
    | some rest => return (fields, rest)
    | none =>
      if more then
        let (name, cs) ← identifier? cs
        let cs ← expect? ':' (← skipSpace? cs)
        let (fields, cs) ← fields.read? dialect name (← skipSpace? cs)
        let (more, cs) ← comma? cs
        Fields.readAll? dialect fuel more fields cs
      else none

/-- The settings that fields make: the version has to be there, the rest has defaults. -/
def Fields.settings? (fields : Fields) : Option Settings :=
  fields.formatVersion.map fun formatVersion =>
    { formatVersion
      shebang := fields.shebang.getD none
      indentWidth := fields.indentWidth.getD Style.defaultIndentWidth
      debug := fields.debug.getD false }

/-! ### Records -/

/-- The name that a settings record may have. -/
def recordName : String := "EditorSettings"

/-- The text behind the name of the record, which may be missing unless names are asked for. -/
def skipRecordName? (explicit : Bool) (cs : List Char) : Option (List Char) :=
  if (cs.head?.map Text.isIdentifierPart).getD false then
    (identifier? cs).bind fun (name, cs) => if name = recordName then some cs else none
  else if explicit then none
  else some cs

/-- Read settings. -/
def ofText? (text : String) : Option Settings := do
  let cs ← skipSpace? text.toList
  let (dialect, cs) ← dialect? cs
  let cs ← skipRecordName? (dialect.contains .namedRecords) cs
  let cs ← expect? '(' (← skipSpace? cs)
  let (fields, cs) ← Fields.readAll? dialect (cs.length + 1) true {} cs
  let cs ← skipSpace? cs
  if cs.isEmpty then fields.settings? else none

/-- Why settings are refused. -/
inductive Refusal where
  /-- the text is no settings record -/
  | malformed
  /-- the format version is later than the latest that can be read -/
  | tooNew (version : UInt32)
  deriving DecidableEq

def Refusal.message : Refusal → String
  | .malformed => "not a settings record"
  | .tooNew version =>
    "format version " ++ toString version.toNat ++ " is newer than supported version " ++
      toString supportedVersion.toNat

/-- Read settings of a version that is supported. -/
def parse (text : String) : Except Refusal Settings :=
  match ofText? text with
  | none => .error .malformed
  | some s => if supportedVersion < s.formatVersion then .error (.tooNew s.formatVersion) else .ok s

end ScriptGraph.Settings
