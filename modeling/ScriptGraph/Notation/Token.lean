import ScriptGraph.Text.Identifier

/-!
# White space and identifiers of object notation

Object notation is the format of settings files: records in parentheses with named fields, options,
lists, maps and the usual literals.  Tokens may be separated by white space and by comments, which
run to the end of the line or between `/*` and `*/`; the latter nest.

Every reader takes the text that is left and returns what it read with the text behind it.
-/

namespace ScriptGraph.Notation

/-- White space between tokens. -/
def isSpace (c : Char) : Bool :=
  let n := c.toNat
  (0x9 ≤ n && n ≤ 0xD) || n == 0x20 || n == 0x85 || n == 0x200E || n == 0x200F || n == 0x2028 ||
    n == 0x2029

/-- What may stand between tokens. -/
inductive Gap where
  /-- white space -/
  | blank
  /-- a comment up to the end of the line -/
  | line
  /-- a comment inside as many others -/
  | block (level : Nat)

/-- The text behind a gap.  A comment that does not end, and a slash that starts none, is an
error. -/
def Gap.skip? : Gap → List Char → Option (List Char)
  | .blank, [] => some []
  | .blank, '/' :: '/' :: cs => Gap.line.skip? cs
  | .blank, '/' :: '*' :: cs => (Gap.block 0).skip? cs
  | .blank, c :: cs =>
    if c == '/' then none else if isSpace c then Gap.blank.skip? cs else some (c :: cs)
  | .line, [] => some []
  | .line, c :: cs => if c == '\n' then Gap.blank.skip? cs else Gap.line.skip? cs
  | .block _, [] => none
  | .block level, '/' :: '*' :: cs => (Gap.block (level + 1)).skip? cs
  | .block 0, '*' :: '/' :: cs => Gap.blank.skip? cs
  | .block (level + 1), '*' :: '/' :: cs => (Gap.block level).skip? cs
  | .block level, _ :: cs => (Gap.block level).skip? cs

/-- The text behind white space and comments. -/
def skipSpace? (cs : List Char) : Option (List Char) :=
  Gap.blank.skip? cs

/-- The text behind a character that has to come first. -/
def expect? (c : Char) : List Char → Option (List Char)
  | [] => none
  | d :: cs => if c == d then some cs else none

/-- The text behind a sequence of characters that has to come first. -/
def stripStart? : List Char → List Char → Option (List Char)
  | [], cs => some cs
  | c :: start, cs => (expect? c cs).bind (stripStart? start)

/-- The text behind several tokens and the white space after each of them. -/
def tokens? : List String → List Char → Option (List Char)
  | [], cs => some cs
  | token :: tokens, cs =>
    ((stripStart? token.toList cs).bind skipSpace?).bind (tokens? tokens)

/-- The text behind a word that has to come first and to end there. -/
def word? (word : String) (cs : List Char) : Option (List Char) :=
  match stripStart? word.toList cs with
  | none => none
  | some [] => some []
  | some (c :: rest) => if Text.isIdentifierPart c then none else some (c :: rest)

/-- The text behind the first of several words that comes next. -/
def oneWord? (words : List String) (cs : List Char) : Option (List Char) :=
  words.findSome? fun word => word? word cs

/-- A character of a raw identifier. -/
def isRawPart (c : Char) : Bool :=
  c == '.' || c == '+' || c == '-' || Text.isIdentifierPart c

/-- Whether a text starts with a raw string. -/
def startsRawString : List Char → Bool
  | 'r' :: '"' :: _ => true
  | 'r' :: '#' :: '"' :: _ => true
  | 'r' :: '#' :: '#' :: _ => true
  | _ => false

/-- Whether a text starts with a byte or a string of bytes. -/
def startsBytes : List Char → Bool
  | 'b' :: '"' :: _ => true
  | 'b' :: '\x27' :: _ => true
  | 'b' :: 'r' :: '#' :: _ => true
  | 'b' :: 'r' :: '"' :: _ => true
  | _ => false

/-- An identifier: a plain one, or any run of its characters and `.`, `+` and `-` behind `r#`.  A
plain one may not run into characters that only a raw one may have. -/
def identifier? (cs : List Char) : Option (String × List Char) :=
  if startsRawString cs then none
  else
    match cs with
    | 'r' :: '#' :: rest =>
      let (name, rest) := rest.span isRawPart
      if name.isEmpty then none else some (String.ofList name, rest)
    | c :: _ =>
      if Text.isIdentifierStart c then
        let (name, rest) := cs.span Text.isIdentifierPart
        match rest with
        | [] => some (String.ofList name, [])
        | d :: _ => if isRawPart d then none else some (String.ofList name, rest)
      else none
    | [] => none

/-- The text behind an identifier in the place of a value, where strings and bytes come first. -/
def skipName? (cs : List Char) : Option (List Char) :=
  if startsRawString cs || startsBytes cs then none
  else
    match cs with
    | 'r' :: '#' :: rest =>
      let (name, rest) := rest.span isRawPart
      if name.isEmpty then none else some rest
    | c :: cs =>
      if Text.isIdentifierStart c then some (cs.dropWhile Text.isIdentifierPart) else none
    | [] => none

/-- White space, perhaps a comma, and white space.  Says whether the comma was there. -/
def comma? (cs : List Char) : Option (Bool × List Char) := do
  let cs ← skipSpace? cs
  match expect? ',' cs with
  | none => return (false, cs)
  | some cs => return (true, ← skipSpace? cs)

end ScriptGraph.Notation
