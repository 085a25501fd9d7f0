import ScriptGraph.Json.Tree
import ScriptGraph.Uuid

/-!
# Reading JSON

The grammar is the strict one: white space is space, tab, carriage return and line feed, control
characters in strings are escaped, numbers have no leading zeros or signs other than a minus, and
nothing but white space follows the value.

Nesting is not limited here; the reader of a field limits it where a limit applies.
-/

namespace ScriptGraph.Json

/-- White space between tokens. -/
def isSpace (c : Char) : Bool :=
  c == ' ' || c == '\t' || c == '\n' || c == '\r'

def skipSpace (cs : List Char) : List Char :=
  cs.dropWhile isSpace

/-- The code unit of four hexadecimal digits. -/
def codeUnit? (a b c d : Char) : Option Nat :=
  Uuid.ofHexDigits? [a, b, c, d]

/-- Whether a code unit is the first of a surrogate pair. -/
def isLead (unit : Nat) : Bool :=
  0xD800 ≤ unit && unit ≤ 0xDBFF

/-- Whether a code unit is the second of a surrogate pair. -/
def isTrail (unit : Nat) : Bool :=
  0xDC00 ≤ unit && unit ≤ 0xDFFF

/-- The character of a surrogate pair. -/
def pairChar (lead trail : Nat) : Char :=
  Char.ofNat (0x10000 + (lead - 0xD800) * 0x400 + (trail - 0xDC00))

/-- The character of a one-letter escape. -/
def simpleEscape? : Char → Option Char
  | '"' => some '"'
  | '\\' => some '\\'
  | '/' => some '/'
  | 'b' => some '\x08'
  | 'f' => some '\x0c'
  | 'n' => some '\n'
  | 'r' => some '\r'
  | 't' => some '\t'
  | _ => none

/-- The rest of a string behind its opening quote.  The characters read so far come last first, and
the flag says whether they are a text: an unpaired surrogate leaves none. -/
def scanString (read : List Char) (isText : Bool) :
    List Char → Option (Option String × List Char)
  | [] => none
  | '"' :: rest => some (if isText then some (String.ofList read.reverse) else none, rest)
  | '\\' :: 'u' :: a :: b :: c :: d :: '\\' :: 'u' :: a' :: b' :: c' :: d' :: rest =>
    match codeUnit? a b c d with
    | none => none
    | some unit =>
      if isLead unit then
        match codeUnit? a' b' c' d' with
        | none => none
        | some trail =>
          if isTrail trail then scanString (pairChar unit trail :: read) isText rest
          else scanString read false ('\\' :: 'u' :: a' :: b' :: c' :: d' :: rest)
      else if isTrail unit then
        scanString read false ('\\' :: 'u' :: a' :: b' :: c' :: d' :: rest)
      else
        scanString (Char.ofNat unit :: read) isText ('\\' :: 'u' :: a' :: b' :: c' :: d' :: rest)
  | '\\' :: 'u' :: a :: b :: c :: d :: rest =>
    match codeUnit? a b c d with
    | none => none
    | some unit =>
      if isLead unit || isTrail unit then scanString read false rest
      else scanString (Char.ofNat unit :: read) isText rest
  | '\\' :: c :: rest =>
    match simpleEscape? c with
    | none => none
    | some e => scanString (e :: read) isText rest
  | c :: rest =>
    if c.toNat < 0x20 || c == '\\' then none else scanString (c :: read) isText rest

/-- The digits in front of a text, and what follows them. -/
def takeDigits (cs : List Char) : List Char × List Char :=
  cs.span Char.isDigit

/-- The digits in front of the point: a single zero, or digits that do not start with one. -/
def scanWhole? (cs : List Char) : Option (List Char × List Char) :=
  match takeDigits cs with
  | ([], _) => none
  | ('0' :: _ :: _, _) => none
  | (digits, rest) => some (digits, rest)

/-- The digits behind the point, if there is one. -/
def scanFraction? : List Char → Option (List Char × List Char)
  | '.' :: cs =>
    match takeDigits cs with
    | ([], _) => none
    | (digits, rest) => some (digits, rest)
  | cs => some ([], cs)

/-- The sign in front of an exponent. -/
def scanSign : List Char → ExponentSign × List Char
  | '+' :: cs => (.plus, cs)
  | '-' :: cs => (.minus, cs)
  | cs => (.none, cs)

/-- The exponent, if there is one. -/
def scanExponent? (cs : List Char) : Option (Option Exponent × List Char) :=
  match cs with
  | c :: rest =>
    if c == 'e' || c == 'E' then
      let (sign, rest) := scanSign rest
      match takeDigits rest with
      | ([], _) => none
      | (digits, rest) => some (some ⟨sign, digits⟩, rest)
    else some (none, cs)
  | [] => some (none, cs)

/-- A number without its minus sign. -/
def scanUnsigned? (negative : Bool) (cs : List Char) : Option (Numeral × List Char) := do
  let (whole, cs) ← scanWhole? cs
  let (fraction, cs) ← scanFraction? cs
  let (exponent, cs) ← scanExponent? cs
  return ({ negative, whole, fraction, exponent }, cs)

/-- A number. -/
def scanNumber? : List Char → Option (Numeral × List Char)
  | '-' :: cs => scanUnsigned? true cs
  | cs => scanUnsigned? false cs

mutual

/-- A value in front of a text, and what follows it. -/
def scanValue? : Nat → List Char → Option (Tree × List Char)
  | 0, _ => none
  | fuel + 1, cs =>
    match skipSpace cs with
    | [] => none
    | 'n' :: 'u' :: 'l' :: 'l' :: rest => some (.null, rest)
    | 't' :: 'r' :: 'u' :: 'e' :: rest => some (.bool true, rest)
    | 'f' :: 'a' :: 'l' :: 's' :: 'e' :: rest => some (.bool false, rest)
    | '"' :: rest => (scanString [] true rest).map fun (s, rest) => (.string s, rest)
    | '[' :: rest =>
      match skipSpace rest with
      | ']' :: rest => some (.array [], rest)
      | rest => (scanItems? fuel rest).map fun (items, rest) => (.array items, rest)
    | '\x7b' :: rest =>
      match skipSpace rest with
      | '\x7d' :: rest => some (.object [], rest)
      | rest => (scanMembers? fuel rest).map fun (members, rest) => (.object members, rest)
    | rest => (scanNumber? rest).map fun (n, rest) => (.number n, rest)

/-- The items of an array up to its closing bracket. -/
def scanItems? : Nat → List Char → Option (List Tree × List Char)
  | 0, _ => none
  | fuel + 1, cs =>
    match scanValue? fuel cs with
    | none => none
    | some (item, rest) =>
      match skipSpace rest with
      | ',' :: rest => (scanItems? fuel rest).map fun (items, rest) => (item :: items, rest)
      | ']' :: rest => some ([item], rest)
      | _ => none

/-- The members of an object up to its closing brace. -/
def scanMembers? : Nat → List Char → Option (List (Option String × Tree) × List Char)
  | 0, _ => none
  | fuel + 1, cs =>
    match skipSpace cs with
    | '"' :: rest =>
      match scanString [] true rest with
      | none => none
      | some (key, rest) =>
        match skipSpace rest with
        | ':' :: rest =>
          match scanValue? fuel rest with
          | none => none
          | some (value, rest) =>
            match skipSpace rest with
            | ',' :: rest =>
              (scanMembers? fuel rest).map fun (members, rest) => ((key, value) :: members, rest)
            | '\x7d' :: rest => some ([(key, value)], rest)
            | _ => none
        | _ => none
    | _ => none

end

/-- Enough steps to read a text: every second step takes a character. -/
def scanFuel (cs : List Char) : Nat :=
  2 * cs.length + 2

/-- Read a JSON text. -/
def Tree.ofText? (text : String) : Option Tree :=
  let cs := text.toList
  match scanValue? (scanFuel cs) cs with
  | none => none
  | some (tree, rest) => if (skipSpace rest).isEmpty then some tree else none

end ScriptGraph.Json
