import ScriptGraph.Notation.Token
import ScriptGraph.Text.Visible
import ScriptGraph.Uuid

/-!
# Quoted texts of object notation

A text stands in double quotes, with escapes for what cannot stand there as it is, or raw between
`r"` and `"` with the same number of `#` on both sides.  Written texts use escapes: one letter for
the common ones, and the code point in braces for every other character that does not show.
-/

namespace ScriptGraph.Notation

/-! ### Writing -/

/-- The hexadecimal digits of a number, without zeros in front. -/
def hexText (n : Nat) : List Char :=
  Nat.toDigits 16 n

/-- The characters that stand for one character of a text. -/
def escape (c : Char) : List Char :=
  if c == '\x00' then ['\\', '0']
  else if c == '\t' then ['\\', 't']
  else if c == '\r' then ['\\', 'r']
  else if c == '\n' then ['\\', 'n']
  else if c == '\\' || c == '"' || c == '\x27' then ['\\', c]
  else if Text.shows c then [c]
  else '\\' :: 'u' :: '\x7b' :: (hexText c.toNat ++ ['\x7d'])

/-- A text in double quotes. -/
def quote (s : String) : List Char :=
  '"' :: (s.toList.flatMap escape ++ ['"'])

/-! ### Reading -/

/-- Two hexadecimal digits. -/
def hexByte? : List Char → Option (UInt8 × List Char)
  | a :: b :: cs => (Uuid.ofHexDigits? [a, b]).map fun n => (UInt8.ofNat n, cs)
  | _ => none

/-- The character that bytes encode, if they encode just one. -/
def utf8Char? (bytes : List UInt8) : Option Char :=
  match (String.fromUTF8? ⟨bytes.toArray⟩).map String.toList with
  | some [c] => some c
  | _ => none

/-- The character of escaped bytes behind `\x`.  A character beyond ASCII takes several such
escapes in a row. -/
def byteEscape? : (most : Nat) → List UInt8 → List Char → Option (Char × List Char)
  | 0, _, _ => none
  | most + 1, bytes, cs =>
    match hexByte? cs with
    | none => none
    | some (byte, rest) =>
      match utf8Char? (bytes ++ [byte]) with
      | some c => some (c, rest)
      | none => (stripStart? ['\\', 'x'] rest).bind (byteEscape? most (bytes ++ [byte]))

/-- The character of a code point. -/
def scalar? (n : Nat) : Option Char :=
  if n.isValidChar then some (Char.ofNat n) else none

/-- The character of a code point in braces, behind the opening one. -/
def codeEscape? (cs : List Char) : Option (Char × List Char) :=
  let digits := (cs.take 6).takeWhile (· != '\x7d')
  match cs.drop digits.length with
  | '\x7d' :: rest =>
    if digits.isEmpty then none
    else ((Uuid.ofHexDigits? digits).bind scalar?).map fun c => (c, rest)
  | _ => none

/-- The character of a one-letter escape. -/
def letterEscape? (c : Char) : Option Char :=
  if c == '\x27' || c == '"' || c == '\\' then some c
  else if c == 'n' then some '\n'
  else if c == 'r' then some '\r'
  else if c == 't' then some '\t'
  else if c == '0' then some '\x00'
  else none

/-- The character of an escape behind its backslash, with at most so many bytes. -/
def escape? (most : Nat) : List Char → Option (Char × List Char)
  | [] => none
  | 'x' :: cs => byteEscape? most [] cs
  | 'u' :: cs => (expect? '\x7b' cs).bind codeEscape?
  | c :: cs => (letterEscape? c).map fun d => (d, cs)

/-- Why no text can be read. -/
inductive TextError where
  /-- the text that starts here has no end -/
  | unfinished
  /-- no text starts here, or an escape in it stands for nothing -/
  | malformed
  deriving DecidableEq

/-- What an escape gives, or the reason why it gives nothing.  Behind an escape without a meaning
the end of the text is still looked for. -/
def orMalformed {α : Type} (rest : List Char) : Option α → Except TextError α
  | some a => .ok a
  | none => .error (if rest.contains '"' then .malformed else .unfinished)

/-- The rest of a text behind its opening quote.  The characters read so far come last first. -/
def quoted : (fuel : Nat) → (read : List Char) → List Char → Except TextError (String × List Char)
  | 0, _, _ => .error .unfinished
  | _, _, [] => .error .unfinished
  | fuel + 1, read, c :: cs =>
    if c == '"' then .ok (String.ofList read.reverse, cs)
    else if c == '\\' then
      match orMalformed cs (escape? 4 cs) with
      | .error e => .error e
      | .ok (d, rest) => quoted fuel (d :: read) rest
    else quoted fuel (c :: read) cs

/-- The text up to an end mark, and the text behind it.  The characters read so far come last
first. -/
def upTo? (mark read : List Char) : List Char → Option (String × List Char)
  | [] => none
  | c :: cs =>
    match stripStart? mark (c :: cs) with
    | some rest => some (String.ofList read.reverse, rest)
    | none => upTo? mark (c :: read) cs

/-- A raw text behind its `r`. -/
def rawText (cs : List Char) : Except TextError (String × List Char) :=
  let (hashes, rest) := cs.span (· == '#')
  match expect? '"' rest with
  | none => .error .malformed
  | some inside =>
    match upTo? ('"' :: hashes) [] inside with
    | none => .error .unfinished
    | some result => .ok result

/-- A quoted text. -/
def text : List Char → Except TextError (String × List Char)
  | '"' :: cs => quoted (cs.length + 1) [] cs
  | 'r' :: cs => rawText cs
  | _ => .error .malformed

/-- A quoted text, if one can be read. -/
def text? (cs : List Char) : Option (String × List Char) :=
  (text cs).toOption

/-- The text behind a character in single quotes, the opening quote being read. -/
def skipChar? : List Char → Option (List Char)
  | '\\' :: cs => (escape? 1 cs).bind fun (_, rest) => expect? '\x27' rest
  | _ :: cs => expect? '\x27' cs
  | [] => none

/-! ### Bytes -/

/-- The byte of an escape behind its backslash. -/
def escapedByte? : List Char → Option (Nat × List Char)
  | 'x' :: cs => (hexByte? cs).map fun (byte, rest) => (byte.toNat, rest)
  | c :: cs => (letterEscape? c).map fun d => (d.toNat, cs)
  | [] => none

/-- A byte in single quotes, the opening quote being read. -/
def byte? : List Char → Option (Nat × List Char)
  | '\\' :: cs => (escapedByte? cs).bind fun (byte, rest) =>
    (expect? '\x27' rest).map fun rest => (byte, rest)
  | c :: cs => if c.toNat < 0x80 then (expect? '\x27' cs).map fun rest => (c.toNat, rest) else none
  | [] => none

/-- The text behind an escape in a string of bytes. -/
def skipByteEscape? : List Char → Option (List Char)
  | 'u' :: cs => ((expect? '\x7b' cs).bind codeEscape?).map Prod.snd
  | cs => (escapedByte? cs).map Prod.snd

/-- The text behind a string of bytes, the opening quote being read. -/
def skipQuotedBytes : (fuel : Nat) → List Char → Except TextError (List Char)
  | 0, _ => .error .unfinished
  | _, [] => .error .unfinished
  | fuel + 1, c :: cs =>
    if c == '"' then .ok cs
    else if c == '\\' then
      match orMalformed cs (skipByteEscape? cs) with
      | .error e => .error e
      | .ok rest => skipQuotedBytes fuel rest
    else skipQuotedBytes fuel cs

/-- The text behind a string of bytes. -/
def skipBytes : List Char → Except TextError (List Char)
  | 'b' :: '"' :: cs => skipQuotedBytes (cs.length + 1) cs
  | 'b' :: 'r' :: cs => (rawText cs).map Prod.snd
  | _ => .error .malformed

/-- The text behind a string of bytes, if one can be read. -/
def skipBytes? (cs : List Char) : Option (List Char) :=
  (skipBytes cs).toOption

end ScriptGraph.Notation
