/-!
# Universally unique identifiers

An identifier is 128 bits.  It is written as thirty-two lower-case hexadecimal digits in groups of
8, 4, 4, 4 and 12, joined by hyphens, and read from that form, from the bare digits, from the
hyphenated form in braces and from its URN form, with letters of either case.
-/

namespace ScriptGraph

/-- A 128-bit identifier. -/
structure Uuid where
  bits : BitVec 128
  deriving DecidableEq, Hashable, Inhabited

namespace Uuid

/-- The lower-case hexadecimal digit of a number below sixteen. -/
def hexDigit (n : Nat) : Char :=
  if n < 10 then Char.ofNat ('0'.toNat + n) else Char.ofNat ('a'.toNat + (n - 10))

/-- The value of a hexadecimal digit of either case. -/
def hexValue? (c : Char) : Option Nat :=
  if '0' ≤ c ∧ c ≤ '9' then some (c.toNat - '0'.toNat)
  else if 'a' ≤ c ∧ c ≤ 'f' then some (c.toNat - 'a'.toNat + 10)
  else if 'A' ≤ c ∧ c ≤ 'F' then some (c.toNat - 'A'.toNat + 10)
  else none

/-- The last `count` hexadecimal digits of a number, most significant first. -/
def hexDigits : (count value : Nat) → List Char
  | 0, _ => []
  | count + 1, value => hexDigits count (value / 16) ++ [hexDigit (value % 16)]

/-- The number that a list of hexadecimal digits spells. -/
def ofHexDigits? (digits : List Char) : Option Nat :=
  digits.foldlM (fun value c => (hexValue? c).map (value * 16 + ·)) 0

/-- The lengths of the hyphenated groups. -/
def groupWidths : List Nat := [8, 4, 4, 4, 12]

/-- Cut digits into groups of the given widths, joined by hyphens. -/
def joinGroups : List Nat → List Char → List Char
  | [], digits => digits
  | [_], digits => digits
  | width :: widths, digits => digits.take width ++ '-' :: joinGroups widths (digits.drop width)

/-- Undo `joinGroups`: the digits of a text whose hyphens stand where the widths say. -/
def splitGroups? : List Nat → List Char → Option (List Char)
  | [], text => if text.isEmpty then some [] else none
  | [width], text => if text.length = width then some text else none
  | width :: widths, text =>
    match text.drop width with
    | '-' :: rest => (splitGroups? widths rest).map (text.take width ++ ·)
    | _ => none

/-- The hyphenated lower-case text. -/
def text (u : Uuid) : String :=
  String.ofList (joinGroups groupWidths (hexDigits 32 u.bits.toNat))

/-- The identifier of exactly thirty-two digits. -/
def ofDigits? (digits : List Char) : Option Uuid :=
  if digits.length = 32 then (ofHexDigits? digits).map fun n => ⟨BitVec.ofNat 128 n⟩ else none

/-- The identifier of a hyphenated text. -/
def ofHyphenated? (text : List Char) : Option Uuid :=
  (splitGroups? groupWidths text).bind ofDigits?

/-- What comes before the hyphenated text in the URN form, in lower case. -/
def urnScheme : List Char := "urn:uuid:".toList

/-- Read an identifier in any of its four forms. -/
def ofText? (text : String) : Option Uuid :=
  let cs := text.toList
  if cs.length = 32 then ofDigits? cs
  else if cs.length = 36 then ofHyphenated? cs
  else if cs.length = 38 then
    if cs.head? = some '\x7b' ∧ cs.getLast? = some '\x7d' then ofHyphenated? (cs.drop 1).dropLast
    else none
  else if cs.length = 45 then
    if (cs.take 9).map Char.toLower = urnScheme then ofHyphenated? (cs.drop 9) else none
  else none

instance : ToString Uuid := ⟨text⟩

end Uuid

/-- The identifier of a node. -/
structure NodeId where
  uuid : Uuid
  deriving DecidableEq, Inhabited

/-- The identifier of a port. -/
structure PortId where
  uuid : Uuid
  deriving DecidableEq, Inhabited

/-- The identifier of an edge. -/
structure EdgeId where
  uuid : Uuid
  deriving DecidableEq, Inhabited

/-- A source of identifiers: the sequence it draws from, and how many have been drawn.  Nothing is
assumed about the sequence here; what needs fresh identifiers says so. -/
structure IdSource where
  sequence : Nat → Uuid
  drawn : Nat := 0

namespace IdSource

/-- Draw the next identifier. -/
def next (ids : IdSource) : Uuid × IdSource :=
  (ids.sequence ids.drawn, { ids with drawn := ids.drawn + 1 })

/-- Draw one identifier for each element of a list. -/
def forEach {α : Type} (ids : IdSource) : List α → List (Uuid × α) × IdSource
  | [] => ([], ids)
  | a :: rest =>
    let (id, ids) := ids.next
    let (pairs, ids) := ids.forEach rest
    ((id, a) :: pairs, ids)

/-- The bits of a random identifier (version 4, variant 1) with 122 given bits of payload. -/
def stamp (payload : Nat) : Uuid :=
  ⟨BitVec.ofNat 48 (payload >>> 74) ++ 4#4 ++ BitVec.ofNat 12 (payload >>> 62) ++ 2#2 ++
    BitVec.ofNat 62 payload⟩

/-- The source that steps through the payloads from a seed by an odd stride, so that it does not
repeat within the 122 bits. -/
def seeded (seed : Nat) : IdSource :=
  ⟨fun n => stamp (seed + n * 0x1d8e4e27c47d124f9e3779b97f4a7c15), 0⟩

end IdSource

end ScriptGraph
