/-!
# JSON texts as trees

A tree is a JSON text with the white space taken out: numbers are still literals and objects still
list their members as written, repeated keys included.  What a literal means, and whether a
repeated key is an error, is for the reader of a field to say, because a field that is not known is
only checked for its form.
-/

namespace ScriptGraph.Json

/-- The sign in front of an exponent. -/
inductive ExponentSign where
  | none
  | plus
  | minus
  deriving DecidableEq, Inhabited

def ExponentSign.text : ExponentSign → List Char
  | .none => []
  | .plus => ['+']
  | .minus => ['-']

/-- The exponent of a numeral. -/
structure Exponent where
  sign : ExponentSign
  digits : List Char
  deriving DecidableEq, Inhabited

/-- A number as it is written. -/
structure Numeral where
  negative : Bool := false
  /-- the digits in front of the point -/
  whole : List Char
  /-- the digits behind the point; none if there is no point -/
  fraction : List Char := []
  exponent : Option Exponent := none
  deriving DecidableEq, Inhabited

/-- A JSON text.  A string is `none` if it has an unpaired surrogate escape, which no text can
hold. -/
inductive Tree where
  | null
  | bool (b : Bool)
  | number (n : Numeral)
  | string (s : Option String)
  | array (items : List Tree)
  | object (members : List (Option String × Tree))
  deriving Inhabited

/-- A string that is a text. -/
def Tree.text (s : String) : Tree :=
  .string (some s)

/-- An object with the given fields. -/
def Tree.fields (members : List (String × Tree)) : Tree :=
  .object (members.map fun (key, value) => (some key, value))

/-- The digits of a natural number. -/
def decimalDigits (n : Nat) : List Char :=
  Nat.toDigits 10 n

/-- The numeral of a natural number. -/
def Numeral.ofNat (n : Nat) : Numeral :=
  { whole := decimalDigits n }

/-- The numeral of an integer. -/
def Numeral.ofInt (i : Int) : Numeral :=
  { negative := i < 0, whole := decimalDigits i.natAbs }

/-- The number that decimal digits spell. -/
def digitsValue (digits : List Char) : Nat :=
  digits.foldl (fun value c => value * 10 + (c.toNat - '0'.toNat)) 0

end ScriptGraph.Json
