import ScriptGraph.Notation.Quoted

/-!
# Numbers of object notation

An integer has an optional sign, digits in one of four bases with underscores among them, and an
optional suffix that names a width; a byte in single quotes is an integer of eight bits.  Where an
integer of some width is asked for, a suffix has to name that width.  Other numbers matter only
where a value is passed over.
-/

namespace ScriptGraph.Notation

/-- A character of an integer, in any base. -/
def isIntegerChar (c : Char) : Bool :=
  c == '_' || (Uuid.hexValue? c).isSome

/-- A character of a number with a point or an exponent. -/
def isFloatChar (c : Char) : Bool :=
  c.isDigit || c == 'e' || c == 'E' || c == '.' || c == '+' || c == '-' || c == '_'

/-- The integers of a width: the greatest, and the magnitude of the least. -/
structure IntegerRange where
  greatest : Nat
  least : Nat := 0
  deriving DecidableEq

namespace IntegerRange

def unsigned (bits : Nat) : IntegerRange := ⟨Nat.pow 2 bits - 1, 0⟩

def signed (bits : Nat) : IntegerRange :=
  ⟨Nat.pow 2 (bits - 1) - 1, Nat.pow 2 (bits - 1)⟩

end IntegerRange

/-- The suffixes of integers. -/
def integerSuffixes : List (String × IntegerRange) :=
  [("i8", .signed 8), ("i16", .signed 16), ("i32", .signed 32), ("i64", .signed 64),
   ("u8", .unsigned 8), ("u16", .unsigned 16), ("u32", .unsigned 32), ("u64", .unsigned 64)]

/-- The parts of an integer. -/
structure IntegerText where
  negative : Bool
  base : Nat
  digits : List Char
  suffix : Option IntegerRange
  rest : List Char

/-- A sign, if there is one. -/
def sign : List Char → Bool × List Char
  | '+' :: cs => (false, cs)
  | '-' :: cs => (true, cs)
  | cs => (false, cs)

/-- The base that the first characters name, and the text behind them. -/
def base : List Char → Nat × List Char
  | '0' :: 'b' :: cs => (2, cs)
  | '0' :: 'o' :: cs => (8, cs)
  | '0' :: 'x' :: cs => (16, cs)
  | cs => (10, cs)

/-- The suffix in front of a text. -/
def suffix? (cs : List Char) : Option (IntegerRange × List Char) :=
  integerSuffixes.findSome? fun (name, range) => (word? name cs).map fun rest => (range, rest)

/-- Take an integer apart.  A suffix follows the first run of digits, so there is none behind
digits whose base is marked by a letter that is no digit itself. -/
def integerText (cs : List Char) : IntegerText :=
  let (negative, cs) := sign cs
  let (run, behind) := cs.span isIntegerChar
  match suffix? behind with
  | some (range, rest) =>
    let (base, digits) := base run
    { negative, base, digits, suffix := some range, rest }
  | none =>
    let (base, cs) := base cs
    let (digits, rest) := cs.span isIntegerChar
    { negative, base, digits, suffix := none, rest }

/-- The number that digits of a base spell.  Underscores are passed over. -/
def baseValue? (base : Nat) (digits : List Char) : Option Nat :=
  (digits.filter (· != '_')).foldlM (fun value c =>
    match Uuid.hexValue? c with
    | some digit => if digit < base then some (value * base + digit) else none
    | none => none) 0

namespace IntegerText

/-- The magnitude, unless there is no digit in front, a digit is not one of the base, or the
integer is not in the range. -/
def magnitude? (i : IntegerText) (range : IntegerRange) : Option Nat :=
  match i.digits with
  | [] => none
  | '_' :: _ => none
  | digits =>
    match baseValue? i.base digits with
    | none => none
    | some value =>
      if value ≤ (if i.negative then range.least else range.greatest) then some value else none

/-- The magnitude in a range, which is the one that the suffix names if there is one. -/
def magnitudeIn? (i : IntegerText) (range : IntegerRange) : Option Nat :=
  if i.suffix.getD range = range then i.magnitude? range else none

end IntegerText

/-- An unsigned number of a range. -/
def natural? (range : IntegerRange) : List Char → Option (Nat × List Char)
  | 'b' :: '\x27' :: cs => if range = .unsigned 8 then byte? cs else none
  | cs =>
    let i := integerText cs
    (i.magnitudeIn? range).map fun value => (value, i.rest)

/-! ### Numbers that are passed over -/

/-- Take underscores out.  One may stand behind a digit or an exponent mark, or another one. -/
def withoutUnderscores? (allowed : Bool) : List Char → Option (List Char)
  | [] => some []
  | c :: cs =>
    if c == '_' then (if allowed then withoutUnderscores? true cs else none)
    else
      let allowed := if c.isDigit || c == 'e' || c == 'E' then true
        else if c == '.' then false
        else allowed
      (withoutUnderscores? allowed cs).map (c :: ·)

/-- Whether characters are an exponent, or nothing. -/
def isExponent : List Char → Bool
  | [] => true
  | c :: cs =>
    let digits := (sign cs).2
    (c == 'e' || c == 'E') && !digits.isEmpty && digits.all Char.isDigit

/-- Whether characters are a decimal number. -/
def isDecimal (cs : List Char) : Bool :=
  let cs := (sign cs).2
  let (whole, rest) := cs.span Char.isDigit
  match rest with
  | '.' :: rest =>
    let (fraction, rest) := rest.span Char.isDigit
    !(whole.isEmpty && fraction.isEmpty) && isExponent rest
  | rest => !whole.isEmpty && isExponent rest

/-- The numbers that are written as words. -/
def numberWords : List String :=
  ["inf", "inff32", "inff64", "NaN", "NaNf32", "NaNf64"]

/-- The text behind a number that may have a point, an exponent and a suffix. -/
def skipFloat? (cs : List Char) : Option (List Char) :=
  match oneWord? numberWords (sign cs).2 with
  | some rest => some rest
  | none =>
    let (run, rest) := cs.span isFloatChar
    match withoutUnderscores? false run with
    | none => none
    | some digits =>
      if isDecimal digits then some ((oneWord? ["f32", "f64"] rest).getD rest) else none

/-- The text behind an integer that is the value of an unknown field. -/
def skipInteger? (cs : List Char) : Option (List Char) :=
  match cs with
  | 'b' :: '\x27' :: cs => (byte? cs).map Prod.snd
  | cs =>
    let i := integerText cs
    let range := i.suffix.getD (if i.negative then .signed 64 else .unsigned 64)
    (i.magnitude? range).map fun _ => i.rest

/-- The text behind a number.  What is no integer may still be a number if that reaches as far. -/
def skipNumber? (cs : List Char) : Option (List Char) :=
  let digits := (sign cs).2
  if (digits.takeWhile isIntegerChar).length < (digits.takeWhile isFloatChar).length then
    skipFloat? cs
  else
    match skipInteger? cs with
    | some rest => some rest
    | none =>
      match skipFloat? cs with
      | none => none
      | some rest => if rest.length ≤ (integerText cs).rest.length then some rest else none

end ScriptGraph.Notation
