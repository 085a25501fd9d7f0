import ScriptGraph.Notation.Dialect
import ScriptGraph.Notation.Number

/-!
# Passing over values of object notation

A reader of a record passes over the fields it does not know.  Their values only have to be well
formed: truth values, numbers, texts, characters, bytes, options, lists, maps, tuples, and records
with or without a name.

Values nest to a limit.  A container takes one level for itself and one for each of its items, and
an option takes one.

Where the parentheses of an option may hold the inside of a tuple or record, a look ahead tells
which it is.
-/

namespace ScriptGraph.Notation

/-! ### Looking ahead -/

/-- What parentheses hold. -/
inductive Contents where
  /-- one value, perhaps with a comma behind it -/
  | single
  /-- several values -/
  | tuple
  /-- fields with names -/
  | record
  deriving DecidableEq

/-- Whether parentheses hold a record: the first thing in them is an identifier with a colon. -/
def isRecord? (cs : List Char) : Option Bool := do
  let cs ← skipSpace? cs
  match skipName? cs with
  | none => return false
  | some rest =>
    let rest ← skipSpace? rest
    return rest.head? == some ':'

/-- The text behind something that need not be there, given how passing over it went.  What is
there has to have an end. -/
def skipIfThere? (cs : List Char) : Except TextError (List Char) → Option (List Char)
  | .ok rest => some rest
  | .error .malformed => some cs
  | .error .unfinished => none

/-- The text behind what may hide brackets: a character, a text and bytes, each if it is there. -/
def skipOpaque? (cs : List Char) : Option (List Char) := do
  let cs := ((expect? '\x27' cs).bind skipChar?).getD cs
  let cs ← skipIfThere? cs ((text cs).map Prod.snd)
  skipIfThere? cs (skipBytes cs)

/-- Whether another value follows a comma. -/
def hasNext? (cs : List Char) : Option Contents :=
  (skipSpace? cs).map fun cs => if cs.head? == some ')' then .single else .tuple

/-- What open parentheses hold, from somewhere in the first value on and inside so many brackets
that were opened there. -/
def scanContents? : (fuel depth : Nat) → List Char → Option Contents
  | 0, _, _ => none
  | fuel + 1, depth, cs =>
    match (skipSpace? cs).bind skipOpaque? with
    | none => none
    | some [] => none
    | some (c :: rest) =>
      if c == '(' || c == '[' || c == '\x7b' then scanContents? fuel (depth + 1) rest
      else if c == ')' || c == ']' || c == '\x7d' then
        match depth with
        | 0 => some .single
        | depth + 1 => scanContents? fuel depth rest
      else if c == ',' && depth == 0 then hasNext? rest
      else scanContents? fuel depth rest

/-- What open parentheses hold. -/
def contents? (cs : List Char) : Option Contents := do
  let cs ← skipSpace? cs
  match skipName? cs with
  | none => scanContents? (cs.length + 1) 0 cs
  | some rest =>
    match ← skipSpace? rest with
    | ':' :: _ => return .record
    | ',' :: rest => hasNext? rest
    | rest => scanContents? (rest.length + 1) 0 rest

/-! ### Values -/

/-- The items of a container. -/
inductive Items where
  /-- values, as in lists and tuples -/
  | plain
  /-- values with values for keys, as in maps -/
  | keyed
  /-- values with identifiers for keys, as in records -/
  | named

mutual

/-- The text behind a value. -/
def skipValue? (dialect : Dialect) : (fuel limit : Nat) → List Char → Option (List Char)
  | 0, _, _ => none
  | fuel + 1, limit, cs =>
    match oneWord? ["true", "false", "None"] cs with
    | some rest => some rest
    | none =>
      match word? "Some" cs with
      | some rest => skipSome? dialect fuel limit rest
      | none =>
        match (stripStart? ['(', ')'] cs).or (oneWord? numberWords cs) with
        | some rest => some rest
        | none =>
          match skipName? cs with
          | some rest =>
            match skipSpace? rest with
            | some ('(' :: inside) => skipParentheses? dialect fuel limit inside
            | rest => rest
          | none =>
            match cs with
            | '(' :: inside => skipParentheses? dialect fuel limit inside
            | '[' :: inside => skipInside? dialect fuel limit .plain ']' inside
            | '\x7b' :: inside => skipInside? dialect fuel limit .keyed '\x7d' inside
            | '"' :: _ => (text? cs).map Prod.snd
            | 'r' :: _ => (text? cs).map Prod.snd
            | 'b' :: '\x27' :: _ => skipNumber? cs
            | 'b' :: _ => skipBytes? cs
            | '\x27' :: inside => skipChar? inside
            | c :: _ =>
              if c.isDigit || c == '+' || c == '-' || c == '.' then skipNumber? cs else none
            | [] => none

/-- The text behind the value of an option, `Some` being read. -/
def skipSome? (dialect : Dialect) : (fuel limit : Nat) → List Char → Option (List Char)
  | 0, _, _ => none
  | _, 0, _ => none
  | fuel + 1, limit + 1, cs =>
    match skipSpace? cs with
    | none => none
    | some ('(' :: inside) =>
      match skipSpace? inside with
      | none => none
      | some inside =>
        ((skipVariant? dialect fuel limit inside).bind comma?).bind fun (_, rest) =>
          expect? ')' rest
    | some rest =>
      if dialect.contains .implicitSome then skipValue? dialect fuel limit rest else none

/-- The text behind what the parentheses of an option hold. -/
def skipVariant? (dialect : Dialect) : (fuel limit : Nat) → List Char → Option (List Char)
  | 0, _, _ => none
  | fuel + 1, limit, cs =>
    if dialect.contains .bareVariants then
      if cs.head? == some ')' then some cs
      else
        match contents? cs with
        | none => none
        | some .single => skipValue? dialect fuel limit cs
        | some .tuple => skipSeries? dialect fuel limit .plain ')' cs
        | some .record => skipSeries? dialect fuel limit .named ')' cs
    else skipValue? dialect fuel limit cs

/-- The text behind a tuple or record, the opening parenthesis being read. -/
def skipParentheses? (dialect : Dialect) : (fuel limit : Nat) → List Char → Option (List Char)
  | 0, _, _ => none
  | fuel + 1, limit, cs =>
    match isRecord? cs with
    | none => none
    | some true => skipInside? dialect fuel limit .named ')' cs
    | some false => skipInside? dialect fuel limit .plain ')' cs

/-- The text behind a container, the opening bracket being read. -/
def skipInside? (dialect : Dialect) :
    (fuel limit : Nat) → Items → (close : Char) → List Char → Option (List Char)
  | 0, _, _, _, _ => none
  | fuel + 1, limit, items, close, cs =>
    (skipSeries? dialect fuel limit items close cs).bind (expect? close)

/-- The text behind the items of a container, from its closing bracket on. -/
def skipSeries? (dialect : Dialect) :
    (fuel limit : Nat) → Items → (close : Char) → List Char → Option (List Char)
  | 0, _, _, _, _ => none
  | _, 0, _, _, _ => none
  | fuel + 1, limit + 1, items, close, cs => skipItems? dialect fuel limit items close true cs

/-- The text behind items that are left, from the closing bracket on.  The flag says whether an item
may come next, which is so at the start and behind a comma. -/
def skipItems? (dialect : Dialect) :
    (fuel limit : Nat) → Items → (close : Char) → (more : Bool) → List Char → Option (List Char)
  | 0, _, _, _, _, _ => none
  | fuel + 1, limit, items, close, more, cs =>
    match skipSpace? cs with
    | none => none
    | some cs =>
      if cs.head? == some close then some cs
      else if !more then none
      else
        match limit with
        | 0 => none
        | below + 1 =>
          match skipKey? dialect fuel below items cs with
          | none => none
          | some cs =>
            match (skipValue? dialect fuel below cs).bind comma? with
            | none => none
            | some (more, rest) => skipItems? dialect fuel limit items close more rest

/-- The text behind the key of an item and its colon. -/
def skipKey? (dialect : Dialect) : (fuel limit : Nat) → Items → List Char → Option (List Char)
  | 0, _, _, _ => none
  | _, _, .plain, cs => some cs
  | fuel + 1, limit, .keyed, cs =>
    ((skipValue? dialect fuel limit cs).bind skipSpace?).bind fun cs =>
      (expect? ':' cs).bind skipSpace?
  | _, _, .named, cs =>
    (identifier? cs).bind fun (_, cs) =>
      (skipSpace? cs).bind fun cs => (expect? ':' cs).bind skipSpace?

end

/-- Enough steps to pass over a value in a text. -/
def skipFuel (cs : List Char) : Nat :=
  6 * cs.length + 8

end ScriptGraph.Notation
