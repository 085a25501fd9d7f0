import ScriptGraph.Table

/-!
# Reading command lines

A command has parameters: flags, options with a value, and values by position.  Flags and options
are given by long name, as `--name`, or by letter, as `-n`; the value of an option comes behind `=`,
behind its letter, or as the next argument.  Letters can be joined, as in `-vo file`.  Behind `--`
everything is a value by position.

Arguments are read from left to right, and the first error counts.  A value is checked when the next
parameter or the end is reached, not when it is read; so an argument that is not known is reported
before a bad value right in front of it.
-/

namespace ScriptGraph

/-- What the value of a parameter has to be. -/
inductive ValueKind where
  /-- a path, which is not empty -/
  | path
  /-- any text -/
  | text
  /-- an unsigned integer of 64 bits -/
  | natural
  /-- `true` or `false` -/
  | truth
  deriving DecidableEq

/-- How a parameter is given. -/
inductive ParameterKind where
  | flag
  | option (kind : ValueKind)
  | position (kind : ValueKind)
  /-- asks for help -/
  | help
  /-- asks for the version -/
  | version
  deriving DecidableEq

/-- A parameter of a command. -/
structure Parameter where
  name : String
  letter : Option Char := none
  kind : ParameterKind
  required : Bool := false
  deriving DecidableEq

/-- Why a command line is not carried out.  Two of the causes are requests and no errors. -/
inductive UsageError where
  | help
  | version
  | helpForNothing
  | missingSubcommand
  | invalidSubcommand
  | unknownArgument
  | invalidValue
  | valueValidation
  | tooManyValues
  | argumentConflict
  | missingArgument
  deriving DecidableEq

/-- The exit code of a command line that is not carried out. -/
def UsageError.exitCode : UsageError → Nat
  | .help => 0
  | .version => 0
  | _ => 2

/-- A checked value. -/
inductive ArgumentValue where
  | text (s : String)
  | natural (n : UInt64)
  | truth (b : Bool)
  deriving DecidableEq

/-- An unsigned integer of 64 bits in decimal digits, with an optional plus sign. -/
def naturalValue? (text : String) : Option UInt64 :=
  let digits := match text.toList with
    | '+' :: digits => digits
    | digits => digits
  if digits.isEmpty || !digits.all Char.isDigit then none
  else
    let value := digits.foldl (fun value c => value * 10 + (c.toNat - '0'.toNat)) 0
    if value < UInt64.size then some (.ofNat value) else none

/-- Check a value. -/
def ValueKind.check (kind : ValueKind) (text : String) : Except UsageError ArgumentValue :=
  match kind with
  | .path => if text.isEmpty then .error .invalidValue else .ok (.text text)
  | .text => .ok (.text text)
  | .natural =>
    match naturalValue? text with
    | some n => .ok (.natural n)
    | none => .error .valueValidation
  | .truth =>
    if text = "true" then .ok (.truth true)
    else if text = "false" then .ok (.truth false)
    else .error .invalidValue

/-- A parameter whose value is still to be checked. -/
inductive Pending where
  | nothing
  /-- an option without its value -/
  | awaiting (p : Parameter)
  /-- a parameter with its value -/
  | held (p : Parameter) (value : String)

/-- What has been read of the arguments of a command. -/
structure Reading where
  given : Table ArgumentValue := ∅
  pending : Pending := .nothing
  /-- the values by position that may still come -/
  positions : List Parameter
  /-- whether `--` has been read -/
  trailing : Bool := false

namespace Reading

/-- Take in a parameter with a checked value.  None is given twice. -/
def give (r : Reading) (p : Parameter) (value : Except UsageError ArgumentValue) :
    Except UsageError Reading :=
  if r.given.contains p.name then .error .argumentConflict
  else value.map fun value => { r with given := r.given.set p.name value }

/-- Check a value and take it in. -/
def giveText (r : Reading) (p : Parameter) (text : String) : Except UsageError Reading :=
  match p.kind with
  | .option kind => r.give p (kind.check text)
  | .position kind => r.give p (kind.check text)
  | _ => .ok r

/-- Deal with what is pending. -/
def settle (r : Reading) : Except UsageError Reading :=
  match r.pending with
  | .nothing => .ok r
  | .awaiting _ => .error .invalidValue
  | .held p value => { r with pending := .nothing }.giveText p value

/-- Take in a flag, or a request for help or the version. -/
def giveFlag (r : Reading) (p : Parameter) : Except UsageError Reading := do
  let r ← r.settle
  match p.kind with
  | .help => .error .help
  | .version => .error .version
  | _ => r.give p (.ok (.truth true))

/-- Take in an option, with the value attached to it if there is one. -/
def giveOption (r : Reading) (p : Parameter) (attached : Option String) :
    Except UsageError Reading := do
  let r ← r.settle
  match attached with
  | some text => r.giveText p text
  | none => return { r with pending := .awaiting p }

/-- Take in a value by position. -/
def givePosition (r : Reading) (text : String) : Except UsageError Reading :=
  match r.positions with
  | [] => .error .unknownArgument
  | p :: positions => do
    let r ← r.settle
    return { r with positions, pending := .held p text }

end Reading

/-- Cut a text at its first equals sign. -/
def cutAtEquals (cs : List Char) : String × Option String :=
  match cs.span (· != '=') with
  | (name, []) => (String.ofList name, none)
  | (name, _ :: value) => (String.ofList name, some (String.ofList value))

/-- Whether a parameter has a long name. -/
def Parameter.hasLongName (p : Parameter) : Bool :=
  match p.kind with
  | .position _ => false
  | _ => true

/-- Read a long name, with a value behind `=` if there is one. -/
def readLong (parameters : List Parameter) (r : Reading) (cs : List Char) :
    Except UsageError Reading :=
  let (name, attached) := cutAtEquals cs
  match parameters.find? fun p => p.hasLongName && p.name == name with
  | none => .error .unknownArgument
  | some p =>
    match p.kind with
    | .option _ => r.giveOption p attached
    | _ => if attached.isSome then .error .tooManyValues else r.giveFlag p

/-- The value attached to a letter: the rest of the argument, without an equals sign in front. -/
def attachedToLetter : List Char → Option String
  | [] => none
  | '=' :: value => some (String.ofList value)
  | value => some (String.ofList value)

/-- Read letters. -/
def readLetters (parameters : List Parameter) (r : Reading) :
    List Char → Except UsageError Reading
  | [] => .ok r
  | c :: cs =>
    match parameters.find? fun p => p.letter == some c with
    | none => .error .unknownArgument
    | some p =>
      match p.kind with
      | .option _ => r.giveOption p (attachedToLetter cs)
      | _ => (r.giveFlag p).bind fun r => readLetters parameters r cs

/-- A value: of the option that awaits one, or by position. -/
def readValue (r : Reading) (text : String) : Except UsageError Reading :=
  match r.trailing, r.pending with
  | false, .awaiting p => .ok { r with pending := .held p text }
  | _, _ => r.givePosition text

/-- Read one argument. -/
def readArgument (parameters : List Parameter) (r : Reading) (text : String) :
    Except UsageError Reading :=
  if r.trailing then readValue r text
  else
    match text.toList with
    | ['-', '-'] => .ok { r with trailing := true }
    | '-' :: '-' :: cs => readLong parameters r cs
    | '-' :: c :: cs => readLetters parameters r (c :: cs)
    | _ => readValue r text

/-- The values by position of a command. -/
def positionsOf (parameters : List Parameter) : List Parameter :=
  parameters.filter fun p => !p.hasLongName

/-- Settle what is pending at the end, and see that nothing required is missing. -/
def Reading.finish (r : Reading) (parameters : List Parameter) :
    Except UsageError (Table ArgumentValue) := do
  let r ← r.settle
  if parameters.all fun p => !p.required || r.given.contains p.name then return r.given
  else .error .missingArgument

/-- Read the arguments of a command that has no subcommands. -/
def readArguments (parameters : List Parameter) (arguments : List String) :
    Except UsageError (Table ArgumentValue) := do
  let r ← arguments.foldlM (readArgument parameters) { positions := positionsOf parameters }
  r.finish parameters

/-! ### Subcommands -/

/-- A command with its parameters. -/
structure Subcommand where
  name : String
  parameters : List Parameter

/-- A program with parameters of its own and subcommands. -/
structure Program where
  parameters : List Parameter
  subcommands : List Subcommand

/-- The subcommand that shows help. -/
def helpName : String := "help"

namespace Program

def subcommand? (program : Program) (name : String) : Option Subcommand :=
  program.subcommands.find? fun c => c.name == name

/-- Whether an option awaits its value. -/
def awaits (r : Reading) : Bool :=
  match r.pending with
  | .awaiting _ => true
  | _ => false

/-- What help is asked for: the program, or one of its subcommands. -/
def helpFor (program : Program) : List String → UsageError
  | [] => .help
  | [name] =>
    if name = helpName ∨ (program.subcommand? name).isSome then .help else .invalidSubcommand
  | _ => .invalidSubcommand

/-- What was given to the program itself, and to which subcommand what was given. -/
structure Parsed where
  own : Table ArgumentValue
  name : String
  given : Table ArgumentValue

/-- The end of a command line without a subcommand. -/
def withoutSubcommand (r : Reading) : Except UsageError Parsed := do
  let r ← r.settle
  if r.given.isEmpty then .error .helpForNothing else .error .missingSubcommand

/-- Read an argument that cannot name a subcommand. -/
def readOwn (program : Program) (r : Reading) (text : String) : Except UsageError Reading :=
  if r.trailing then
    if text = helpName ∨ (program.subcommand? text).isSome then .error .unknownArgument
    else .error .invalidSubcommand
  else
    match text.toList with
    | '-' :: _ :: _ => readArgument program.parameters r text
    | _ =>
      if awaits r then readArgument program.parameters r text else .error .invalidSubcommand

/-- Read a command line: the parameters of the program, the name of a subcommand, and the
parameters of that. -/
def parseFrom (program : Program) (r : Reading) : List String → Except UsageError Parsed
  | [] => withoutSubcommand r
  | text :: arguments =>
    if !r.trailing && !awaits r && text = helpName then .error (program.helpFor arguments)
    else
      match if r.trailing || awaits r then none else program.subcommand? text with
      | some c => do
        let given ← readArguments c.parameters arguments
        let r ← r.settle
        return { own := r.given, name := c.name, given }
      | none =>
        match program.readOwn r text with
        | .error cause => .error cause
        | .ok r => program.parseFrom r arguments

/-- Read a command line. -/
def parse (program : Program) (arguments : List String) : Except UsageError Parsed :=
  program.parseFrom { positions := [] } arguments

end Program

end ScriptGraph
