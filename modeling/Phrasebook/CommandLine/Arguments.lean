import Phrasebook.Report

/-!
The arguments of the commands.

Arguments are read from left to right.  What has been read of an option or of
the operands is settled only when something else comes or the arguments end, so
a fault found at a later argument may be told before one in the values that are
still unsettled.
-/

namespace Phrasebook.CommandLine

/-- Why arguments are not understood, or what they ask for instead of a
command. -/
inductive Usage where
  | help
  | version
  | invalidSubcommand
  | unknownArgument
  | invalidValue
  | tooManyValues
  | missingArgument
  | conflict
  deriving DecidableEq, Repr

inductive Switch where
  | format
  | sourceRoot
  | verbose
  | backend
  | escapeHtml
  | noMagic
  | help
  deriving DecidableEq, Repr

namespace Switch

/-- The name of an option after its two hyphens. -/
def name : Switch → Text
  | .format => "format".toList
  | .sourceRoot => "source-root".toList
  | .verbose => "verbose".toList
  | .backend => "backend".toList
  | .escapeHtml => "escape-html".toList
  | .noMagic => "no-magic".toList
  | .help => "help".toList

/-- The letter of an option after its hyphen. -/
def letter? : Switch → Option Char
  | .verbose => some 'v'
  | .help => some 'h'
  | _ => none

def takesValue : Switch → Bool
  | .format | .sourceRoot | .backend => true
  | .verbose | .escapeHtml | .noMagic | .help => false

def accepts (s : Switch) (value : Text) : Bool :=
  match s with
  | .format => value = "json".toList || value = "text".toList
  | .sourceRoot => !value.isEmpty
  | _ => true

end Switch

/-- How many operands a command takes. -/
inductive Operands where
  | none
  /-- One, which may be empty. -/
  | one
  /-- Any number of paths, none of them empty. -/
  | many
  deriving DecidableEq, Repr

/-- What a command understands. -/
structure Signature where
  switches : List Switch
  operands : Operands
  deriving DecidableEq, Repr

/-- What has been read but not settled. -/
inductive Pending where
  | nothing
  | switch (s : Switch) (value : Option Text)
  | operands (values : List Text)
  deriving DecidableEq, Repr

/-- What has been settled. -/
structure Settled where
  values : List (Switch × Text) := []
  operands : List Text := []
  deriving DecidableEq, Repr

def Settled.has (s : Settled) (switch : Switch) : Bool :=
  s.values.any (·.1 = switch)

def Settled.value? (s : Settled) (switch : Switch) : Option Text :=
  s.values.lookup switch

structure Reading where
  settled : Settled := {}
  pending : Pending := .nothing
  /-- The next argument is the value of an option. -/
  awaiting : Bool := false
  /-- Two hyphens have been read; all that follows is an operand. -/
  trailing : Bool := false
  deriving DecidableEq, Repr

namespace Reading

/-- Settles an option.  A missing value counts before a repetition, and that
before a value that is not accepted. -/
def settleSwitch (s : Settled) (switch : Switch) (value : Option Text) :
    Except Usage Settled :=
  if switch.takesValue && value.isNone then .error .invalidValue
  else if s.has switch then .error .conflict
  else if switch.accepts (value.getD []) || !switch.takesValue then
    .ok { s with values := s.values ++ [(switch, value.getD [])] }
  else .error .invalidValue

def settle (sig : Signature) (r : Reading) : Except Usage Reading := do
  match r.pending with
  | .nothing => return { r with awaiting := false }
  | .switch switch value =>
      let s ← settleSwitch r.settled switch value
      return { r with settled := s, pending := .nothing, awaiting := false }
  | .operands values =>
      if sig.operands = .many && values.any List.isEmpty then .error .invalidValue
      else
        return { r with
          settled := { r.settled with operands := r.settled.operands ++ values }
          pending := .nothing
          awaiting := false }

/-- Reads an option without a value, or with the value in the same argument. -/
def readSwitch (sig : Signature) (switch : Switch) (value : Option Text) (r : Reading) :
    Except Usage Reading := do
  let r ← r.settle sig
  if switch = .help then .error .help
  else if switch.takesValue && value.isNone then
    return { r with pending := .switch switch none, awaiting := true }
  else
    let s ← settleSwitch r.settled switch value
    return { r with settled := s }

/-- Reads the letters of an argument that starts with one hyphen. -/
def readLetters (sig : Signature) : Text → Reading → Except Usage Reading
  | [], r => .ok r
  | c :: cs, r => do
      match sig.switches.find? fun s => s.letter? = some c with
      | none => .error .unknownArgument
      | some switch => readLetters sig cs (← r.readSwitch sig switch none)

/-- Reads the name and the value of an argument that starts with two
hyphens. -/
def readLong (sig : Signature) (t : Text) (r : Reading) : Except Usage Reading :=
  let name := t.takeWhile (· ≠ '=')
  let value := if t.contains '=' then some (t.drop (name.length + 1)) else none
  match sig.switches.find? fun s => s.name = name with
  | none => .error .unknownArgument
  | some switch =>
      if value.isSome && !switch.takesValue then .error .tooManyValues
      else r.readSwitch sig switch value

def readOperand (sig : Signature) (t : Text) (r : Reading) : Except Usage Reading := do
  match sig.operands, r.pending with
  | .none, _ => .error .unknownArgument
  | .one, .operands _ => .error .unknownArgument
  | .one, _ =>
      if r.settled.operands.isEmpty then
        let r ← r.settle sig
        return { r with pending := .operands [t] }
      else .error .unknownArgument
  | .many, .operands values => return { r with pending := .operands (values ++ [t]) }
  | .many, _ =>
      let r ← r.settle sig
      return { r with pending := .operands [t] }

def read (sig : Signature) (r : Reading) (t : Text) : Except Usage Reading :=
  if r.trailing then r.readOperand sig t
  else
    match t with
    | ['-', '-'] => .ok { r with trailing := true }
    | '-' :: '-' :: t => r.readLong sig t
    | '-' :: c :: t => r.readLetters sig (c :: t)
    | t =>
        match r.awaiting, r.pending with
        | true, .switch switch none =>
            .ok { r with pending := .switch switch (some t), awaiting := false }
        | _, _ => r.readOperand sig t

end Reading

/-- The options and operands of a command. -/
def settleAll (sig : Signature) (args : List Text) : Except Usage Settled := do
  let r ← args.foldlM (Reading.read sig) {}
  return (← r.settle sig).settled

/-! ### Commands -/

/-- What all commands on templates take. -/
structure Common where
  sourceRoot : Option Text
  verbose : Bool
  deriving DecidableEq, Repr

inductive Command where
  | extract (paths : List Text) (format : Report.Format) (common : Common)
  | localize (input : Text) (backend : Option Text) (escapeHtml noMagic : Bool)
      (common : Common)
  | init
  deriving DecidableEq, Repr

inductive CommandName where
  | extract
  | localize
  | init
  | help
  deriving DecidableEq, Repr

namespace CommandName

def all : List CommandName :=
  [.extract, .localize, .init, .help]

def spelling : CommandName → Text
  | .extract => "extract".toList
  | .localize => "rewrite".toList
  | .init => "init".toList
  | .help => "help".toList

def ofText? (t : Text) : Option CommandName :=
  all.find? fun c => c.spelling = t

end CommandName

namespace Settled

/-- What was given of the options that the commands share. -/
def common (s : Settled) : Common :=
  ⟨s.value? .sourceRoot, s.has .verbose⟩

def format (s : Settled) : Report.Format :=
  if s.value? .format = some "text".toList then .text else .json

end Settled

/-- Reads the arguments of a command that lists msgids. -/
def readExtract (args : List Text) : Except Usage Command := do
  let s ← settleAll ⟨[.format, .sourceRoot, .verbose, .help], .many⟩ args
  return .extract s.operands s.format s.common

/-- Reads the arguments of a command that localizes a template. -/
def readLocalize (args : List Text) : Except Usage Command := do
  let s ← settleAll
    ⟨[.backend, .escapeHtml, .noMagic, .sourceRoot, .verbose, .help], .one⟩ args
  match s.operands with
  | [] => .error .missingArgument
  | input :: _ =>
      return .localize input (s.value? .backend) (s.has .escapeHtml) (s.has .noMagic) s.common

/-- Reads the arguments of the command that writes default settings. -/
def readInit (args : List Text) : Except Usage Command := do
  let _ ← settleAll ⟨[.help], .none⟩ args
  return .init

/-- Help about commands; only one name may follow. -/
def readHelp (args : List Text) : Usage :=
  match args with
  | [] => .help
  | [name] => if (CommandName.ofText? name).isSome then .help else .invalidSubcommand
  | _ => .invalidSubcommand

/-- Why an argument before any command is not understood. -/
def misplaced (t : Text) : Usage :=
  match t with
  | '-' :: '-' :: t =>
      let name := t.takeWhile (· ≠ '=')
      let known := name = "help".toList || name = "version".toList
      if known && t.contains '=' then .tooManyValues
      else if name = "help".toList then .help
      else if name = "version".toList then .version
      else .unknownArgument
  | '-' :: c :: _ =>
      if c = 'h' then .help else if c = 'V' then .version else .unknownArgument
  | _ => .invalidSubcommand

/-- The command that the arguments ask for, if they ask for one. -/
def readCommand : List Text → Except Usage (Option Command)
  | [] => .ok none
  | t :: args =>
      match CommandName.ofText? t with
      | some .extract => some <$> readExtract args
      | some .localize => some <$> readLocalize args
      | some .init => some <$> readInit args
      | some .help => .error (readHelp args)
      | none =>
          if t = ['-', '-'] then
            match args with
            | [] => .ok none
            | u :: _ =>
                .error (if (CommandName.ofText? u).isSome then .unknownArgument
                  else .invalidSubcommand)
          else .error (misplaced t)

end Phrasebook.CommandLine
