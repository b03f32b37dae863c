import RelayClient.Dictionary

/-!
# Arguments of a command

A command takes options by name, at most one operand, and at most one
subcommand, whose own arguments follow it. An option may take its value from the
environment when the arguments do not give it. What is wrong with arguments is
reported as the first fault in reading order, where the arguments of a
subcommand are read before the last option of the command is settled.
-/

namespace RelayClient.Settings

/-- What is wrong with arguments, or that help was asked for. -/
inductive UsageFault where
  | unknownArgument
  | invalidValue
  | valueValidation
  | missingRequiredArgument
  | invalidSubcommand
  | missingSubcommand
  | argumentConflict
  | tooManyValues
  | displayHelp
  | displayHelpOnMissingArguments
  deriving DecidableEq

def UsageFault.name : UsageFault → String
  | .unknownArgument => "UnknownArgument"
  | .invalidValue => "InvalidValue"
  | .valueValidation => "ValueValidation"
  | .missingRequiredArgument => "MissingRequiredArgument"
  | .invalidSubcommand => "InvalidSubcommand"
  | .missingSubcommand => "MissingSubcommand"
  | .argumentConflict => "ArgumentConflict"
  | .tooManyValues => "TooManyValues"
  | .displayHelp => "DisplayHelp"
  | .displayHelpOnMissingArguments => "DisplayHelpOnMissingArgumentOrSubcommand"

/-- The values an option takes. -/
inductive ValueKind where
  | text
  /-- A text that is not empty. -/
  | path
  /-- A whole number with an optional sign, from zero up to a bound. -/
  | signedBelow (bound : Nat)
  /-- A whole number with an optional plus sign, up to a bound. -/
  | unsignedBelow (bound : Nat)
  /-- Given by its name alone; in the environment, `true` or `false`. -/
  | flag
  deriving DecidableEq

/-- The number of decimal digits, when there is at least one. -/
def digitsValue? (digits : List Char) : Option Nat :=
  if !digits.isEmpty && digits.all Char.isDigit then
    some (digits.foldl (fun value digit => 10 * value + (digit.toNat - 48)) 0)
  else none

/-- A whole number with an optional plus sign. -/
def unsigned? (text : String) : Option Nat :=
  match text.toList with
  | '+' :: digits => digitsValue? digits
  | digits => digitsValue? digits

/-- A whole number with an optional sign, when it is not negative. -/
def signed? (text : String) : Option Nat :=
  match text.toList with
  | '-' :: digits => (digitsValue? digits).bind fun value => if value = 0 then some 0 else none
  | _ => unsigned? text

namespace ValueKind

def check (kind : ValueKind) (text : String) : Except UsageFault Unit :=
  match kind with
  | .text => .ok ()
  | .path => if text.isEmpty then .error .invalidValue else .ok ()
  | .signedBelow bound =>
      match signed? text with
      | some value => if value < bound then .ok () else .error .valueValidation
      | none => .error .valueValidation
  | .unsignedBelow bound =>
      match unsigned? text with
      | some value => if value < bound then .ok () else .error .valueValidation
      | none => .error .valueValidation
  | .flag => if text = "true" ∨ text = "false" then .ok () else .error .invalidValue

end ValueKind

/-- An option by its name, its variable in the environment and its values. -/
structure OptionForm where
  name : String
  environmentName : String
  kind : ValueKind
  deriving DecidableEq

structure CommandForm where
  options : List OptionForm := []
  takesOperand : Bool := false
  subcommands : List String := []

/-- What was read of the arguments of a command. -/
structure Scan where
  values : Dictionary String := .empty
  operand : Option String := none
  /-- An option that is not settled yet, with its value once it was read. -/
  pending : Option (OptionForm × Option String) := none
  /-- Options are no longer looked for. -/
  operandsOnly : Bool := false
  /-- A subcommand and the arguments after it. -/
  subcommand : Option (String × List String) := none

namespace Scan

/-- Stores the value of an option that was not given before. -/
def put (scan : Scan) (form : OptionForm) (value : String) : Except UsageFault Scan :=
  if scan.values.contains form.name then .error .argumentConflict
  else (form.kind.check value).map fun _ => { scan with values := scan.values.insert form.name value }

/-- Settles the pending option. -/
def settle (scan : Scan) : Except UsageFault Scan :=
  match scan.pending with
  | none => .ok scan
  | some (_, none) => .error .invalidValue
  | some (form, some value) => { scan with pending := none }.put form value

/-- Whether the pending option still waits for its value. -/
def isWaiting (scan : Scan) : Bool :=
  match scan.pending with
  | some (_, none) => true
  | _ => false

/-- Takes an option by its long name, with the value attached to it if there is one. -/
def takeLong (form : CommandForm) (scan : Scan) (name : String) (attached : Option String) :
    Except UsageFault Scan :=
  if name = "help" then
    if attached.isSome then .error .tooManyValues else scan.settle.bind fun _ => .error .displayHelp
  else
    match form.options.find? fun option => option.name = name with
    | none => .error .unknownArgument
    | some option =>
        match option.kind, attached with
        | .flag, some _ => .error .tooManyValues
        | .flag, none => scan.settle.bind fun settled => settled.put option "true"
        | _, some value => scan.settle.bind fun settled => settled.put option value
        | _, none => scan.settle.map fun settled => { settled with pending := some (option, none) }

/-- Takes an argument that is neither option nor subcommand. -/
def takeOperand (form : CommandForm) (scan : Scan) (argument : String) : Except UsageFault Scan :=
  if form.takesOperand && scan.operand.isNone then
    scan.settle.map fun settled => { settled with operand := some argument }
  else if form.subcommands.isEmpty || scan.operandsOnly && form.subcommands.contains argument then
    .error .unknownArgument
  else .error .invalidSubcommand

/-- Splits a long option at its first equals sign. -/
def splitAttached (chars : List Char) : String × Option String :=
  match chars.dropWhile (· != '=') with
  | [] => (String.ofList chars, none)
  | _ :: value => (String.ofList (chars.takeWhile (· != '=')), some (String.ofList value))

def take (form : CommandForm) (scan : Scan) (argument : String) : Except UsageFault Scan :=
  if scan.operandsOnly then scan.takeOperand form argument
  else
    match argument.toList with
    | ['-', '-'] => .ok { scan with operandsOnly := true }
    | '-' :: '-' :: rest =>
        let parts := splitAttached rest
        scan.takeLong form parts.1 parts.2
    | '-' :: letter :: _ =>
        if letter = 'h' then scan.settle.bind fun _ => .error .displayHelp else .error .unknownArgument
    | _ =>
        match scan.pending with
        | some (option, none) => .ok { scan with pending := some (option, some argument) }
        | _ => scan.takeOperand form argument

/-- Reads arguments up to a subcommand or to their end. -/
def read (form : CommandForm) (scan : Scan) : List String → Except UsageFault Scan
  | [] => .ok scan
  | argument :: rest =>
      if !scan.operandsOnly && !scan.isWaiting && form.subcommands.contains argument then
        .ok { scan with subcommand := some (argument, rest) }
      else
        match scan.take form argument with
        | .error fault => .error fault
        | .ok next => read form next rest

/-- Adds the values of options that only the environment gives. -/
def addVariables (environment : Dictionary String) : List OptionForm → Scan → Except UsageFault Scan
  | [], scan => .ok scan
  | option :: rest, scan =>
      match scan.values.contains option.name, environment.get? option.environmentName with
      | false, some value =>
          match scan.put option value with
          | .error fault => .error fault
          | .ok next => addVariables environment rest next
      | _, _ => addVariables environment rest scan

/-- Settles what is pending and adds the values from the environment. -/
def finish (form : CommandForm) (environment : Dictionary String) (scan : Scan) : Except UsageFault Scan :=
  match scan.settle with
  | .error fault => .error fault
  | .ok settled => addVariables environment form.options settled

end Scan

end RelayClient.Settings
