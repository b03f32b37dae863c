import RelayClient.Cipher.SealedBox
import RelayClient.Failure
import RelayClient.Settings.Usage
import RelayClient.Signaling
import RelayClient.Text.Blank
import RelayClient.Text.Hex

/-!
# Settings

Everything a user can set, from arguments and environment, with defaults for
what is left out, and what the user asked for. A setting can have the right form
and still be refused when it is put to use.
-/

namespace RelayClient

open Cipher (Key Sized)

/-- What the user asked for. -/
inductive Settings.Command where
  | status
  | unlock (password : String)
  | forget
  | bench
  | host (publicKey : String)
  deriving DecidableEq

def Settings.Command.words : Settings.Command → List String
  | .status => ["status"]
  | .unlock password => ["unlock", password]
  | .forget => ["forget"]
  | .bench => ["bench"]
  | .host publicKey => ["host", publicKey]

/-- Everything a user can set. Durations are in milliseconds. -/
structure Settings where
  signalingHost : Option String
  hostStart : String
  hostEnd : String
  port : Nat
  serverKey : Option String
  pushUrl : String
  protocolVersion : Nat
  storagePath : String
  requestTimeout : Nat
  phaseOne : Nat
  phaseTwo : Nat
  restartDelay : Nat
  keyTarget : Nat
  showMessages : Bool
  logLevel : String
  logJson : Bool
  command : Settings.Command

/-- A key of 32 bytes given as hexadecimal text. -/
def parseKey (text : String) : Except Failure Key :=
  match Text.Hex.decode (Text.trim text) with
  | .error problem => .error (.config ("Invalid hex key: " ++ problem.message))
  | .ok bytes =>
      match Sized.ofBytes? 32 bytes with
      | some key => .ok key
      | none => .error (.config ("Key must be 32 bytes, got " ++ toString bytes.length))

namespace Settings

/-- The options of the program, in the order the environment is asked for them. -/
def options : List OptionForm := [
  ⟨"signaling-host", "SIGNALING_HOST", .text⟩,
  ⟨"signaling-host-prefix", "SIGNALING_HOST_PREFIX", .text⟩,
  ⟨"signaling-host-suffix", "SIGNALING_HOST_SUFFIX", .text⟩,
  ⟨"signaling-port", "SIGNALING_PORT", .signedBelow (2 ^ 16)⟩,
  ⟨"signaling-server-key", "SIGNALING_SERVER_KEY", .text⟩,
  ⟨"push-url", "PUSH_URL", .text⟩,
  ⟨"protocol-version", "PROTOCOL_VERSION", .signedBelow (2 ^ 32)⟩,
  ⟨"storage-path", "STORAGE_PATH", .path⟩,
  ⟨"request-timeout-ms", "REQUEST_TIMEOUT_MS", .unsignedBelow (2 ^ 64)⟩,
  ⟨"reconnect-phase1-ms", "RECONNECT_PHASE1_MS", .unsignedBelow (2 ^ 64)⟩,
  ⟨"reconnect-phase2-ms", "RECONNECT_PHASE2_MS", .unsignedBelow (2 ^ 64)⟩,
  ⟨"relayed-restart-delay-ms", "RELAYED_RESTART_DELAY_MS", .unsignedBelow (2 ^ 64)⟩,
  ⟨"kdf-target-ms", "KDF_TARGET_MS", .unsignedBelow (2 ^ 64)⟩,
  ⟨"msg-debugging", "MSG_DEBUGGING", .flag⟩,
  ⟨"log-level", "LOG_LEVEL", .text⟩,
  ⟨"log-json", "LOG_JSON", .flag⟩]

/-- The program's own arguments. -/
def rootForm : CommandForm :=
  { options, subcommands := ["status", "unlock", "forget", "bench", "host", "help"] }

/-- The arguments of a subcommand. -/
def commandForm : String → CommandForm
  | "unlock" => { options := [⟨"password", "WEBRELAY_PASSWORD", .text⟩] }
  | "host" => { takesOperand := true }
  | _ => {}

/-- What is asked for by a subcommand whose arguments were read. -/
def commandOf (name : String) (scan : Scan) : Except UsageFault Command :=
  match name with
  | "unlock" =>
      match scan.values.get? "password" with
      | some password => .ok (.unlock password)
      | none => .error .missingRequiredArgument
  | "host" =>
      match scan.operand with
      | some publicKey => .ok (.host publicKey)
      | none => .error .missingRequiredArgument
  | "forget" => .ok .forget
  | "bench" => .ok .bench
  | _ => .ok .status

/-- Help is shown for a subcommand that exists. -/
def helpFault : List String → UsageFault
  | [] => .displayHelp
  | [name] => if rootForm.subcommands.contains name then .displayHelp else .invalidSubcommand
  | _ => .invalidSubcommand

def readCommand (environment : Dictionary String) (name : String) (arguments : List String) :
    Except UsageFault Command :=
  if name = "help" then .error (helpFault arguments)
  else
    match Scan.read (commandForm name) {} arguments with
    | .error fault => .error fault
    | .ok scan =>
        match scan.finish (commandForm name) environment with
        | .error fault => .error fault
        | .ok finished => commandOf name finished

def number (values : Dictionary String) (name : String) (fallback : Nat) : Nat :=
  ((values.get? name).bind signed?).getD fallback

def flag (values : Dictionary String) (name : String) : Bool :=
  values.get? name == some "true"

/-- The settings of values and a command, with defaults for what is left out. -/
def ofValues (values : Dictionary String) (command : Command) : Settings where
  signalingHost := values.get? "signaling-host"
  hostStart := (values.get? "signaling-host-prefix").getD "relay-"
  hostEnd := (values.get? "signaling-host-suffix").getD ".webrelay.example"
  port := number values "signaling-port" 443
  serverKey := values.get? "signaling-server-key"
  pushUrl := (values.get? "push-url").getD "https://push.webrelay.example/push"
  protocolVersion := number values "protocol-version" 2
  storagePath := (values.get? "storage-path").getD "webrelay-storage.json"
  requestTimeout := number values "request-timeout-ms" 0
  phaseOne := number values "reconnect-phase1-ms" 20000
  phaseTwo := number values "reconnect-phase2-ms" 40000
  restartDelay := number values "relayed-restart-delay-ms" 500
  keyTarget := number values "kdf-target-ms" 500
  showMessages := flag values "msg-debugging"
  logLevel := (values.get? "log-level").getD "info"
  logJson := flag values "log-json"
  command

def read (environment : Dictionary String) (arguments : List String) : Except UsageFault Settings :=
  match Scan.read rootForm {} arguments with
  | .error fault => .error fault
  | .ok scan =>
      match scan.subcommand.mapM fun (name, rest) => readCommand environment name rest with
      | .error fault => .error fault
      | .ok command =>
          match scan.finish rootForm environment with
          | .error fault => .error fault
          | .ok finished =>
              match command with
              | some command => .ok (ofValues finished.values command)
              | none =>
                  if finished.values.isEmpty then .error .displayHelpOnMissingArguments
                  else .error .missingSubcommand

def parsedServerKey (settings : Settings) : Except Failure (Option Key) :=
  match settings.serverKey with
  | none => .ok none
  | some text => (parseKey text).map some

/-- Refuses settings that cannot be used, by the first that cannot. -/
def validate (settings : Settings) : Except Failure Unit :=
  match settings.parsedServerKey with
  | .error failure => .error failure
  | .ok _ =>
      if settings.pushUrl.isEmpty then .error (.config "PUSH_URL must not be empty")
      else if settings.phaseOne = 0 ∨ settings.phaseTwo = 0 then
        .error (.config "reconnect phase timeouts must be positive")
      else if settings.keyTarget = 0 then .error (.config "KDF_TARGET_MS must be positive")
      else .ok ()

/-- Where the signaling server is found. -/
def signaling (settings : Settings) : Except Failure Signaling :=
  settings.parsedServerKey.map fun serverKey =>
    ⟨settings.signalingHost, settings.hostStart, settings.hostEnd, settings.port, serverKey⟩

/-- How long a request may wait for its answer, zero meaning for ever. -/
def requestLimit (settings : Settings) : Option Nat :=
  if settings.requestTimeout = 0 then none else some settings.requestTimeout

/-- How long a push may take. -/
def pushTimeout : Nat := 10000

/-- What is logged at a level, unless the environment says otherwise. -/
def logDirective (level : String) : String :=
  "webrelay=" ++ level ++ ",info"

end Settings

end RelayClient
