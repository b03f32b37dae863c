import RelayClient.Credential.KeyStore
import RelayClient.KeyPair
import RelayClient.Settings.Basic
import RelayClient.Settings.EnvironmentFile
import RelayClient.Settings.Workers

/-!
# The command line

One run of the program, from its arguments, environment and disk to its exit
code, what it prints and the disk it leaves. An environment file beside the
program is read first. Wrong arguments exit with two, settings that cannot be
used with one, and a record that does not open with two. A run that the
environment keeps from reading its arguments breaks off with a code of its own, and
one that asks for more memory than it is granted ends without any.
-/

namespace RelayClient

structure RunResult where
  exit : Option Nat
  output : List String
  disk : Disk

namespace CommandLine

/-- The environment with the variables of the environment file of a disk, unless
the file gives none. -/
def environmentWith? (environment : Dictionary String) (disk : Disk) : Option (Dictionary String) :=
  match disk.readText (.parse ".env") with
  | .ok text => Settings.EnvironmentFile.load? environment text
  | .error _ => some environment

/-- The exit code of a run that breaks off before it reads its arguments. -/
def brokenExit : Nat := 101

/-- The exit code of wrong arguments; help that was asked for is no fault. -/
def usageExit : Settings.UsageFault → Nat
  | .displayHelp => 0
  | _ => 2

/-- The lines that show a credential. -/
def trustedLines (trusted : TrustedKey) : List String :=
  ["public key: " ++ (KeyPair.ofSecret trusted.secret).publicText,
    "peer key:   " ++ Text.Hex.encode trusted.peer.bytes,
    "push:       " ++ (match trusted.token with
      | some token => token.system.name
      | none => "none")]

def statusLine (keys : KeyStore) : String :=
  if keys.hasTrustedKey then
    "trusted session stored (" ++ (if keys.isAutoSession then "auto" else "manual") ++ ")"
  else "no trusted session"

/-- The line that shows the work factor a new record would get. -/
def benchLine (logN elapsed target : Nat) : String :=
  let work := WorkFactor.standard (UInt8.ofNat logN)
  "N = 2^" ++ toString logN ++ " (" ++ toString work.n.toNat ++ "), r = " ++ toString work.r.toNat ++
    ", p = " ++ toString work.p.toNat ++ " for a " ++ Text.duration target ++
    " target (benchmark took " ++ Text.duration elapsed ++ ")"

/-- Does what the user asked for over an open key store. -/
def perform (memory : Memory) (settings : Settings) (keys : KeyStore) (draw : Draw) :
    KeyStore × Option Nat × List String :=
  match settings.command with
  | .status => (keys, some 0, [statusLine keys])
  | .unlock password =>
      match keys.retrieveWithin memory password draw with
      | (after, some (.ok (some trusted))) => (after, some 0, trustedLines trusted)
      | (after, some (.ok none)) => (after, some 0, ["no trusted session"])
      | (after, some (.error .decryptionFailed)) => (after, some 2, [])
      | (after, some (.error _)) => (after, some 1, [])
      | (after, none) => (after, none, [])
  | .forget => (keys.clear, some 0, ["trusted session deleted"])
  | .bench =>
      if memory.isExhaustedBy .benchmark then (keys, none, [])
      else
        match WorkFactor.extrapolate draw.elapsed WorkFactor.benchmarkLogN keys.target with
        | .ok logN => (keys, some 0, [benchLine logN draw.elapsed keys.target])
        | .error _ => (keys, some 1, [])
  | .host text =>
      match parseKey text, settings.signaling with
      | .ok key, .ok signaling => (keys, some 0, [signaling.resolveHost key])
      | _, _ => (keys, some 1, [])

/-- The note printed when storage fell back to memory. -/
def blockedLines (storage : Storage) : List String :=
  if storage.blocked then ["warning: storage unavailable, running memory-only"] else []

/-- The settings of a run, or the exit code of a run that does not get to use any. -/
def prepare (arguments : List String) (environment : Dictionary String) (disk : Disk) : Except Nat Settings :=
  if Settings.Workers.canStart environment then
    match environmentWith? environment disk with
    | none => .error brokenExit
    | some environment =>
        match Settings.read environment arguments with
        | .error fault => .error (usageExit fault)
        | .ok settings =>
            match settings.validate with
            | .error _ => .error 1
            | .ok _ => .ok settings
  else .error brokenExit

def run (memory : Memory) (arguments : List String) (environment : Dictionary String) (disk : Disk)
    (draw : Draw) : RunResult :=
  match prepare arguments environment disk with
  | .error exit => ⟨some exit, [], disk⟩
  | .ok settings =>
      let storage := Storage.openPersistent settings.storagePath disk
      let result := perform memory settings ⟨storage, settings.keyTarget * 10 ^ 6, none⟩ draw
      ⟨result.2.1, blockedLines storage ++ result.2.2, result.1.storage.disk⟩

end CommandLine

end RelayClient
