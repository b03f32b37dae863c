import RelayClient.CommandLine

/-!
# The program

Reads what a run depends on, does the run, and carries out what it comes to: the
variables of the environment that matter, the files on the way to the storage
file, random bytes and the time of a derivation come in; lines, changed files
and the exit code go out.
-/

namespace RelayClient.Program

def spell (location : List String) : String :=
  "/" ++ Disk.key location

/-- What stands at a path. What is there and cannot be read as a file counts as a directory. -/
def entryAt (path : String) : IO (Option DiskEntry) := do
  try
    let content ← IO.FS.readBinFile path
    return some (.file content.toList)
  catch
    | .noFileOrDirectory .. => return none
    | _ => return some .directory

/-- The location that a name leads to. -/
def nextLocation (location : List String) : String → List String
  | "." => location
  | ".." => location.dropLast
  | name => location ++ [name]

/-- Adds what stands at each location that a path passes through. -/
def addPath (disk : Disk) (path : DiskPath) : IO Disk := do
  let origin := if path.isRooted then [] else disk.start
  let passed ← path.names.foldlM (fun (current, location) name => do
    let next := nextLocation location name
    match ← entryAt (spell next) with
    | some entry => return (if next.isEmpty then current else current.put next entry, next)
    | none => return (current, next)) (disk, origin)
  return passed.1

/-- The environment file of the directory or of one above it; only a file counts. -/
def environmentFile : IO (Option DiskEntry) := do
  let depth := ((← IO.currentDir).toString.splitOn "/").length
  (List.range depth).foldlM (fun found height => do
    match found with
    | some entry => return some entry
    | none =>
        match ← entryAt (Disk.key (List.replicate height ".." ++ [".env"])) with
        | some (.file content) => return some (.file content)
        | _ => return none) none

/-- The runs of a class of characters in a text, and those between them. -/
def runsOf (belongs : Char → Bool) (text : String) : List String :=
  (text.toList.splitBy fun a b => belongs a == belongs b).map String.ofList

/-- The names that an environment file sets or refers to, among other words of it. -/
def mentionedIn (text : String) : List String :=
  runsOf Settings.EnvironmentFile.isKeyChar text ++ runsOf Text.isAlphanumeric text ++
    (text.splitOn "\x7b").map fun part =>
      String.ofList (part.toList.takeWhile fun c => c != '=' && c != '\x7d')

/-- The variables that settings and the environment file can refer to. -/
def environmentOf (disk : Disk) : IO (Dictionary String) := do
  let mentioned := match disk.readText (.parse ".env") with
    | .ok text => mentionedIn text
    | .error _ => []
  let names := Settings.options.map (·.environmentName) ++ ["WEBRELAY_PASSWORD", Settings.Workers.countVariable] ++
    mentioned.filter Settings.EnvironmentFile.canHold
  names.foldlM (fun current name => do
    match ← IO.getEnv name with
    | some value => return current.insert name value
    | none => return current) .empty

/-- The time of one derivation, in nanoseconds. -/
def measure : IO Nat := do
  let start ← IO.monoNanosNow
  let _ ← IO.lazyPure fun _ => WorkFactor.benchmark.deriveKey "benchmark" (List.replicate WorkFactor.saltLength 0)
  return (← IO.monoNanosNow) - start

/-- The draw of a run. Only a run that may write a record, or shows the work factor, measures. -/
def drawFor (command : Settings.Command) : IO Draw := do
  let salt ← IO.getRandomBytes (USize.ofNat WorkFactor.saltLength)
  let nonce ← IO.getRandomBytes 24
  let elapsed ← match command with
    | .unlock _ | .bench => measure
    | .status | .forget | .host _ => pure 0
  return ⟨.fit _ salt.toList, .fit _ nonce.toList, elapsed⟩

/-- Marks a sibling that cannot be written as standing in the way. -/
def probe (disk : Disk) (sibling : DiskPath) : IO Disk := do
  match disk.fileLocation sibling with
  | .error _ => return disk
  | .ok location =>
      if (disk.entryAt? location).isSome then return disk
      else
        try
          IO.FS.writeBinFile (spell location) ByteArray.empty
          IO.FS.removeFile (spell location)
          return disk
        catch _ => return disk.put location .directory

/-- The location and content of a file that a run has changed. -/
def changed? (before after : Disk) (path : DiskPath) : Option (List String × ByteArray) :=
  match after.fileLocation path with
  | .error _ => none
  | .ok location =>
      match after.entryAt? location with
      | some (.file content) =>
          if before.entryAt? location = some (.file content) then none else some (location, ⟨content.toArray⟩)
      | _ => none

/-- Writes what a run has changed. A changed storage file is written to its
sibling, which is renamed over it. -/
def save (path sibling : DiskPath) (before after : Disk) : IO Unit := do
  if let some (location, content) := changed? before after sibling then
    IO.FS.writeBinFile (spell location) content
  if let (some (location, content), .ok beside) := (changed? before after path, after.fileLocation sibling) then
    IO.FS.writeBinFile (spell beside) content
    IO.FS.rename (spell beside) (spell location)

/-- The exit code that a shell shows for a program that ended itself. -/
def abortedExit : Nat := 134

/-- Does a run whose settings were read. -/
def runWith (arguments : List String) (environment : Dictionary String) (disk : Disk) (settings : Settings) :
    IO RunResult := do
  let path := DiskPath.parse settings.storagePath
  let sibling := FileStore.temporary path
  let disk ← probe (← addPath (← addPath disk path) sibling) sibling
  let result := CommandLine.run .addressSpace arguments environment disk (← drawFor settings.command)
  save path sibling disk result.disk
  return result

end RelayClient.Program

open RelayClient in
/-- Runs the program. -/
def main (arguments : List String) : IO UInt32 := do
  let start := (DiskPath.parse (← IO.currentDir).toString).names
  let disk := match ← Program.environmentFile with
    | some entry => (Disk.within start).place [".env"] entry
    | none => Disk.within start
  let environment ← Program.environmentOf disk
  let result ← match CommandLine.prepare arguments environment disk with
    | .ok settings => Program.runWith arguments environment disk settings
    | .error _ => pure (CommandLine.run .addressSpace arguments environment disk default)
  result.output.forM fun line => IO.println line
  return UInt32.ofNat (result.exit.getD Program.abortedExit)
