import Replug.Log.Pattern
import Replug.Machine.Small
import Replug.Program

/-!
# The command line

A call of the program on a small machine, which is given what the call may look at here: settings
files and the client.  Clients that are scripts are run on the small machine; others cannot be.
The output, the complaints and the saved settings are handed back.
-/

set_option autoImplicit false

namespace Replug.Main

def environmentValue (name : String) : IO (Option Bytes) := do
  return (← IO.getEnv name).map Bytes.ofString

/-- The names of other variables that clients look at. -/
def customaryNames : List String := ["LANG", "LC_ALL", "LOGNAME", "NO_COLOR", "TERM", "USER"]

/-- The home directory of an account, by what is known of a process and of all accounts. -/
def accountHome (status accounts : String) : String :=
  let owner := (status.splitOn "\n").findSome? fun line =>
    match line.splitOn "\t" with
    | "Uid:" :: _ :: effective :: _ => some effective
    | _ => none
  let home := (accounts.splitOn "\n").findSome? fun line =>
    match line.splitOn ":" with
    | [_, _, user, _, _, home, _] => if some user = owner then some home else none
    | _ => none
  home.getD ""

def homeOfAccount : IO Bytes := do
  try
    let status ← IO.FS.readFile "/proc/self/status"
    return Bytes.ofString (accountHome status (← IO.FS.readFile "/etc/passwd"))
  catch _ => return []

def surroundings : IO Environment := do
  let others ← customaryNames.filterMapM fun name => do
    return (← environmentValue name).map fun value => (Bytes.ofString name, value)
  return {
    home := (← environmentValue "HOME").getD []
    configHome := ← environmentValue "XDG_CONFIG_HOME"
    logFilter := ← environmentValue "RUST_LOG"
    searchPath := (← environmentValue "PATH").getD []
    others := others
    account := ← homeOfAccount }

def withCopy (runnable : Bool) (files : Files) (p : Path) : IO Files := do
  match p.text? with
  | none => return files
  | some name =>
    try
      let content ← IO.FS.readBinFile name
      return files.install p content.data.toList runnable
    catch _ => return files

def clients (env : Environment) (files : Files) (args : CommandLine.Arguments) : List Path :=
  match Program.settingsFor env files args.config with
  | none | some (.error _) => []
  | some (.ok (settings, _)) =>
    let plan := Plan.layered env.homeDirectory args.remote args.busId args.overrides settings
    Files.candidates env.searchPath plan.program

/-- The files that a call may look at. -/
def gathered (env : Environment) (args : List Bytes) : IO Files := do
  match CommandLine.Arguments.parse args with
  | .error _ => return .ground
  | .ok args =>
    let places := args.config.toList ++ Settings.standardPlaces env
    let files ← places.foldlM (withCopy false) .ground
    (clients env files args).foldlM (withCopy true) files

/-- A file of the small machine handed back, if it has changed. -/
def handBack (before after : Files) (p : Path) : IO Unit := do
  match p.text?, (after.readNow p).toOption with
  | some name, some content =>
    if (before.readNow p).toOption ≠ some content then
      if let some parent := p.parent?.bind Path.text? then IO.FS.createDirAll parent
      IO.FS.writeBinFile name ⟨content.toArray⟩
  | _, _ => return ()

def randomWords (count : Nat) : IO (List UInt64) :=
  (List.range count).mapM fun _ => return .ofNat (← IO.rand 0 (Delay.wordCount - 1))

/-- The status that is seen of a call that broke off. -/
def brokenOff : Nat := 134

def call (args : List Bytes) : IO UInt32 := do
  let env ← surroundings
  let files ← gathered env args
  let start := SmallMachine.ofFiles files (← randomWords 1000)
  let outcome := Program.run Log.Pattern.refused (SmallMachine.machine env) env args start
  let stdout ← IO.getStdout
  stdout.write ⟨outcome.station.machine.output.reverse.toArray⟩
  stdout.flush
  for line in outcome.errorLines do
    IO.eprintln line
  handBack files outcome.station.machine.files (Settings.userFile env)
  return .ofNat (outcome.exit.getD brokenOff)

end Replug.Main

def main (args : List String) : IO UInt32 := Replug.Main.call (args.map Replug.Bytes.ofString)
