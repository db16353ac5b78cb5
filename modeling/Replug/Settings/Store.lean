import Replug.Failure.Report
import Replug.Files.Access
import Replug.Log.Record
import Replug.Settings.Reading
import Replug.Settings.Writing

/-!
# Settings in files

Where settings are kept, and how they are loaded and saved.  The first standard place that exists
is the one that counts, whatever is found there; only when none exists are there no settings.
-/

set_option autoImplicit false

namespace Replug

structure Environment where
  /-- The home directory that is named; it is empty where none is. -/
  home : Bytes
  /-- The directory for configuration files, if one is named. -/
  configHome : Option Bytes
  /-- The log filter, if one is named. -/
  logFilter : Option Bytes
  /-- The directories in which programs are looked for. -/
  searchPath : Bytes
  /-- The other variables, which mean nothing here but are handed on to clients. -/
  others : List (Bytes × Bytes)
  /-- The home directory of the user's account; it is empty where the account has none. -/
  account : Bytes := []
  deriving DecidableEq, Repr

namespace Environment

/-- The home directory: the one that is named, or else that of the account.  It may be empty, and
then there is none. -/
def homeDirectory (env : Environment) : Bytes :=
  if env.home.isEmpty then env.account else env.home

def pairs (env : Environment) : List (Bytes × Bytes) :=
  let named (name : String) (value : Bytes) : Bytes × Bytes := (Bytes.ofString name, value)
  named "HOME" env.home :: named "PATH" env.searchPath ::
    (env.configHome.toList.map (named "XDG_CONFIG_HOME") ++
      env.logFilter.toList.map (named "RUST_LOG")) ++ env.others

/-- The directory for configuration files.  A named one counts only if it starts at the root, and
without a home directory it is one in the working directory. -/
def configDirectory (env : Environment) : Path :=
  match env.configHome with
  | some named =>
    if Path.isAbsolute ⟨named⟩ then ⟨named⟩ else Path.join ⟨env.homeDirectory⟩ ".config"
  | none => Path.join ⟨env.homeDirectory⟩ ".config"

end Environment

namespace Settings

def userFile (env : Environment) : Path :=
  (env.configDirectory.join "usbip-attach-loop").join "config.toml"

def systemFile : Path := "/etc/usbip-attach-loop/config.toml"

/-- The standard places, in the order in which they are looked at. -/
def standardPlaces (env : Environment) : List Path := [userFile env, systemFile]

inductive LoadFault where
  | unreadable (path : Path) (fault : IoFault)
  | unusable (path : Path) (why : Unreadable)
  | nowhere

def LoadFault.report : LoadFault → Report
  | .unreadable path fault =>
    (Report.ofFault fault).remark ("Failed to read config file: " ++ path.display)
  | .unusable path why =>
    (Report.ofWords why.message).remark ("Failed to parse config file: " ++ path.display)
  | .nowhere => Report.ofWords "No configuration file found"

def loadedRecords (path : Path) (s : Settings) : List Log.Record := [
  { level := .info, source := .settings
    message := "Loaded configuration from: " ++ path.display, fields := [] },
  { level := .debug, source := .settings
    message := "Config: program=" ++ s.program.display ++ ", max_delay=" ++
      toString s.maxDelay ++ "s, count=" ++ toString s.count
    fields := [] }]

structure Loaded where
  settings : Settings
  log : List Log.Record
  deriving DecidableEq, Repr

/-- What a text gives that a path led to. -/
def loadText (env : Environment) (path : Path) (text : String) : Except LoadFault Loaded :=
  match ofToml env.homeDirectory text with
  | .error why => .error (.unusable path why)
  | .ok s => .ok ⟨s, loadedRecords path s⟩

/-- The settings in a file; nothing where its text is waited for for ever. -/
def loadFile (env : Environment) (files : Files) (path : Path) : Option (Except LoadFault Loaded) :=
  (files.readText path).map fun
    | .error fault => .error (.unreadable path fault)
    | .ok text => loadText env path text

def loadFirst (env : Environment) (files : Files) (places : List Path) :
    Option (Except LoadFault (Option Loaded)) :=
  match places.find? files.pathExists with
  | some path => (loadFile env files path).map (·.map some)
  | none => some (.ok none)

def load (env : Environment) (files : Files) : Option Path → Option (Except LoadFault Loaded)
  | some path => loadFile env files path
  | none => (loadFirst env files (standardPlaces env)).map fun
    | .error fault => .error fault
    | .ok (some loaded) => .ok loaded
    | .ok none => .error .nowhere

/-- The settings in the standard places, or the default ones.  A file that cannot be loaded is the
only thing that is complained about. -/
def loadOrDefault (env : Environment) (files : Files) : Option (Loaded × Option Report) :=
  (loadFirst env files (standardPlaces env)).map fun
    | .ok (some loaded) => (loaded, none)
    | .ok none => (⟨default, []⟩, none)
    | .error fault => (⟨default, []⟩, some fault.report)

inductive SaveFault where
  | unwritable (why : Unwritable)
  | directory (path : Path) (fault : IoFault)
  | file (path : Path) (fault : IoFault)

def SaveFault.report : SaveFault → Report
  | .unwritable why =>
    (Report.ofWords why.message).remark "Failed to serialize configuration"
  | .directory path fault =>
    (Report.ofFault fault).remark ("Failed to create config directory: " ++ path.display)
  | .file path fault =>
    (Report.ofFault fault).remark ("Failed to write config file: " ++ path.display)

def savedRecord (path : Path) : Log.Record where
  level := .info
  source := .settings
  message := "Saved configuration to: " ++ path.display
  fields := []

/-- The directory of a file made if need be; a path of a single name has none to make. -/
def ensureParent (files : Files) (path : Path) : Except SaveFault Unit × Files :=
  match path.parent? with
  | none => (.ok (), files)
  | some parent =>
    match files.ensureTree parent with
    | (.ok (), files) => (.ok (), files)
    | (.error fault, files) => (.error (.directory parent fault), files)

/-- The settings saved to a file.  Nothing is touched unless they can be written as a document, and
there is no answer where the file keeps the program waiting for ever. -/
def save (s : Settings) (path : Path) (files : Files) : Option (Except SaveFault Unit) × Files :=
  match s.toToml with
  | .error why => (some (.error (.unwritable why)), files)
  | .ok document =>
    match ensureParent files path with
    | (.error fault, files) => (some (.error fault), files)
    | (.ok (), files) =>
      let (answer, files) := files.write path (Bytes.ofString (String.ofList document))
      (answer.map (·.mapError (.file path)), files)

end Settings

end Replug
