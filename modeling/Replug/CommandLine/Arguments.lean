import Replug.Settings.Resolution
import Replug.Text.Number
import Replug.Text.Terminal

/-!
# The arguments of the command line

Options have a long name and mostly a short one; their value follows in the next argument, or in
the same one.  An argument that looks like an option is never taken for a value, and after `--`
nothing looks like an option.  The one argument that belongs to no option is the number of cycles.

The value of an option is looked at when the next option begins or the arguments end, so an
argument that means nothing is refused before a bad value in front of it.
-/

set_option autoImplicit false

namespace Replug.CommandLine

inductive Setting where
  | remote
  | busId
  | maxDelay
  | program
  | count
  | config
  | saveConfig
  | logLevel
  deriving DecidableEq, Repr

namespace Setting

def usage : Setting → String
  | .remote => "--remote <HOST>"
  | .busId => "--bus-id <ID>"
  | .maxDelay => "--max-delay <SEC>"
  | .program => "--program <PATH>"
  | .count => "[N]"
  | .config => "--config <PATH>"
  | .saveConfig => "--save-config"
  | .logLevel => "--log-level <LEVEL>"

def options : List (Setting × String × Char) := [
  (.remote, "remote", 'r'), (.busId, "bus-id", 'b'), (.maxDelay, "max-delay", 'd'),
  (.program, "program", 'p'), (.config, "config", 'c'), (.logLevel, "log-level", 'l')]

end Setting

inductive Meaning where
  /-- It sets something to the value that comes with it. -/
  | sets (setting : Setting)
  | saveConfig
  | help
  | version
  deriving DecidableEq, Repr

def Meaning.usage : Meaning → String
  | .sets setting => setting.usage
  | .saveConfig => "--save-config"
  | .help => "--help"
  | .version => "--version"

def longMeaning? (name : Bytes) : Option Meaning :=
  if name = Bytes.ofString "save-config" then some .saveConfig
  else if name = Bytes.ofString "help" then some .help
  else if name = Bytes.ofString "version" then some .version
  else (Setting.options.find? fun o => Bytes.ofString o.2.1 = name).map fun o => .sets o.1

def shortMeaning? (letter : Char) : Option Meaning :=
  if letter = 'h' then some .help
  else if letter = 'V' then some .version
  else (Setting.options.find? fun o => o.2.2 = letter).map fun o => .sets o.1

inductive Refusal where
  /-- An argument that means nothing. -/
  | unexpected (shown : String)
  | valueMissing (setting : Setting)
  | badNumber (setting : Setting) (given : String) (fault : Text.NumberFault)
  | repeated (setting : Setting)
  /-- A value for an option that takes none. -/
  | surplusValue (given : String) (meaning : Meaning)
  /-- A value that must be text and is not. -/
  | notText
  | missing (settings : List Setting)
  /-- The operator asked for help, at length or not. -/
  | help (long : Bool)
  | version
  deriving DecidableEq, Repr

/-- What the arguments have set so far. -/
structure Draft where
  remote : Option String
  busId : Option String
  maxDelay : Option UInt64
  program : Option Path
  count : Option UInt64
  config : Option Path
  saveConfig : Bool
  logLevel : Option String
  deriving DecidableEq, Repr

namespace Draft

def empty : Draft := ⟨none, none, none, none, none, none, false, none⟩

def has (d : Draft) : Setting → Bool
  | .remote => d.remote.isSome
  | .busId => d.busId.isSome
  | .maxDelay => d.maxDelay.isSome
  | .program => d.program.isSome
  | .count => d.count.isSome
  | .config => d.config.isSome
  | .saveConfig => d.saveConfig
  | .logLevel => d.logLevel.isSome

def textOf (value : Bytes) : Except Refusal String :=
  match value.text? with
  | some s => .ok s
  | none => .error .notText

def filled (setting : Setting) (value : Bytes) : Except Refusal Bytes :=
  if value.isEmpty then .error (.valueMissing setting) else .ok value

def numberOf (setting : Setting) (value : Bytes) : Except Refusal UInt64 := do
  let s ← textOf value
  match Text.number s.toList with
  | .ok n => .ok (.ofNat n)
  | .error fault => .error (.badNumber setting s fault)

def set (d : Draft) (setting : Setting) (value : Bytes) : Except Refusal Draft :=
  match setting with
  | .remote => do return { d with remote := some (← textOf (← filled setting value)) }
  | .busId => do return { d with busId := some (← textOf (← filled setting value)) }
  | .maxDelay => do return { d with maxDelay := some (← numberOf setting value) }
  | .program => do return { d with program := some ⟨← filled setting value⟩ }
  | .count => do return { d with count := some (← numberOf setting value) }
  | .config => do return { d with config := some ⟨← filled setting value⟩ }
  | .saveConfig => return { d with saveConfig := true }
  | .logLevel => do return { d with logLevel := some (← textOf value) }

def setOnce (d : Draft) (setting : Setting) (value : Bytes) : Except Refusal Draft :=
  if d.has setting then .error (.repeated setting) else d.set setting value

end Draft

/-- An option or the number of cycles, with the value that it was given, if it has one yet. -/
abbrev Pending := Option (Setting × Option Bytes)

def settle (d : Draft) : Pending → Except Refusal Draft
  | none => .ok d
  | some (setting, none) => .error (.valueMissing setting)
  | some (setting, some value) => d.setOnce setting value

inductive Shape where
  /-- The sign after which nothing is an option. -/
  | divider
  | long (name : Bytes) (value : Option Bytes)
  | short (letters : Bytes)
  | plain
  deriving DecidableEq, Repr

def dash : UInt8 := 0x2D

def equals : UInt8 := 0x3D

/-- What an argument looks like.  A single dash is nothing special. -/
def Shape.of : Bytes → Shape
  | a :: b :: rest =>
    if a = dash then
      if b = dash then
        if rest.isEmpty then .divider
        else .long (rest.takeWhile (· ≠ equals))
          (match rest.dropWhile (· ≠ equals) with
            | [] => none
            | _ :: value => some value)
      else .short (b :: rest)
    else .plain
  | _ => .plain

def firstLetter? (letters : Bytes) : Option (Char × Bytes) :=
  [1, 2, 3, 4].findSome? fun n =>
    match Bytes.text? (letters.take n) with
    | some s =>
      match s.toList with
      | [c] => some (c, letters.drop n)
      | _ => none
    | none => none

/-- The value in the same argument as a short option, which an equals sign may announce. -/
def attached? : Bytes → Option Bytes
  | [] => none
  | b :: rest => some (if b = equals then rest else b :: rest)

structure Progress where
  draft : Draft
  pending : Pending
  /-- Whether the number of cycles was given. -/
  counted : Bool
  deriving DecidableEq, Repr

namespace Progress

def start : Progress := ⟨.empty, none, false⟩

def settled (p : Progress) : Except Refusal Progress := do
  return { p with draft := ← settle p.draft p.pending, pending := none }

def option (p : Progress) (meaning : Meaning) (value : Option Bytes) (long : Bool) :
    Except Refusal Progress := do
  let p ← p.settled
  match meaning, value with
  | .sets setting, none => return { p with pending := some (setting, none) }
  | .sets setting, some value => return { p with draft := ← p.draft.setOnce setting value }
  | .saveConfig, _ => return { p with draft := ← p.draft.setOnce .saveConfig [] }
  | .help, _ => .error (.help long)
  | .version, _ => .error .version

def longOption (p : Progress) (name : Bytes) (value : Option Bytes) : Except Refusal Progress :=
  match longMeaning? name, value with
  | none, _ => .error (.unexpected ("--" ++ name.display))
  | some (.sets setting), value => p.option (.sets setting) value true
  | some meaning, none => p.option meaning none true
  | some meaning, some value => .error (.surplusValue value.display meaning)

/-- One or more short options.  The first one that means something settles what the rest is. -/
def shortOptions (p : Progress) (letters : Bytes) : Except Refusal Progress :=
  match firstLetter? letters with
  | none => .error (.unexpected ("-" ++ letters.display))
  | some (letter, rest) =>
    match shortMeaning? letter with
    | none => .error (.unexpected ("-" ++ String.singleton letter))
    | some meaning => p.option meaning (attached? rest) false

def positional (p : Progress) (value : Bytes) : Except Refusal Progress :=
  if p.counted then .error (.unexpected value.display)
  else do
    let p ← p.settled
    return { p with pending := some (.count, some value), counted := true }

/-- An argument that does not look like an option: the value of the option before it if that waits
for one. -/
def plain (p : Progress) (value : Bytes) : Except Refusal Progress :=
  match p.pending with
  | some (setting, none) => .ok { p with pending := some (setting, some value) }
  | _ => p.positional value

end Progress

def readAll : List Bytes → Progress → Except Refusal Progress
  | [], p => .ok p
  | arg :: rest, p =>
    match Shape.of arg with
    | .divider => rest.foldlM Progress.positional p
    | .long name value => do readAll rest (← p.longOption name value)
    | .short letters => do readAll rest (← p.shortOptions letters)
    | .plain => do readAll rest (← p.plain arg)

structure Arguments where
  remote : String
  busId : String
  maxDelay : Option UInt64
  program : Option Path
  count : Option UInt64
  config : Option Path
  saveConfig : Bool
  logLevel : Option String
  deriving DecidableEq, Repr

/-- The arguments that a draft amounts to.  Host and device must be there. -/
def Draft.complete (d : Draft) : Except Refusal Arguments :=
  match d.remote, d.busId with
  | some remote, some busId =>
    .ok ⟨remote, busId, d.maxDelay, d.program, d.count, d.config, d.saveConfig, d.logLevel⟩
  | none, some _ => .error (.missing [.remote])
  | some _, none => .error (.missing [.busId])
  | none, none => .error (.missing [.remote, .busId])

def Arguments.parse (args : List Bytes) : Except Refusal Arguments := do
  let p ← readAll args Progress.start
  (← settle p.draft p.pending).complete

def Arguments.overrides (a : Arguments) : Overrides := ⟨a.maxDelay, a.program, a.count⟩

end Replug.CommandLine
