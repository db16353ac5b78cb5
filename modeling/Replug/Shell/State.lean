import Replug.Client
import Replug.Files.Access
import Replug.Shell.Syntax

/-!
# The state of a script

What a running script has changed and where its streams lead.  All it prints goes to the one
outlet that its caller gave it, unless it is led to a file or caught to become part of a word or the
input of another command.

A script that sleeps leaves a moment behind: what had been said and done by then, which is all that
remains if it is stopped there.
-/

set_option autoImplicit false

namespace Replug.Shell

inductive Stream where
  | outlet
  | pipe (n : Nat)
  | file (place : Location)
  | nowhere
  /-- To bytes that can be read. -/
  | text (rest : Bytes)
  deriving DecidableEq, Repr

structure Moment where
  files : Files
  /-- The bytes that went to the outlet, the latest first. -/
  said : Bytes
  /-- The signals that the program was sent which started the first script, the latest first. -/
  callerSignals : List Nat
  deriving DecidableEq, Repr

structure Variable where
  value : Option Text
  /-- Whether programs get to know it that the script starts. -/
  exported : Bool
  /-- Whether it can be set no more. -/
  fixed : Bool
  deriving DecidableEq, Repr

inductive Leaving where
  | exited (code : Nat)
  | killed (signal : Nat)
  /-- So many loops are over. -/
  | breaking (loops : Nat)
  /-- The outermost of so many loops goes on with its next turn. -/
  | continuing (loops : Nat)
  | returning
  deriving DecidableEq, Repr

structure State where
  now : Moment
  /-- The moments at which it slept, the latest first. -/
  moments : List Moment
  /-- What went into the open pipes, the latest first, by the number of the pipe. -/
  pipes : List (Nat × Bytes)
  streams : List (Nat × Stream)
  bindings : List (Text × Variable)
  functions : List (Text × Command)
  /-- The name by which the script was called. -/
  name : Text
  parameters : List Text
  /-- The letters of the options that are on. -/
  options : List Char
  /-- What to do on signals; on nothing at all for an empty text.  0 stands for the end. -/
  traps : List (Nat × Text)
  /-- The signals that have come and not been dealt with. -/
  pending : List Nat
  /-- The status of the latest command. -/
  status : Nat
  /-- The status of the latest command whose output became part of a word. -/
  outputStatus : Nat
  leaving : Option Leaving
  line : Nat
  /-- The line up to which the script was read. -/
  readTo : Nat
  acting : Option Text
  loops : Nat
  calls : Nat
  /-- What the variables were that the function under way has of its own. -/
  locals : List (Text × Option Variable)
  /-- The number by which the script knows itself. -/
  own : Nat
  /-- Whether these are commands that stand apart from the script, which keeps the number. -/
  isApart : Bool
  /-- The number by which it knows its caller. -/
  caller : Nat
  /-- The greatest number of a program that was started. -/
  started : Nat
  /-- The programs that were not waited for, the latest first, and how they ended. -/
  jobs : List (Nat × Client.Status)
  /-- The signals that were sent to the callers of the script, by their number. -/
  struck : List (Nat × Nat)

namespace State

def programNumber : Nat := 1

def start (files : Files) (known : List (Text × Text)) : State where
  now := ⟨files, [], []⟩
  moments := []
  pipes := []
  streams := [(0, .text []), (1, .outlet), (2, .outlet)]
  bindings := known.map fun (name, value) => (name, ⟨some value, true, false⟩)
  functions := []
  name := "sh".toList
  parameters := []
  options := []
  traps := []
  pending := []
  status := 0
  outputStatus := 0
  leaving := none
  line := 1
  readTo := 1
  acting := none
  loops := 0
  calls := 0
  locals := []
  own := programNumber + 1
  isApart := false
  caller := programNumber
  started := programNumber + 1
  jobs := []
  struck := []

def files (s : State) : Files := s.now.files

def withFiles (s : State) (files : Files) : State := { s with now := { s.now with files := files } }

def ended (s : State) (status : Nat) : State := { s with status := status }

def exits (s : State) (status : Nat) : State :=
  { s with status := status, leaving := some (.exited status) }

def slept (s : State) : State := { s with moments := s.now :: s.moments }

/-! ## Streams -/

def stream? (s : State) (n : Nat) : Option Stream := s.streams.lookup n

def led (s : State) (n : Nat) (target : Option Stream) : State :=
  let others := s.streams.filter fun e => e.1 ≠ n
  match target with
  | some t => { s with streams := (n, t) :: others }
  | none => { s with streams := others }

def put (s : State) (n : Nat) (bytes : Bytes) : State :=
  match s.stream? n with
  | some .outlet => { s with now := { s.now with said := bytes.reverse ++ s.now.said } }
  | some (.pipe p) =>
    { s with pipes := s.pipes.map fun e => if e.1 = p then (p, bytes.reverse ++ e.2) else e }
  | some (.file place) =>
    match s.files.at? place with
    | some (.file content runnable) =>
      s.withFiles (s.files.put place (.file (content ++ bytes) runnable))
    | _ => s
  | some .nowhere | some (.text _) | none => s

def canPut (s : State) (n : Nat) : Bool :=
  match s.stream? n with
  | some (.text _) | none => false
  | _ => true

def readable (s : State) (n : Nat) : Bytes :=
  match s.stream? n with
  | some (.text rest) => rest
  | _ => []

def consumed (s : State) (n : Nat) (count : Nat) : State :=
  match s.stream? n with
  | some (.text rest) => s.led n (some (.text (rest.drop count)))
  | _ => s

def withPipe (s : State) : State × Nat :=
  let n := s.pipes.length
  ({ s with pipes := (n, []) :: s.pipes }, n)

def withoutPipe (s : State) (n : Nat) : State × Bytes :=
  ({ s with pipes := s.pipes.filter fun e => e.1 ≠ n }, ((s.pipes.lookup n).getD []).reverse)

def say (s : State) (n : Nat) (t : Text) : State := s.put n t.toBytes

def print (s : State) (t : Text) : State := s.say 1 t

def mutter (s : State) (t : String) : State := s.say 2 (t.toList ++ ['\n'])

/-- A complaint, after the name of the script, the line, and the builtin command under way. -/
def complain (s : State) (t : String) : State :=
  let acting := match s.acting with
    | some name => name.string ++ ": "
    | none => ""
  s.mutter (s.name.string ++ ": " ++ toString s.line ++ ": " ++ acting ++ t)

def abort (s : State) (t : String) : State := (s.complain t).exits 2

/-! ## Variables and parameters -/

def binding? (s : State) (name : Text) : Option Variable := s.bindings.lookup name

def value? (s : State) (name : Text) : Option Text := (s.binding? name).bind (·.value)

def withVariable (s : State) (name : Text) (v : Option Variable) : State :=
  let others := s.bindings.filter fun e => e.1 ≠ name
  match v with
  | some v => { s with bindings := (name, v) :: others }
  | none => { s with bindings := others }

def has (s : State) (option : Char) : Bool := s.options.contains option

/-- The state with a variable set.  One that is fixed is an error. -/
def set (s : State) (name value : Text) : State :=
  let v := (s.binding? name).getD ⟨none, false, false⟩
  if v.fixed then s.abort (name.string ++ ": is read only")
  else s.withVariable name (some { v with value := some value, exported := v.exported || s.has 'a' })

def separators (s : State) : Text := (s.value? "IFS".toList).getD [' ', '\t', '\n']

def optionLetters : List Char :=
  ['u', 'b', 'a', 'C', 'E', 'V', 'v', 'x', 's', 'n', 'm', 'i', 'I', 'f', 'e']

def parameter? (s : State) (name : Text) : Option Text :=
  match name with
  | ['#'] => some (numeral s.parameters.length)
  | ['*'] | ['@'] =>
    if s.parameters.isEmpty then none
    else some ((s.separators.take 1).intercalate s.parameters)
  | ['$'] => some (numeral s.own)
  | ['?'] => some (numeral s.status)
  | ['!'] => s.jobs.head?.map fun j => numeral j.1
  | ['-'] => some (optionLetters.filter s.has)
  | _ =>
    match natural? name with
    | some 0 => some s.name
    | some (n + 1) => s.parameters[n]?
    | none =>
      if name = "PPID".toList then some (numeral s.caller) else s.value? name

/-- The shelf on which a variable is kept.  Variables are shown shelf by shelf, and those on one shelf
in the order in which they came there. -/
def shelf (name : Text) : Nat :=
  (name.foldl (fun n c => n + c.toNat) ((name.headD '\x00').toNat * 16)) % 39

def environment (s : State) : List (Text × Text) :=
  let exported := s.bindings.reverse.filterMap fun (name, v) =>
    if v.exported then v.value.map fun value => (name, value) else none
  exported.mergeSort fun a b => decide (shelf a.1 ≤ shelf b.1)

def outcome (s : State) : Client.Status :=
  match s.leaving with
  | some (.exited code) => .code (code % 256)
  | some (.killed signal) => .signal signal
  | _ => .code (s.status % 256)

end State

end Replug.Shell
