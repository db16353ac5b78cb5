import Replug.Shell.Condition
import Replug.Shell.Grammar
import Replug.Shell.Signals
import Replug.Shell.Tools

/-!
# Builtin commands

The commands that a shell carries out itself, as far as they need not run other commands.  Each
takes its arguments and the state.  An error is a text to complain with; it leaves the status 2
behind, and ends the script if the command is one of the special ones.
-/

set_option autoImplicit false

namespace Replug.Shell

abbrev Builtin := List Text → State → Except String State

def givenNumber (t : Text) : Except String Nat :=
  match integer? t with
  | some n => if 0 ≤ n ∧ n < 0x80000000 then .ok n.toNat else .error ("Illegal number: " ++ t.string)
  | none => .error ("Illegal number: " ++ t.string)

def firstNumber (other : Nat) : List Text → Except String Nat
  | [] => .ok other
  | t :: _ => givenNumber t

/-! ## Printing -/

def State.prints (s : State) (t : Text) (status : Nat) : State :=
  if s.canPut 1 then (s.print t).ended status
  else (s.complain ((s.acting.getD []).string ++ ": I/O error")).ended 1

/-- Formats printed.  Complaints come first, since what is printed is held back to the end. -/
def printfBuiltin : Builtin := fun args s =>
  match if args.head? = some ['-', '-'] then args.tail else args with
  | [] => .error "usage: printf format [arg ...]"
  | format :: args =>
    let p := printed format args
    let s := p.complaints.reverse.foldl State.complain s
    .ok (s.prints p.printed.reverse p.status)

def testBuiltin (bracketed : Bool) : Builtin := fun args s => do
  if bracketed && args.getLast? ≠ some [']'] then throw "missing ]"
  let ts := if bracketed then args.dropLast else args
  return s.ended (if ← tested s.files (ts.length + 1) ts then 0 else 1)

/-! ## The directory -/

def cd : Builtin := fun args s =>
  let goes (t : Text) (shown : Bool) : Except String State :=
    match s.files.find (pathOf t) with
    | .ok (.found place .directory) =>
      let before := s.place
      let s := s.withFiles { s.files with workingDirectory := place }
      let s := (s.set "OLDPWD".toList before).set "PWD".toList s.place
      .ok (if shown then s.prints (s.place ++ ['\n']) 0 else s.ended 0)
    | _ => .error ("can't cd to " ++ t.string)
  match args.filter fun t => t ≠ ['-', '-'] && t ≠ ['-', 'P'] && t ≠ ['-', 'L'] with
  | [] =>
    match s.value? "HOME".toList with
    | some home => goes home false
    | none => .ok (s.ended 0)
  | ['-'] :: _ => goes ((s.value? "OLDPWD".toList).getD s.place) true
  | t :: _ => if t.isEmpty then .ok (s.ended 0) else goes t false

/-! ## Leaving -/

def exit : Builtin := fun args s => do return s.exits (← firstNumber s.status args)

def return_ : Builtin := fun args s => do
  let n ← firstNumber s.status args
  return { s with status := n, leaving := some .returning }

def leave (leaving : Nat → Leaving) : Builtin := fun args s => do
  let n ← firstNumber 1 args
  if n = 0 then throw ("Illegal number: " ++ (args.headD []).string)
  if s.loops = 0 then return s.ended 0
  else return { s with status := 0, leaving := some (leaving (min n s.loops)) }

/-! ## Parameters and variables -/

def shift : Builtin := fun args s => do
  let n ← firstNumber 1 args
  if s.parameters.length < n then throw "can't shift that many"
  return { s with parameters := s.parameters.drop n, status := 0 }

def optionNames : List (String × Char) := [
  ("errexit", 'e'), ("noglob", 'f'), ("ignoreeof", 'I'), ("interactive", 'i'), ("monitor", 'm'),
  ("noexec", 'n'), ("stdin", 's'), ("xtrace", 'x'), ("verbose", 'v'), ("vi", 'V'), ("emacs", 'E'),
  ("noclobber", 'C'), ("allexport", 'a'), ("notify", 'b'), ("nounset", 'u')]

def State.withOption (s : State) (on : Bool) (c : Char) : Except String State :=
  if State.optionLetters.contains c then
    let others := s.options.filter (· ≠ c)
    .ok { s with options := if on then c :: others else others }
  else .error ("Illegal option -" ++ String.singleton c)

/-- The options that an argument turns on or off, and whether it asks for the name of one more.  A
shell that starts has options of its own, which are given back. -/
def withLetters (starting on : Bool) : Text → State → Except String (State × List Char × Bool)
  | [], s => .ok (s, [], false)
  | c :: cs, s => do
    if c = 'o' then
      let (s, own, _) ← withLetters starting on cs s
      return (s, own, true)
    else if starting && (c = 'c' || c = 'l') then
      let (s, own, named) ← withLetters starting on cs s
      return (s, c :: own, named)
    else withLetters starting on cs (← s.withOption on c)

structure Optioned where
  state : State
  /-- The options that only a shell has that starts. -/
  own : List Char
  rest : List Text
  /-- Whether a sign ended the options. -/
  ended : Bool

def withOptions (starting : Bool) : List Text → State → Except String Optioned
  | [], s => .ok ⟨s, [], [], false⟩
  | t :: rest, s =>
    match t with
    | ['-', '-'] => .ok ⟨s, [], rest, true⟩
    | ['-'] =>
      let options := if starting then s.options else s.options.filter fun c => c ≠ 'x' && c ≠ 'v'
      .ok ⟨{ s with options := options }, [], rest, false⟩
    | sign :: letters =>
      if sign ≠ '-' && sign ≠ '+' then .ok ⟨s, [], t :: rest, false⟩
      else do
        let (s, own, named) ← withLetters starting (sign = '-') letters s
        match named, rest with
        | true, name :: rest =>
          match optionNames.lookup name.string with
          | some c =>
            let o ← withOptions starting rest (← s.withOption (sign = '-') c)
            return { o with own := own ++ o.own }
          | none => throw ("Illegal option -o " ++ name.string)
        | _, rest =>
          let o ← withOptions starting rest s
          return { o with own := own ++ o.own }
    | [] => .ok ⟨s, [], t :: rest, false⟩

def set : Builtin := fun args s => do
  let o ← withOptions false args s
  let s := o.state.ended 0
  if o.ended || !o.rest.isEmpty then return { s with parameters := o.rest }
  else return s

def namedValue (t : Text) : Text × Option Text :=
  let name := t.takeWhile (· ≠ '=')
  (name, (t.drop name.length).tail?)

/-- Something done for each of the variables that arguments name, which may get values too. -/
def declare (what : Variable → Variable) : Builtin := fun args s =>
  (args.filter fun t => t ≠ ['-', 'p'] && t ≠ ['-', '-']).foldlM (fun s t => do
    let (name, value) := namedValue t
    if !isName name then throw (t.string ++ ": bad variable name")
    let v := (s.binding? name).getD ⟨none, false, false⟩
    if v.fixed && value.isSome then throw (name.string ++ ": is read only")
    return s.withVariable name (some (what { v with value := value <|> v.value })))
    (s.ended 0)

def localBuiltin : Builtin := fun args s => do
  if s.calls = 0 then throw "not in a function"
  args.foldlM (fun s t => do
    let (name, value) := namedValue t
    if !isName name then throw (t.string ++ ": bad variable name")
    let before := s.binding? name
    let s := if s.locals.any (·.1 = name) then s
      else { s with locals := (name, before) :: s.locals }
    match value with
    | some t => return (s.set name t).ended s.status
    | none => return s) (s.ended 0)

def unset : Builtin := fun args s =>
  let functions := args.contains ['-', 'f']
  (args.filter fun t => t.head? ≠ some '-').foldlM (fun s name => do
    if functions then
      return { s with functions := s.functions.filter fun f => f.1 ≠ name }
    else if ((s.binding? name).map (·.fixed)).getD false then
      throw (name.string ++ ": is read only")
    else return s.withVariable name none) (s.ended 0)

/-! ## Reading -/

/-- A line of the input as marks, whether it was ended, and the bytes that it takes.  Without `raw` a
backslash quotes a character and joins lines. -/
def inputLine (raw : Bool) : Nat → Text → List Mark × Bool × Nat
  | 0, _ => ([], false, 0)
  | _, [] => ([], false, 0)
  | fuel + 1, c :: cs =>
    let go (marks : List Mark) (rest : Text) (count : Nat) : List Mark × Bool × Nat :=
      let (more, ended, n) := inputLine raw fuel rest
      (marks ++ more, ended, n + count)
    if c = '\n' then ([], true, 1)
    else if c = '\\' && !raw then
      match cs with
      | [] => ([], false, 1)
      | '\n' :: rest => go [] rest 2
      | d :: rest => go [⟨true, d⟩] rest 2
    else if c = '\x00' then go [] cs 1
    else go [⟨false, c⟩] cs 1

/-- Whether a mark is a separator of fields, and whether it has to be a blank. -/
def separates (separators : Text) (blank : Bool) (m : Mark) : Bool :=
  let isBlank := m.char = ' ' || m.char = '\t' || m.char = '\n'
  !m.quoted && separators.contains m.char && (isBlank || !blank)

/-- The values that variables get from a line.  The last one gets all that is left. -/
def dealt (separators : Text) : List Text → List Mark → List (Text × Text)
  | [], _ => []
  | [name], ms =>
    let ms := ms.dropWhile (separates separators true)
    [(name, textOf (ms.reverse.dropWhile (separates separators true)).reverse)]
  | name :: names, ms =>
    let ms := ms.dropWhile (separates separators true)
    let field := ms.takeWhile fun m => !separates separators false m
    let rest := (ms.drop field.length).dropWhile (separates separators true)
    let rest := match rest with
      | m :: more => if separates separators false m then more else rest
      | [] => []
    (name, textOf field) :: dealt separators names rest

def read : Builtin := fun args s => do
  let raw := args.contains ['-', 'r']
  let names := args.filter fun t => t.head? ≠ some '-'
  if names.isEmpty then throw "arg count"
  let input := Text.ofBytes (s.readable 0)
  let (marks, ended, count) := inputLine raw (input.length + 1) input
  let s := s.consumed 0 count
  let s := (dealt s.separators names marks).foldl (fun s (name, value) => s.set name value) s
  return s.ended (if ended then 0 else 1)

/-! ## Signals -/

def killUsage : String :=
  "Usage: kill [-s sigspec | -signum | -sigspec] [pid | job]... or\nkill -l [exitstatus]"

def kill : Builtin := fun args s => do
  let (signal, targets) ← match args with
    | ['-', 'l'] :: _ => return s.ended 0
    | ['-', 's'] :: name :: rest =>
      match signalOf? 1 name with
      | some n => pure (n, rest)
      | none => throw ("invalid signal number or name: " ++ name.string)
    | ['-', '-'] :: rest => pure (15, rest)
    | ('-' :: name) :: rest =>
      match signalOf? 1 name with
      | some n => pure (n, rest)
      | none => throw ("Illegal option -" ++ String.ofList (name.take 1))
    | rest => pure (15, rest)
  if targets.isEmpty then throw killUsage
  targets.foldlM (fun s t => do
    let isGroup := t.head? = some '-'
    let n ← givenNumber (if isGroup then t.tail else t)
    match s.sends? signal (if isGroup then -(n : Int) else n) with
    | some s => return s
    | none => return (s.complain "No such process\n").ended 1) (s.ended 0)

def trap : Builtin := fun args s =>
  let args := if args.head? = some ['-', '-'] then args.tail else args
  let (action, names) : Option Text × List Text := match args with
    | [t] => (none, [t])
    | action :: names => (if action = ['-'] then none else some action, names)
    | [] => (none, [])
  names.foldlM (fun s t => do
    match signalOf? 0 t with
    | some n =>
      let others := s.traps.filter fun e => e.1 ≠ n
      return { s with traps := match action with
        | some a => (n, a) :: others
        | none => others }
    | none => throw (t.string ++ ": bad trap")) (s.ended 0)

def wait : Builtin := fun args s =>
  args.foldlM (fun s t => do
    let n ← givenNumber t
    match s.jobs.lookup n with
    | some (.code code) => return s.ended code
    | some (.signal signal) => return s.ended (128 + signal)
    | none => return s.ended 127) (s.ended 0)

/-! ## All of them -/

/-- A builtin command by its name.  Those that run other commands are not among them. -/
def builtin? (name : String) : Option Builtin :=
  match name with
  | ":" | "true" => some fun _ s => .ok (s.ended 0)
  | "false" => some fun _ s => .ok (s.ended 1)
  | "echo" => some fun args s => .ok (s.prints (echoed args) 0)
  | "printf" => some printfBuiltin
  | "test" => some (testBuiltin false)
  | "[" => some (testBuiltin true)
  | "cd" | "chdir" => some cd
  | "pwd" => some fun _ s => .ok (s.prints (s.place ++ ['\n']) 0)
  | "exit" => some exit
  | "return" => some return_
  | "break" => some (leave .breaking)
  | "continue" => some (leave .continuing)
  | "shift" => some shift
  | "set" => some set
  | "export" => some (declare fun v => { v with exported := true })
  | "readonly" => some (declare fun v => { v with fixed := true })
  | "local" => some localBuiltin
  | "unset" => some unset
  | "read" => some read
  | "kill" => some kill
  | "trap" => some trap
  | "wait" => some wait
  | "umask" => some fun args s => .ok (s.prints (if args.isEmpty then "0022\n".toList else []) 0)
  | "alias" | "bg" | "fg" | "getopts" | "hash" | "jobs" | "times" | "ulimit" | "unalias" =>
    some fun _ s => .ok (s.ended 0)
  | _ => none

def runningNames : List String := [".", "command", "eval", "exec", "type"]

def isBuiltin (name : String) : Bool := runningNames.contains name || (builtin? name).isSome

end Replug.Shell
