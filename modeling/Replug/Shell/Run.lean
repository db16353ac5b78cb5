import Replug.Files.Image
import Replug.Shell.Builtin

/-!
# Running a script

The meaning of commands: where streams are led, which commands follow on which, and what a script
has done when it is over.

Commands hold commands, and scripts start scripts; what is one level deeper is given to each
definition from outside.  A script may run for ever, so only so many levels of
them and so many turns of a loop are followed.
-/

set_option autoImplicit false

namespace Replug.Shell

/-- How a command is run.  A command that is tested may fail where others must not. -/
abbrev Follow := Bool → Command → State → State

/-! ## Redirections -/

def openingPhrase (missing : String) : IoFault → String
  | .system .noEntry | .system .notDirectory => missing
  | fault => phraseOf fault

def deviceStream? (t : Text) : Option Nat :=
  match t.string with
  | "/dev/stdin" => some 0
  | "/dev/stdout" => some 1
  | "/dev/stderr" => some 2
  | _ => none

def writingTo (files : Files) (t : Text) (content : Files → Bytes) :
    Except IoFault (Stream × Files) := do
  let files ← files.writeNow (pathOf t) (content files)
  match ← files.find (pathOf t) with
  | .found place (.file _ _) => return (.file place, files)
  | _ => return (.nowhere, files)

def State.opened (s : State) (stream : Nat) (t : Text) (content : Files → Bytes) :
    Except String State :=
  match deviceStream? t with
  | some n => .ok (s.led stream (s.stream? n))
  | none =>
    match writingTo s.files t content with
    | .ok (target, files) => .ok ((s.withFiles files).led stream (some target))
    | .error e =>
      .error ("cannot create " ++ t.string ++ ": " ++ openingPhrase "Directory nonexistent" e)

def State.redirected (s : State) (r : Redirection) (t : Text) : Except String State :=
  match r.direction with
  | .input | .both =>
    match s.files.find (pathOf t) with
    | .ok (.found _ .directory) => .ok (s.led r.stream (some (.text [])))
    | _ =>
      match s.files.readNow (pathOf t), deviceStream? t with
      | _, some n => .ok (s.led r.stream (s.stream? n))
      | .ok content, _ => .ok (s.led r.stream (some (.text content)))
      | .error e, _ =>
        if r.direction = .both then s.opened r.stream t fun _ => []
        else .error ("cannot open " ++ t.string ++ ": " ++ openingPhrase "No such file" e)
  | .output =>
    if s.has 'C' && (match s.files.find (pathOf t) with
        | .ok (.found _ (.file _ _)) => true
        | _ => false) then .error ("cannot create " ++ t.string ++ ": File exists")
    else s.opened r.stream t fun _ => []
  | .clobber => s.opened r.stream t fun _ => []
  | .append => s.opened r.stream t fun files => (files.readNow (pathOf t)).toOption.getD []
  | .same =>
    if t = ['-'] then .ok (s.led r.stream none)
    else match s.stream? (ofDigits 10 t) with
      | some target => .ok (s.led r.stream (some target))
      | none => .error (t.string ++ ": Bad file descriptor")
  | .document => .ok (s.led r.stream (some (.text t.toBytes)))

/-- Redirections carried out in order, unless one of them cannot be: then it is said why, and there
is no state to go on in. -/
def redirectAll (run : Runner) : List Redirection → State → State × Bool
  | [], s => (s, true)
  | r :: rs, s =>
    let (t, s) := Word.value run r.target s
    if s.leaving.isSome then (s, false)
    else if r.direction = .same && t ≠ ['-'] && !(t.length = 1 && t.all Char.isDigit) then
      (({ s with line := s.readTo }).abort "Syntax error: Bad fd number", false)
    else match s.redirected r t with
      | .ok s => redirectAll run rs s
      | .error e => ((s.complain e).ended 2, false)

def State.restored (s : State) (rs : List Redirection) (before : State) : State :=
  rs.foldl (fun s r => s.led r.stream (before.stream? r.stream)) s

/-! ## What stands apart -/

/-- The state for commands that stand apart: what is arranged for signals is forgotten, but for
those that come to nothing. -/
def State.aside (s : State) : State :=
  { s with
    isApart := true, traps := s.traps.filter fun e => e.2.isEmpty && e.1 ≠ 0
    loops := 0, pending := [] }

/-- The state after commands that stood apart: of them only their files and output remain, and what
they have left of the input. -/
def State.rejoined (s inner : State) : State :=
  let files := { inner.files with workingDirectory := s.files.workingDirectory }
  let streams := s.streams.map fun e =>
    match e.1, e.2, inner.stream? 0 with
    | 0, .text before, some (.text after) =>
      if after.isSuffixOf before then (0, .text after) else e
    | _, _, _ => e
  { s with
    now := { inner.now with files := files }
    moments := inner.moments, pipes := inner.pipes, streams := streams
    started := inner.started, struck := inner.struck }

def statusOf : Client.Status → Nat
  | .code n => n
  | .signal n => 128 + n

def State.heard (s : State) (how : Client.Status) : State :=
  let s := match how with
    | .signal n => match signalPhrase? n with
      | some phrase => s.mutter phrase
      | none => s
    | .code _ => s
  s.struckNow.ended (statusOf how)

/-! ## Scripts -/

section

variable (follow : Follow)

def followAll (tested : Bool) : List Command → State → State
  | [], s => s
  | c :: cs, s =>
    let s := follow tested c s
    if s.leaving.isSome then s else followAll tested cs s

def followLines : Nat → Source → State → State
  | 0, _, s => s
  | fuel + 1, source, s =>
    match source.line? with
    | .error refusal => ({ s with line := refusal.line }).abort refusal.complaint
    | .ok none => s
    | .ok (some (cs, rest)) =>
      let taken := source.rest.take (source.rest.length - rest.rest.length)
      let s := { s with readTo := rest.line }
      let s := followAll follow false cs (if s.has 'v' then s.say 2 taken else s)
      if s.leaving.isSome then s else followLines fuel rest s

def followScript (line : Nat) (script : Text) (s : State) : State :=
  followLines follow (script.length + 1) (.start line script) (s.ended 0)

def followPart (line : Nat) (script : Text) (s : State) : State :=
  let after := followLines follow (script.length + 1) (.start line script) s
  { after with line := s.line }

def followTraps : Nat → State → State
  | 0, s => s
  | fuel + 1, s =>
    match s.pending with
    | [] => s
    | signal :: pending =>
      let s := { s with pending := pending }
      match s.traps.lookup signal with
      | some action =>
        if s.leaving.isSome then s
        else
          let after := followPart follow 1 action s
          followTraps fuel
            (if after.leaving.isSome then after else { after with status := s.status })
      | none => followTraps fuel s

def finished (s : State) : State :=
  match s.leaving, s.traps.lookup 0 with
  | some (.killed _), _ => s
  | _, some action =>
    let status := match s.leaving with
      | some (.exited code) => code
      | _ => s.status
    let s := { s with leaving := none, status := status, traps := s.traps.filter (·.1 ≠ 0) }
    let after := followPart follow 1 action s
    if after.leaving.isSome then after else after.exits status
  | _, none => s

def caught (body : State → State) (s : State) : Bytes × State :=
  let (opened, n) := s.withPipe
  let inner := finished follow (body ((opened.led 1 (some (.pipe n))).aside))
  let (after, b) := (s.rejoined inner).withoutPipe n
  let status := statusOf inner.outcome
  (b, { after.struckNow with status := status, outputStatus := status })

def runner : Runner := fun line script s =>
  let (b, after) := caught follow (followScript follow line script) s
  (b, { after with line := s.line })

end

/-! ## Programs -/

def State.child (s : State) : State :=
  let start := State.start s.files s.environment
  { start with
    now := s.now, moments := s.moments, pipes := s.pipes
    streams := s.streams
    own := s.started + 1, caller := s.own, started := s.started + 1, struck := s.struck
    traps := s.traps.filter fun e => e.2.isEmpty && e.1 ≠ 0 }

section

variable (follow : Follow)

/-- A shell that was started with arguments.  The script is the text of an argument, the content of
a file, or what there is to read. -/
def shell (name : Text) (args : List Text) (s : State) : State :=
  let s := { s with name := name, line := 0 }
  let runs (script name : Text) (parameters : List Text) (s : State) : State :=
    finished follow
      (followScript follow 1 script { s with name := name, parameters := parameters, line := 1 })
  match withOptions true args s with
  | .error e => s.abort e
  | .ok o =>
    if o.own.contains 'c' then
      match o.rest with
      | [] => o.state.abort "-c requires an argument"
      | script :: rest => runs script (rest.headD name) rest.tail o.state
    else
      match o.rest with
      | [] =>
        let (b, s) := o.state.takeInput
        runs (Text.ofBytes b) name [] s
      | file :: parameters =>
        if o.state.has 's' then
          let (b, s) := o.state.takeInput
          runs (Text.ofBytes b) name (file :: parameters) s
        else match o.state.files.readNow (pathOf file) with
          | .ok content => runs (Text.ofBytes content) file parameters o.state
          | .error e =>
            o.state.abort ("cannot open " ++ file.string ++ ": " ++ openingPhrase "No such file" e)

def State.candidates (s : State) (name : Text) : List Path :=
  Files.candidates ((s.value? "PATH".toList).getD []).toBytes (pathOf name)

/-- What a command of some name comes to when it is started, or the fault if it cannot be.  A file
that is no program is taken for a script. -/
def State.imageOf (s : State) (name : Text) (args : List Text) : Except SystemCode Files.Image :=
  let arguments := args.map Text.toBytes
  let rec go (fault : SystemCode) : List Path → Except SystemCode Files.Image
    | [] => .error fault
    | p :: rest =>
      match s.files.image Files.mostInterpreters p name.toBytes arguments with
      | .ok i => .ok i
      | .error .notProgram => .ok ⟨"sh", Bytes.ofString "/bin/sh", p.bytes :: arguments⟩
      | .error code =>
        let isMissing := code = .noEntry || code = .notDirectory
        let isDirectory := s.files.isDirectory p && !name.contains '/'
        go (if isMissing || isDirectory then fault else code) rest
  if name.isEmpty then .error .accessDenied else go .noEntry (s.candidates name)

def notStarted : SystemCode → String × Nat
  | .noEntry | .notDirectory => ("not found", 127)
  | .tooManyLinks => (SystemCode.phrase .tooManyLinks, 127)
  | .nameTooLong => (SystemCode.phrase .nameTooLong, 127)
  | code => (code.phrase, 126)

def environmentFor : List Text → State → State × List Text
  | ['-', 'i'] :: rest, s => environmentFor rest { s with bindings := [] }
  | ['-', 'u'] :: name :: rest, s => environmentFor rest (s.withVariable name none)
  | t :: rest, s =>
    match namedValue t with
    | (name, some v) =>
      if name.isEmpty then (s, t :: rest)
      else environmentFor rest (s.withVariable name (some ⟨some v, true, false⟩))
    | (_, none) => (s, t :: rest)
  | [], s => (s, [])

def process : Nat → Files.Image → State → State
  | 0, _, s => s.ended 126
  | left + 1, i, s =>
    let name := Text.ofBytes i.name
    let args := i.arguments.map Text.ofBytes
    if i.tool = "sh" || i.tool = "dash" then shell follow name args s
    else if i.tool = "env" then
      match environmentFor args s with
      | (s, []) => printenv name [] s
      | (s, program :: rest) =>
        match s.files.start ((s.value? "PATH".toList).getD []).toBytes (pathOf program)
            (rest.map Text.toBytes) with
        | .ok inner => process left inner s
        | .error code =>
          (s.tells name (quotedText program ++ ": " ++ code.phrase)).ended
            (if code = .noEntry then 127 else 126)
    else match tool? i.tool with
      | some tool => tool name args s
      | none => s.ended 126

/-- How many programs may start one another in their own place. -/
def mostStarts : Nat := 8

def started (name : Text) (args : List Text) (s : State) : State :=
  match s.imageOf name args with
  | .ok i =>
    let inner := process follow mostStarts i s.child
    (s.rejoined inner).heard inner.outcome
  | .error .accessDenied =>
    let why := name.string ++ ": " ++ SystemCode.phrase .accessDenied
    (s.complain why).ended (if name.isEmpty then 127 else 126)
  | .error code =>
    let (why, status) := notStarted code
    (s.complain (name.string ++ ": " ++ why)).ended status

def replacedBy (name : Text) (args : List Text) (s : State) : State :=
  match s.imageOf name args with
  | .ok i =>
    let inner := process follow mostStarts i { s.child with
      own := s.own, caller := s.caller, started := s.started, isApart := s.isApart }
    { s.rejoined inner with
      leaving := some (match inner.outcome with
        | .code n => .exited n
        | .signal n => .killed n)
      traps := [] }
  | .error code =>
    let (why, status) := notStarted code
    (s.complain (name.string ++ ": " ++ why)).exits status

/-! ## Builtin commands that run others -/

def State.described? (s : State) (name : Text) : Option (Text × String) :=
  if keywords.contains name.string then some (name, "a shell keyword")
  else if (s.functions.lookup name).isSome then some (name, "a shell function")
  else if specialNames.contains name.string then some (name, "a special shell builtin")
  else if isBuiltin name.string then some (name, "a shell builtin")
  else
    (s.candidates name).findSome? fun p =>
      match s.files.find p with
      | .ok (.found _ (.file _ true)) =>
        let t := Text.ofBytes p.bytes
        some (t, t.string)
      | _ => none

def types (args : List Text) (s : State) : State :=
  args.foldl (fun s name =>
    match s.described? name with
    | some (_, what) => s.print ((name.string ++ " is " ++ what ++ "\n").toList)
    | none => (s.print ((name.string ++ ": not found\n").toList)).ended 127) (s.ended 0)

def State.sourceOf (s : State) (name : Text) : Except String Text :=
  if name.contains '/' then
    match s.files.readNow (pathOf name) with
    | .ok b => .ok (Text.ofBytes b)
    | .error e => .error ("cannot open " ++ name.string ++ ": " ++ openingPhrase "No such file" e)
  else
    match (s.candidates name).findSome? fun p => (s.files.readNow p).toOption with
    | some b => .ok (Text.ofBytes b)
    | none => .error (name.string ++ ": not found")

/-- A builtin command carried out.  Errors of special ones end the script. -/
def builtin (special : Bool) (name : Text) (args : List Text) (s : State) : State :=
  let acting := { s with acting := some name }
  let failing (e : String) : State :=
    if special then acting.abort e else (acting.complain e).ended 2
  let after : State := match name.string with
    | "eval" =>
      let script := [' '].intercalate args
      if script.isEmpty then acting.ended 0 else followPart follow 1 script (acting.ended 0)
    | "." =>
      match args with
      | [] => acting.ended 2
      | file :: _ =>
        match s.sourceOf file with
        | .ok script =>
          let after := followPart follow 1 script (acting.ended 0)
          if after.leaving = some .returning then { after with leaving := none } else after
        | .error e => failing e
    | "type" => types args acting
    | other =>
      match builtin? other with
      | some b =>
        match b args acting with
        | .ok after => after
        | .error e => failing e
      | none => acting
  { after with acting := s.acting }

def called (body : Command) (tested : Bool) (args : List Text) (s : State) : State :=
  let after := follow tested body
    { s with parameters := args, calls := s.calls + 1, loops := 0, locals := [] }
  let after := after.locals.foldl (fun s (name, v) => s.withVariable name v) after
  { after with
    parameters := s.parameters, calls := s.calls, loops := s.loops, locals := s.locals
    leaving := if after.leaving = some .returning then none else after.leaving }

def Text.afterCommand : List Text → List Text
  | ['-', 'p'] :: rest | ['-', '-'] :: rest => afterCommand rest
  | rest => rest

def perform (tested special : Bool) : List Text → State → State
  | [], s => s.ended s.outputStatus
  | name :: args, s =>
    if name = "command".toList then
      match args with
      | [] => s.ended 0
      | ['-', 'v'] :: names =>
        names.foldl (fun s n =>
          match s.described? n with
          | some (t, _) => s.print (t ++ ['\n'])
          | none => s.ended 127) (s.ended 0)
      | _ =>
        match Text.afterCommand args with
        | [] => s.ended 0
        | name :: args =>
          if name = "exec".toList then
            match args with
            | [] => s.ended 0
            | program :: args => replacedBy follow program args s
          else if isBuiltin name.string then builtin follow false name args s
          else started follow name args s
    else if name = "exec".toList then
      match args with
      | [] => s.ended 0
      | program :: args =>
        { replacedBy follow program args { s with acting := some name } with acting := s.acting }
    else if special then builtin follow true name args s
    else match s.functions.lookup name with
      | some body => called follow body tested args s
      | none =>
        if isBuiltin name.string then builtin follow false name args s
        else started follow name args s

/-! ## Simple commands -/

/-- Variables set in order.  Their values do not depend on the ones that are set for a program
only. -/
def assignAll (exported : Bool) : List (Text × Word) → State → State × List Text
  | [], s => (s, [])
  | (name, w) :: rest, s =>
    let (t, s) := Word.value (runner follow) w s
    if s.leaving.isSome then (s, [])
    else
      let s := s.set name t
      let s := match s.binding? name with
        | some v => s.withVariable name (some { v with exported := v.exported || exported })
        | none => s
      let (s, shown) := assignAll exported rest s
      (s, (name ++ '=' :: t) :: shown)

/-- The words of a command.  What declares variables takes values that are not split. -/
def wordsOf (words : List Word) (s : State) : List Text × State :=
  match words with
  | [] => ([], s)
  | first :: rest =>
    let (ts, s) := Word.fields (runner follow) first s
    let declares := match ts with
      | [t] => ["export", "readonly", "local"].contains t.string
      | _ => false
    rest.foldl (fun (ts, s) w =>
      if s.leaving.isSome then (ts, s)
      else if declares && (Word.assignment? w).isSome then
        let (t, s) := Word.value (runner follow) w s
        (ts ++ [t], s)
      else
        let (more, s) := Word.fields (runner follow) w s
        (ts ++ more, s)) (ts, s)

def State.traced (s : State) (texts : List Text) (target : Option Stream) : State :=
  if s.has 'x' then
    let line := (s.value? "PS4".toList).getD ['+', ' '] ++ [' '].intercalate texts ++ ['\n']
    ((s.led 2 target).say 2 line).led 2 (s.stream? 2)
  else s

def simple (tested : Bool) (line : Nat) (assignments : List (Text × Word)) (words : List Word)
    (rs : List Redirection) (s : State) : State :=
  let s := { s with line := line, outputStatus := 0 }
  let (ts, s) := wordsOf follow words s
  if s.leaving.isSome then s
  else
    let first := ts.headD []
    let special := specialNames.contains first.string
    let (inner, isFine) := redirectAll (runner follow) rs s
    if inner.leaving.isSome then inner
    else if !isFine then
      let inner := inner.restored rs s
      if special then inner.exits 2 else inner
    else
      let (inner, shown) := assignAll follow (!ts.isEmpty) assignments inner
      if inner.leaving.isSome then inner
      else
        let inner := inner.traced (shown ++ ts) (s.stream? 2)
        let after := perform follow tested special ts inner
        let after := if ts.isEmpty || special then after
          else assignments.foldl (fun after (name, _) =>
            after.withVariable name (s.binding? name)) after
        if first = "exec".toList && ts.length = 1 then after else after.restored rs s

/-! ## Compound commands -/

def apart (body : State → State) (s : State) : State :=
  let inner := finished follow (body s.aside)
  (s.rejoined inner).heard inner.outcome

def piped (tested : Bool) (outer : State) : List Command → State → State
  | [], s => s
  | [c], s => apart follow (follow tested c) s
  | c :: cs, s =>
    let (opened, n) := s.withPipe
    let inner := finished follow (follow tested c (opened.led 1 (some (.pipe n))).aside)
    let (after, b) := (s.rejoined inner).withoutPipe n
    piped tested outer cs ((after.struckNow).led 0 (some (.text b)))

def turned (s : State) : State × Bool :=
  match s.leaving with
  | none => (s, true)
  | some (.continuing n) =>
    if n ≤ 1 then ({ s with leaving := none }, true)
    else ({ s with leaving := some (.continuing (n - 1)) }, false)
  | some (.breaking n) =>
    ({ s with leaving := if n ≤ 1 then none else some (.breaking (n - 1)) }, false)
  | some _ => (s, false)

def mostTurns : Nat := 20000

/-- A loop that goes on as long as a test succeeds, or fails.  Its status is the one that its body
has left last. -/
def looping (tested whileSuccess : Bool) (test body : List Command) : Nat → Nat → State → State
  | 0, _, s => s
  | turns + 1, status, s =>
    let (s, goesOn) := turned (followAll follow true test s)
    if !goesOn then s
    else if (s.status == 0) = whileSuccess then
      let (s, goesOn) := turned (followAll follow tested body s)
      if goesOn then looping tested whileSuccess test body turns s.status s else s
    else s.ended status

def overWords (tested : Bool) (name : Text) (body : List Command) : List Text → State → State
  | [], s => s
  | t :: ts, s =>
    let s := s.set name t
    if s.leaving.isSome then s
    else
      let (s, goesOn) := turned (followAll follow tested body s)
      if goesOn then overWords tested name body ts s else s

def chosenBranch (tested : Bool) (t : Text) :
    List (List Word × List Command) → State → State
  | [], s => s.ended 0
  | (forms, body) :: rest, s =>
    let (isIt, s) := forms.foldl (fun (isIt, s) w =>
      if isIt || s.leaving.isSome then (isIt, s)
      else
        let (form, s) := Word.form (runner follow) w s
        (hasForm form t, s)) (false, s)
    if s.leaving.isSome then s
    else if isIt then followAll follow tested body (s.ended 0)
    else chosenBranch tested t rest s

def demanded (tested : Bool) (s : State) : State :=
  if s.has 'e' && !tested && s.status ≠ 0 && s.leaving.isNone then s.exits s.status else s

def followHere (tested : Bool) (c : Command) (s : State) : State :=
  match c with
  | .simple line assignments words rs =>
    demanded tested (simple follow tested line assignments words rs s)
  | .chain ifSuccess first second =>
    let s := follow true first s
    if s.leaving.isSome || (s.status == 0) != ifSuccess then s else follow tested second s
  | .negated c =>
    let s := follow true c s
    if s.leaving.isSome then s else s.ended (if s.status = 0 then 1 else 0)
  | .pipeline cs =>
    let after := piped follow tested s cs s
    demanded tested (after.led 0 (s.stream? 0))
  | .background c =>
    let number := s.started + 1
    let inner := finished follow
      (follow tested c (({ s with started := number }.led 0 (some .nowhere)).aside))
    let after := (s.rejoined inner).struckNow
    { after with status := 0, jobs := (number, inner.outcome) :: s.jobs }
  | .conditional test body other =>
    let s := followAll follow true test s
    if s.leaving.isSome then s
    else if s.status = 0 then followAll follow tested body s
    else followAll follow tested other (s.ended 0)
  | .repeated whileSuccess test body =>
    let before := s.loops
    let after := looping follow tested whileSuccess test body mostTurns 0
      { s with loops := before + 1 }
    { after with loops := before }
  | .forEach line name words body =>
    let (ts, s) := fieldsOf (runner follow) words { s with line := line }
    if s.leaving.isSome then s
    else
      let before := s.loops
      let after := overWords follow tested name body ts { s.ended 0 with loops := before + 1 }
      { after with loops := before }
  | .choice line subject branches =>
    let (t, s) := Word.value (runner follow) subject { s with line := line }
    if s.leaving.isSome then s else chosenBranch follow tested t branches s
  | .block body => followAll follow tested body s
  | .apart line body =>
    demanded tested (apart follow (followAll follow tested body) { s with line := line })
  | .redirected line c rs =>
    let s := { s with line := line }
    let (inner, isFine) := redirectAll (runner follow) rs s
    if inner.leaving.isSome then inner
    else if isFine then (follow tested c inner).restored rs s
    else demanded tested (inner.restored rs s)
  | .definition name body =>
    { s.ended 0 with functions := (name, body) :: s.functions.filter (·.1 ≠ name) }

end

def followWithin : Nat → Follow
  | 0, _, _, s => s
  | n + 1, tested, c, s =>
    if s.has 'n' then s
    else
      let after := followHere (followWithin n) tested c s
      followTraps (followWithin n) (after.pending.length + 8) after

def mostLevels : Nat := 1000

def run (i : Files.Image) (s : State) : State := process (followWithin mostLevels) mostStarts i s

end Replug.Shell
