import Replug.Files.Ground
import Replug.Shell.Expansion
import Replug.Shell.Printing

/-!
# Tools

The programs of the small system besides the shell: they print, look at files and change them.  Each
is given the name by which it was called, its arguments and the state, and leaves a status behind.
Tools are strict about options that they do not know.
-/

set_option autoImplicit false

namespace Replug.Shell

/-! ## Arguments -/

structure Given where
  letters : List Char
  /-- The options that have a value. -/
  values : List (Char × Text)
  operands : List Text

namespace Given

def has (g : Given) (c : Char) : Bool := g.letters.contains c

def value? (g : Given) (c : Char) : Option Text := g.values.lookup c

end Given

/-- The letters of an argument, up to one that has a value: the letters, that one, and what is left
of the argument. -/
def lettersOf (known valued : List Char) : Text → Except String (List Char × Option (Char × Text))
  | [] => .ok ([], none)
  | c :: cs =>
    if valued.contains c then .ok ([], some (c, cs))
    else if known.contains c then
      (lettersOf known valued cs).map fun (letters, value) => (c :: letters, value)
    else .error ("invalid option -- '" ++ String.singleton c ++ "'")

def given (known valued : List Char) : List Text → Except String Given
  | [] => .ok ⟨[], [], []⟩
  | ['-', '-'] :: rest => .ok ⟨[], [], rest⟩
  | ('-' :: '-' :: t) :: _ =>
    let long : Text := '-' :: '-' :: t.takeWhile (· ≠ '=')
    .error ("unrecognized option '" ++ long.string ++ "'")
  | ('-' :: c :: t) :: rest => do
    let (letters, value) ← lettersOf known valued (c :: t)
    match value, rest with
    | some (v, []), next :: rest =>
      let g ← given known valued rest
      return { g with letters := letters ++ g.letters, values := (v, next) :: g.values }
    | some (v, []), [] => throw ("option requires an argument -- '" ++ String.singleton v ++ "'")
    | some (v, t), rest =>
      let g ← given known valued rest
      return { g with letters := letters ++ g.letters, values := (v, t) :: g.values }
    | none, rest =>
      let g ← given known valued rest
      return { g with letters := letters ++ g.letters }
  | t :: rest => do
    let g ← given known valued rest
    return { g with operands := t :: g.operands }

def State.tells (s : State) (name : Text) (what : String) : State :=
  s.mutter (name.string ++ ": " ++ what)

def State.hints (s : State) (name : Text) (what : String) : State :=
  (s.tells name what).mutter ("Try '" ++ name.string ++ " --help' for more information.")

def quotedText (t : Text) : String := "'" ++ t.string ++ "'"

abbrev Tool := Text → List Text → State → State

/-- A tool with sorted arguments.  `fault` is its status for options that it does not know. -/
def sorting (known valued : String) (fault : Nat) (tool : Text → Given → State → State) : Tool :=
  fun name args s =>
    match given known.toList valued.toList args with
    | .ok g => tool name g s
    | .error e => (s.hints name e).ended fault

/-- A step for each operand.  The status is the greatest one that a step leaves. -/
def State.forAll (s : State) (operands : List Text) (step : Text → State → State) : State :=
  operands.foldl (fun s t =>
    let after := step t (s.ended 0)
    after.ended (max s.status after.status)) (s.ended 0)

def phraseOf : IoFault → String
  | .system code => code.phrase
  | _ => "Invalid argument"

/-! ## Contents -/

def State.takeInput (s : State) : Bytes × State :=
  let b := s.readable 0
  (b, s.consumed 0 b.length)

def State.contents (s : State) (t : Text) : Except String Bytes × State :=
  if t = ['-'] then
    let (b, s) := s.takeInput
    (.ok b, s)
  else
    match s.files.readNow (pathOf t) with
    | .ok b => (.ok b, s)
    | .error e => (.error (phraseOf e), s)

def Given.sources (g : Given) : List Text := if g.operands.isEmpty then [['-']] else g.operands

def linesOf : Bytes → List Bytes
  | [] => []
  | b :: rest =>
    if b = 0x0A then [] :: linesOf rest
    else match linesOf rest with
      | [] => [[b]]
      | first :: more => (b :: first) :: more

def ofLines (ls : List Bytes) : Bytes := ls.flatMap (· ++ [0x0A])

def takeLines : Nat → Bytes → Bytes
  | 0, _ => []
  | _, [] => []
  | n + 1, b :: rest => b :: takeLines (if b = 0x0A then n else n + 1) rest

def dropLines (n : Nat) (b : Bytes) : Bytes := b.drop (takeLines n b).length

def lastLines (n : Nat) (b : Bytes) : Bytes := dropLines ((linesOf b).length - n) b

def wordCount (b : Bytes) : Nat :=
  let isGap (x : UInt8) : Bool := x = 0x20 || (0x09 ≤ x && x ≤ 0x0D)
  (b.foldl (fun (count, inWord) x =>
    if isGap x then (count, false) else (if inWord then count else count + 1, true))
    (0, false)).1

def wide (width n : Nat) : Text :=
  let ds := numeral n
  List.replicate (width - ds.length) ' ' ++ ds

def countsOf (g : Given) (b : Bytes) : List Nat :=
  let all := !g.has 'l' && !g.has 'w' && !g.has 'c' && !g.has 'm'
  (if all || g.has 'l' then [b.count 0x0A] else []) ++
    (if all || g.has 'w' then [wordCount b] else []) ++
    (if all || g.has 'c' || g.has 'm' then [b.length] else [])

/-- The width of the counts: as wide as the greatest number, but wide enough for any input when it is
not known beforehand how much there is. -/
def countWidth (g : Given) (s : State) : Nat :=
  let sizes := g.operands.filterMap fun t => (s.files.readNow (pathOf t)).toOption.map List.length
  let isOne := (countsOf g []).length = 1 && g.operands.length ≤ 1
  if isOne then 1
  else if g.operands.isEmpty || g.operands.any fun t =>
      t = ['-'] || s.files.isDirectory (pathOf t) then 7
  else (numeral (sizes.foldl (· + ·) 0)).length

def wc : Tool := sorting "lwcm" "" 1 fun name g s =>
  let width := countWidth g s
  let line (t : Text) (ns : List Nat) (s : State) : State :=
    let name := if t.isEmpty then [] else ' ' :: t
    s.print ([' '].intercalate (ns.map (wide width)) ++ name ++ ['\n'])
  let (totals, s) := g.sources.foldl (fun (totals, s) t =>
    match s.contents t with
    | (.ok b, s) =>
      let ns := countsOf g b
      (List.zipWith (· + ·) totals ns, line (if g.operands.isEmpty then [] else t) ns s)
    | (.error e, s) =>
      let s := (s.tells name (t.string ++ ": " ++ e)).ended 1
      (totals, if s.files.isDirectory (pathOf t) then line t (countsOf g []) s else s))
    ((countsOf g []).map fun _ => 0, s.ended 0)
  if g.operands.length > 1 then line "total".toList totals s else s

def cat : Tool := sorting "u" "" 1 fun name g s =>
  s.forAll g.sources fun t s =>
    match s.contents t with
    | (.ok b, s) => s.put 1 b
    | (.error e, s) => (s.tells name (t.string ++ ": " ++ e)).ended 1

/-- The arguments with a count that stands alone after a minus given as an option of its own. -/
def withCount : List Text → List Text
  | ('-' :: d :: t) :: rest =>
    if (d :: t).all Char.isDigit then ['-', 'n'] :: (d :: t) :: rest else ('-' :: d :: t) :: rest
  | args => args

def excerpts (part : Given → Bytes → Bytes) : Tool := fun name args s =>
  sorting "qv" "nc" 1 (fun name g s =>
    let unit := if g.letters.contains 'c' then "bytes" else "lines"
    match g.values.find? fun (_, t) => (leadingInteger t).2 ≠ [] with
    | some (c, t) =>
      let unit := if c = 'c' then "bytes" else unit
      (s.tells name ("invalid number of " ++ unit ++ ": " ++ quotedText t)).ended 1
    | none =>
      (s.forAll g.sources fun t s =>
        match s.contents t with
        | (.ok b, s) =>
          let isFirst := g.operands.head? = some t
          let headline := if g.operands.length > 1 then
              (if isFirst then "" else "\n") ++ "==> " ++ t.string ++ " <==\n" else ""
          (s.print headline.toList).put 1 (part g b)
        | (.error e, s) =>
          (s.tells name ("cannot open " ++ quotedText t ++ " for reading: " ++ e)).ended 1))
    name (withCount args) s

def head : Tool := excerpts fun g b =>
  match g.value? 'c', g.value? 'n' with
  | some t, _ =>
    let n := (leadingInteger t).1
    if n < 0 then b.take (b.length - n.natAbs) else b.take n.natAbs
  | none, some t =>
    let n := (leadingInteger t).1
    if n < 0 then takeLines ((linesOf b).length - n.natAbs) b else takeLines n.natAbs b
  | none, none => takeLines 10 b

def tail : Tool := excerpts fun g b =>
  let isFrom (t : Text) : Bool := t.head? = some '+'
  match g.value? 'c', g.value? 'n' with
  | some t, _ =>
    let n := (leadingInteger t).1.natAbs
    if isFrom t then b.drop (n - 1) else b.drop (b.length - n)
  | none, some t =>
    let n := (leadingInteger t).1.natAbs
    if isFrom t then dropLines (n - 1) b else lastLines n b
  | none, none => lastLines 10 b

def tee : Tool := sorting "ai" "" 1 fun name g s =>
  let (b, s) := s.takeInput
  (s.put 1 b).forAll g.operands fun t s =>
    let before := if g.has 'a' then (s.files.readNow (pathOf t)).toOption.getD [] else []
    match s.files.writeNow (pathOf t) (before ++ b) with
    | .ok files => s.withFiles files
    | .error e => (s.tells name (t.string ++ ": " ++ phraseOf e)).ended 1

def numbersTo (step last : Int) : Nat → Int → List Int
  | 0, _ => []
  | fuel + 1, n =>
    if (0 < step && last < n) || (step < 0 && n < last) || step = 0 then []
    else n :: numbersTo step last fuel (n + step)

def sequence (first step last : Int) : List Int :=
  numbersTo step last ((last - first).natAbs + 1) first

def seq : Tool := fun name args s =>
  let isNegative (t : Text) : Bool := match t with
    | '-' :: c :: _ => c.isDigit
    | _ => false
  let (before, after) := args.span fun t => !isNegative t
  sorting "w" "s" 1 (fun name g s =>
    match g.operands.find? fun t => (integer? t).isNone with
    | some t =>
      (s.hints name ("invalid floating point argument: " ++ quotedText t)).ended 1
    | none =>
      let shown (ns : List Int) : State :=
        let width := (ns.map fun n => (integerText n).length).foldl max 0
        let texts := ns.map fun n =>
          let t := integerText n
          if g.has 'w' then List.replicate (width - t.length) '0' ++ t else t
        let line := ((g.value? 's').getD ['\n']).intercalate texts
        (s.print (if ns.isEmpty then [] else line ++ ['\n'])).ended 0
      match g.operands.filterMap integer? with
      | [] => (s.hints name "missing operand").ended 1
      | [last] => shown (sequence 1 1 last)
      | [first, last] => shown (sequence first 1 last)
      | [first, step, last] => shown (sequence first step last)
      | _ => (s.hints name ("extra operand " ++ quotedText (g.operands.getD 3 []))).ended 1)
    name (if after.isEmpty then args else before ++ ['-', '-'] :: after) s

/-! ## Names -/

def withoutSlashes (t : Text) : Text := (t.reverse.dropWhile (· = '/')).reverse

def lastName (t : Text) : Text :=
  let t' := withoutSlashes t
  if t'.isEmpty then t.take 1 else (t'.reverse.takeWhile (· ≠ '/')).reverse

def basename : Tool := sorting "" "" 1 fun name g s =>
  match g.operands with
  | [] => (s.hints name "missing operand").ended 1
  | [t] => (s.print (lastName t ++ ['\n'])).ended 0
  | [t, ending] =>
    let n := lastName t
    let n := if ending.isSuffixOf n && ending ≠ n then n.take (n.length - ending.length) else n
    (s.print (n ++ ['\n'])).ended 0
  | _ => (s.hints name ("extra operand " ++ quotedText (g.operands.getD 2 []))).ended 1

def directoryName (t : Text) : Text :=
  let t' := withoutSlashes t
  if t'.isEmpty then (if t.isEmpty then ['.'] else ['/'])
  else
    let before := (t'.reverse.dropWhile (· ≠ '/')).reverse
    if before.isEmpty then ['.']
    else
      let above := withoutSlashes before
      if above.isEmpty then ['/'] else above

def dirname : Tool := sorting "" "" 1 fun name g s =>
  if g.operands.isEmpty then (s.hints name "missing operand").ended 1
  else (s.print (g.operands.flatMap fun t => directoryName t ++ ['\n'])).ended 0

/-! ## Files -/

def placeOf? (files : Files) (t : Text) : Option Location :=
  let p := pathOf t
  let steps := Files.steps p
  match steps.getLast? with
  | none => none
  | some name =>
    match Files.walk files Files.mostLinks (Files.startOf files p) steps.dropLast with
    | .ok (.found place .directory) => some (place ++ [name])
    | _ => none

def named? (files : Files) (t : Text) : Option (Location × Entry) :=
  (placeOf? files t).bind fun place => (files.at? place).map fun entry => (place, entry)

def withoutTree (files : Files) (place : Location) : Files :=
  { files with entries := files.entries.filter fun e => (Files.below? place e.1).isNone }

def withTreeAt (files : Files) (place target : Location) : Files :=
  files.entries.foldl (fun files e =>
    match Files.below? place e.1 with
    | some way => files.put (target ++ way) e.2
    | none => files) files

def rm : Tool := sorting "frRdv" "" 1 fun name g s =>
  if g.operands.isEmpty && !g.has 'f' then (s.hints name "missing operand").ended 1
  else
    s.forAll g.operands fun t s =>
      let refused (why : String) : State :=
        (s.tells name ("cannot remove " ++ quotedText t ++ ": " ++ why)).ended 1
      match named? s.files t with
      | some (place, .directory) =>
        if g.has 'r' || g.has 'R' then s.withFiles (withoutTree s.files place)
        else refused "Is a directory"
      | some (place, _) => s.withFiles (s.files.clear place)
      | none =>
        if g.has 'f' then s
        else match s.files.find (pathOf t) with
          | .error e => refused (phraseOf e)
          | .ok _ => refused "No such file or directory"

def rmdir : Tool := sorting "pv" "" 1 fun name g s =>
  if g.operands.isEmpty then (s.hints name "missing operand").ended 1
  else
    s.forAll g.operands fun t s =>
      let refused (why : String) : State :=
        (s.tells name ("failed to remove " ++ quotedText t ++ ": " ++ why)).ended 1
      match named? s.files t with
      | some (place, .directory) =>
        if (s.files.listing place).isEmpty then s.withFiles (s.files.clear place)
        else refused "Directory not empty"
      | some _ => refused "Not a directory"
      | none => refused "No such file or directory"

def mkdir : Tool := sorting "pv" "m" 1 fun name g s =>
  if g.operands.isEmpty then (s.hints name "missing operand").ended 1
  else
    s.forAll g.operands fun t s =>
      let refused (e : IoFault) (s : State) : State :=
        (s.tells name ("cannot create directory " ++ quotedText t ++ ": " ++ phraseOf e)).ended 1
      if g.has 'p' then
        match s.files.ensureTree (pathOf t) with
        | (.ok (), files) => s.withFiles files
        | (.error e, files) => refused e (s.withFiles files)
      else match s.files.makeDirectory (pathOf t) with
        | .ok files => s.withFiles files
        | .error e => refused e s

def touch : Tool := sorting "acm" "dtr" 1 fun name g s =>
  if g.operands.isEmpty then (s.hints name "missing file operand").ended 1
  else
    s.forAll g.operands fun t s =>
      if s.files.pathExists (pathOf t) || g.has 'c' then s
      else match s.files.writeNow (pathOf t) [] with
        | .ok files => s.withFiles files
        | .error e => (s.tells name ("cannot touch " ++ quotedText t ++ ": " ++ phraseOf e)).ended 1

def runnableBy? (mode : Text) (before : Bool) : Option Bool :=
  if !mode.isEmpty && mode.all isOctal then some (ofDigits 8 mode &&& 0o111 ≠ 0)
  else
    let sign := mode.dropWhile fun c => c = 'u' || c = 'g' || c = 'o' || c = 'a'
    match sign with
    | op :: what =>
      if !(what.all fun c => ['r', 'w', 'x', 'X', 's', 't'].contains c) then none
      else if op = '+' then some (before || what.contains 'x')
      else if op = '-' then some (before && !what.contains 'x')
      else if op = '=' then some (what.contains 'x')
      else none
    | [] => none

def chmod : Tool := fun name args s =>
  match args with
  | [] => (s.hints name "missing operand").ended 1
  | [mode] => (s.hints name ("missing operand after " ++ quotedText mode)).ended 1
  | mode :: names =>
    if (runnableBy? mode false).isNone then
      (s.hints name ("invalid mode: " ++ quotedText mode)).ended 1
    else
      s.forAll names fun t s =>
        match s.files.find (pathOf t) with
        | .ok (.found place (.file content runnable)) =>
          s.withFiles
            (s.files.put place (.file content ((runnableBy? mode runnable).getD runnable)))
        | .ok (.found _ _) => s
        | .ok (.vacant _ _) =>
          (s.tells name ("cannot access " ++ quotedText t ++ ": No such file or directory")).ended 1
        | .error e => (s.tells name ("cannot access " ++ quotedText t ++ ": " ++ phraseOf e)).ended 1

def targetOf (files : Files) (source target : Text) : Text :=
  if files.isDirectory (pathOf target) then withoutSlashes target ++ '/' :: lastName source
  else target

def copiedTo (files : Files) (source : Location) (target : Text) : Except String Files :=
  match files.at? source with
  | some (.file content runnable) =>
    match files.find (pathOf target) with
    | .ok (.found place (.file _ runnable)) => .ok (files.put place (.file content runnable))
    | .ok (.vacant directory name) =>
      .ok (files.put (directory ++ [name]) (.file content runnable))
    | .ok (.found _ _) => .ok files
    | .error e => .error (phraseOf e)
  | _ =>
    match placeOf? files target with
    | some place => .ok (withTreeAt files source place)
    | none => .error "No such file or directory"

def sourcesAndTarget (g : Given) : Except String (List Text × Text) :=
  match g.operands with
  | [] => .error "missing file operand"
  | [t] => .error ("missing destination file operand after " ++ quotedText t)
  | ts => .ok (ts.dropLast, ts.getLastD [])

def cp : Tool := sorting "rRafpv" "" 1 fun name g s =>
  match sourcesAndTarget g with
  | .error e => (s.hints name e).ended 1
  | .ok (sources, target) =>
    s.forAll sources fun t s =>
      let goal := targetOf s.files t target
      match s.files.find (pathOf t) with
      | .ok (.found place entry) =>
        if entry = .directory && !(g.has 'r' || g.has 'R' || g.has 'a') then
          (s.tells name ("-r not specified; omitting directory " ++ quotedText t)).ended 1
        else match copiedTo s.files place goal with
          | .ok files => s.withFiles files
          | .error e =>
            (s.tells name ("cannot create regular file " ++ quotedText goal ++ ": " ++ e)).ended 1
      | .ok (.vacant _ _) =>
        (s.tells name ("cannot stat " ++ quotedText t ++ ": No such file or directory")).ended 1
      | .error e => (s.tells name ("cannot stat " ++ quotedText t ++ ": " ++ phraseOf e)).ended 1

def mv : Tool := sorting "fnv" "" 1 fun name g s =>
  match sourcesAndTarget g with
  | .error e => (s.hints name e).ended 1
  | .ok (sources, target) =>
    s.forAll sources fun t s =>
      let goal := targetOf s.files t target
      match named? s.files t, placeOf? s.files goal with
      | some (place, _), some placeThen =>
        if place = placeThen then
          (s.tells name (quotedText t ++ " and " ++ quotedText goal ++ " are the same file")).ended 1
        else
          let files := withoutTree s.files placeThen
          s.withFiles (withoutTree (withTreeAt files place placeThen) place)
      | some _, none =>
        (s.tells name ("cannot move " ++ quotedText t ++ " to " ++ quotedText goal ++
          ": No such file or directory")).ended 1
      | none, _ =>
        (s.tells name ("cannot stat " ++ quotedText t ++ ": No such file or directory")).ended 1

def ln : Tool := sorting "sfnv" "" 1 fun name g s =>
  match g.operands with
  | [] => (s.hints name "missing file operand").ended 1
  | first :: others =>
    let target := targetOf s.files first (others.getLastD ['.'])
    let missing : State :=
      (s.tells name ("failed to access " ++ quotedText first ++
        ": No such file or directory")).ended 1
    let kind := if g.has 's' then "symbolic" else "hard"
    let entry? : Option Entry :=
      if g.has 's' then some (.link (pathOf first)) else (named? s.files first).map (·.2)
    match entry?, placeOf? s.files target with
    | none, _ => missing
    | some entry, some place =>
      if (s.files.at? place).isSome && !g.has 'f' then
        (s.tells name ("failed to create " ++ kind ++ " link " ++ quotedText target ++
          ": File exists")).ended 1
      else (s.withFiles (s.files.put place entry)).ended 0
    | some _, none =>
      (s.tells name ("failed to create " ++ kind ++ " link " ++ quotedText target ++
        ": No such file or directory")).ended 1

def ls : Tool := sorting "1aAd" "" 2 fun name g s =>
  let operands : List Text := if g.operands.isEmpty then [['.']] else g.operands
  let isListed (t : Text) : Bool := s.files.isDirectory (pathOf t) && !g.has 'd'
  let ordered := operands.mergeSort fun a b => Files.nameBefore a.toBytes b.toBytes
  let there := ordered.filter fun t => s.files.pathExists (pathOf t)
  let s := s.forAll (ordered.filter fun t => !s.files.pathExists (pathOf t)) fun t s =>
    (s.tells name ("cannot access " ++ quotedText t ++ ": No such file or directory")).ended 2
  let singles := there.filter fun t => !isListed t
  let listed := there.filter isListed
  let names (t : Text) : List Text :=
    (if g.has 'a' then [['.'], ['.', '.']] else []) ++
      (namesAt s.files (pathOf t)).filter fun n => g.has 'a' || g.has 'A' || n.head? ≠ some '.'
  let lines (ts : List Text) : Text := ts.flatMap (· ++ ['\n'])
  let blocks := (if singles.isEmpty then [] else [lines singles]) ++ listed.map fun t =>
    (if operands.length > 1 then t ++ [':', '\n'] else []) ++ lines (names t)
  s.print (['\n'].intercalate blocks)

/-! ## Lines -/

def listed : Nat → Text → Text
  | 0, _ => []
  | _, [] => []
  | fuel + 1, '\\' :: cs => let (c, rest) := escape cs; c :: listed fuel rest
  | fuel + 1, a :: '-' :: b :: rest =>
    ((List.range (b.toNat + 1 - a.toNat)).map fun n => Char.ofNat (a.toNat + n)) ++
      listed fuel rest
  | fuel + 1, c :: cs => c :: listed fuel cs

def replaced (from_ onto : Text) (c : Char) : Char :=
  match from_.findIdx? (· = c) with
  | some n => onto.getD n (onto.getLastD c)
  | none => c

def squeezed (set : Text) : Text → Text
  | a :: b :: rest =>
    if a = b && set.contains a then squeezed set (b :: rest) else a :: squeezed set (b :: rest)
  | t => t

def tr : Tool := sorting "dsc" "" 1 fun name g s =>
  let sets := g.operands.map fun t => listed (t.length + 1) t
  let every : Text := (List.range 256).map Char.ofNat
  let first := match sets with
    | set :: _ => if g.has 'c' then every.filter (!set.contains ·) else set
    | [] => []
  let (b, s) := s.takeInput
  let t := Text.ofBytes b
  match sets with
  | [] => (s.hints name "missing operand").ended 1
  | [_] =>
    if g.has 'd' then (s.print (t.filter (!first.contains ·))).ended 0
    else if g.has 's' then (s.print (squeezed first t)).ended 0
    else
      let s := s.tells name ("missing operand after " ++ quotedText (g.operands.headD []))
      ((s.mutter "Two strings must be given when translating.").mutter
        ("Try '" ++ name.string ++ " --help' for more information.")).ended 1
  | _ :: second :: _ =>
    let t := t.map (replaced first second)
    (s.print (if g.has 's' then squeezed second t else t)).ended 0

def sort : Tool := sorting "rnu" "" 2 fun name g s =>
  let (lines, s) := g.sources.foldl (fun (lines, s) t =>
    match s.contents t with
    | (.ok b, s) => (lines ++ linesOf b, s)
    | (.error e, s) => (lines, (s.tells name ("cannot read: " ++ t.string ++ ": " ++ e)).ended 2))
    (([] : List Bytes), s.ended 0)
  let number (b : Bytes) : Int := (leadingInteger (Text.ofBytes b)).1
  let before (a b : Bytes) : Bool :=
    if g.has 'n' && number a ≠ number b then decide (number a < number b)
    else Files.nameBefore a b
  let sorted := lines.mergeSort before
  let sorted := if g.has 'u' then sorted.eraseReps else sorted
  s.put 1 (ofLines (if g.has 'r' then sorted.reverse else sorted))

def splitAt (separator : Char) (t : Text) : List Text :=
  t.foldr (fun c parts =>
    match parts with
    | first :: rest => if c = separator then [] :: first :: rest else (c :: first) :: rest
    | [] => [[c]]) [[]]

def inRanges (ranges : Text) (n : Nat) : Bool :=
  (splitAt ',' ranges).any fun r =>
    match splitAt '-' r with
    | [a] => natural? a = some n
    | [a, b] =>
      (natural? a).getD 1 ≤ n && (match natural? b with | some b => decide (n ≤ b) | none => true)
    | _ => false

def cut : Tool := sorting "s" "dfcb" 1 fun name g s =>
  let chosen {α : Type} (ranges : Text) (parts : List α) : List α :=
    (parts.zipIdx.filter fun (_, n) => inRanges ranges (n + 1)).map (·.1)
  let separator := ((g.value? 'd').bind List.head?).getD '\t'
  let line? : Option (Text → Text) :=
    match g.value? 'f', g.value? 'c' <|> g.value? 'b' with
    | some ranges, _ => some fun t =>
      if t.contains separator then [separator].intercalate (chosen ranges (splitAt separator t))
      else t
    | none, some ranges => some (chosen ranges)
    | none, none => none
  match line? with
  | none => (s.hints name "you must specify a list of bytes, characters, or fields").ended 1
  | some line =>
    s.forAll g.sources fun t s =>
      match s.contents t with
      | (.ok b, s) => s.print ((linesOf b).flatMap fun l => line (Text.ofBytes l) ++ ['\n'])
      | (.error e, s) => (s.tells name (t.string ++ ": " ++ e)).ended 1

/-! ## The rest -/

def isTime (t : Text) : Bool :=
  let digits := t.takeWhile fun c => c.isDigit || c = '.'
  let rest := t.drop digits.length
  t = "infinity".toList || t = "inf".toList ||
    (digits.any Char.isDigit && digits.count '.' ≤ 1 &&
      (rest.isEmpty || (rest.length = 1 && rest.all fun c => ['s', 'm', 'h', 'd'].contains c)))

def sleep : Tool := sorting "" "" 1 fun name g s =>
  if g.operands.isEmpty then (s.hints name "missing operand").ended 1
  else match g.operands.filter fun t => !isTime t with
    | [] => s.slept.ended 0
    | wrong =>
      let s := wrong.foldl
        (fun s t => s.tells name ("invalid time interval " ++ quotedText t)) s
      (s.mutter ("Try '" ++ name.string ++ " --help' for more information.")).ended 1

def State.place (s : State) : Text :=
  Text.ofBytes (Path.slash :: Path.joinSegments s.files.workingDirectory)

def pwd : Tool := sorting "LP" "" 1 fun _ _ s => (s.print (s.place ++ ['\n'])).ended 0

def printenv : Tool := sorting "" "" 2 fun _ g s =>
  let all := s.environment
  if g.operands.isEmpty then
    (s.print (all.flatMap fun (name, value) => name ++ '=' :: value ++ ['\n'])).ended 0
  else
    s.forAll g.operands fun t s =>
      match all.lookup t with
      | some value => s.print (value ++ ['\n'])
      | none => s.ended 1

def echo : Tool := fun _ args s => (s.print (echoedPlainly args)).ended 0

def surplus (format : Text) : List Text → Option String
  | [] => none
  | arg :: _ =>
    if format.contains '%' then none
    else some ("warning: ignoring excess arguments, starting with " ++ quotedText arg)

def printf : Tool := fun name args s =>
  match args with
  | [] => (s.hints name "missing operand").ended 1
  | format :: args =>
    let p := printed format args
    let s := (p.complaints.reverse ++ (surplus format args).toList).foldl
      (fun s e => s.tells name e) s
    (s.print p.printed.reverse).ended (min p.status 1)

def tool? (tool : String) : Option Tool :=
  match tool with
  | "true" => some fun _ _ s => s.ended 0
  | "false" => some fun _ _ s => s.ended 1
  | "echo" => some echo
  | "printf" => some printf
  | "cat" => some cat
  | "wc" => some wc
  | "head" => some head
  | "tail" => some tail
  | "tee" => some tee
  | "seq" => some seq
  | "basename" => some basename
  | "dirname" => some dirname
  | "rm" => some rm
  | "rmdir" => some rmdir
  | "mkdir" => some mkdir
  | "touch" => some touch
  | "chmod" => some chmod
  | "cp" => some cp
  | "mv" => some mv
  | "ln" => some ln
  | "ls" => some ls
  | "tr" => some tr
  | "sort" => some sort
  | "cut" => some cut
  | "sleep" => some sleep
  | "pwd" => some pwd
  | "printenv" => some printenv
  | _ => none

end Replug.Shell
