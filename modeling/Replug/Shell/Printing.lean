import Replug.Shell.Text

/-!
# Printing

What `echo` and `printf` print: escapes, and formats with the arguments put into them.
-/

set_option autoImplicit false

namespace Replug.Shell

/-! ## Escapes -/

def isOctal (c : Char) : Bool := '0' ≤ c && c ≤ '7'

def octal (most : Nat) (t : Text) : Char × Text :=
  let ds := (t.take most).takeWhile isOctal
  (Char.ofNat (ofDigits 8 ds % 256), t.drop ds.length)

def shortEscape? (c : Char) : Option Char :=
  match c with
  | 'a' => some '\x07'
  | 'b' => some '\x08'
  | 'f' => some '\x0c'
  | 'n' => some '\n'
  | 'r' => some '\r'
  | 't' => some '\t'
  | 'v' => some '\x0b'
  | '\\' => some '\\'
  | _ => none

/-- What the text after a backslash begins with, and what follows it.  A backslash that escapes
nothing stands for itself. -/
def escape : Text → Char × Text
  | [] => ('\\', [])
  | c :: cs =>
    if isOctal c then octal 3 (c :: cs)
    else match shortEscape? c with
      | some d => (d, cs)
      | none => ('\\', c :: cs)

/-- A text with its escapes carried out, and whether one of them ends all output. -/
def unescaped : Nat → Text → Text × Bool
  | 0, cs => (cs, false)
  | _, [] => ([], false)
  | fuel + 1, c :: cs =>
    let go (d : Char) (rest : Text) : Text × Bool :=
      let (t, ends) := unescaped fuel rest
      (d :: t, ends)
    if c ≠ '\\' then go c cs
    else match cs with
      | 'c' :: _ => ([], true)
      | '0' :: rest => let (d, rest) := octal 3 rest; go d rest
      | rest => let (d, rest) := escape rest; go d rest

def echoed (args : List Text) : Text :=
  let (args, newline) := match args with
    | ['-', 'n'] :: rest => (rest, false)
    | args => (args, true)
  let t := [' '].intercalate args
  let (t, ends) := unescaped (t.length + 1) t
  t ++ if newline && !ends then ['\n'] else []

def echoedPlainly (args : List Text) : Text :=
  match args with
  | ['-', 'n'] :: rest => [' '].intercalate rest
  | args => [' '].intercalate args ++ ['\n']

/-! ## Formats -/

structure Conversion where
  flags : Text
  width : Nat
  precision : Option Nat
  kind : Char

structure Printing where
  /-- What was printed, the latest character first. -/
  printed : Text
  /-- The arguments that were not used yet. -/
  args : List Text
  /-- Whether an argument was asked for in this turn. -/
  asked : Bool
  /-- What there is to complain about, the latest first. -/
  complaints : List String
  status : Nat
  /-- Whether nothing more is printed. -/
  closed : Bool

namespace Printing

def shows (p : Printing) (t : Text) : Printing := { p with printed := t.reverse ++ p.printed }

def warned (p : Printing) (complaint : String) : Printing :=
  { p with complaints := complaint :: p.complaints, status := 1 }

def stopped (p : Printing) (complaint : String) : Printing :=
  { p with complaints := complaint :: p.complaints, status := 2, closed := true }

def argument (p : Printing) : Option Text × Printing :=
  (p.args.head?, { p with args := p.args.tail, asked := true })

def number (p : Printing) : Int × Printing :=
  match p.argument with
  | (none, p) => (0, p)
  | (some (quote :: cs), p) =>
    if quote = '"' || quote = '\'' then
      ((cs.head?.map fun c => (c.toNat : Int)).getD 0, p)
    else
      let t : Text := quote :: cs
      let (n, rest) := leadingInteger t
      if rest.isEmpty then (n, p)
      else if rest.length = t.length then (n, p.warned (t.string ++ ": expected numeric value"))
      else (n, p.warned (t.string ++ ": not completely converted"))
  | (some [], p) => (0, p.warned ": expected numeric value")

end Printing

def inBase (base : Nat) (upper : Bool) (n : Nat) : Text :=
  (Nat.toDigits base n).map fun c => if upper then c.toUpper else c

def Conversion.padded (c : Conversion) (t : Text) : Text :=
  let gap := List.replicate (c.width - t.length) ' '
  if c.flags.contains '-' then t ++ gap else gap ++ t

def Conversion.paddedNumber (c : Conversion) (sign digits : Text) : Text :=
  let digits := match c.precision with
    | some n => List.replicate (n - digits.length) '0' ++ digits
    | none =>
      if c.flags.contains '0' && !c.flags.contains '-' then
        List.replicate (c.width - sign.length - digits.length) '0' ++ digits
      else digits
  c.padded (sign ++ digits)

def Conversion.ofNumber (c : Conversion) (n : Int) : Text :=
  let unsigned := (n % 0x10000000000000000).toNat
  let signed := c.kind = 'd' || c.kind = 'i'
  let digits (ds : Text) : Text := if n = 0 && c.precision = some 0 then [] else ds
  if signed then
    let sign := if n < 0 then ['-'] else if c.flags.contains '+' then ['+']
      else if c.flags.contains ' ' then [' '] else []
    c.paddedNumber sign (digits (numeral n.natAbs))
  else match c.kind with
    | 'o' =>
      let ds := digits (inBase 8 false unsigned)
      c.paddedNumber [] (if c.flags.contains '#' && ds.head? ≠ some '0' then '0' :: ds else ds)
    | 'u' => c.paddedNumber [] (digits (numeral unsigned))
    | k =>
      let sign := if c.flags.contains '#' && n ≠ 0 then ['0', k] else []
      c.paddedNumber sign (digits (inBase 16 (k = 'X') unsigned))

def Conversion.ofText (c : Conversion) (t : Text) : Text :=
  c.padded (match c.precision with | some n => t.take n | none => t)

def measure (t : Text) (p : Printing) : Option Int × Text × Printing :=
  match t with
  | '*' :: rest =>
    let (n, p) := p.number
    (some n, rest, p)
  | _ =>
    let ds := t.takeWhile Char.isDigit
    (if ds.isEmpty then none else some (ofDigits 10 ds), t.drop ds.length, p)

def converted (t : Text) (p : Printing) : Text × Printing :=
  let flags := t.takeWhile fun c => c = '#' || c = '-' || c = '+' || c = ' ' || c = '0'
  let (width, rest, p) := measure (t.drop flags.length) p
  let (precision, rest, p) := match rest with
    | '.' :: rest =>
      let (n, rest, p) := measure rest p
      (some (n.getD 0).toNat, rest, p)
    | rest => (none, rest, p)
  let width := width.getD 0
  let flags := if width < 0 then '-' :: flags else flags
  match rest with
  | [] => ([], p.stopped "missing format character")
  | kind :: rest =>
    let c : Conversion := ⟨flags, width.natAbs, precision, kind⟩
    if ['d', 'i', 'o', 'u', 'x', 'X'].contains kind then
      let (n, p) := p.number
      (rest, p.shows (c.ofNumber n))
    else match kind with
      | 's' =>
        let (arg, p) := p.argument
        (rest, p.shows (c.ofText (arg.getD [])))
      | 'c' =>
        let (arg, p) := p.argument
        (rest, p.shows (c.padded ((arg.getD []).take 1)))
      | 'b' =>
        let (arg, p) := p.argument
        let arg := arg.getD []
        let (t, ends) := unescaped (arg.length + 1) arg
        (rest, { p.shows (c.ofText t) with closed := ends })
      | _ =>
        let taken : Text := '%' :: t.take (t.length - rest.length)
        (rest, p.stopped (taken.string ++ ": invalid directive"))

def formatOnce : Nat → Text → Printing → Printing
  | 0, _, p => p
  | _, [], p => p
  | fuel + 1, c :: cs, p =>
    if p.closed then p
    else if c = '\\' then
      let (d, rest) := escape cs
      formatOnce fuel rest (p.shows [d])
    else if c = '%' then
      match cs with
      | '%' :: rest => formatOnce fuel rest (p.shows ['%'])
      | _ =>
        let (rest, p) := converted cs p
        formatOnce fuel rest p
    else formatOnce fuel cs (p.shows [c])

def formatAll (format : Text) : Nat → Printing → Printing
  | 0, p => p
  | fuel + 1, p =>
    let p := formatOnce (format.length + 1) format { p with asked := false }
    if p.closed || !p.asked || p.args.isEmpty then p else formatAll format fuel p

def printed (format : Text) (args : List Text) : Printing :=
  formatAll format (args.length + 1) ⟨[], args, false, [], 0, false⟩

end Replug.Shell
