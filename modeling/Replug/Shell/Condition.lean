import Replug.Files.Access
import Replug.Shell.Text

/-!
# Conditions

The conditions of `test`: on texts, on numbers and on files, joined by and, or and not.  A token is
an operator only where it can be one, so that texts which look like operators can be tested too.
-/

set_option autoImplicit false

namespace Replug.Shell

inductive TestItem where
  | operand
  | unary (op : String)
  | binary (op : String)
  | conjunction
  | disjunction
  | negation
  | opening
  | closing
  | finish
  deriving DecidableEq, Repr

def unaryOperators : List String := [
  "-r", "-w", "-x", "-e", "-f", "-d", "-c", "-b", "-p", "-u", "-g", "-k", "-s", "-t", "-z", "-n",
  "-h", "-O", "-G", "-L", "-S"]

def binaryOperators : List String := [
  "=", "!=", "<", ">", "-eq", "-ne", "-ge", "-gt", "-le", "-lt", "-nt", "-ot", "-ef"]

def operatorOf (t : Text) : TestItem :=
  let s := t.string
  if unaryOperators.contains s then .unary s
  else if binaryOperators.contains s then .binary s
  else match s with
    | "-a" => .conjunction
    | "-o" => .disjunction
    | "!" => .negation
    | "(" => .opening
    | ")" => .closing
    | _ => .operand

def isBinary (t : Text) : Bool :=
  match operatorOf t with
  | .binary _ => true
  | _ => false

/-- What the first of some tokens is.  An operator on one text is a text itself when nothing follows
on it, or an operator on two texts and one more. -/
def itemOf : List Text → TestItem
  | [] => .finish
  | t :: rest =>
    match operatorOf t with
    | .unary op =>
      match rest with
      | [] => .operand
      | [_] => .unary op
      | next :: _ => if isBinary next then .operand else .unary op
    | .opening => if rest.isEmpty then .operand else .opening
    | item => item

def entryAt? (files : Files) (t : Text) : Option Entry :=
  match files.find ⟨t.toBytes⟩ with
  | .ok (.found _ entry) => some entry
  | _ => none

def isRunnable : Entry → Bool
  | .file _ runnable => runnable
  | .directory => true
  | .link _ | .device _ => false

def holdsUnary (files : Files) (op : String) (t : Text) : Bool :=
  let entry := entryAt? files t
  match op with
  | "-n" => !t.isEmpty
  | "-z" => t.isEmpty
  | "-e" | "-r" | "-w" | "-O" | "-G" => entry.isSome
  | "-f" => match entry with
    | some (.file _ _) => true
    | _ => false
  | "-d" => entry == some .directory
  | "-c" => match entry with
    | some (.device _) => true
    | _ => false
  | "-x" => match entry with
    | some e => isRunnable e
    | none => false
  | "-s" => match entry with
    | some (.file content _) => !content.isEmpty
    | some .directory => true
    | _ => false
  | _ => false

def testNumber (t : Text) : Except String Int :=
  match integer? t with
  | some n => .ok n
  | none => .error ("Illegal number: " ++ t.string)

def holdsBinary (files : Files) (a : Text) (op : String) (b : Text) : Except String Bool := do
  let compared (f : Int → Int → Bool) : Except String Bool := do
    return f (← testNumber a) (← testNumber b)
  match op with
  | "=" => return a == b
  | "!=" => return a != b
  | "<" => return !Files.nameBefore b.toBytes a.toBytes
  | ">" => return !Files.nameBefore a.toBytes b.toBytes
  | "-eq" => compared (· == ·)
  | "-ne" => compared (· != ·)
  | "-lt" => compared fun m n => decide (m < n)
  | "-le" => compared fun m n => decide (m ≤ n)
  | "-gt" => compared fun m n => decide (n < m)
  | "-ge" => compared fun m n => decide (n ≤ m)
  | "-ef" => return (entryAt? files a).isSome && a == b
  | _ => return false

/-- A part of a condition: whether it holds, and the tokens from the last one that it took. -/
abbrev Tested := Except String (Bool × List Text)

/-- A condition on texts, or one in parentheses, which `inner` tests. -/
def testPrimary (files : Files) (inner : List Text → Tested) (ts : List Text) : Tested :=
  match itemOf ts, ts with
  | .finish, _ => .ok (false, ts)
  | .opening, _ :: rest =>
    if itemOf rest = .closing then .ok (false, rest)
    else do
      let (b, last) ← inner rest
      if itemOf (last.drop 1) = .closing then return (b, last.drop 1)
      else throw "closing paren expected"
  | .unary op, _ :: t :: rest =>
    if op = "-t" then do
      let _ ← testNumber t
      return (false, t :: rest)
    else .ok (holdsUnary files op t, t :: rest)
  | .unary op, _ => .error (op ++ ": argument expected")
  | _, t :: rest =>
    match itemOf rest, rest with
    | .binary op, [_] => .error (op ++ ": argument expected")
    | .binary op, _ :: u :: more => do return (← holdsBinary files t op u, u :: more)
    | _, _ => .ok (!t.isEmpty, t :: rest)
  | _, [] => .ok (false, [])

def testNegated (files : Files) (inner : List Text → Tested) : Nat → List Text → Tested
  | 0, ts => .ok (false, ts)
  | fuel + 1, ts =>
    if itemOf ts = .negation then
      match ts with
      | [t] => .ok (true, [t])
      | _ => do
        let (b, last) ← testNegated files inner fuel ts.tail
        return (!b, last)
    else testPrimary files inner ts

def testAll (files : Files) (inner : List Text → Tested) : Nat → Bool → List Text → Tested
  | 0, so, ts => .ok (so, ts)
  | fuel + 1, so, ts => do
    let (b, last) ← testNegated files inner (fuel + 1) ts
    if itemOf (last.drop 1) = .conjunction then testAll files inner fuel (so && b) (last.drop 2)
    else return (so && b, last)

def testAny (files : Files) (inner : List Text → Tested) : Nat → Bool → List Text → Tested
  | 0, so, ts => .ok (so, ts)
  | fuel + 1, so, ts => do
    let (b, last) ← testAll files inner (fuel + 1) true ts
    if itemOf (last.drop 1) = .disjunction then testAny files inner fuel (so || b) (last.drop 2)
    else return (so || b, last)

def testWhole (files : Files) : Nat → List Text → Tested
  | 0, ts => .ok (false, ts)
  | fuel + 1, ts => testAny files (testWhole files fuel) (ts.length + 1) false ts

def testTokens (files : Files) (ts : List Text) : Except String Bool :=
  let whole : Except String Bool := do
    let (b, last) ← testWhole files (ts.length + 1) ts
    match last with
    | t :: _ :: _ => throw (t.string ++ ": unexpected operator")
    | _ => return b
  match ts with
  | [a, op, b] => if isBinary op then holdsBinary files a op.string b else whole
  | _ => whole

/-- Whether a condition holds.  Three or four tokens are read for a negation or for parentheses
before anything else. -/
def tested (files : Files) : Nat → List Text → Except String Bool
  | 0, _ => .ok false
  | fuel + 1, ts =>
    let isShort := (ts.length = 3 && !isBinary (ts.getD 1 [])) || ts.length = 4
    if ts.isEmpty then .ok false
    else if isShort && ts.head? = some ['('] && ts.getLast? = some [')'] then
      testTokens files ts.tail.dropLast
    else if isShort && ts.head? = some ['!'] then (tested files fuel ts.tail).map (!·)
    else testTokens files ts

end Replug.Shell
