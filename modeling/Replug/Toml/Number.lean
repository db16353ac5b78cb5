import Replug.Toml.Binary64
import Replug.Toml.Text

/-!
# Numbers

Whole numbers and numbers with a fraction.  Digits may be set apart by single underscores, a
decimal number starts with no needless zero, and whole numbers must fit into 64 bits with a sign.
-/

set_option autoImplicit false

namespace Replug.Toml

def fitsWord (n : Int) : Bool := -0x8000000000000000 ≤ n && n < 0x8000000000000000

def isDigit (c : Char) : Bool := '0' ≤ c && c ≤ '9'

def digitIn? (base : Nat) (c : Char) : Option Nat :=
  match hexDigit? c with
  | some d => if d < base then some d else none
  | none => none

/-- The digits that follow on others; an underscore counts only between two digits. -/
def moreDigits (base : Nat) : List Char → List Nat × List Char
  | [] => ([], [])
  | '_' :: c :: rest =>
    match digitIn? base c with
    | some d => let (ds, rest) := moreDigits base rest; (d :: ds, rest)
    | none => ([], '_' :: c :: rest)
  | c :: rest =>
    match digitIn? base c with
    | some d => let (ds, rest) := moreDigits base rest; (d :: ds, rest)
    | none => ([], c :: rest)

def digits (base : Nat) : Reader (List Nat)
  | [] => none
  | c :: rest =>
    match digitIn? base c with
    | some d => let (ds, rest) := moreDigits base rest; some (d :: ds, rest)
    | none => none

def valueOf (base : Nat) (ds : List Nat) : Nat := ds.foldl (fun n d => n * base + d) 0

def sign : List Char → Bool × List Char
  | '-' :: rest => (true, rest)
  | '+' :: rest => (false, rest)
  | cs => (false, cs)

def decimalDigits : Reader (List Nat)
  | '0' :: rest => some ([0], rest)
  | cs => digits 10 cs

def negated (negative : Bool) (n : Nat) : Int := if negative then -(n : Int) else n

/-- The base that the front of an unsigned number announces. -/
def base? : List Char → Option (Nat × List Char)
  | '0' :: 'x' :: rest => some (16, rest)
  | '0' :: 'o' :: rest => some (8, rest)
  | '0' :: 'b' :: rest => some (2, rest)
  | _ => none

def integer : Reader Int := fun cs => do
  let (n, rest) ← match base? cs with
    | some (base, rest) => do
      let (ds, rest) ← digits base rest
      pure ((valueOf base ds : Int), rest)
    | none => do
      let (negative, rest) := sign cs
      let (ds, rest) ← decimalDigits rest
      pure (negated negative (valueOf 10 ds), rest)
  if fitsWord n then some (n, rest) else none

def exponent : Reader Int
  | e :: rest =>
    if e = 'e' || e = 'E' then do
      let (negative, rest) := sign rest
      let (ds, rest) ← digits 10 rest
      some (negated negative (valueOf 10 ds), rest)
    else none
  | [] => none

def places : Reader (List Nat)
  | '.' :: rest => digits 10 rest
  | _ => none

/-- Whether a number with a fraction is one that documents may hold: positive infinity must be
spelled out, it is not to be reached by a number too great. -/
def inRange (x : Binary64) : Bool := x ≠ Binary64.infinity false

def fractional : Reader Binary64 := fun cs => do
  let (negative, cs) := sign cs
  let (whole, cs) ← decimalDigits cs
  let (behind, cs, pointed) := match places cs with
    | some (ds, cs) => (ds, cs, true)
    | none => ([], cs, false)
  let (power, cs) ← match exponent cs with
    | some (e, cs) => some (e, cs)
    | none => if pointed then some (0, cs) else none
  let x := Binary64.ofDecimal negative (valueOf 10 (whole ++ behind)) (power - behind.length)
  if inRange x then some (x, cs) else none

def spelledOut : Reader Binary64 := fun cs =>
  match sign cs with
  | (negative, 'i' :: 'n' :: 'f' :: rest) => some (Binary64.infinity negative, rest)
  | (negative, 'n' :: 'a' :: 'n' :: rest) => some (Binary64.notANumber negative, rest)
  | _ => none

end Replug.Toml
