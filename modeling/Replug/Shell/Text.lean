import Replug.Text.Utf8

/-!
# Text for scripts

A script is read as a text with one character for each byte, so any bytes may stand in it, and
what it prints goes back to bytes in the same way.
-/

set_option autoImplicit false

namespace Replug.Shell

abbrev Text := List Char

namespace Text

def ofBytes (b : Bytes) : Text := b.map fun x => Char.ofNat x.toNat

def toBytes (t : Text) : Bytes := t.map fun c => UInt8.ofNat c.toNat

def ofString (s : String) : Text := ofBytes (Bytes.ofString s)

def string (t : Text) : String := String.ofList t

end Text

def startsName (c : Char) : Bool := c.isAlpha || c = '_'

def isNameChar (c : Char) : Bool := c.isAlphanum || c = '_'

def isName : Text → Bool
  | [] => false
  | c :: cs => startsName c && cs.all isNameChar

def isGap (c : Char) : Bool := c = ' ' || c = '\t'

def isBlank (c : Char) : Bool := c = ' ' || ('\t' ≤ c && c ≤ '\r')

def numeral (n : Nat) : Text := Nat.toDigits 10 n

def integerText (n : Int) : Text :=
  if n < 0 then '-' :: numeral n.natAbs else numeral n.natAbs

def digitValue (c : Char) : Nat :=
  if c.isDigit then c.toNat - '0'.toNat
  else if 'a' ≤ c && c ≤ 'z' then c.toNat - 'a'.toNat + 10
  else if 'A' ≤ c && c ≤ 'Z' then c.toNat - 'A'.toNat + 10
  else 99

def ofDigits (base : Nat) (ds : Text) : Nat := ds.foldl (fun n c => n * base + digitValue c) 0

def greatest : Int := 0x7fffffffffffffff

def least : Int := -0x8000000000000000

def clamped (n : Int) : Int := max least (min greatest n)

/-- The digits at the front of a text, in the base that the text shows: `0x` for sixteen, `0` for
eight, and ten otherwise. -/
def leadingDigits : Text → Nat × Text
  | '0' :: x :: d :: cs =>
    if (x = 'x' || x = 'X') && digitValue d < 16 then
      (16, (d :: cs).takeWhile fun c => digitValue c < 16)
    else (8, ('0' :: x :: d :: cs).takeWhile fun c => digitValue c < 8)
  | '0' :: cs => (8, ('0' :: cs).takeWhile fun c => digitValue c < 8)
  | cs => (10, cs.takeWhile Char.isDigit)

def leadingNumber (t : Text) : Nat × Text :=
  let (base, ds) := leadingDigits t
  let width := if base = 16 then ds.length + 2 else ds.length
  (ofDigits base ds, t.drop width)

def afterSign : Text → Bool × Text
  | '-' :: cs => (true, cs)
  | '+' :: cs => (false, cs)
  | cs => (false, cs)

/-- The whole number at the front of a text, after blanks and a sign, and what follows it.  Without
digits there is no number, and nothing is taken. -/
def leadingInteger (t : Text) : Int × Text :=
  let (isMinus, ds) := afterSign (t.dropWhile isBlank)
  let (n, rest) := leadingNumber ds
  if rest.length = ds.length then (0, t)
  else (clamped (if isMinus then -(n : Int) else n), rest)

def natural? (t : Text) : Option Nat :=
  if t.isEmpty || !t.all Char.isDigit then none else some (ofDigits 10 t)

def integer? (t : Text) : Option Int :=
  let (isMinus, ds) := afterSign (t.dropWhile isBlank)
  let digits := ds.takeWhile Char.isDigit
  if digits.isEmpty || !(ds.drop digits.length).all isBlank then none
  else
    let n : Int := ofDigits 10 digits
    let n := if isMinus then -n else n
    if n < least || greatest < n then none else some n

end Replug.Shell
