/-!
# Binary fractions of 64 bits

A number with a fraction is kept as the 64 bits of the double-precision format: a sign, an exponent
and a significand, so that a finite value is `m · 2^e` with `m < 2^53`.

`Binary64.ofRatio` rounds an exact ratio to the nearest such value, a tie going to the even
significand.  `Binary64.text` writes a value with the fewest decimal digits that lie nearer to it
than to any other value, all of them before or after a point and without an exponent.
-/

set_option autoImplicit false

namespace Replug.Toml

structure Binary64 where
  bits : UInt64
  deriving DecidableEq, Repr

namespace Binary64

def leastExponent : Int := -1074

def hiddenBit : Nat := 0x10000000000000

def infinityBits : Nat := 0x7FF * hiddenBit

def signBit : Nat := 0x800 * hiddenBit

def signed (negative : Bool) (bits : Nat) : Binary64 :=
  ⟨.ofNat (bits + if negative then signBit else 0)⟩

def infinity (negative : Bool) : Binary64 := signed negative infinityBits

def notANumber (negative : Bool) : Binary64 := signed negative (infinityBits + hiddenBit / 2)

/-- The quotient of two numbers, rounded to the nearest whole one; a tie goes to the even one. -/
def roundedQuotient (num den : Nat) : Nat :=
  let q := num / den
  let twice := 2 * (num % den)
  if den < twice || (twice == den && q % 2 == 1) then q + 1 else q

/-- `num · 2^e`, or the denominator that a negative `e` calls for, as a ratio. -/
def scaled (num den : Nat) (e : Int) : Nat × Nat :=
  if 0 ≤ e then (num * Nat.pow 2 e.toNat, den) else (num, den * Nat.pow 2 (-e).toNat)

def lastPlace (num den : Nat) : Int :=
  let guess : Int := num.log2 - den.log2
  let (n, d) := scaled num den (-guess)
  let top := if n < d then guess - 1 else guess
  max (top - 52) leastExponent

/-- The value nearest to a ratio.  A ratio beyond all values becomes infinity. -/
def ofRatio (negative : Bool) (num den : Nat) : Binary64 :=
  if num = 0 then signed negative 0
  else
    let e := lastPlace num den
    let (n, d) := scaled num den (-e)
    let bits := (e - leastExponent).toNat * hiddenBit + roundedQuotient n d
    signed negative (min bits infinityBits)

/-- The value nearest to `digits · 10^exponent`.  Beyond the four hundredth decimal place on either
side nothing but zero and infinity is left, so the power itself is not computed there. -/
def ofDecimal (negative : Bool) (digits : Nat) (exponent : Int) : Binary64 :=
  if digits = 0 then signed negative 0
  else
    let size : Int := exponent + (Nat.toDigits 10 digits).length
    if 400 < size then infinity negative
    else if size < -400 then signed negative 0
    else if 0 ≤ exponent then ofRatio negative (digits * Nat.pow 10 exponent.toNat) 1
    else ofRatio negative digits (Nat.pow 10 (-exponent).toNat)

def magnitude (x : Binary64) : Nat := x.bits.toNat % signBit

def isNegative (x : Binary64) : Bool := signBit ≤ x.bits.toNat

/-- The significand `m` and the exponent `e` of a finite value `m · 2^e`. -/
def parts (x : Binary64) : Nat × Int :=
  let biased : Nat := x.magnitude / hiddenBit
  let fraction : Nat := x.magnitude % hiddenBit
  if biased = 0 then (fraction, leastExponent)
  else (fraction + hiddenBit, leastExponent + ((biased - 1 : Nat) : Int))

/-- A positive value, and the bounds of what is read as it: all over one denominator. -/
structure Neighbourhood where
  value : Nat
  low : Nat
  high : Nat
  denominator : Nat
  /-- Whether the bounds themselves are read as the value. -/
  closed : Bool

/-- The neighbourhood of `m · 2^e`.  Below a power of two the values lie twice as close. -/
def neighbourhood (m : Nat) (e : Int) : Neighbourhood :=
  let (unit, denominator) := scaled 1 4 e
  let narrow := m = hiddenBit && leastExponent < e
  { value := 4 * m * unit
    low := (4 * m - if narrow then 1 else 2) * unit
    high := (4 * m + 2) * unit
    denominator := denominator
    closed := m % 2 == 0 }

namespace Neighbourhood

def holds (h : Neighbourhood) (num den : Nat) : Bool :=
  let x := num * h.denominator
  let low := h.low * den
  let high := h.high * den
  if h.closed then low ≤ x && x ≤ high else low < x && x < high

def grid (n : Nat) (places : Int) : Nat × Nat :=
  if 0 ≤ places then (n, Nat.pow 10 places.toNat) else (n * Nat.pow 10 (-places).toNat, 1)

/-- The decimal with so many places that is read as the value, if there is one; of two the nearer
one, and of two equally near the greater one. -/
def onGrid? (h : Neighbourhood) (places : Int) : Option Nat :=
  let (one, unit) := grid 1 places
  let below := h.value * unit / (h.denominator * one)
  let hits (n : Nat) : Bool := let (num, den) := grid n places; h.holds num den
  let twice := 2 * (h.value * unit % (h.denominator * one))
  match hits below, hits (below + 1) with
  | true, true => some (if twice < h.denominator * one then below else below + 1)
  | true, false => some below
  | false, true => some (below + 1)
  | false, false => none

/-- The number of decimal digits before the point, counted down below zero for leading zeros behind
the point. -/
def leading (h : Neighbourhood) : Int :=
  if h.denominator ≤ h.value then (Nat.toDigits 10 (h.value / h.denominator)).length
  else 1 - (Nat.toDigits 10 ((h.denominator - 1) / h.value)).length

/-- A decimal without a zero at its end.  One zero is all there can be: only the coarsest grid
yields it, where a value just below a power of ten is read as that power. -/
def withoutZero (n : Nat) (places : Int) : Nat × Int :=
  if n % 10 = 0 then (n / 10, places - 1) else (n, places)

/-- The shortest decimal that is read as the value: a whole number and its places.  Seventeen digits
always suffice. -/
def shortest (h : Neighbourhood) : Nat × Int :=
  let places (digits : Nat) : Int := (digits : Int) - h.leading
  let hit := (List.range' 1 17).findSome? fun digits =>
    (h.onGrid? (places digits)).map fun n => withoutZero n (places digits)
  hit.getD (0, 0)

end Neighbourhood

def positional (n : Nat) (places : Int) : List Char :=
  if places ≤ 0 then Nat.toDigits 10 (n * Nat.pow 10 (-places).toNat) ++ ['.', '0']
  else
    let digits := Nat.toDigits 10 n
    let padded := List.replicate (places.toNat + 1 - digits.length) '0' ++ digits
    let whole := padded.length - places.toNat
    padded.take whole ++ '.' :: padded.drop whole

def text (x : Binary64) : String :=
  let sign := if x.isNegative then "-" else ""
  if infinityBits < x.magnitude then "NaN"
  else if x.magnitude = infinityBits then sign ++ "inf"
  else if x.magnitude = 0 then sign ++ "0.0"
  else
    let (m, e) := x.parts
    let (n, places) := (neighbourhood m e).shortest
    sign ++ String.ofList (positional n places)

end Binary64

end Replug.Toml
