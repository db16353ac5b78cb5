/-!
# Numbers in plain text

Numbers as they are typed: decimal digits, perhaps after a plus, of at most 64 bits.
-/

set_option autoImplicit false

namespace Replug.Text

inductive NumberFault where
  | empty
  | notDigit
  | tooLarge
  deriving DecidableEq, Repr

def NumberFault.message : NumberFault → String
  | .empty => "cannot parse integer from empty string"
  | .notDigit => "invalid digit found in string"
  | .tooLarge => "number too large to fit in target type"

/-- The number that digits spell after a number read so far.  The first fault counts. -/
def digitsFrom : Nat → List Char → Except NumberFault Nat
  | n, [] => .ok n
  | n, c :: cs =>
    if '0' ≤ c ∧ c ≤ '9' then
      let m := n * 10 + (c.toNat - '0'.toNat)
      if m < UInt64.size then digitsFrom m cs else .error .tooLarge
    else .error .notDigit

def number : List Char → Except NumberFault Nat
  | [] => .error .empty
  | '+' :: c :: cs => digitsFrom 0 (c :: cs)
  | cs => digitsFrom 0 cs

end Replug.Text
