import Replug.Text.Number

/-!
# Which texts are numbers

A text is a number if it is made of decimal digits, with perhaps a plus in front of them, and if what
they spell fits into 64 bits.
-/

set_option autoImplicit false

namespace Replug.Text

variable {n m : Nat} {text : List Char}

theorem isDigit_iff (c : Char) : c.isDigit = true ↔ '0' ≤ c ∧ c ≤ '9' := by
  simp [Char.isDigit, Char.le_def]

theorem isDigit_bounds (c : Char) (digit : c.isDigit = true) : 48 ≤ c.toNat ∧ c.toNat ≤ 57 :=
  (isDigit_iff c).mp digit

theorem le_ofDigitChars (n : Nat) (digits : List Char) : n ≤ Nat.ofDigitChars 10 digits n := by
  rw [Nat.ofDigitChars_eq_ofDigitChars_zero]
  have grows : n ≤ 10 ^ digits.length * n := Nat.le_mul_of_pos_left n (Nat.pow_pos (by decide))
  omega

theorem digitsFrom_eq_ok_iff (digits : List Char) (begun : n < UInt64.size) :
    digitsFrom n digits = .ok m ↔
      (∀ c ∈ digits, c.isDigit = true) ∧ Nat.ofDigitChars 10 digits n = m ∧ m < UInt64.size := by
  induction digits generalizing n with
  | nil =>
      simp only [digitsFrom, Except.ok.injEq, List.not_mem_nil, false_implies, implies_true, true_and,
        Nat.ofDigitChars_nil]
      constructor
      · rintro rfl
        exact ⟨rfl, begun⟩
      · exact And.left
  | cons c rest ih =>
      rw [Nat.ofDigitChars_cons, Nat.mul_comm, List.forall_mem_cons, isDigit_iff, digitsFrom]
      by_cases isDigit : '0' ≤ c ∧ c ≤ '9'
      · rw [if_pos isDigit]
        by_cases fits : n * 10 + (c.toNat - '0'.toNat) < UInt64.size
        · simp only [fits, if_true, ih fits, isDigit, and_self, true_and]
        · -- The digits after this one do not make the number smaller again.
          simp only [fits, if_false, reduceCtorEq, false_iff]
          rintro ⟨-, rfl, small⟩
          exact fits (Nat.lt_of_le_of_lt (le_ofDigitChars _ rest) small)
      · simp [isDigit]

def DigitsOf (digits text : List Char) : Prop :=
  (text = digits ∨ text = '+' :: digits) ∧ digits ≠ [] ∧ ∀ c ∈ digits, c.isDigit = true

theorem number_eq_ok_iff : number text = .ok m ↔
    ∃ digits, DigitsOf digits text ∧ Nat.ofDigitChars 10 digits 0 = m ∧ m < UInt64.size := by
  have unsigned (digits : List Char) := @digitsFrom_eq_ok_iff 0 m digits (by decide)
  have signIsNoDigit : '+'.isDigit = false := rfl
  unfold number
  split
  · constructor
    · intro fails
      cases fails
    · rintro ⟨digits, ⟨rfl | signed, notEmpty, -⟩, -⟩
      · exact absurd rfl notEmpty
      · cases signed
  · next c cs =>
      rw [unsigned]
      constructor
      · rintro ⟨areDigits, value⟩
        exact ⟨c :: cs, ⟨.inr rfl, List.cons_ne_nil c cs, areDigits⟩, value⟩
      · rintro ⟨digits, ⟨rfl | signed, -, areDigits⟩, value⟩
        · have sign := areDigits '+' List.mem_cons_self
          cases sign
        · cases signed
          exact ⟨areDigits, value⟩
  · next notEmpty notSigned =>
      rw [unsigned]
      constructor
      · rintro ⟨areDigits, value⟩
        exact ⟨text, ⟨.inl rfl, notEmpty, areDigits⟩, value⟩
      · rintro ⟨digits, ⟨rfl | rfl, hasDigits, areDigits⟩, value⟩
        · exact ⟨areDigits, value⟩
        · obtain ⟨c, cs, rfl⟩ := List.exists_cons_of_ne_nil hasDigits
          exact absurd rfl (notSigned c cs)

end Replug.Text
