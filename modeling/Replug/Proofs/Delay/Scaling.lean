import Mathlib.Algebra.Order.Ring.Nat
import Mathlib.Tactic.Ring
import Replug.Delay

/-!
# The exact scaling behind a drawing

Two words make one number of 128 bits.  A drawing gives the whole part of that number scaled to the
range, also when it looks at the first word only: what the second word could add is then too little
to reach the next whole number.
-/

set_option autoImplicit false

namespace Replug.Delay

/-- Two words as one number, the first one in front. -/
def joined (first second : UInt64) : Nat := first.toNat * wordCount + second.toNat

def scaling (first second : UInt64) (span : Nat) : Nat :=
  joined first second * span / (wordCount * wordCount)

theorem toNat_lt_wordCount (w : UInt64) : w.toNat < wordCount := w.toNat_lt

theorem wordCount_pos : 0 < wordCount := by decide

theorem joined_lt (first second : UInt64) : joined first second < wordCount * wordCount := by
  have front := toNat_lt_wordCount first
  have back := toNat_lt_wordCount second
  have room : (first.toNat + 1) * wordCount ≤ wordCount * wordCount :=
    Nat.mul_le_mul_right wordCount front
  unfold joined
  rw [Nat.add_mul] at room
  omega

theorem whole_lt (word : UInt64) (span : Nat) (positive : 0 < span) : whole word span < span := by
  rw [whole, Nat.div_lt_iff_lt_mul wordCount_pos, Nat.mul_comm]
  exact Nat.mul_lt_mul_of_pos_left (toNat_lt_wordCount word) positive

theorem fraction_lt (word : UInt64) (span : Nat) : fraction word span < wordCount :=
  Nat.mod_lt _ wordCount_pos

theorem scaling_eq (first second : UInt64) (span : Nat) :
    scaling first second span =
      whole first span + (fraction first span + whole second span) / wordCount := by
  have front : first.toNat * span = whole first span * wordCount + fraction first span := by
    rw [whole, fraction, Nat.mul_comm (_ / _)]
    exact (Nat.div_add_mod _ _).symm
  have split : joined first second * span = second.toNat * span + first.toNat * span * wordCount := by
    unfold joined
    ring
  rw [scaling, split, ← Nat.div_div_eq_div_mul, Nat.add_mul_div_right _ _ wordCount_pos, front,
    ← whole]
  rw [show whole second span + (whole first span * wordCount + fraction first span) =
    fraction first span + whole second span + whole first span * wordCount by ring,
    Nat.add_mul_div_right _ _ wordCount_pos, Nat.add_comm]

/-- If the second word is not looked at, it would not have carried anything over. -/
theorem scaling_of_not_mayCarry (first second : UInt64) (span : Nat) (positive : 0 < span)
    (small : span ≤ wordCount) (settled : mayCarry first span = false) :
    scaling first second span = whole first span := by
  have back := whole_lt second span positive
  have low : fraction first span ≤ wordCount - span := by simpa [mayCarry] using settled
  rw [scaling_eq, Nat.div_eq_of_lt (by omega), Nat.add_zero]

theorem scaling_of_carries (first second : UInt64) (span : Nat) (positive : 0 < span)
    (small : span ≤ wordCount) :
    scaling first second span = whole first span + if carries first second span then 1 else 0 := by
  have back := whole_lt second span positive
  have front := fraction_lt first span
  rw [scaling_eq]
  congr 1
  by_cases carried : wordCount ≤ fraction first span + whole second span
  · simp only [carries, carried, decide_true, if_true]
    rw [Nat.div_eq_iff wordCount_pos]
    omega
  · simp only [carries, carried, decide_false, Bool.false_eq_true, if_false]
    exact Nat.div_eq_of_lt (by omega)

/-- Where every word is a fair answer, the exact scaling is the first word itself. -/
theorem scaling_wordCount (first second : UInt64) : scaling first second wordCount = first.toNat := by
  have none : whole second wordCount < wordCount := whole_lt second wordCount wordCount_pos
  have rest : fraction first wordCount = 0 := Nat.mul_mod_left _ _
  have all : whole first wordCount = first.toNat := Nat.mul_div_left _ wordCount_pos
  rw [scaling_eq, rest, all, Nat.zero_add, Nat.div_eq_of_lt none, Nat.add_zero]

theorem scaling_lt (first second : UInt64) (span : Nat) (positive : 0 < span) :
    scaling first second span < span := by
  rw [scaling, Nat.div_lt_iff_lt_mul (Nat.mul_pos wordCount_pos wordCount_pos), Nat.mul_comm]
  exact Nat.mul_lt_mul_of_pos_left (joined_lt first second) positive

theorem read_map {α β : Type} (f : α → β) (d : Drawing α) (s : WordStream) :
    (d.map f).read s = (f (d.read s).1, (d.read s).2) := by
  induction d generalizing s with
  | settled a => rfl
  | wants next ih => exact ih s.next.1 s.next.2

theorem read_below (span : Nat) (positive : 0 < span) (small : span ≤ wordCount)
    (s : WordStream) :
    ((below span).read s).1 = .ofNat (scaling (s.word s.taken) (s.word (s.taken + 1)) span) := by
  generalize first : s.word s.taken = w
  generalize second : s.word (s.taken + 1) = v
  have start : (below span).read s =
      (if mayCarry w span then
        .wants fun second =>
          .settled (.ofNat (whole w span + if carries w second span then 1 else 0))
      else .settled (.ofNat (whole w span)) : Drawing UInt64).read ⟨s.word, s.taken + 1⟩ := by
    rw [← first]
    rfl
  rw [start]
  cases carry : mayCarry w span with
  | true =>
    rw [scaling_of_carries w v span positive small, ← second]
    rfl
  | false =>
    rw [scaling_of_not_mayCarry w v span positive small carry]
    rfl

/-- The seconds drawn from a stream are the exact scaling of its next two words. -/
theorem read_seconds (longest : UInt64) (positive : longest ≠ 0) (s : WordStream) :
    ((seconds longest).read s).1 =
      some (.ofNat (scaling (s.word s.taken) (s.word (s.taken + 1)) (longest.toNat + 1))) := by
  have fits := toNat_lt_wordCount longest
  unfold seconds
  rw [if_neg positive]
  by_cases full : longest.toNat + 1 = wordCount
  · rw [if_pos full, full, scaling_wordCount, UInt64.ofNat_toNat]
    rfl
  · rw [if_neg full, read_map, read_below _ (by omega) (by omega)]

end Replug.Delay
