import Replug.Proofs.Delay.Scaling

/-!
# When one word is enough

A drawing ends after its first word if the second one could not change the result, and only then.  So
what is drawn is in every case the exact scaling of both words.  Adding one to the longest wait, and
adding the carry to the scaled first word, stay within a word, so nothing is lost by computing with
words.
-/

set_option autoImplicit false

namespace Replug.Delay

variable {longest : UInt64} {span : Nat}

/-- The words that a drawing takes if `first` is the next one. -/
def wordsFor (longest first : UInt64) : Nat :=
  if longest.toNat = wordCount - 1 ∨
      fraction first (longest.toNat + 1) ≤ wordCount - (longest.toNat + 1) then 1 else 2

theorem read_below_rest (span : Nat) (s : WordStream) :
    ((below span).read s).2 =
      { s with taken := s.taken + if mayCarry (s.word s.taken) span then 2 else 1 } := by
  have start : (below span).read s =
      (if mayCarry (s.word s.taken) span then
        .wants fun second =>
          .settled (.ofNat (whole (s.word s.taken) span +
            if carries (s.word s.taken) second span then 1 else 0))
      else .settled (.ofNat (whole (s.word s.taken) span)) : Drawing UInt64).read
        ⟨s.word, s.taken + 1⟩ := rfl
  rw [start]
  cases mayCarry (s.word s.taken) span with
  | true => rfl
  | false => rfl

/-- The stream after a drawing has lost one word or two. -/
theorem read_seconds_rest (positive : longest ≠ 0) (s : WordStream) :
    ((seconds longest).read s).2 =
      { s with taken := s.taken + wordsFor longest (s.word s.taken) } := by
  unfold seconds wordsFor
  rw [if_neg positive]
  by_cases full : longest.toNat + 1 = wordCount
  · have last : longest.toNat = wordCount - 1 := by omega
    rw [if_pos full, if_pos (Or.inl last)]
    rfl
  · rw [if_neg full, read_map, read_below_rest]
    by_cases low : fraction (s.word s.taken) (longest.toNat + 1) ≤ wordCount - (longest.toNat + 1)
    · have settled : mayCarry (s.word s.taken) (longest.toNat + 1) = false := by
        simpa [mayCarry] using low
      rw [if_pos (Or.inr low), settled]
      rfl
    · have open_ : mayCarry (s.word s.taken) (longest.toNat + 1) = true := by
        simpa [mayCarry] using low
      have neither : ¬ (longest.toNat = wordCount - 1 ∨
          fraction (s.word s.taken) (longest.toNat + 1) ≤ wordCount - (longest.toNat + 1)) := by
        have := wordCount_pos
        omega
      rw [if_neg neither, open_]
      rfl

theorem succ_of_not_full (notFull : longest.toNat + 1 ≠ wordCount) :
    (longest + 1).toNat = longest.toNat + 1 := by
  have fits := toNat_lt_wordCount longest
  rw [UInt64.toNat_add]
  apply Nat.mod_eq_of_lt
  change longest.toNat + 1 < wordCount
  omega

/-- The carry does not lead out of the range, let alone out of a word. -/
theorem carried_lt (first second : UInt64) (positive : 0 < span) (small : span ≤ wordCount) :
    whole first span + (if carries first second span then 1 else 0) < span := by
  rw [← scaling_of_carries first second span positive small]
  exact scaling_lt first second span positive

theorem toNat_carried (first second : UInt64) (positive : 0 < span) (small : span ≤ wordCount) :
    (UInt64.ofNat (whole first span) + if carries first second span then 1 else 0).toNat =
      whole first span + if carries first second span then 1 else 0 := by
  have inRange := carried_lt first second positive small
  have fits : whole first span < UInt64.size := by
    have := whole_lt first span positive
    change _ < wordCount
    omega
  by_cases carried : carries first second span = true
  · rw [if_pos carried] at inRange ⊢
    rw [if_pos carried, UInt64.toNat_add, UInt64.toNat_ofNat_of_lt' fits]
    apply Nat.mod_eq_of_lt
    change whole first span + 1 < wordCount
    omega
  · rw [if_neg carried, if_neg carried, UInt64.add_zero, Nat.add_zero]
    exact UInt64.toNat_ofNat_of_lt' fits

/-- The short cut does not show.  Of any two next words of the stream, the seconds drawn are the whole
part of `(first · 2^64 + second) · (longest + 1) / 2^128`, whether the second word is taken or not.
It is left alone exactly if every word is a fair answer, which then is the first one itself, or if
the scaling of the first word leaves too little for a carry.  Neither the number of possible answers
nor the addition of the carry overflows a word. -/
theorem seconds_exact (longest : UInt64) (positive : 1 ≤ longest) (s : WordStream)
    (first second : UInt64) (isFirst : s.word s.taken = first)
    (isSecond : s.word (s.taken + 1) = second) :
    (∃ drawn, ((seconds longest).read s).1 = some drawn ∧
      drawn.toNat =
        (first.toNat * 2 ^ 64 + second.toNat) * (longest.toNat + 1) / 2 ^ 128 ∧
      drawn ≤ longest ∧ (longest.toNat = 2 ^ 64 - 1 → drawn = first)) ∧
    ((seconds longest).read s).2 = { s with taken := s.taken +
      if longest.toNat = 2 ^ 64 - 1 ∨
        first.toNat * (longest.toNat + 1) % 2 ^ 64 ≤ 2 ^ 64 - (longest.toNat + 1) then 1 else 2 } ∧
    (longest.toNat ≠ 2 ^ 64 - 1 → (longest + 1).toNat = longest.toNat + 1) ∧
    (UInt64.ofNat (whole first (longest.toNat + 1)) +
        if carries first second (longest.toNat + 1) then 1 else 0).toNat =
      whole first (longest.toNat + 1) +
        if carries first second (longest.toNat + 1) then 1 else 0 := by
  have fits := toNat_lt_wordCount longest
  have words : wordCount = 2 ^ 64 := rfl
  have nonzero : longest ≠ 0 := by
    rintro rfl
    exact absurd positive (by decide)
  have inRange := scaling_lt first second (longest.toNat + 1) (Nat.succ_pos _)
  have small : scaling first second (longest.toNat + 1) < UInt64.size := by
    change _ < wordCount
    omega
  refine ⟨⟨.ofNat (scaling first second (longest.toNat + 1)), ?_, ?_, ?_, ?_⟩, ?_, ?_, ?_⟩
  · rw [read_seconds longest nonzero, isFirst, isSecond]
  · exact UInt64.toNat_ofNat_of_lt' small
  · rw [UInt64.le_iff_toNat_le, UInt64.toNat_ofNat_of_lt' small]
    omega
  · intro full
    have span : longest.toNat + 1 = wordCount := by omega
    rw [span, scaling_wordCount, UInt64.ofNat_toNat]
  · rw [read_seconds_rest nonzero, isFirst]
    rfl
  · intro notFull
    exact succ_of_not_full (by omega)
  · exact toNat_carried first second (Nat.succ_pos _) (by omega)

def atTheEdge : WordStream := .cycling [6148914691236517205, 9223372036854775808]

theorem seconds_exact_at_edge : (1 : UInt64) ≤ 5 ∧
    atTheEdge.word atTheEdge.taken = 6148914691236517205 ∧
    atTheEdge.word (atTheEdge.taken + 1) = 9223372036854775808 ∧
    ((seconds 5).read atTheEdge).1 = some 2 ∧
    ((seconds 5).read atTheEdge).2 = { atTheEdge with taken := 2 } := by
  have positive : (1 : UInt64) ≤ 5 := by decide
  obtain ⟨⟨drawn, isDrawn, value, -⟩, rest, -⟩ :=
    seconds_exact 5 positive atTheEdge 6148914691236517205 9223372036854775808 rfl rfl
  have two : drawn = 2 := UInt64.toNat_inj.mp (value.trans (by decide))
  refine ⟨positive, rfl, rfl, two ▸ isDrawn, ?_⟩
  rw [rest]
  rfl

end Replug.Delay
