import Mathlib.Algebra.Order.Floor.Div
import Mathlib.Order.Interval.Finset.Nat
import Mathlib.SetTheory.Cardinal.Finite
import Mathlib.Tactic.NormNum
import Replug.Proofs.Delay.Scaling

/-!
# Drawings are even

Over all pairs of words, any two numbers of seconds in the range are drawn equally often, but for
one pair at most.  The pairs that give a number of seconds are those whose joined number lies in one
interval, and the intervals of all numbers cut `0 … 2^128 - 1` into pieces of nearly the same
length.
-/

set_option autoImplicit false

namespace Replug.Delay

def pairStream (first second : UInt64) : WordStream where
  word i := if i = 0 then first else second
  taken := 0

/-- The seconds drawn from the first word and, if it is asked for, the second. -/
def drawnFrom (longest first second : UInt64) : Option UInt64 :=
  ((seconds longest).read (pairStream first second)).1

/-- The number of pairs of words from which so many seconds are drawn. -/
noncomputable def pairsFor (longest seconds : UInt64) : Nat :=
  Nat.card { pair : UInt64 × UInt64 // drawnFrom longest pair.1 pair.2 = some seconds }

def pairCount : Nat := wordCount * wordCount

theorem drawnFrom_eq_some_iff (longest first second v : UInt64) (positive : longest ≠ 0) :
    drawnFrom longest first second = some v ↔
      scaling first second (longest.toNat + 1) = v.toNat := by
  have bound := scaling_lt first second (longest.toNat + 1) (Nat.succ_pos _)
  have fits := toNat_lt_wordCount longest
  have small : scaling first second (longest.toNat + 1) < UInt64.size := by
    change _ < wordCount
    omega
  rw [drawnFrom, read_seconds longest positive]
  change some (UInt64.ofNat (scaling first second (longest.toNat + 1))) = some v ↔ _
  rw [Option.some.injEq]
  constructor
  · intro same
    rw [← same, UInt64.toNat_ofNat_of_lt' small]
  · intro same
    rw [same, UInt64.ofNat_toNat]

/-! ## Intervals -/

def lower (span v : Nat) : Nat := (v * pairCount) ⌈/⌉ span

theorem lower_le_iff (span v x : Nat) (positive : 0 < span) :
    lower span v ≤ x ↔ v * pairCount ≤ span * x := by
  rw [lower, ceilDiv_le_iff_le_mul positive]

theorem scaled_eq_iff_mem (span v x : Nat) (positive : 0 < span) :
    x * span / pairCount = v ↔ x ∈ Finset.Ico (lower span v) (lower span (v + 1)) := by
  have total : 0 < pairCount := Nat.mul_pos wordCount_pos wordCount_pos
  rw [Finset.mem_Ico, lower_le_iff span v x positive, ← Nat.not_le,
    lower_le_iff span (v + 1) x positive, Nat.not_le, Nat.mul_comm span x, Nat.div_eq_iff total,
    Nat.add_mul]
  omega

/-- The interval of a number is as long as a fair share of all pairs, up to rounding. -/
theorem lower_sub_lower (span v : Nat) (positive : 0 < span) :
    lower span (v + 1) - lower span v = pairCount / span ∨
      lower span (v + 1) - lower span v = pairCount ⌈/⌉ span := by
  have ordered : lower span v ≤ lower span (v + 1) := by
    have least : v * pairCount + pairCount ≤ span * lower span (v + 1) := by
      have := (lower_le_iff span (v + 1) _ positive).mp (Nat.le_refl _)
      rwa [Nat.add_mul, Nat.one_mul] at this
    rw [lower_le_iff span v _ positive]
    omega
  -- Both ends are the least multiples of the span that reach their bounds.
  have atLeast : ∀ u, u * pairCount ≤ span * lower span u := fun u =>
    (lower_le_iff span u _ positive).mp (Nat.le_refl _)
  have atMost : ∀ u, span * lower span u < u * pairCount + span := by
    intro u
    have top := Nat.div_mul_le_self (u * pairCount + span - 1) span
    rw [lower, Nat.ceilDiv_eq_add_pred_div, Nat.mul_comm]
    omega
  obtain ⟨width, widthIs⟩ := Nat.exists_eq_add_of_le ordered
  rw [widthIs, Nat.add_sub_cancel_left]
  have begins := atLeast v
  have beginsSoon := atMost v
  have ends := atLeast (v + 1)
  have endsSoon := atMost (v + 1)
  rw [Nat.add_mul, Nat.one_mul, widthIs, Nat.mul_add] at ends endsSoon
  have narrow : span * width < pairCount + span := by omega
  have wide : pairCount < span * width + span := by omega
  by_cases floor : width = pairCount / span
  · exact Or.inl floor
  · right
    have aboveFloor : pairCount / span < width := by
      have : pairCount / span < width + 1 := by
        rw [Nat.div_lt_iff_lt_mul positive, Nat.add_mul, Nat.one_mul, Nat.mul_comm width]
        exact wide
      omega
    have reaches : pairCount ⌈/⌉ span ≤ width := by
      rw [ceilDiv_le_iff_le_mul positive, Nat.mul_comm]
      exact Nat.le_of_lt ((Nat.div_lt_iff_lt_mul positive).mp aboveFloor)
    have notBeyond : width ≤ pairCount ⌈/⌉ span := by
      rw [Nat.ceilDiv_eq_add_pred_div, Nat.le_div_iff_mul_le positive, Nat.mul_comm]
      omega
    omega

/-! ## Counting pairs -/

theorem joined_injective (pair pair' : UInt64 × UInt64)
    (same : joined pair.1 pair.2 = joined pair'.1 pair'.2) : pair = pair' := by
  have back := toNat_lt_wordCount pair.2
  have back' := toNat_lt_wordCount pair'.2
  have fronts : pair.1.toNat = pair'.1.toNat := by
    have := congrArg (· / wordCount) same
    simpa [joined, Nat.mul_comm, Nat.mul_add_div wordCount_pos, Nat.div_eq_of_lt back,
      Nat.div_eq_of_lt back'] using this
  have backs : pair.2.toNat = pair'.2.toNat := by
    have := same
    rw [joined, joined, fronts] at this
    omega
  exact Prod.ext (UInt64.toNat_inj.mp fronts) (UInt64.toNat_inj.mp backs)

theorem joined_surjective (x : Nat) (small : x < pairCount) :
    ∃ pair : UInt64 × UInt64, joined pair.1 pair.2 = x := by
  have front : x / wordCount < UInt64.size := Nat.div_lt_of_lt_mul small
  have back : x % wordCount < UInt64.size := Nat.mod_lt _ wordCount_pos
  refine ⟨(.ofNat (x / wordCount), .ofNat (x % wordCount)), ?_⟩
  rw [joined, UInt64.toNat_ofNat_of_lt' front, UInt64.toNat_ofNat_of_lt' back, Nat.mul_comm]
  exact Nat.div_add_mod x wordCount

theorem pairsFor_eq (longest v : UInt64) (positive : longest ≠ 0) (inRange : v ≤ longest) :
    pairsFor longest v =
      lower (longest.toNat + 1) (v.toNat + 1) - lower (longest.toNat + 1) v.toNat := by
  have spanPositive := Nat.succ_pos longest.toNat
  have below : v.toNat ≤ longest.toNat := UInt64.le_iff_toNat_le.mp inRange
  have gives : ∀ pair : UInt64 × UInt64, drawnFrom longest pair.1 pair.2 = some v ↔
      joined pair.1 pair.2 ∈
        Finset.Ico (lower (longest.toNat + 1) v.toNat) (lower (longest.toNat + 1) (v.toNat + 1)) :=
    fun pair => (drawnFrom_eq_some_iff longest pair.1 pair.2 v positive).trans
      (scaled_eq_iff_mem _ _ _ spanPositive)
  have top : lower (longest.toNat + 1) (v.toNat + 1) ≤ pairCount := by
    rw [lower_le_iff _ _ _ spanPositive]
    exact Nat.mul_le_mul_right _ (by omega)
  rw [pairsFor, ← Nat.card_Ico, ← Fintype.card_coe, ← Nat.card_eq_fintype_card]
  refine Nat.card_eq_of_bijective
    (fun pair => ⟨joined pair.1.1 pair.1.2, (gives pair.1).mp pair.2⟩) ⟨?_, ?_⟩
  · intro pair pair' same
    exact Subtype.ext (joined_injective pair.1 pair'.1 (congrArg Subtype.val same))
  · intro x
    have small : x.1 < pairCount := Nat.lt_of_lt_of_le (Finset.mem_Ico.mp x.2).2 top
    obtain ⟨pair, same⟩ := joined_surjective x.1 small
    exact ⟨⟨pair, (gives pair).mpr (same ▸ x.2)⟩, Subtype.ext same⟩

theorem ceilDiv_le_succ (total span : Nat) (positive : 0 < span) :
    total ⌈/⌉ span ≤ total / span + 1 := by
  rw [ceilDiv_le_iff_le_mul positive, Nat.mul_comm]
  exact Nat.le_of_lt (Nat.lt_mul_of_div_lt (Nat.lt_succ_self _) positive)

theorem floor_le_pairsFor (longest v : UInt64) (positive : longest ≠ 0) (inRange : v ≤ longest) :
    pairCount / (longest.toNat + 1) ≤ pairsFor longest v := by
  rw [pairsFor_eq longest v positive inRange]
  rcases lower_sub_lower (longest.toNat + 1) v.toNat (Nat.succ_pos _) with floor | ceiling
  · exact Nat.le_of_eq floor.symm
  · rw [ceiling]
    exact (floorDiv_le_ceilDiv : pairCount ⌊/⌋ (longest.toNat + 1) ≤ _)

theorem pairsFor_le (longest v : UInt64) (positive : longest ≠ 0) (inRange : v ≤ longest) :
    pairsFor longest v ≤ pairCount / (longest.toNat + 1) + 1 := by
  rw [pairsFor_eq longest v positive inRange]
  rcases lower_sub_lower (longest.toNat + 1) v.toNat (Nat.succ_pos _) with floor | ceiling
  · rw [floor]
    exact Nat.le_succ _
  · rw [ceiling]
    exact ceilDiv_le_succ _ _ (Nat.succ_pos _)

theorem fair_share_pos (longest : UInt64) : 0 < pairCount / (longest.toNat + 1) := by
  have fits := toNat_lt_wordCount longest
  refine Nat.div_pos ?_ (Nat.succ_pos _)
  calc longest.toNat + 1 ≤ wordCount := fits
    _ ≤ wordCount * wordCount := Nat.le_mul_of_pos_left _ wordCount_pos

/-- Every number of seconds in the range is drawn from its fair share of all pairs of words, rounded
down or up.  So no two of them differ by more than one pair, and none is left out. -/
theorem seconds_even (longest : UInt64) (positive : 1 ≤ longest) :
    (∀ v ≤ longest, pairsFor longest v = 2 ^ 128 / (longest.toNat + 1) ∨
      pairsFor longest v = 2 ^ 128 ⌈/⌉ (longest.toNat + 1)) ∧
    (∀ v ≤ longest, ∀ v' ≤ longest, pairsFor longest v ≤ pairsFor longest v' + 1) ∧
    ∀ v ≤ longest, ∃ first second, drawnFrom longest first second = some v := by
  have nonzero : longest ≠ 0 := by
    intro zero
    rw [zero] at positive
    exact absurd positive (by decide)
  have total : pairCount = 2 ^ 128 := rfl
  refine ⟨fun v inRange => ?_, fun v inRange v' inRange' => ?_, fun v inRange => ?_⟩
  · rw [pairsFor_eq longest v nonzero inRange, ← total]
    exact lower_sub_lower (longest.toNat + 1) v.toNat (Nat.succ_pos _)
  · calc pairsFor longest v ≤ pairCount / (longest.toNat + 1) + 1 :=
          pairsFor_le longest v nonzero inRange
      _ ≤ pairsFor longest v' + 1 :=
          Nat.add_le_add_right (floor_le_pairsFor longest v' nonzero inRange') 1
  · have some : 0 < pairsFor longest v :=
      Nat.lt_of_lt_of_le (fair_share_pos longest) (floor_le_pairsFor longest v nonzero inRange)
    obtain ⟨pair, drawn⟩ := (Nat.card_pos_iff.mp some).1
    exact ⟨pair.1, pair.2, drawn⟩

/-- Six numbers of seconds do not share the pairs out exactly, and the last one is drawn too. -/
theorem seconds_even_five : (1 : UInt64) ≤ 5 ∧
    (∀ v ≤ (5 : UInt64), pairsFor 5 v = 2 ^ 128 / 6 ∨ pairsFor 5 v = 2 ^ 128 / 6 + 1) ∧
    ∃ first second, drawnFrom 5 first second = some 5 := by
  have positive : (1 : UInt64) ≤ 5 := by decide
  obtain ⟨shares, -, drawn⟩ := seconds_even 5 positive
  have roundedUp : 2 ^ 128 ⌈/⌉ ((5 : UInt64).toNat + 1) = 2 ^ 128 / 6 + 1 := rfl
  refine ⟨positive, fun v inRange => ?_, drawn 5 (by decide)⟩
  rw [← roundedUp]
  exact shares v inRange

end Replug.Delay
