import Replug.Log.Filter
import Replug.Proofs.Text.Numbers

/-!
# Which texts are thresholds

A threshold is named by one of six words, whatever the case of its letters, or by a number up to
five.  No text is both.
-/

set_option autoImplicit false

namespace Replug.Log

def thresholdWords : List String := ["off", "error", "warn", "info", "debug", "trace"]

/-- The texts that stand for a threshold: one of the words, whatever the case of its letters, or a
number up to five. -/
inductive NamesThreshold (text : List Char) : Prop
  | word {name : String} (known : name ∈ thresholdWords)
    (same : text.map Char.toLower = name.toList)
  | number {digits : List Char} (spelled : Text.DigitsOf digits text)
    (small : Nat.ofDigitChars 10 digits 0 ≤ 5)

variable {text : List Char} {c : Char}

theorem toLower_cases (c : Char) : (65 ≤ c.toNat ∧ c.toNat ≤ 90) ∨ c.toLower = c := by
  by_cases upper : c.val ≥ 'A'.val ∧ c.val ≤ 'Z'.val
  · exact .inl ⟨UInt32.le_iff_toNat_le.mp upper.1, UInt32.le_iff_toNat_le.mp upper.2⟩
  · exact .inr (dif_neg upper)

theorem toLower_of_isDigit (isDigit : c.isDigit = true) : c.toLower = c := by
  have bounds := Text.isDigit_bounds c isDigit
  rcases toLower_cases c with upper | kept
  · omega
  · exact kept

theorem letter_of_known {name : String} (known : name ∈ thresholdWords) (inWord : c ∈ name.toList) :
    97 ≤ c.toNat ∧ c.toNat ≤ 122 := by
  have letters : thresholdWords.all fun name =>
      name.toList.all fun c => decide (97 ≤ c.toNat ∧ c.toNat ≤ 122) := by decide
  exact of_decide_eq_true (List.all_eq_true.mp (List.all_eq_true.mp letters name known) c inWord)

theorem ofNumber?_isSome_iff (n : Nat) : (Threshold.ofNumber? n).isSome ↔ n ≤ 5 := by
  cases n with
  | zero => simp [Threshold.ofNumber?]
  | succ n =>
      rw [Threshold.ofNumber?, Option.isSome_map, isSome_getElem?]
      exact Iff.rfl

theorem ofWord?_isSome_iff : (Threshold.ofWord? text).isSome ↔
    ∃ name ∈ thresholdWords, text.map Char.toLower = name.toList := by
  have names : thresholdWords.map String.toList =
      ['o', 'f', 'f'] :: Level.all.map fun l => l.name.toList.map Char.toLower := by decide
  have known : (∃ name ∈ thresholdWords, text.map Char.toLower = name.toList) ↔
      text.map Char.toLower ∈ thresholdWords.map String.toList := by
    simp only [List.mem_map, @eq_comm _ (text.map Char.toLower)]
  rw [known, names, List.mem_cons, List.mem_map]
  simp only [Threshold.ofWord?]
  split
  · next isOff => simp [isOff]
  · next notOff => simp [notOff]

theorem not_digits_of_word {name : String} {digits : List Char} (known : name ∈ thresholdWords)
    (same : text.map Char.toLower = name.toList) : ¬ Text.DigitsOf digits text := by
  rintro ⟨signed, notEmpty, areDigits⟩
  obtain ⟨c, cs, rfl⟩ := List.exists_cons_of_ne_nil notEmpty
  have isDigit := areDigits c List.mem_cons_self
  have inText : c ∈ text := by
    rcases signed with rfl | rfl
    · exact List.mem_cons_self
    · exact List.mem_cons_of_mem _ List.mem_cons_self
  have inWord : c ∈ name.toList := by
    rw [← same, ← toLower_of_isDigit isDigit]
    exact List.mem_map_of_mem inText
  have digit := Text.isDigit_bounds c isDigit
  have letter := letter_of_known known inWord
  omega

theorem number_of_small {digits : List Char} (spelled : Text.DigitsOf digits text)
    (small : Nat.ofDigitChars 10 digits 0 ≤ 5) :
    Text.number text = .ok (Nat.ofDigitChars 10 digits 0) :=
  Text.number_eq_ok_iff.mpr ⟨digits, spelled, rfl, Nat.lt_of_le_of_lt small (by decide)⟩

theorem parse?_isSome_iff : (Threshold.parse? text).isSome ↔ NamesThreshold text := by
  unfold Threshold.parse?
  cases reads : Text.number text with
  | ok n =>
      obtain ⟨digits, spelled, value, -⟩ := Text.number_eq_ok_iff.mp reads
      have inRange : NamesThreshold text ↔ n ≤ 5 := by
        constructor
        · intro named
          cases named with
          | word known same => exact absurd spelled (not_digits_of_word known same)
          | number spelled' small =>
              have same := reads.symm.trans (number_of_small spelled' small)
              cases same
              exact small
        · intro small
          exact .number spelled (value.symm ▸ small)
      rw [inRange, ← ofNumber?_isSome_iff]
      cases found : Threshold.ofNumber? n with
      | none => simp [found]
      | some threshold => simp [found]
  | error fault =>
      simp only [ofWord?_isSome_iff]
      constructor
      · rintro ⟨name, known, same⟩
        exact .word known same
      · intro named
        cases named with
        | word known same => exact ⟨_, known, same⟩
        | number spelled small =>
            have contradiction := reads.symm.trans (number_of_small spelled small)
            cases contradiction

/-- What stands for a threshold has neither white space nor an equals sign in it. -/
theorem NamesThreshold.visible (named : NamesThreshold text) :
    ∀ c ∈ text, c ≠ '=' ∧ Text.isBlank c = false := by
  have visible : ∀ c : Char, c.toNat ≠ 61 → 33 ≤ c.toNat → c.toNat ≤ 126 →
      c ≠ '=' ∧ Text.isBlank c = false := by
    intro c differs low high
    constructor
    · rintro rfl
      exact differs rfl
    · simp only [Text.isBlank, Bool.or_eq_false_iff, Bool.and_eq_false_iff,
        decide_eq_false_iff_not, beq_eq_false_iff_ne]
      omega
  intro c inText
  cases named with
  | word known same =>
      rcases toLower_cases c with upper | kept
      · exact visible c (by omega) (by omega) (by omega)
      · have inWord : c ∈ _ := same ▸ kept ▸ List.mem_map_of_mem (f := Char.toLower) inText
        have letter := letter_of_known known inWord
        exact visible c (by omega) (by omega) (by omega)
  | number spelled small =>
      obtain ⟨signed, -, areDigits⟩ := spelled
      have signOrDigit : c = '+' ∨ c.isDigit = true := by
        rcases signed with rfl | rfl
        · exact .inr (areDigits c inText)
        · rcases List.mem_cons.mp inText with rfl | inDigits
          · exact .inl rfl
          · exact .inr (areDigits c inDigits)
      rcases signOrDigit with rfl | isDigit
      · decide
      · have digit := Text.isDigit_bounds c isDigit
        exact visible c (by omega) (by omega) (by omega)

end Replug.Log
