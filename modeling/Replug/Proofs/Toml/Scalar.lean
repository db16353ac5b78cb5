import Replug.Proofs.Text.Numbers
import Replug.Proofs.Toml.Quoting
import Replug.Toml.Grammar

/-!
# Scalars read back

`Spells cs v` says that a value is written as `cs` at the end of a line.  It holds of what is
written for a text, and of the decimal digits of a number that fits into a document.  The latter
takes more than reading digits: a run of digits also begins dates, times and numbers with a
fraction, and none of those readers may take it.
-/

set_option autoImplicit false

namespace Replug.Toml

/-- A value is written like this at the end of a line. -/
structure Spells (cs : List Char) (v : Scalar) : Prop where
  reads : ∀ rest, scalar (cs ++ '\n' :: rest) = some (v, '\n' :: rest)
  starts : ∃ c others, cs = c :: others ∧ c ≠ '[' ∧ c ≠ '\x7b' ∧ isBlank c = false

theorem spells_written (s : String) : Spells (written s.toList) (.text s) where
  reads rest := by
    have ends : ('\n' :: rest).head? ≠ some (formFor s.toList).quote := by
      cases formFor s.toList <;> simp [Form.quote]
    simp [scalar, quoted_written s.toList ('\n' :: rest) ends]
  starts := by
    have quoteStarts : ∀ f : Form, f.quote ≠ '[' ∧ f.quote ≠ '\x7b' ∧ isBlank f.quote = false := by
      intro f
      cases f <;> decide
    have opens : ∀ f : Form, ∃ others, f.delimiter = f.quote :: others := by
      intro f
      cases f <;> exact ⟨_, rfl⟩
    obtain ⟨others, opening⟩ := opens (formFor s.toList)
    simp only [written, opening, List.cons_append]
    exact ⟨_, _, rfl, quoteStarts _⟩

/-! ## Runs of digits -/

def digitValue (c : Char) : Nat := c.toNat - '0'.toNat

theorem digit_ne (c d : Char) (digit : c.isDigit = true) (other : d.isDigit = false) : c ≠ d := by
  intro same
  rw [same, other] at digit
  cases digit

theorem digitIn?_digit (c : Char) (digit : c.isDigit = true) :
    digitIn? 10 c = some (digitValue c) := by
  have bounds := Text.isDigit_bounds c digit
  have low : '0' ≤ c := bounds.1
  have high : c ≤ '9' := bounds.2
  have small : c.toNat - 48 < 10 := by omega
  simp [digitIn?, hexDigit?, low, high, digitValue, small]

theorem moreDigits_append (ds rest : List Char) (digits : ∀ c ∈ ds, c.isDigit = true) :
    moreDigits 10 (ds ++ '\n' :: rest) = (ds.map digitValue, '\n' :: rest) := by
  induction ds with
  | nil =>
    have lineEnd : digitIn? 10 '\n' = none := by decide
    simp [moreDigits, lineEnd]
  | cons c ds ih =>
    have digit := digits c (by simp)
    have notUnderscore := digit_ne c '_' digit rfl
    have tail := ih fun d member => digits d (List.mem_cons_of_mem c member)
    rw [List.cons_append]
    unfold moreDigits
    split
    · next same => exact absurd same (by simp)
    · next same => exact absurd (List.cons.inj same).1 notUnderscore
    · next same =>
      obtain ⟨rfl, rfl⟩ := List.cons.inj same
      simp [digitIn?_digit c digit, tail]

theorem digits_append (c : Char) (ds rest : List Char)
    (allDigits : ∀ d ∈ c :: ds, d.isDigit = true) :
    digits 10 (c :: ds ++ '\n' :: rest) = some ((c :: ds).map digitValue, '\n' :: rest) := by
  have digit := allDigits c (by simp)
  have tail := moreDigits_append ds rest fun d member => allDigits d (List.mem_cons_of_mem c member)
  simp [digits, digitIn?_digit c digit, tail]

theorem fixedDigits_append (n : Nat) (ds rest : List Char) (v : Nat) (left : List Char)
    (read : fixedDigits n (ds ++ '\n' :: rest) = some (v, left)) :
    left = ds.drop n ++ '\n' :: rest := by
  induction n generalizing ds v left with
  | zero =>
    simp [fixedDigits] at read
    simp [read.2]
  | succ n ih =>
    cases ds with
    | nil =>
      have lineEnd : isDigit '\n' = false := by decide
      simp [fixedDigits, lineEnd] at read
    | cons c ds =>
      simp only [List.cons_append, fixedDigits] at read
      split at read
      · obtain ⟨⟨v', left'⟩, tail, same⟩ := Option.map_eq_some_iff.mp read
        have leftIs : left' = left := congrArg Prod.snd same
        rw [← leftIs, List.drop_succ_cons]
        exact ih ds v' left' tail
      · cases read

/-- Digits at the end of a line are not followed by a sign that would make them part of a date or
a time. -/
theorem expect_after_digits (sign : Char) (ds rest : List Char) (n : Nat)
    (digits : ∀ c ∈ ds, c.isDigit = true) (notDigit : sign.isDigit = false)
    (notLineEnd : '\n' ≠ sign) : expect sign (ds.drop n ++ '\n' :: rest) = none := by
  cases left : ds.drop n with
  | nil => simp [expect, notLineEnd]
  | cons c others =>
    have member : c ∈ ds := List.mem_of_mem_drop (by rw [left]; simp)
    simp [expect, digit_ne c sign (digits c member) notDigit]

theorem date_digits (ds rest : List Char) (digits : ∀ c ∈ ds, c.isDigit = true) :
    date (ds ++ '\n' :: rest) = none := by
  cases read : fixedDigits 4 (ds ++ '\n' :: rest) with
  | none => simp [date, read]
  | some pair =>
    obtain ⟨v, left⟩ := pair
    have leftIs := fixedDigits_append 4 ds rest v left read
    subst leftIs
    simp [date, read, expect_after_digits '-' ds rest 4 digits rfl (by decide)]

theorem timeOfDay_digits (ds rest : List Char) (digits : ∀ c ∈ ds, c.isDigit = true) :
    timeOfDay (ds ++ '\n' :: rest) = none := by
  cases read : fixedDigits 2 (ds ++ '\n' :: rest) with
  | none => simp [timeOfDay, read]
  | some pair =>
    obtain ⟨v, left⟩ := pair
    have leftIs := fixedDigits_append 2 ds rest v left read
    subst leftIs
    simp [timeOfDay, read, expect_after_digits ':' ds rest 2 digits rfl (by decide)]

/-! ## Decimal numbers -/

theorem toDigits_starts_with_zero (n : Nat) (others : List Char)
    (starts : Nat.toDigits 10 n = '0' :: others) : n = 0 := by
  induction n using Nat.strongRecOn generalizing others with
  | _ n ih =>
    by_cases small : n < 10
    · rw [Nat.toDigits_of_lt_base small] at starts
      exact Nat.digitChar_eq_zero.mp (List.cons.inj starts).1
    · rw [Nat.toDigits_of_base_le (by decide) (by omega)] at starts
      cases front : Nat.toDigits 10 (n / 10) with
      | nil => exact absurd front Nat.toDigits_ne_nil
      | cons c more =>
        rw [front, List.cons_append] at starts
        have zero : n / 10 = 0 := ih (n / 10) (by omega) more (by rw [front, (List.cons.inj starts).1])
        omega

theorem valueOf_digitValue (ds : List Char) :
    valueOf 10 (ds.map digitValue) = Nat.ofDigitChars 10 ds 0 := by
  simp only [valueOf, Nat.ofDigitChars, List.foldl_map, digitValue]
  congr 1
  funext n c
  rw [Nat.mul_comm]

theorem isDigit_of_mem_decimal (n : Nat) : ∀ c ∈ Nat.toDigits 10 n, c.isDigit = true :=
  fun _ member => Nat.isDigit_of_mem_toDigits (by decide) (by decide) member

theorem decimalDigits_decimal (n : Nat) (rest : List Char) :
    decimalDigits (Nat.toDigits 10 n ++ '\n' :: rest) =
      some ((Nat.toDigits 10 n).map digitValue, '\n' :: rest) := by
  cases digits : Nat.toDigits 10 n with
  | nil => exact absurd digits Nat.toDigits_ne_nil
  | cons c ds =>
    by_cases zero : c = '0'
    · rw [zero] at digits
      have isZero := toDigits_starts_with_zero n ds digits
      rw [isZero, Nat.toDigits_zero] at digits
      obtain ⟨-, rfl⟩ := List.cons.inj digits
      subst zero
      rfl
    · have allDigits := isDigit_of_mem_decimal n
      rw [digits] at allDigits
      rw [← digits_append c ds rest allDigits]
      unfold decimalDigits
      split
      · next same => exact absurd (List.cons.inj same).1 zero
      · rfl

theorem base?_decimal (n : Nat) (rest : List Char) :
    base? (Nat.toDigits 10 n ++ '\n' :: rest) = none := by
  cases digits : Nat.toDigits 10 n with
  | nil => exact absurd digits Nat.toDigits_ne_nil
  | cons c ds =>
    by_cases zero : c = '0'
    · rw [zero] at digits
      have isZero := toDigits_starts_with_zero n ds digits
      rw [isZero, Nat.toDigits_zero] at digits
      obtain ⟨-, rfl⟩ := List.cons.inj digits
      subst zero
      rfl
    · unfold base?
      split <;> simp_all

theorem sign_of_head (c : Char) (rest : List Char) (notMinus : c ≠ '-') (notPlus : c ≠ '+') :
    sign (c :: rest) = (false, c :: rest) := by
  unfold sign
  split <;> simp_all

/-- The front of a number, a digit, begins nothing but numbers, dates and times. -/
theorem scalar_of_digit (c : Char) (rest : List Char) (digit : c.isDigit = true) :
    scalar (c :: rest) = numeric (c :: rest) := by
  have other : ∀ d : Char, d.isDigit = false → c ≠ d := fun d => digit_ne c d digit
  have noQuote : quoted (c :: rest) = none := by
    have notDouble := other '"' rfl
    have notSingle := other '\'' rfl
    have unopened : opening? (c :: rest) = none := by
      unfold opening?
      split <;> simp_all
    simp [quoted, unopened]
  have noWord : wordValue? (c :: rest) = none := by
    have notTrue := other 't' rfl
    have notFalse := other 'f' rfl
    have notInfinite := other 'i' rfl
    have notNumber := other 'n' rfl
    have unsigned := sign_of_head c rest (other '-' rfl) (other '+' rfl)
    have notSpelledOut : spelledOut (c :: rest) = none := by
      unfold spelledOut
      rw [unsigned]
      split <;> simp_all
    unfold wordValue?
    split <;> simp_all
  simp [scalar, noQuote, noWord]

/-- The bounds of a word are too great to be unfolded, so the last test is passed by hand. -/
theorem integer_of_digits (cs rest : List Char) (ds : List Nat) (noBase : base? cs = none)
    (unsigned : sign cs = (false, cs)) (read : decimalDigits cs = some (ds, rest))
    (fits : fitsWord (valueOf 10 ds) = true) : integer cs = some ((valueOf 10 ds : Int), rest) := by
  unfold integer
  simp only [noBase, unsigned]
  refine Option.bind_eq_some_iff.mpr ⟨(ds, rest), read, ?_⟩
  exact Option.bind_eq_some_iff.mpr ⟨((valueOf 10 ds : Int), rest), rfl, if_pos fits⟩

theorem numeric_decimal (n : Nat) (rest : List Char) (fits : fitsWord n = true) :
    numeric (Nat.toDigits 10 n ++ '\n' :: rest) = some (.integer n, '\n' :: rest) := by
  have allDigits := isDigit_of_mem_decimal n
  have noMoment : moment (Nat.toDigits 10 n ++ '\n' :: rest) = none := by
    simp [moment, date_digits _ rest allDigits, timeOfDay_digits _ rest allDigits]
  have unsigned : sign (Nat.toDigits 10 n ++ '\n' :: rest) =
      (false, Nat.toDigits 10 n ++ '\n' :: rest) := by
    cases digits : Nat.toDigits 10 n with
    | nil => exact absurd digits Nat.toDigits_ne_nil
    | cons c ds =>
      have digit : c.isDigit = true := allDigits c (by simp [digits])
      exact sign_of_head c _ (digit_ne c '-' digit rfl) (digit_ne c '+' digit rfl)
  have noFraction : fractional (Nat.toDigits 10 n ++ '\n' :: rest) = none := by
    simp [fractional, unsigned, decimalDigits_decimal, places, exponent]
  have whole : integer (Nat.toDigits 10 n ++ '\n' :: rest) = some ((n : Int), '\n' :: rest) := by
    have valueIs : valueOf 10 ((Nat.toDigits 10 n).map digitValue) = n := by
      rw [valueOf_digitValue, Nat.ofDigitChars_ten_toDigits]
    have read := integer_of_digits _ _ _ (base?_decimal n rest) unsigned
      (decimalDigits_decimal n rest)
    rw [valueIs] at read
    exact read fits
  simp [numeric, noMoment, noFraction, whole]

theorem spells_decimal (n : Nat) (fits : fitsWord n = true) :
    Spells (Nat.toDigits 10 n) (.integer n) := by
  have read := fun rest => numeric_decimal n rest fits
  have allDigits := isDigit_of_mem_decimal n
  cases digits : Nat.toDigits 10 n with
  | nil => exact absurd digits Nat.toDigits_ne_nil
  | cons c ds =>
    rw [digits] at read allDigits
    have digit := allDigits c (by simp)
    refine ⟨fun rest => ?_, c, ds, rfl, digit_ne c '[' digit rfl, digit_ne c '\x7b' digit rfl, ?_⟩
    · rw [List.cons_append, scalar_of_digit c _ digit]
      exact read rest
    · simp [isBlank, digit_ne c ' ' digit rfl, digit_ne c '\t' digit rfl]

end Replug.Toml
