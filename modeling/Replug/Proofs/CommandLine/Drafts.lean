import Mathlib.Data.List.Basic
import Replug.CommandLine.Arguments

/-!
# What a draft takes

A draft takes a value for a setting if it has none for it yet and the value reads as one of its kind.
So of several values that it takes, no two are for one setting, and afterwards it has what it had
before and these.
-/

set_option autoImplicit false

namespace Replug.CommandLine

variable {d d' : Draft} {setting : Setting} {value : Bytes} {items : List (Setting × Bytes)}

theorem bind_eq_ok_iff {ε α β : Type} {x : Except ε α} {next : α → Except ε β} {b : β} :
    (x >>= next) = .ok b ↔ ∃ a, x = .ok a ∧ next a = .ok b := by
  cases x with
  | error fault => simp [bind, Except.bind]
  | ok a => simp [bind, Except.bind]

namespace Draft

theorem textOf_eq_ok_iff {s : String} : textOf value = .ok s ↔ value.text? = some s := by
  unfold textOf
  cases value.text? with
  | none => simp
  | some t => simp

theorem filled_eq_ok_iff {v : Bytes} : filled setting value = .ok v ↔ value ≠ [] ∧ v = value := by
  unfold filled
  cases value with
  | nil => simp
  | cons b rest => simp [eq_comm]

theorem numberOf_eq_ok_iff {n : UInt64} : numberOf setting value = .ok n ↔
    ∃ s m, value.text? = some s ∧ Text.number s.toList = .ok m ∧ n = .ofNat m := by
  unfold numberOf
  rw [bind_eq_ok_iff]
  constructor
  · rintro ⟨s, isText, reads⟩
    cases number : Text.number s.toList with
    | error fault =>
        rw [number] at reads
        cases reads
    | ok m =>
        rw [number] at reads
        cases reads
        exact ⟨s, m, textOf_eq_ok_iff.mp isText, number, rfl⟩
  · rintro ⟨s, m, isText, number, rfl⟩
    refine ⟨s, textOf_eq_ok_iff.mpr isText, ?_⟩
    rw [number]

/-! The four ways in which a value becomes part of a draft. -/

theorem with_text {fill : String → Draft} : (do return fill (← textOf value)) = .ok d' ↔
    ∃ s, value.text? = some s ∧ d' = fill s := by
  rw [bind_eq_ok_iff]
  constructor
  · rintro ⟨s, isText, same⟩
    exact ⟨s, textOf_eq_ok_iff.mp isText, (Except.ok.inj same).symm⟩
  · rintro ⟨s, isText, rfl⟩
    exact ⟨s, textOf_eq_ok_iff.mpr isText, rfl⟩

theorem with_filledText {fill : String → Draft} :
    (do return fill (← textOf (← filled setting value))) = .ok d' ↔
      ∃ s, value ≠ [] ∧ value.text? = some s ∧ d' = fill s := by
  rw [bind_eq_ok_iff]
  constructor
  · rintro ⟨v, spelled, rest⟩
    obtain ⟨notEmpty, rfl⟩ := filled_eq_ok_iff.mp spelled
    obtain ⟨s, isText, same⟩ := with_text.mp rest
    exact ⟨s, notEmpty, isText, same⟩
  · rintro ⟨s, notEmpty, isText, same⟩
    exact ⟨value, filled_eq_ok_iff.mpr ⟨notEmpty, rfl⟩, with_text.mpr ⟨s, isText, same⟩⟩

theorem with_filled {fill : Bytes → Draft} : (do return fill (← filled setting value)) = .ok d' ↔
    value ≠ [] ∧ d' = fill value := by
  rw [bind_eq_ok_iff]
  constructor
  · rintro ⟨v, spelled, same⟩
    obtain ⟨notEmpty, rfl⟩ := filled_eq_ok_iff.mp spelled
    exact ⟨notEmpty, (Except.ok.inj same).symm⟩
  · rintro ⟨notEmpty, rfl⟩
    exact ⟨value, filled_eq_ok_iff.mpr ⟨notEmpty, rfl⟩, rfl⟩

theorem with_number {fill : UInt64 → Draft} : (do return fill (← numberOf setting value)) = .ok d' ↔
    ∃ s n, value.text? = some s ∧ Text.number s.toList = .ok n ∧ d' = fill (.ofNat n) := by
  rw [bind_eq_ok_iff]
  constructor
  · rintro ⟨n, reads, same⟩
    obtain ⟨s, m, isText, number, rfl⟩ := numberOf_eq_ok_iff.mp reads
    exact ⟨s, m, isText, number, (Except.ok.inj same).symm⟩
  · rintro ⟨s, m, isText, number, rfl⟩
    exact ⟨_, numberOf_eq_ok_iff.mpr ⟨s, m, isText, number, rfl⟩, rfl⟩

end Draft

inductive Takes (d : Draft) : Setting → Bytes → Draft → Prop
  | remote {value : Bytes} {s : String} (unset : d.has .remote = false) (filled : value ≠ [])
    (isText : value.text? = some s) : Takes d .remote value { d with remote := some s }
  | busId {value : Bytes} {s : String} (unset : d.has .busId = false) (filled : value ≠ [])
    (isText : value.text? = some s) : Takes d .busId value { d with busId := some s }
  | maxDelay {value : Bytes} {s : String} {n : Nat} (unset : d.has .maxDelay = false)
    (isText : value.text? = some s) (number : Text.number s.toList = .ok n) :
    Takes d .maxDelay value { d with maxDelay := some (.ofNat n) }
  | program {value : Bytes} (unset : d.has .program = false) (filled : value ≠ []) :
    Takes d .program value { d with program := some ⟨value⟩ }
  | count {value : Bytes} {s : String} {n : Nat} (unset : d.has .count = false)
    (isText : value.text? = some s) (number : Text.number s.toList = .ok n) :
    Takes d .count value { d with count := some (.ofNat n) }
  | config {value : Bytes} (unset : d.has .config = false) (filled : value ≠ []) :
    Takes d .config value { d with config := some ⟨value⟩ }
  | saveConfig {value : Bytes} (unset : d.has .saveConfig = false) :
    Takes d .saveConfig value { d with saveConfig := true }
  | logLevel {value : Bytes} {s : String} (unset : d.has .logLevel = false)
    (isText : value.text? = some s) : Takes d .logLevel value { d with logLevel := some s }

theorem Takes.unset (takes : Takes d setting value d') : d.has setting = false := by
  cases takes <;> assumption

theorem Takes.has_iff (takes : Takes d setting value d') (other : Setting) :
    d'.has other = true ↔ other = setting ∨ d.has other = true := by
  cases takes <;> cases other <;> simp [Draft.has]

theorem setOnce_eq_ok_iff : d.setOnce setting value = .ok d' ↔ Takes d setting value d' := by
  unfold Draft.setOnce
  constructor
  · intro sets
    split at sets
    · cases sets
    · next notSet =>
        have unset : d.has setting = false := by simpa using notSet
        cases setting with
        | remote =>
            obtain ⟨s, filled, isText, rfl⟩ := Draft.with_filledText.mp sets
            exact .remote unset filled isText
        | busId =>
            obtain ⟨s, filled, isText, rfl⟩ := Draft.with_filledText.mp sets
            exact .busId unset filled isText
        | maxDelay =>
            obtain ⟨s, n, isText, number, rfl⟩ := Draft.with_number.mp sets
            exact .maxDelay unset isText number
        | program =>
            obtain ⟨filled, rfl⟩ := Draft.with_filled.mp sets
            exact .program unset filled
        | count =>
            obtain ⟨s, n, isText, number, rfl⟩ := Draft.with_number.mp sets
            exact .count unset isText number
        | config =>
            obtain ⟨filled, rfl⟩ := Draft.with_filled.mp sets
            exact .config unset filled
        | saveConfig =>
            cases sets
            exact .saveConfig unset
        | logLevel =>
            obtain ⟨s, isText, rfl⟩ := Draft.with_text.mp sets
            exact .logLevel unset isText
  · intro takes
    rw [if_neg (by simp [takes.unset])]
    cases takes with
    | remote _ filled isText => exact Draft.with_filledText.mpr ⟨_, filled, isText, rfl⟩
    | busId _ filled isText => exact Draft.with_filledText.mpr ⟨_, filled, isText, rfl⟩
    | maxDelay _ isText number => exact Draft.with_number.mpr ⟨_, _, isText, number, rfl⟩
    | program _ filled => exact Draft.with_filled.mpr ⟨filled, rfl⟩
    | count _ isText number => exact Draft.with_number.mpr ⟨_, _, isText, number, rfl⟩
    | config _ filled => exact Draft.with_filled.mpr ⟨filled, rfl⟩
    | saveConfig => rfl
    | logLevel _ isText => exact Draft.with_text.mpr ⟨_, isText, rfl⟩

inductive TakesAll : Draft → List (Setting × Bytes) → Draft → Prop
  | nil {d : Draft} : TakesAll d [] d
  | cons {d next d' : Draft} {setting : Setting} {value : Bytes} {items : List (Setting × Bytes)}
    (first : Takes d setting value next) (others : TakesAll next items d') :
    TakesAll d ((setting, value) :: items) d'

namespace TakesAll

theorem has_iff (takes : TakesAll d items d') (other : Setting) :
    d'.has other = true ↔ other ∈ items.map Prod.fst ∨ d.has other = true := by
  induction takes with
  | nil => simp
  | cons first others ih =>
      rw [ih, first.has_iff, List.map_cons, List.mem_cons]
      exact or_left_comm.trans or_assoc.symm

theorem unset (takes : TakesAll d items d') : ∀ s ∈ items.map Prod.fst, d.has s = false := by
  induction takes with
  | nil => simp
  | cons first others ih =>
      intro s member
      rcases List.mem_cons.mp member with rfl | later
      · exact first.unset
      · have notYet := ih s later
        rw [Bool.eq_false_iff] at notYet ⊢
        intro already
        exact notYet ((first.has_iff s).mpr (Or.inr already))

theorem distinct (takes : TakesAll d items d') : (items.map Prod.fst).Nodup := by
  induction takes with
  | nil => exact List.nodup_nil
  | cons first others ih =>
      rw [List.map_cons, List.nodup_cons]
      refine ⟨fun again => ?_, ih⟩
      have set := (first.has_iff _).mpr (Or.inl rfl)
      rw [others.unset _ again] at set
      cases set

theorem each (takes : TakesAll d items d') (member : (setting, value) ∈ items) :
    ∃ before after, Takes before setting value after := by
  induction takes with
  | nil => cases member
  | cons first others ih =>
      rcases List.mem_cons.mp member with same | later
      · cases same
        exact ⟨_, _, first⟩
      · exact ih later

end TakesAll

end Replug.CommandLine
