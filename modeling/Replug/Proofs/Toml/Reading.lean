import Replug.Toml.Grammar

/-!
# What readers let through

Whatever the spelling, every whole number in a document that was read fits into 64 bits with a sign.
The readers are taken one by one, from a scalar to the lines of a document.
-/

set_option autoImplicit false

namespace Replug.Toml

def Scalar.Fits : Scalar → Prop
  | .integer n => fitsWord n = true
  | .text _ | .fraction _ | .boolean _ | .moment => True

/-- All whole numbers in a value fit. -/
inductive Value.Fits : Value → Prop where
  | scalar {span : Span} {s : Scalar} (fits : s.Fits) : Fits (.scalar span s)
  | array {span : Span} {items : List Value} (all : ∀ item ∈ items, item.Fits) :
    Fits (.array span items)
  | inlineTable {span : Span} {entries : List Entry} (all : ∀ e ∈ entries, Fits e.2) :
    Fits (.inlineTable span entries)

structure Document.Fits (d : Document) : Prop where
  top : ∀ e ∈ d.top, e.2.Fits
  sections : ∀ s ∈ d.sections, ∀ e ∈ s.entries, e.2.Fits

def Reads {α : Type} (read : Reader α) (property : α → Prop) : Prop :=
  ∀ cs a rest, read cs = some (a, rest) → property a

theorem integer_fits : Reads integer fun n => fitsWord n = true := by
  intro cs n rest read
  unfold integer at read
  cases announced : base? cs with
  | none =>
      simp only [announced] at read
      obtain ⟨⟨ds, after⟩, -, read⟩ := Option.bind_eq_some_iff.mp read
      obtain ⟨⟨m, after⟩, -, checked⟩ := Option.bind_eq_some_iff.mp read
      simp only [Option.ite_none_right_eq_some, Option.some.injEq, Prod.mk.injEq] at checked
      obtain ⟨fits, rfl, -⟩ := checked
      exact fits
  | some based =>
      simp only [announced] at read
      obtain ⟨⟨ds, after⟩, -, read⟩ := Option.bind_eq_some_iff.mp read
      obtain ⟨⟨m, after⟩, -, checked⟩ := Option.bind_eq_some_iff.mp read
      simp only [Option.ite_none_right_eq_some, Option.some.injEq, Prod.mk.injEq] at checked
      obtain ⟨fits, rfl, -⟩ := checked
      exact fits

theorem numeric_fits : Reads numeric Scalar.Fits := by
  intro cs s rest read
  simp only [numeric] at read
  split at read
  · cases read
    trivial
  · split at read
    · cases read
      trivial
    · obtain ⟨⟨n, after⟩, isInteger, same⟩ := Option.map_eq_some_iff.mp read
      cases same
      exact integer_fits _ n _ isInteger

theorem wordValue?_fits : Reads wordValue? Scalar.Fits := by
  intro cs s rest read
  unfold wordValue? at read
  split at read
  · cases read
    trivial
  · cases read
    trivial
  · obtain ⟨⟨x, after⟩, -, same⟩ := Option.map_eq_some_iff.mp read
    cases same
    trivial

theorem scalar_fits : Reads scalar Scalar.Fits := by
  intro cs s rest read
  simp only [scalar] at read
  split at read
  · cases read
    trivial
  · split at read
    · next isWord =>
        rw [read] at isWord
        exact wordValue?_fits cs s rest isWord
    · exact numeric_fits cs s rest read

theorem spannedScalar_fits {cs rest : List Char} {v : Value}
    (read : (spanned scalar cs).map (fun ((span, s), rest) => (Value.scalar span s, rest)) =
      some (v, rest)) : v.Fits := by
  obtain ⟨⟨⟨span, s⟩, after⟩, isSpanned, same⟩ := Option.map_eq_some_iff.mp read
  cases same
  obtain ⟨⟨s', after'⟩, isScalar, same⟩ := Option.map_eq_some_iff.mp isSpanned
  cases same
  exact .scalar (scalar_fits cs s rest isScalar)

section Parts

variable {item : Reader Value} (items : Reads item Value.Fits)

include items

theorem arrayItems_fit (fuel : Nat) :
    Reads (arrayItems item fuel) fun vs => ∀ v ∈ vs, v.Fits := by
  induction fuel with
  | zero => intro cs vs rest read; simp [arrayItems] at read
  | succ fuel ih =>
      intro cs vs rest read
      simp only [arrayItems] at read
      split at read
      · cases read
        simp
      · next front =>
          simp only [Option.bind_eq_bind, Option.bind_eq_some_iff] at read
          obtain ⟨⟨v, after⟩, isItem, read⟩ := read
          have fits := items _ v after isItem
          split at read
          · next more =>
              obtain ⟨⟨others, last⟩, isMore, same⟩ := Option.bind_eq_some_iff.mp read
              cases same
              exact List.forall_mem_cons.mpr ⟨fits, ih _ others _ isMore⟩
          · cases read
            simpa using fits
          · cases read

theorem entry_fits : Reads (entry item) fun e => e.2.Fits := by
  intro cs e rest read
  simp only [entry, Option.bind_eq_bind, Option.bind_eq_some_iff] at read
  obtain ⟨⟨path, after⟩, -, read⟩ := read
  split at read
  · obtain ⟨⟨v, last⟩, isItem, same⟩ := Option.bind_eq_some_iff.mp read
    cases same
    exact items _ v _ isItem
  · cases read

theorem inlineEntries_fit (fuel : Nat) :
    Reads (inlineEntries item fuel) fun es => ∀ e ∈ es, e.2.Fits := by
  induction fuel with
  | zero => intro cs es rest read; simp [inlineEntries] at read
  | succ fuel ih =>
      intro cs es rest read
      simp only [inlineEntries, Option.bind_eq_bind, Option.bind_eq_some_iff] at read
      obtain ⟨⟨first, after⟩, isEntry, read⟩ := read
      have fits := entry_fits items _ first after isEntry
      split at read
      · obtain ⟨⟨others, last⟩, isMore, same⟩ := Option.bind_eq_some_iff.mp read
        cases same
        exact List.forall_mem_cons.mpr ⟨fits, ih _ others _ isMore⟩
      · cases read
        simpa using fits
      · cases read

end Parts

theorem value_fits (depth : Nat) : Reads (value depth) Value.Fits := by
  induction depth with
  | zero =>
      intro cs v rest read
      exact spannedScalar_fits read
  | succ depth ih =>
      intro cs v rest read
      simp only [value] at read
      split at read
      · simp only [Option.bind_eq_bind, Option.bind_eq_some_iff] at read
        obtain ⟨⟨items, after⟩, isArray, same⟩ := read
        cases same
        exact .array (arrayItems_fit ih _ _ items _ isArray)
      · split at read
        · cases read
          exact .inlineTable (by simp)
        · simp only [Option.bind_eq_bind, Option.bind_eq_some_iff] at read
          obtain ⟨⟨entries, after⟩, isTable, same⟩ := read
          cases same
          exact .inlineTable (inlineEntries_fit ih _ _ entries _ isTable)
      · exact spannedScalar_fits read

theorem documentLines_fit (fuel : Nat) (cs : List Char) (d : Document)
    (read : documentLines fuel cs = some d) : d.Fits := by
  induction fuel generalizing cs d with
  | zero => simp [documentLines] at read
  | succ fuel ih =>
      simp only [documentLines] at read
      split at read
      · cases read
        exact ⟨by simp, by simp⟩
      · obtain ⟨rest, -, read⟩ := Option.bind_eq_some_iff.mp read
        exact ih rest d read
      · simp only [Option.bind_eq_bind, Option.bind_eq_some_iff] at read
        obtain ⟨⟨⟨span, path, isItem⟩, after⟩, -, rest, -, later, isLater, same⟩ := read
        cases same
        have fits := ih rest later isLater
        exact ⟨by simp [Document.under], List.forall_mem_cons.mpr ⟨fits.top, fits.sections⟩⟩
      · split at read
        · exact ih _ d read
        · simp only [Option.bind_eq_bind, Option.bind_eq_some_iff] at read
          obtain ⟨⟨e, after⟩, isEntry, rest, -, later, isLater, same⟩ := read
          cases same
          have fits := ih rest later isLater
          have first := entry_fits (value_fits deepestNesting) _ e after isEntry
          exact ⟨List.forall_mem_cons.mpr ⟨first, fits.top⟩, fits.sections⟩

theorem document?_fits (cs : List Char) (d : Document) (read : document? cs = some d) : d.Fits :=
  documentLines_fit _ cs d read

end Replug.Toml
