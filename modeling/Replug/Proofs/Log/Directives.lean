import Replug.Proofs.Log.Layouts
import Replug.Proofs.Log.Thresholds

/-!
# Which texts are filters

A text is a filter if each of its pieces between commas is empty or a directive.  The parts of a
directive are found with white space around it passed over, and are cut out with it: what stands at
the same places of the whole piece is what is read.  So each part must be there to be cut out, a
field may demand no value but one that is a pattern, and a level must be one.
-/

set_option autoImplicit false

namespace Replug.Log

/-! ## Cutting parts out -/

/-- Where a part stands behind some front in another text, a part of the same length stands in a
text, between two of its characters. -/
def CutOut (text front part cut : List Char) : Prop :=
  ∃ before after, text = before ++ (cut ++ after) ∧ byteLength before = byteLength front ∧
    byteLength cut = byteLength part

/-- What stands in a text behind as much as some front. -/
def CutOff (text front cut : List Char) : Prop :=
  ∃ before, text = before ++ cut ∧ byteLength before = byteLength front

section Cuts

variable {text front part cut : List Char}

theorem partOf_eq_ok_iff : partOf text (byteLength front, byteLength front + byteLength part) =
    .ok cut ↔ CutOut text front part cut := by
  unfold partOf
  rw [Nat.add_sub_cancel_left]
  constructor
  · intro reads
    split at reads
    · next found after taken =>
        cases reads
        obtain ⟨⟨before, rest⟩, first, second⟩ := Option.bind_eq_some_iff.mp taken
        obtain ⟨rfl, start⟩ := cutAfter?_eq_some_iff.mp first
        obtain ⟨rfl, length⟩ := cutAfter?_eq_some_iff.mp second
        exact ⟨before, after, rfl, start, length⟩
    · cases reads
  · rintro ⟨before, after, rfl, start, length⟩
    simp [← start, ← length, cutAfter?_append]

theorem endOf_eq_ok_iff : endOf text (byteLength front) = .ok cut ↔ CutOff text front cut := by
  unfold endOf
  constructor
  · intro reads
    split at reads
    · next before after taken =>
        cases reads
        exact ⟨before, cutAfter?_eq_some_iff.mp taken⟩
    · cases reads
  · rintro ⟨before, rfl, start⟩
    simp [← start, cutAfter?_append]

end Cuts

/-! ## What is read -/

section Answers

variable {ε α β : Type}

theorem isOk_iff {x : Except ε α} : x.isOk ↔ ∃ a, x = .ok a := by
  cases x <;> simp [Except.isOk, Except.toBool]

theorem isOk_bind_iff (x : Except ε α) (f : α → Except ε β) :
    (x >>= f).isOk ↔ ∃ a, x = .ok a ∧ (f a).isOk := by
  cases x <;> simp [bind, Except.bind, Except.isOk, Except.toBool]

theorem optionMapM_isOk_iff (o : Option α) (f : α → Except ε β) :
    (o.mapM f).isOk ↔ ∀ a, o = some a → (f a).isOk := by
  cases o with
  | none => simp [pure, Except.pure, Except.isOk, Except.toBool]
  | some a => cases answer : f a <;>
      simp [answer, Functor.map, Except.map, Except.isOk, Except.toBool]

theorem listMapM_isOk_iff (xs : List α) (f : α → Except ε β) :
    (xs.mapM f).isOk ↔ ∀ x ∈ xs, (f x).isOk := by
  induction xs with
  | nil => simp [pure, Except.pure, Except.isOk, Except.toBool]
  | cons x xs ih =>
      rw [List.mapM_cons, List.forall_mem_cons, ← ih, isOk_bind_iff, isOk_iff]
      cases xs.mapM f <;> simp [bind, Except.bind, pure, Except.pure, Except.isOk, Except.toBool]

end Answers

theorem pieces_eq_splitOn (sign : Char) (text : List Char) : pieces sign text = text.splitOn sign := by
  unfold List.splitOn
  induction text with
  | nil => simp [pieces]
  | cons c cs ih =>
      rw [List.splitOnP_cons_eq_if_modifyHead, pieces, ih]
      by_cases isSign : c = sign
      · simp [isSign]
      · obtain ⟨piece, more, split⟩ :=
          List.exists_cons_of_ne_nil (List.splitOnP_ne_nil (fun x => x == sign) cs)
        simp [isSign, split]

/-- A field may be demanded with a value that is a pattern, or with none.  The value is what stands
between the first two equals signs. -/
def Demandable (patterns : Patterns) (field : List Char) : Prop :=
  ∀ value, (field.splitOn '=')[1]? = some value → patterns (String.ofList value) = none

theorem FieldDemand.parse_isOk_iff (patterns : Patterns) (field : List Char) :
    (FieldDemand.parse patterns field).isOk ↔ Demandable patterns field := by
  unfold FieldDemand.parse Demandable
  rw [pieces_eq_splitOn]
  split
  · next empty => simp [empty, Except.isOk, Except.toBool]
  · next name single => simp [single, Except.isOk, Except.toBool]
  · next name value more several =>
      cases accepted : patterns (String.ofList value) <;>
        simp [several, accepted, Except.isOk, Except.toBool]

theorem parseEnd_isOk_iff (text : List Char) :
    (Threshold.parseEnd text).isOk ↔ text = [] ∨ NamesThreshold text := by
  cases text with
  | nil => simp [Threshold.parseEnd, Except.isOk, Except.toBool]
  | cons c cs =>
      rw [← parse?_isSome_iff]
      cases found : Threshold.parse? (c :: cs) <;>
        simp [Threshold.parseEnd, found, Except.isOk, Except.toBool]

theorem ofParts_isOk_iff (patterns : Patterns) (text : List Char) (l : Layout) :
    (Directive.ofParts patterns text l).isOk ↔
      (∀ stop, l.target = some stop → (partOf text (0, stop)).isOk) ∧
      (∀ place, l.span = some place → (partOf text place).isOk) ∧
      (∀ place, l.field = some place → ∃ cut, partOf text place = .ok cut ∧
        (FieldDemand.parse patterns cut).isOk) ∧
      l.closed = true ∧
      (∀ start, l.level = some start → ∃ cut, endOf text start = .ok cut ∧
        (Threshold.parseEnd cut).isOk) := by
  -- The level is read last, and only of a directive that is whole.
  have last (target span : Option (List Char)) (field : Option FieldDemand) :
      (if l.closed then do
          let level ← l.level.mapM (endOf text)
          let threshold ← Threshold.parseEnd (level.getD [])
          return ⟨target, span.filter fun name => name ≠ [] || field.isNone, field, threshold⟩
        else throw .directive : Except FilterFault Directive).isOk ↔
      l.closed = true ∧ ∀ start, l.level = some start → ∃ cut, endOf text start = .ok cut ∧
        (Threshold.parseEnd cut).isOk := by
    have returned (d : Directive) : (pure d : Except FilterFault Directive).isOk = true := rfl
    cases l.closed with
    | false => simp [throw, throwThe, MonadExceptOf.throw, Except.isOk, Except.toBool]
    | true =>
        simp only [if_true, isOk_bind_iff, returned, and_true, ← isOk_iff, true_and]
        cases l.level with
        | none => simp [pure, Except.pure, parseEnd_isOk_iff]
        | some start =>
            cases reads : endOf text start <;> simp [reads, Functor.map, Except.map]
  simp only [Directive.ofParts, isOk_bind_iff, last, exists_and_right, ← isOk_iff,
    optionMapM_isOk_iff]

/-! ## Directives -/

/-- The parts of a directive can be cut out of a text, and those that must mean something do. -/
structure Spelling.Readable (patterns : Patterns) (text : List Char) (s : Spelling) : Prop where
  target : ∀ target, s.target = some target → ∃ cut, CutOut text [] target cut
  name : ∀ name field, s.brackets = some (name, field) → ∃ cut, CutOut text s.beforeName name cut
  field : ∀ name field, s.brackets = some (name, some field) →
    ∃ cut, CutOut text (s.beforeField name) field cut ∧ Demandable patterns cut
  level : ∀ level, s.level = some level →
    ∃ cut, CutOff text (s.beforeLevel ++ ['=']) cut ∧ (cut = [] ∨ NamesThreshold cut)

/-- A text is a directive.  One of a single part may be any target. -/
def IsDirective (patterns : Patterns) (text : List Char) : Prop :=
  ∃ s : Spelling, s.Proper ∧ s.text = Text.trimmed text ∧ (s.Single ∨ s.Readable patterns text)

section Directives

variable {patterns : Patterns} {text : List Char} {s : Spelling}

theorem isSingle_layout_iff : s.layout.isSingle = true ↔ s.Single := by
  obtain ⟨target, brackets, level⟩ := s
  cases brackets <;> cases level <;>
    simp [Spelling.layout, Layout.isSingle, Spelling.Single]

theorem ofParts_layout_isOk_iff (several : ¬ s.Single) :
    (Directive.ofParts patterns text s.layout).isOk ↔ s.Readable patterns text := by
  have target_iff : (∀ stop, s.layout.target = some stop → (partOf text (0, stop)).isOk) ↔
      ∀ target, s.target = some target → ∃ cut, CutOut text [] target cut := by
    have laid : s.layout.target = s.target.map byteLength := by
      refine if_neg fun single => several ?_
      simpa [Spelling.Single] using single
    simp only [← partOf_eq_ok_iff, byteLength_nil, Nat.zero_add, ← isOk_iff]
    cases given : s.target <;> simp [laid, given]
  have name_iff : (∀ place, s.layout.span = some place → (partOf text place).isOk) ↔
      ∀ name field, s.brackets = some (name, field) → ∃ cut, CutOut text s.beforeName name cut := by
    simp only [← partOf_eq_ok_iff, ← isOk_iff]
    rcases given : s.brackets with _ | ⟨name, field⟩ <;> simp [Spelling.layout, given]
  have field_iff : (∀ place, s.layout.field = some place → ∃ cut, partOf text place = .ok cut ∧
        (FieldDemand.parse patterns cut).isOk) ↔
      ∀ name field, s.brackets = some (name, some field) →
        ∃ cut, CutOut text (s.beforeField name) field cut ∧ Demandable patterns cut := by
    simp only [← partOf_eq_ok_iff, FieldDemand.parse_isOk_iff]
    rcases given : s.brackets with _ | ⟨name, _ | field⟩ <;> simp [Spelling.layout, given]
  have level_iff : (∀ start, s.layout.level = some start → ∃ cut, endOf text start = .ok cut ∧
        (Threshold.parseEnd cut).isOk) ↔
      ∀ level, s.level = some level →
        ∃ cut, CutOff text (s.beforeLevel ++ ['=']) cut ∧ (cut = [] ∨ NamesThreshold cut) := by
    have behind : byteLength (s.beforeLevel ++ ['=']) = byteLength s.beforeLevel + 1 :=
      byteLength_append
    simp only [← endOf_eq_ok_iff, parseEnd_isOk_iff, behind]
    cases given : s.level <;> simp [Spelling.layout, given]
  rw [ofParts_isOk_iff, target_iff, name_iff, field_iff, level_iff]
  constructor
  · rintro ⟨target, name, field, -, level⟩
    exact ⟨target, name, field, level⟩
  · rintro ⟨target, name, field, level⟩
    exact ⟨target, name, field, rfl, level⟩

theorem Directive.parse_isOk_iff : (Directive.parse patterns text).isOk ↔
    IsDirective patterns text := by
  have single_isOk : (Layout.of (Text.trimmed text)).isSingle = true →
      (Directive.parse patterns text).isOk = true := by
    intro single
    simp only [Directive.parse, single, if_true]
    cases Threshold.parse? text <;> rfl
  have several_eq : (Layout.of (Text.trimmed text)).isSingle = false → Directive.parse patterns text =
      Directive.ofParts patterns text (Layout.of (Text.trimmed text)) := by
    intro several
    simp [Directive.parse, several]
  have notSingle {s : Spelling} (several : ¬ s.Single) : s.layout.isSingle = false :=
    Bool.eq_false_iff.mpr fun single => several (isSingle_layout_iff.mp single)
  constructor
  · intro isOk
    have closed : (Layout.of (Text.trimmed text)).closed = true := by
      cases single : (Layout.of (Text.trimmed text)).isSingle with
      | true => rw [of_decide_eq_true single]
      | false =>
          rw [several_eq single] at isOk
          exact ((ofParts_isOk_iff _ _ _).mp isOk).2.2.2.1
    obtain ⟨s, proper, spells⟩ := Layout.exists_spelling closed
    have laid : Layout.of (Text.trimmed text) = s.layout := spells ▸ Layout.of_text proper
    refine ⟨s, proper, spells, ?_⟩
    rcases Classical.em s.Single with single | several
    · exact .inl single
    · rw [several_eq (laid ▸ notSingle several), laid] at isOk
      exact .inr ((ofParts_layout_isOk_iff several).mp isOk)
  · rintro ⟨s, proper, spells, reads⟩
    have laid : Layout.of (Text.trimmed text) = s.layout := spells ▸ Layout.of_text proper
    rcases Classical.em s.Single with single | several
    · exact single_isOk (laid ▸ isSingle_layout_iff.mpr single)
    · rw [several_eq (laid ▸ notSingle several), laid]
      exact (ofParts_layout_isOk_iff several).mpr (reads.resolve_left several)

end Directives

/-! ## Filters -/

def IsFilter (patterns : Patterns) (text : String) : Prop :=
  ∀ piece ∈ text.toList.splitOn ',', piece ≠ [] → IsDirective patterns piece

theorem Filter.parse_isOk_iff (patterns : Patterns) (text : String) :
    (Filter.parse patterns text).isOk ↔ IsFilter patterns text := by
  have directives : (Filter.parse patterns text).isOk =
      (((pieces ',' text.toList).filter (· ≠ [])).mapM (Directive.parse patterns)).isOk := by
    unfold Filter.parse
    cases ((pieces ',' text.toList).filter (· ≠ [])).mapM (Directive.parse patterns) <;> rfl
  rw [directives, listMapM_isOk_iff, pieces_eq_splitOn]
  simp only [List.mem_filter, decide_eq_true_eq, and_imp, Directive.parse_isOk_iff, IsFilter]

theorem Filter.parse_isSome_iff (patterns : Patterns) (text : String) :
    (Filter.parse patterns text).toOption.isSome ↔ IsFilter patterns text := by
  rw [← Filter.parse_isOk_iff]
  cases Filter.parse patterns text <;> simp [Except.toOption, Except.isOk, Except.toBool]

end Replug.Log
