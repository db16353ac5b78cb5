import Mathlib.Data.List.Nodup
import Mathlib.Data.List.Perm.Basic
import Replug.Proofs.CommandLine.Spelling
import Replug.Proofs.Settings.RoundTrip
import Replug.Proofs.Text.Numbers

/-!
# Arguments written and read back

What arguments say can be written as arguments again: each setting with its value, in any order and
in any of the spellings.  That is read as what it was written for.  Nothing comes out when a setting
is there twice, when host or device is left out, and when one of them is empty.
-/

set_option autoImplicit false

namespace Replug.CommandLine

variable {a : Arguments} {setting : Setting} {value : Bytes} {items : List (Setting × Bytes)}
  {argv : List Bytes}

/-! ## What is written -/

def decimal (n : UInt64) : Bytes := Bytes.ofString (toString n.toNat)

namespace Arguments

def value? (a : Arguments) : Setting → Option Bytes
  | .remote => some (Bytes.ofString a.remote)
  | .busId => some (Bytes.ofString a.busId)
  | .maxDelay => a.maxDelay.map decimal
  | .program => a.program.map Path.bytes
  | .count => a.count.map decimal
  | .config => a.config.map Path.bytes
  | .saveConfig => if a.saveConfig then some [] else none
  | .logLevel => a.logLevel.map Bytes.ofString

def listed (a : Arguments) : List (Setting × Bytes) :=
  [Setting.remote, .busId, .maxDelay, .program, .count, .config, .saveConfig, .logLevel].filterMap
    fun setting => (a.value? setting).map (Prod.mk setting)

/-- None of the values that must not be empty is empty. -/
structure Filled (a : Arguments) : Prop where
  remote : a.remote ≠ ""
  busId : a.busId ≠ ""
  program : a.program ≠ some ⟨[]⟩
  config : a.config ≠ some ⟨[]⟩

def draft (a : Arguments) : Draft :=
  ⟨some a.remote, some a.busId, a.maxDelay, a.program, a.count, a.config, a.saveConfig, a.logLevel⟩

theorem complete_draft (a : Arguments) : a.draft.complete = .ok a := rfl

theorem mem_listed_iff : (setting, value) ∈ a.listed ↔ a.value? setting = some value := by
  unfold listed
  rw [List.mem_filterMap]
  constructor
  · rintro ⟨s, _, written⟩
    obtain ⟨v, isValue, same⟩ := Option.map_eq_some_iff.mp written
    cases same
    exact isValue
  · intro written
    exact ⟨setting, by cases setting <;> decide, by rw [written]; rfl⟩

theorem listed_distinct (a : Arguments) : (a.listed.map Prod.fst).Nodup := by
  have settings : a.listed.map Prod.fst =
      [Setting.remote, .busId, .maxDelay, .program, .count, .config, .saveConfig,
        .logLevel].filter fun s => (a.value? s).isSome := by
    unfold listed
    rw [List.map_filterMap, ← List.filterMap_eq_filter]
    apply List.filterMap_congr
    intro s _
    cases written : a.value? s with
    | none => simp [Option.guard, written]
    | some v => simp [Option.guard, written]
  rw [settings]
  exact List.Nodup.filter _ (by decide)

end Arguments

/-! ## Texts and numbers -/

theorem bytes_text? (s : String) : (Bytes.ofString s).text? = some s :=
  Settings.text?_ofString s

theorem decimal_text? (n : UInt64) : (decimal n).text? = some (toString n.toNat) :=
  bytes_text? _

theorem ofString_eq (s : String) : Bytes.ofString s = s.toList.flatMap String.utf8EncodeChar := by
  have whole : s.toList.utf8Encode = s.toUTF8 := String.utf8Encode_toList
  unfold Bytes.ofString
  rw [← whole]
  simp [List.utf8Encode]

theorem decimal_bare (n : UInt64) : (decimal n).head? ≠ some dash := by
  have digits : (toString n.toNat).toList = Nat.toDigits 10 n.toNat := Nat.toList_repr
  unfold decimal
  rw [ofString_eq, digits]
  cases written : Nat.toDigits 10 n.toNat with
  | nil => exact absurd written Nat.toDigits_ne_nil
  | cons c rest =>
      have isDigit : c.isDigit = true :=
        Toml.isDigit_of_mem_decimal n.toNat c (written ▸ List.mem_cons_self)
      have bounds := Text.isDigit_bounds c isDigit
      have single : String.utf8EncodeChar c = [UInt8.ofNat c.toNat] :=
        if_pos (by show c.toNat ≤ 127; omega)
      rw [List.flatMap_cons, single]
      intro starts
      have code := congrArg UInt8.toNat (Option.some.inj starts)
      simp [dash] at code
      omega

theorem ofString_ne_nil {s : String} (filled : s ≠ "") : Bytes.ofString s ≠ [] := by
  intro empty
  have same := bytes_text? s
  rw [empty] at same
  have none : Bytes.text? [] = some "" := by decide
  exact filled (Option.some.inj (same.symm.trans none))

theorem number_decimal (n : UInt64) : Text.number (toString n.toNat).toList = .ok n.toNat := by
  have digits : (toString n.toNat).toList = Nat.toDigits 10 n.toNat := Nat.toList_repr
  have value : Nat.ofDigitChars 10 (Nat.toDigits 10 n.toNat) 0 = n.toNat :=
    Nat.ofDigitChars_ten_toDigits
  rw [Text.number_eq_ok_iff, digits]
  exact ⟨_, ⟨.inl rfl, Nat.toDigits_ne_nil, Toml.isDigit_of_mem_decimal n.toNat⟩, value,
    n.toNat_lt_size⟩

/-! ## How it is spelled -/

theorem exists_spelled (order : items.Perm a.listed) : ∃ argv, Spelled items argv := by
  have spells (s : Setting) (v : Bytes) (isValue : a.value? s = some v) :
      ∃ tokens, Spells s v tokens := by
    cases s with
    | remote => exact ⟨_, .joined .remote⟩
    | busId => exact ⟨_, .joined .busId⟩
    | maxDelay => exact ⟨_, .joined .maxDelay⟩
    | program => exact ⟨_, .joined .program⟩
    | config => exact ⟨_, .joined .config⟩
    | logLevel => exact ⟨_, .joined .logLevel⟩
    | saveConfig =>
        cases saves : a.saveConfig with
        | false => simp [Arguments.value?, saves] at isValue
        | true =>
            obtain rfl : [] = v := by simpa [Arguments.value?, saves] using isValue
            exact ⟨_, .saveConfig⟩
    | count =>
        obtain ⟨n, _, rfl⟩ := Option.map_eq_some_iff.mp isValue
        exact ⟨_, .count (decimal_bare n)⟩
  have listed : ∀ item ∈ items, a.value? item.1 = some item.2 :=
    fun item member => Arguments.mem_listed_iff.mp (order.mem_iff.mp member)
  clear order
  induction items with
  | nil => exact ⟨_, .nil⟩
  | cons item rest ih =>
      obtain ⟨tokens, first⟩ := spells item.1 item.2 (listed item List.mem_cons_self)
      obtain ⟨argv, others⟩ := ih fun item member => listed item (List.mem_cons_of_mem _ member)
      exact ⟨_, .cons first others⟩

/-! ## How it is taken -/

def Draft.within (d : Draft) (seen : List Setting) : Draft where
  remote := if .remote ∈ seen then d.remote else none
  busId := if .busId ∈ seen then d.busId else none
  maxDelay := if .maxDelay ∈ seen then d.maxDelay else none
  program := if .program ∈ seen then d.program else none
  count := if .count ∈ seen then d.count else none
  config := if .config ∈ seen then d.config else none
  saveConfig := d.saveConfig && decide (Setting.saveConfig ∈ seen)
  logLevel := if .logLevel ∈ seen then d.logLevel else none

theorem Draft.within_nil (d : Draft) : d.within [] = .empty := by
  simp [Draft.within, Draft.empty]

theorem Draft.within_all {d : Draft} {seen : List Setting}
    (all : ∀ s, d.has s = true → s ∈ seen) : d.within seen = d := by
  have kept {α : Type} (s : Setting) (part : Option α) (has : d.has s = part.isSome) :
      (if s ∈ seen then part else none) = part := by
    cases part with
    | none => exact ite_self none
    | some v => exact if_pos (all s has)
  have flag : (d.saveConfig && decide (Setting.saveConfig ∈ seen)) = d.saveConfig := by
    cases saves : d.saveConfig with
    | false => rfl
    | true => simp [all .saveConfig saves]
  unfold Draft.within
  rw [kept .remote _ rfl, kept .busId _ rfl, kept .maxDelay _ rfl, kept .program _ rfl,
    kept .count _ rfl, kept .config _ rfl, kept .logLevel _ rfl, flag]

theorem Draft.within_fresh {d : Draft} {seen : List Setting} (fresh : setting ∉ seen) :
    (d.within seen).has setting = false := by
  cases setting <;> simp [Draft.within, Draft.has, fresh]

theorem takes_listed {seen : List Setting} (filled : a.Filled)
    (listed : a.value? setting = some value) (fresh : setting ∉ seen) :
    Takes (a.draft.within seen) setting value (a.draft.within (setting :: seen)) := by
  have unset := Draft.within_fresh (d := a.draft) fresh
  cases setting with
  | remote =>
      cases listed
      have takes := Takes.remote unset (ofString_ne_nil filled.remote) (bytes_text? a.remote)
      simpa [Draft.within, Arguments.draft] using takes
  | busId =>
      cases listed
      have takes := Takes.busId unset (ofString_ne_nil filled.busId) (bytes_text? a.busId)
      simpa [Draft.within, Arguments.draft] using takes
  | maxDelay =>
      obtain ⟨n, given, rfl⟩ := Option.map_eq_some_iff.mp listed
      have takes := Takes.maxDelay unset (decimal_text? n) (number_decimal n)
      simpa [Draft.within, Arguments.draft, given] using takes
  | program =>
      obtain ⟨path, given, rfl⟩ := Option.map_eq_some_iff.mp listed
      have notEmpty : path.bytes ≠ [] := by
        intro empty
        exact filled.program (given.trans (congrArg (fun b => some (Path.mk b)) empty))
      have takes := Takes.program unset notEmpty
      simpa [Draft.within, Arguments.draft, given] using takes
  | count =>
      obtain ⟨n, given, rfl⟩ := Option.map_eq_some_iff.mp listed
      have takes := Takes.count unset (decimal_text? n) (number_decimal n)
      simpa [Draft.within, Arguments.draft, given] using takes
  | config =>
      obtain ⟨path, given, rfl⟩ := Option.map_eq_some_iff.mp listed
      have notEmpty : path.bytes ≠ [] := by
        intro empty
        exact filled.config (given.trans (congrArg (fun b => some (Path.mk b)) empty))
      have takes := Takes.config unset notEmpty
      simpa [Draft.within, Arguments.draft, given] using takes
  | saveConfig =>
      have given : a.saveConfig = true := by
        by_contra without
        simp [Arguments.value?, without] at listed
      have takes : Takes _ _ value _ := .saveConfig unset
      simpa [Draft.within, Arguments.draft, given] using takes
  | logLevel =>
      obtain ⟨s, given, rfl⟩ := Option.map_eq_some_iff.mp listed
      have takes := Takes.logLevel unset (bytes_text? s)
      simpa [Draft.within, Arguments.draft, given] using takes

theorem takesAll_within (filled : a.Filled)
    (listed : ∀ s v, (s, v) ∈ items → a.value? s = some v)
    (distinct : (items.map Prod.fst).Nodup) (seen : List Setting)
    (fresh : ∀ s ∈ items.map Prod.fst, s ∉ seen) :
    TakesAll (a.draft.within seen) items
      (a.draft.within ((items.map Prod.fst).reverse ++ seen)) := by
  -- Before each value the draft has just what belongs to the settings seen so far.
  induction items generalizing seen with
  | nil => exact .nil
  | cons item rest ih =>
      obtain ⟨s, v⟩ := item
      rw [List.map_cons, List.nodup_cons] at distinct
      have first := takes_listed filled (listed s v List.mem_cons_self)
        (fresh s List.mem_cons_self)
      have others := ih (fun s v member => listed s v (List.mem_cons_of_mem _ member)) distinct.2
        (s :: seen) (by
          intro other member
          rw [List.mem_cons, not_or]
          refine ⟨?_, fresh other (List.mem_cons_of_mem _ member)⟩
          intro same
          exact distinct.1 (same ▸ member))
      rw [List.map_cons, List.reverse_cons, List.append_assoc]
      exact .cons first others

theorem value?_isSome (a : Arguments) (setting : Setting) :
    (a.value? setting).isSome = a.draft.has setting := by
  cases setting with
  | saveConfig =>
      cases saves : a.saveConfig <;> simp [Arguments.value?, Arguments.draft, Draft.has, saves]
  | remote | busId => rfl
  | maxDelay | program | count | config | logLevel => exact Option.isSome_map

theorem takesAll_listed (filled : a.Filled) (order : items.Perm a.listed) :
    TakesAll .empty items a.draft := by
  have listed (s : Setting) (v : Bytes) : (s, v) ∈ items ↔ a.value? s = some v :=
    order.mem_iff.trans Arguments.mem_listed_iff
  have distinct : (items.map Prod.fst).Nodup :=
    (order.map Prod.fst).nodup_iff.mpr a.listed_distinct
  have takes := takesAll_within filled (fun s v => (listed s v).mp) distinct [] (by simp)
  rw [Draft.within_nil, Draft.within_all] at takes
  · exact takes
  · intro s has
    rw [← value?_isSome] at has
    obtain ⟨v, isValue⟩ := Option.isSome_iff_exists.mp has
    rw [List.append_nil, List.mem_reverse]
    exact List.mem_map.mpr ⟨(s, v), (listed s v).mpr isValue, rfl⟩

/-! ## How it is read -/

theorem refused_of_not_ok {outcome : Except Refusal Arguments} (never : ∀ a, outcome ≠ .ok a) :
    ∃ refusal, outcome = .error refusal := by
  cases outcome with
  | error refusal => exact ⟨refusal, rfl⟩
  | ok a => exact absurd rfl (never a)

theorem parse_repeated (spelled : Spelled items argv) (twice : ¬(items.map Prod.fst).Nodup) :
    ∃ refusal, Arguments.parse argv = .error refusal := by
  apply refused_of_not_ok
  intro a parses
  obtain ⟨d, takes, _⟩ := (parse_eq_ok_iff spelled).mp parses
  exact twice takes.distinct

theorem parse_without (spelled : Spelled items argv) (needed : setting = .remote ∨ setting = .busId)
    (left : setting ∉ items.map Prod.fst) : ∃ refusal, Arguments.parse argv = .error refusal := by
  apply refused_of_not_ok
  intro a parses
  obtain ⟨d, takes, complete⟩ := (parse_eq_ok_iff spelled).mp parses
  have has := takes.has_iff setting
  rw [complete_eq_ok_iff] at complete
  subst complete
  rcases needed with rfl | rfl
  · simp [Draft.has, Draft.empty, left] at has
  · simp [Draft.has, Draft.empty, left] at has

theorem parse_emptied (spelled : Spelled items argv) (needed : setting = .remote ∨ setting = .busId)
    (empty : (setting, []) ∈ items) : ∃ refusal, Arguments.parse argv = .error refusal := by
  apply refused_of_not_ok
  intro a parses
  obtain ⟨d, takes, _⟩ := (parse_eq_ok_iff spelled).mp parses
  obtain ⟨before, after, first⟩ := takes.each empty
  rcases needed with rfl | rfl
  · cases first with
    | remote _ filled _ => exact filled rfl
  · cases first with
    | busId _ filled _ => exact filled rfl

/-- Arguments can be written in any order, and in any spelling they are read as what they were
written for.  With one setting more that is there already, without host or device, or with nothing
for one of these, no arguments are read. -/
theorem parse_listed (a : Arguments) (filled : a.Filled) (items : List (Setting × Bytes))
    (order : items.Perm a.listed) :
    (∃ argv, Spelled items argv) ∧
    (∀ argv, Spelled items argv → Arguments.parse argv = .ok a) ∧
    (∀ setting value more argv, setting ∈ items.map Prod.fst →
      more.Perm ((setting, value) :: items) → Spelled more argv →
        ∃ refusal, Arguments.parse argv = .error refusal) ∧
    (∀ setting argv, setting = .remote ∨ setting = .busId →
      Spelled (items.filter fun item => item.1 ≠ setting) argv →
        ∃ refusal, Arguments.parse argv = .error refusal) ∧
    (∀ setting argv, setting = .remote ∨ setting = .busId →
      Spelled (items.map fun item => if item.1 = setting then (setting, []) else item) argv →
        ∃ refusal, Arguments.parse argv = .error refusal) := by
  refine ⟨exists_spelled order, ?read, ?repeated, ?left, ?emptied⟩
  case read =>
    intro argv spelled
    exact (parse_eq_ok_iff spelled).mpr ⟨a.draft, takesAll_listed filled order, a.complete_draft⟩
  case repeated =>
    intro setting value more argv member adds spelled
    apply parse_repeated spelled
    intro distinct
    rw [(adds.map Prod.fst).nodup_iff, List.map_cons, List.nodup_cons] at distinct
    exact distinct.1 member
  case left =>
    intro setting argv needed spelled
    apply parse_without spelled needed
    intro member
    obtain ⟨item, kept, same⟩ := List.mem_map.mp member
    simpa [same] using (List.mem_filter.mp kept).2
  case emptied =>
    intro setting argv needed spelled
    apply parse_emptied spelled needed
    obtain ⟨value, isValue⟩ : ∃ value, a.value? setting = some value := by
      rcases needed with rfl | rfl <;> exact ⟨_, rfl⟩
    have member := order.mem_iff.mpr (Arguments.mem_listed_iff.mpr isValue)
    exact List.mem_map.mpr ⟨_, member, if_pos rfl⟩

def mixed : Arguments where
  remote := "-pi5"
  busId := "1-1=a b"
  maxDelay := some 0
  program := some ⟨[0x2F, 0xFF, 0x3D]⟩
  count := some 18446744073709551615
  config := some (Path.ofString "--config")
  saveConfig := true
  logLevel := some "\"debug\""

def mixedOrder : List (Setting × Bytes) := [
  (.busId, Bytes.ofString "1-1=a b"), (.count, Bytes.ofString "18446744073709551615"),
  (.remote, Bytes.ofString "-pi5"), (.saveConfig, []), (.program, [0x2F, 0xFF, 0x3D]),
  (.config, Bytes.ofString "--config"), (.logLevel, Bytes.ofString "\"debug\""),
  (.maxDelay, Bytes.ofString "0")]

def mixedLine : List Bytes := [
  Bytes.ofString "-b", Bytes.ofString "1-1=a b", Bytes.ofString "18446744073709551615",
  Bytes.ofString "--remote=-pi5", Bytes.ofString "--save-config", Bytes.ofString "--program",
  [0x2F, 0xFF, 0x3D], Bytes.ofString "--config=--config", Bytes.ofString "-l",
  Bytes.ofString "\"debug\"", Bytes.ofString "--max-delay=0"]

theorem mixedLine_spelled : Spelled mixedOrder mixedLine := by
  obtain ⟨argv, same, spelled⟩ : ∃ argv, argv = mixedLine ∧ Spelled mixedOrder argv := by
    refine ⟨_, ?same, .cons (.short .busId (by decide)) <| .cons (.count (by decide)) <|
      .cons (.joined .remote) <| .cons .saveConfig <| .cons (.long .program (by decide)) <|
      .cons (.joined .config) <| .cons (.short .logLevel (by decide)) <|
      .cons (.joined .maxDelay) .nil⟩
    case same => decide
  exact same ▸ spelled

theorem parse_listed_mixed : mixed.Filled ∧ mixedOrder.Perm mixed.listed ∧
    Arguments.parse mixedLine = .ok mixed ∧
    ∃ refusal, Arguments.parse (Bytes.ofString "7" :: mixedLine) = .error refusal := by
  have filled : mixed.Filled := ⟨by decide, by decide, by decide, by decide⟩
  have order : mixedOrder.Perm mixed.listed := by decide
  obtain ⟨_, read, repeated, _⟩ := parse_listed mixed filled mixedOrder order
  refine ⟨filled, order, read mixedLine mixedLine_spelled, ?_⟩
  exact repeated .count (Bytes.ofString "7") _ _ (by decide) (.refl _)
    (.cons (.count (by decide)) mixedLine_spelled)

end Replug.CommandLine
