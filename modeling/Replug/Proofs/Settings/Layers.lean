import Replug.Proofs.Settings.FixedPoint
import Replug.Settings.Resolution

/-!
# Layers of values

A document gives some of the four values and leaves the others open: it is a layer, which goes over
the default settings.  The values of the command line go over the layer in the same way, one by one.
A client's path is made to begin at the home directory once, whether it comes from the one or from
the other.
-/

set_option autoImplicit false

namespace Replug

open Settings Toml

structure Layer where
  logLevel : Option String
  program : Option Path
  maxDelay : Option UInt64
  count : Option UInt64

namespace Layer

def blank : Layer := ⟨none, none, none, none⟩

structure Reads (l : Layer) (root : Entries) : Prop where
  logLevel : l.logLevel = (given root "general" 0 "log_level").bind textOf?
  program : l.program = ((given root "usbip" 0 "program").bind textOf?).map Path.ofString
  maxDelay : l.maxDelay.map UInt64.toNat = (given root "usbip" 1 "max_delay").bind numberOf?
  count : l.count.map UInt64.toNat = (given root "usbip" 2 "count").bind numberOf?

/-- A text is a document of the right shape that gives the values of a layer. -/
def IsGivenBy (l : Layer) (content : String) : Prop :=
  ∃ root, parse? content = some root ∧ WellShaped IsSection root ∧ l.Reads root

/-- A layer whose values a run could use. -/
structure Legal (l : Layer) (home : Bytes) : Prop where
  logLevel : ∀ level, l.logLevel = some level → level ∈ logLevels
  program : ∀ p, l.program = some p → p.expandHome home ≠ ⟨[]⟩

def settings (home : Bytes) (l : Layer) : Settings where
  logLevel := l.logLevel.getD default.logLevel
  program := (l.program.map (·.expandHome home)).getD default.program
  maxDelay := l.maxDelay.getD default.maxDelay
  count := l.count.getD default.count

/-- The plan with the values of the command line, or else those of a layer, or else the default
ones. -/
def plan (home : Bytes) (remote busId : String) (overrides : Overrides) (l : Layer) : Plan where
  remote := remote
  busId := busId
  maxDelay := (overrides.maxDelay.or l.maxDelay).getD default.maxDelay
  program := ((overrides.program.or l.program).map (·.expandHome home)).getD default.program
  count := (overrides.count.or l.count).getD default.count

/-! ## Layers and settings -/

theorem expandHome_default (home : Bytes) : default.program.expandHome home = default.program :=
  Path.expandHome_of_no_tilde home (by decide)

theorem toNat_getD {o : Option UInt64} {n : Option Nat} (same : o.map UInt64.toNat = n)
    (d : UInt64) : (o.getD d).toNat = n.getD d.toNat := by
  subst same
  cases o with
  | none => rfl
  | some w => rfl

theorem Reads.expanded {l : Layer} {root : Entries} (reads : l.Reads root) {s : Settings}
    (overlaid : Overlays root s) (home : Bytes) : s.expanded home = l.settings home := by
  have logLevel : s.logLevel = (l.settings home).logLevel := by
    rw [overlaid.logLevel, ← reads.logLevel, settings]
  have program : s.program.expandHome home = (l.settings home).program := by
    rw [overlaid.program, ← reads.program, settings]
    cases l.program with
    | none => exact expandHome_default home
    | some p => rfl
  have maxDelay : s.maxDelay = (l.settings home).maxDelay := by
    rw [← UInt64.toNat_inj, overlaid.maxDelay, settings, toNat_getD reads.maxDelay]
  have count : s.count = (l.settings home).count := by
    rw [← UInt64.toNat_inj, overlaid.count, settings, toNat_getD reads.count]
  cases s
  simp only [Settings.expanded] at logLevel program maxDelay count ⊢
  subst logLevel maxDelay count
  rw [program]

theorem legal_iff (l : Layer) (home : Bytes) : l.Legal home ↔
    (l.settings home).logLevel ∈ logLevels ∧ (l.settings home).program.isEmpty = false := by
  have nonempty : ∀ p : Path, p.isEmpty = false ↔ p ≠ ⟨[]⟩ := by
    rintro ⟨bytes⟩
    simp [Path.isEmpty]
  constructor
  · intro legal
    constructor
    · cases isGiven : l.logLevel with
      | none => simp only [settings, isGiven]; decide
      | some level =>
          simp only [settings, isGiven]
          exact legal.logLevel level isGiven
    · cases isGiven : l.program with
      | none => simp only [settings, isGiven]; rfl
      | some p =>
          simp only [settings, isGiven, nonempty]
          exact legal.program p isGiven
  · rintro ⟨level, program⟩
    constructor
    · intro given isGiven
      simpa [settings, isGiven] using level
    · intro p isGiven
      rw [nonempty] at program
      simpa [settings, isGiven] using program

theorem exists_reads {root : Entries} (sound : root.Sound) : ∃ l : Layer, l.Reads root := by
  have faithful : ∀ name place field, ∃ o : Option UInt64,
      o.map UInt64.toNat = (given root name place field).bind numberOf? := by
    intro name place field
    obtain ⟨same, small⟩ := word_given sound name place field 0 (by decide)
    cases isNumber : (given root name place field).bind numberOf? with
    | none => exact ⟨none, rfl⟩
    | some n =>
        rw [isNumber] at small
        exact ⟨some (.ofNat n), by
          simp only [Option.map_some, Option.some.injEq]
          exact UInt64.toNat_ofNat_of_lt' (by
            simp only [UInt64.size, Option.getD_some] at small ⊢
            omega)⟩
  obtain ⟨maxDelay, isDelay⟩ := faithful "usbip" 1 "max_delay"
  obtain ⟨count, isCount⟩ := faithful "usbip" 2 "count"
  exact ⟨⟨_, _, maxDelay, count⟩, rfl, rfl, isDelay, isCount⟩

/-- A text gives settings exactly if it is a document of the right shape and its values are legal.
The settings are then its values over the default ones. -/
theorem ofToml_eq_ok_iff_layer (home : Bytes) (content : String) (c : Settings) :
    ofToml home content = .ok c ↔
      ∃ l : Layer, l.IsGivenBy content ∧ l.Legal home ∧ c = l.settings home := by
  rw [ofToml_eq_ok_iff]
  constructor
  · rintro ⟨root, s, parsed, decoded, rfl, level, named⟩
    have sound := parse?_sound content root parsed
    obtain ⟨l, reads⟩ := exists_reads sound
    have same := reads.expanded (overlays_of_ofTable sound decoded) home
    rw [same] at level named ⊢
    exact ⟨l, ⟨root, parsed, (ofTable_isOk_iff sound).mp ⟨s, decoded⟩, reads⟩,
      (l.legal_iff home).mpr ⟨level, named⟩, rfl⟩
  · rintro ⟨l, ⟨root, parsed, shaped, reads⟩, legal, rfl⟩
    have sound := parse?_sound content root parsed
    obtain ⟨s, decoded⟩ := (ofTable_isOk_iff sound).mpr shaped
    have same := reads.expanded (overlays_of_ofTable sound decoded) home
    obtain ⟨level, named⟩ := (l.legal_iff home).mp legal
    exact ⟨root, s, parsed, decoded, same, level, named⟩

/-- The command line goes over the settings of a layer as it goes over the layer. -/
theorem layered_settings (home : Bytes) (remote busId : String) (overrides : Overrides)
    (l : Layer) :
    Plan.layered home remote busId overrides (l.settings home) =
      l.plan home remote busId overrides := by
  obtain ⟨maxDelay, program, count⟩ := overrides
  simp only [Plan.layered, plan, settings, Option.getD_or, Option.map_or]

end Layer

/-! ## What a plan may lack -/

namespace Plan

def Filled (s : String) : Prop := ∃ c ∈ s.toList, Text.isBlank c = false

/-- A plan with a host, a device and a client. -/
structure Complete (plan : Plan) : Prop where
  remote : Filled plan.remote
  busId : Filled plan.busId
  program : plan.program ≠ ⟨[]⟩

/-- What a plan lacks first. -/
inductive FirstLack (plan : Plan) : Lack → Prop where
  | remote (noRemote : ¬ Filled plan.remote) : FirstLack plan .remote
  | busId (remote : Filled plan.remote) (noBusId : ¬ Filled plan.busId) : FirstLack plan .busId
  | program (remote : Filled plan.remote) (busId : Filled plan.busId)
    (noProgram : plan.program = ⟨[]⟩) : FirstLack plan .program

theorem allBlank_iff (s : String) : Text.allBlank s = true ↔ ¬ Filled s := by
  simp [Text.allBlank, Filled]

theorem lack?_cases (plan : Plan) :
    (plan.lack? = none ∧ plan.Complete) ∨
      ∃ lack, plan.lack? = some lack ∧ plan.FirstLack lack := by
  unfold lack?
  by_cases remote : Filled plan.remote
  · have isRemote : ¬ Text.allBlank plan.remote = true := fun blank =>
      (allBlank_iff _).mp blank remote
    rw [if_neg isRemote]
    by_cases busId : Filled plan.busId
    · have isBusId : ¬ Text.allBlank plan.busId = true := fun blank =>
        (allBlank_iff _).mp blank busId
      rw [if_neg isBusId]
      by_cases program : plan.program = ⟨[]⟩
      · exact .inr ⟨.program, if_pos ((Path.isEmpty_iff _).mpr program), .program remote busId program⟩
      · exact .inl ⟨if_neg fun empty => program ((Path.isEmpty_iff _).mp empty), remote, busId, program⟩
    · exact .inr ⟨.busId, if_pos ((allBlank_iff _).mpr busId), .busId remote busId⟩
  · exact .inr ⟨.remote, if_pos ((allBlank_iff _).mpr remote), .remote remote⟩

theorem FirstLack.not_complete {plan : Plan} {lack : Lack} (first : plan.FirstLack lack) :
    ¬ plan.Complete := by
  intro complete
  cases first with
  | remote noRemote => exact noRemote complete.remote
  | busId _ noBusId => exact noBusId complete.busId
  | program _ _ noProgram => exact complete.program noProgram

theorem FirstLack.unique {plan : Plan} {lack lack' : Lack} (first : plan.FirstLack lack)
    (first' : plan.FirstLack lack') : lack = lack' := by
  cases first with
  | remote noRemote => cases first' with
    | remote => rfl
    | busId remote | program remote => exact absurd remote noRemote
  | busId remote noBusId => cases first' with
    | remote noRemote => exact absurd remote noRemote
    | busId => rfl
    | program _ busId => exact absurd busId noBusId
  | program remote busId => cases first' with
    | remote noRemote => exact absurd remote noRemote
    | busId _ noBusId => exact absurd busId noBusId
    | program => rfl

section Resolve

variable {home : Bytes} {remote busId : String} {overrides : Overrides} {settings : Settings}

theorem resolve_eq_ok_iff : resolve home remote busId overrides settings =
    .ok (layered home remote busId overrides settings) ↔
      (layered home remote busId overrides settings).Complete := by
  simp only [resolve]
  rcases (layered home remote busId overrides settings).lack?_cases with
    ⟨none, complete⟩ | ⟨lack, some, first⟩
  · simp [none, complete]
  · simp [some, first.not_complete]

theorem resolve_eq_error_iff {lack : Lack} : resolve home remote busId overrides settings =
    .error lack ↔ (layered home remote busId overrides settings).FirstLack lack := by
  simp only [resolve]
  rcases (layered home remote busId overrides settings).lack?_cases with
    ⟨none, complete⟩ | ⟨lack', some, first'⟩
  · simp only [none, reduceCtorEq, false_iff]
    exact fun first => first.not_complete complete
  · simp only [some, Except.error.injEq]
    exact ⟨fun same => same ▸ first', fun first => first'.unique first⟩

end Resolve

end Plan

/-! ## The same value from the command line or from a file -/

namespace Layer

theorem Legal.of_home {l : Layer} {home : Bytes} (level : ∀ given, l.logLevel = some given →
    given ∈ logLevels) (named : ∀ p, l.program = some p → p ≠ ⟨[]⟩) (somewhere : home ≠ []) :
    l.Legal home :=
  ⟨level, fun p isGiven => Path.expandHome_ne_nil somewhere (named p isGiven)⟩

/-- Settings that can be written are given by a text that leaves none of its values open. -/
theorem exists_full (s : Settings) (isText : s.program.text?.isSome)
    (delayFits : s.maxDelay.toNat < 0x8000000000000000)
    (countFits : s.count.toNat < 0x8000000000000000) :
    ∃ content, IsGivenBy ⟨some s.logLevel, some s.program, some s.maxDelay, some s.count⟩
      content := by
  obtain ⟨text, spells⟩ := Option.isSome_iff_exists.mp isText
  have delayFits := fitsWord_of_lt s.maxDelay.toNat delayFits
  have countFits := fitsWord_of_lt s.count.toNat countFits
  have written := toToml_eq_documentOf s text spells delayFits countFits
  obtain ⟨gs, us, ls, ps, ms, ns, parsed⟩ :=
    parse?_toToml_tree s _ text spells delayFits countFits written
  have same := ofString_text s.program text spells
  have decoded := ofTable_full s text same gs us ls ps ms ns
  have shaped := (ofTable_isOk_iff (parse?_sound _ _ parsed)).mp ⟨s, decoded⟩
  refine ⟨_, _, parsed, shaped, ?_⟩
  constructor
  · rfl
  · rw [← same]
    rfl
  · rfl
  · rfl

end Layer

/-- However the three values are spread over the command line and a document, the same plan is made
of them, with the client's path expanded once.  A value of the command line may stand in the document
as well, where it may be any other that is legal, and whatever the command line leaves open there is
a document for. -/
theorem Plan.resolve_flag_or_file (home : Bytes) (somewhere : home ≠ []) (remote busId : String)
    (hasRemote : Filled remote) (hasBusId : Filled busId) (maxDelay count : UInt64)
    (delayFits : maxDelay.toNat < 0x8000000000000000)
    (countFits : count.toNat < 0x8000000000000000) (program : Path) (named : program ≠ ⟨[]⟩)
    (isText : program.text?.isSome) :
    (∀ (overrides : Overrides) (content : String) (l : Layer), l.IsGivenBy content →
      (∀ level, l.logLevel = some level → level ∈ logLevels) →
      (∀ p, l.program = some p → p ≠ ⟨[]⟩) →
      overrides.maxDelay.or l.maxDelay = some maxDelay →
      overrides.program.or l.program = some program →
      overrides.count.or l.count = some count →
      ∃ settings, ofToml home content = .ok settings ∧
        resolve home remote busId overrides settings =
          .ok ⟨remote, busId, maxDelay, program.expandHome home, count⟩) ∧
    ∀ overrides : Overrides, (∀ n ∈ overrides.maxDelay, n = maxDelay) →
      (∀ p ∈ overrides.program, p = program) → (∀ n ∈ overrides.count, n = count) →
      ∃ (content : String) (l : Layer), l.IsGivenBy content ∧
        (∀ level, l.logLevel = some level → level ∈ logLevels) ∧
        (∀ p, l.program = some p → p ≠ ⟨[]⟩) ∧
        overrides.maxDelay.or l.maxDelay = some maxDelay ∧
        overrides.program.or l.program = some program ∧
        overrides.count.or l.count = some count := by
  constructor
  · intro overrides content l written level legal fromDelay fromProgram fromCount
    have loaded := (Layer.ofToml_eq_ok_iff_layer home content (l.settings home)).mpr
      ⟨l, written, .of_home level legal somewhere, rfl⟩
    have made : layered home remote busId overrides (l.settings home) =
        ⟨remote, busId, maxDelay, program.expandHome home, count⟩ := by
      rw [Layer.layered_settings]
      simp [Layer.plan, fromDelay, fromProgram, fromCount]
    refine ⟨_, loaded, ?_⟩
    rw [← made, resolve_eq_ok_iff, made]
    exact ⟨hasRemote, hasBusId, Path.expandHome_ne_nil somewhere named⟩
  · intro overrides sameDelay sameProgram sameCount
    obtain ⟨content, written⟩ := Layer.exists_full ⟨"info", program, maxDelay, count⟩ isText
      delayFits countFits
    have filledUp : ∀ {α : Type} {o : Option α} {a : α}, (∀ b ∈ o, b = a) → o.or (some a) = some a := by
      intro α o a same
      cases o with
      | none => rfl
      | some b => rw [Option.or_some, same b rfl]; rfl
    refine ⟨content, _, written, ?_, ?_, filledUp sameDelay, filledUp sameProgram,
      filledUp sameCount⟩
    · rintro level ⟨rfl⟩
      show "info" ∈ logLevels
      decide
    · rintro p ⟨rfl⟩
      exact named

namespace Layer

def spreadForm : String := "usbip = ['~/other', 4, 0]"

def spreadRoot : Entries := [("usbip", .list ⟨17, 0⟩ [.leaf ⟨16, 7⟩ (.text "~/other"),
  .leaf ⟨5, 4⟩ (.integer 4), .leaf ⟨2, 1⟩ (.integer 0)])]

theorem isGivenBy_spreadForm : IsGivenBy ⟨none, some "~/other", some 4, some 0⟩ spreadForm := by
  have parsed : parse? spreadForm = some spreadRoot := by cbv
  have shaped := (ofTable_isOk_iff (parse?_sound _ _ parsed)).mp ⟨_, rfl⟩
  exact ⟨_, parsed, shaped, rfl, rfl, rfl, rfl⟩

end Layer

/-- The client comes from the command line, whose tilde is followed by another one, and the numbers
from a file that names a client of its own. -/
theorem Plan.resolve_flag_or_file_spread :
    ∃ settings, ofToml [0x2F, 0x68] Layer.spreadForm = .ok settings ∧
      resolve [0x2F, 0x68] "h" "1-1" ⟨none, some "~/~'\"\\", none⟩ settings =
        .ok ⟨"h", "1-1", 4, "/h/~'\"\\", 0⟩ := by
  have isText : (Path.ofString "~/~'\"\\").text?.isSome := by
    rw [text?_ofString]
    rfl
  have spread := (resolve_flag_or_file [0x2F, 0x68] (by decide) "h" "1-1" ⟨'h', by simp, rfl⟩
    ⟨'1', by simp, rfl⟩ 4 0 (by decide) (by decide) "~/~'\"\\" (by decide) isText).1
    ⟨none, some "~/~'\"\\", none⟩ Layer.spreadForm _ Layer.isGivenBy_spreadForm (by simp) ?_ rfl
    rfl rfl
  · obtain ⟨settings, loaded, resolved⟩ := spread
    exact ⟨settings, loaded, resolved.trans (by congr 2)⟩
  · rintro p ⟨rfl⟩
    decide

end Replug
