import Mathlib
import Replug.Proofs.Path.Home
import Replug.Proofs.Settings.Overlay
import Replug.Proofs.Settings.RoundTrip

/-!
# Settings that were read

Settings that come of a text have nothing that a run could not use and nothing that could not be
written, and reading what is written for them changes nothing any more.
-/

set_option autoImplicit false

namespace Replug.Settings

open Toml

theorem checked_eq_ok_iff {s c : Settings} :
    s.checked = .ok c ↔ s = c ∧ s.logLevel ∈ logLevels ∧ s.program.isEmpty = false := by
  unfold checked flaw?
  by_cases level : s.logLevel ∈ logLevels
  · by_cases named : s.program.isEmpty
    · simp [level, named]
    · simp [level, named]
  · simp [level]

theorem ofToml_eq_ok_iff {home : Bytes} {content : String} {c : Settings} :
    ofToml home content = .ok c ↔ ∃ root s, parse? content = some root ∧ ofTable root = .ok s ∧
      s.expanded home = c ∧ c.logLevel ∈ logLevels ∧ c.program.isEmpty = false := by
  constructor
  · intro loaded
    unfold ofToml at loaded
    split at loaded
    · cases loaded
    · next root parsed =>
        split at loaded
        · cases loaded
        · next s decoded =>
            obtain ⟨rfl, level, named⟩ := checked_eq_ok_iff.mp loaded
            exact ⟨root, s, parsed, decoded, rfl, level, named⟩
  · rintro ⟨root, s, parsed, decoded, rfl, level, named⟩
    simp only [ofToml, parsed, decoded]
    exact checked_eq_ok_iff.mpr ⟨rfl, level, named⟩

theorem Overlays.program_isText {root : Entries} {s : Settings} (overlaid : Overlays root s) :
    s.program.text?.isSome := by
  rw [overlaid.program]
  cases (given root "usbip" 0 "program").bind textOf? with
  | none => exact Option.isSome_iff_exists.mpr ⟨_, text?_ofString "/usr/sbin/usbip"⟩
  | some t => exact Option.isSome_iff_exists.mpr ⟨_, text?_ofString t⟩

/-- Whatever text they come of, settings name a known level and a client whose path is text, their
numbers fit into a document, and the document that is written for them gives them back.  Where the
home directory is no text, the client's path is the one that the text gave. -/
theorem ofToml_fixed (home : Bytes) (rooted : home.head? = some Path.slash) (content : String)
    (c : Settings) (loaded : ofToml home content = .ok c) :
    c.logLevel ∈ logLevels ∧ c.program.isEmpty = false ∧ c.program.text?.isSome ∧
    c.maxDelay.toNat ≤ 0x7FFFFFFFFFFFFFFF ∧ c.count.toNat ≤ 0x7FFFFFFFFFFFFFFF ∧
    (∃ document, c.toToml = .ok document ∧ ofToml home (String.ofList document) = .ok c) ∧
    (home.text? = none → ∃ root, parse? content = some root ∧ ofTable root = .ok c) := by
  obtain ⟨root, s, parsed, decoded, rfl, level, named⟩ := ofToml_eq_ok_iff.mp loaded
  have sound := parse?_sound content root parsed
  have overlaid := overlays_of_ofTable sound decoded
  have isText : (s.expanded home).program.text?.isSome :=
    Path.text?_expandHome home overlaid.program_isText
  obtain ⟨delaySmall, countSmall⟩ := overlays_small sound overlaid
  have delayFits : fitsWord (s.expanded home).maxDelay.toNat = true := fitsWord_of_lt _ delaySmall
  have countFits : fitsWord (s.expanded home).count.toNat = true := fitsWord_of_lt _ countSmall
  obtain ⟨text, spells⟩ := Option.isSome_iff_exists.mp isText
  have written := toToml_eq_documentOf (s.expanded home) text spells delayFits countFits
  obtain ⟨root', parsed', decoded'⟩ :=
    parse?_toToml (s.expanded home) _ text spells delayFits countFits written
  -- The path was expanded when it was read, so it stays as it is when it is read again.
  have settled : (s.expanded home).expanded home = s.expanded home := by
    have once := Path.expandHome_expandHome rooted s.program
    simp only [expanded, once]
  refine ⟨level, named, isText, Nat.le_of_lt_succ delaySmall, Nat.le_of_lt_succ countSmall,
    ⟨_, written, ?_⟩, fun noText => ⟨root, parsed, ?_⟩⟩
  · exact ofToml_eq_ok_iff.mpr ⟨root', _, parsed', decoded', settled, level, named⟩
  · have kept : s.expanded home = s := by
      simp only [expanded, Path.expandHome_of_no_text noText]
    rw [kept]
    exact decoded

def belowHome : Settings := ⟨"info", ⟨[0x2F, 0x68, 0x2F, 0x7E]⟩, 3, 65535⟩

theorem ofToml_fixed_belowHome :
    ofToml [0x2F, 0x68] "usbip.program = '~/~'" = .ok belowHome ∧
    ∃ document, belowHome.toToml = .ok document ∧
      ofToml [0x2F, 0x68] (String.ofList document) = .ok belowHome := by
  have loaded : ofToml [0x2F, 0x68] "usbip.program = '~/~'" = .ok belowHome := by cbv
  obtain ⟨-, -, -, -, -, again, -⟩ := ofToml_fixed [0x2F, 0x68] rfl _ belowHome loaded
  exact ⟨loaded, again⟩

end Replug.Settings
