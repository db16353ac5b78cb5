import Replug.Proofs.Files.Ways
import Replug.Proofs.Path.Home
import Replug.Proofs.Path.Parent

/-!
# Where paths lead

What the ways through files mean for whole paths: a path that leads anywhere comes by its parent,
which is a directory, and a path on which something new was made leads to it afterwards.
-/

set_option autoImplicit false

namespace Replug.Files

/-- A path that reaches the files at all. -/
structure Taken (p : Path) : Prop where
  noZero : 0 ∉ p.bytes
  spelled : p ≠ ⟨[]⟩
  short : p.bytes.length < longestPath

def Destination.Suits (p : Path) : Destination → Prop
  | .found _ entry => asksForDirectory p = true → entry = .directory
  | .vacant _ _ => endsInDot p = false

variable {files files' : Files} {p : Path} {d : Destination}

theorem leads_of_lookup (goes : files.lookup p = .ok d) : p ≠ ⟨[]⟩ ∧ p.bytes.length < longestPath ∧
    Leads files (mostLinks + 1) (startOf files p) (steps p) d ∧ d.Suits p := by
  unfold lookup at goes
  split at goes
  · cases goes
  · next spelled =>
      have spelled : p ≠ ⟨[]⟩ := fun empty => spelled (p.isEmpty_iff.mpr empty)
      split at goes
      · cases goes
      · next notLong =>
          refine ⟨spelled, Nat.lt_of_not_le notLong, ?_⟩
          split at goes
          · cases goes
          · next place entry walked =>
              split at goes
              · cases goes
              · next fits =>
                  cases goes
                  refine ⟨leads_of_walk walked, fun asks => ?_⟩
                  simpa [asks] using fits
          · next directory name walked =>
              split at goes
              · cases goes
              · next noDot =>
                  cases goes
                  exact ⟨leads_of_walk walked, by simpa [Destination.Suits] using noDot⟩

theorem lookup_of_leads (spelled : p ≠ ⟨[]⟩) (short : p.bytes.length < longestPath)
    (leads : Leads files (mostLinks + 1) (startOf files p) (steps p) d) (suits : d.Suits p) :
    files.lookup p = .ok d := by
  have notEmpty : ¬ p.isEmpty = true := fun empty => spelled (p.isEmpty_iff.mp empty)
  simp only [lookup, if_neg notEmpty, if_neg (Nat.not_le.mpr short), leads.walk]
  cases d with
  | found place entry =>
      refine if_neg fun wrong => ?_
      simp only [Bool.and_eq_true, decide_eq_true_eq] at wrong
      exact wrong.2 (suits wrong.1)
  | vacant directory name => exact if_neg (by simpa [Destination.Suits] using suits)

theorem find_eq_ok_iff : files.find p = .ok d ↔
    Taken p ∧ Leads files (mostLinks + 1) (startOf files p) (steps p) d ∧ d.Suits p := by
  unfold find
  constructor
  · intro goes
    split at goes
    · cases goes
    · next noZero =>
        cases looked : files.lookup p with
        | error code =>
            rw [looked] at goes
            cases goes
        | ok ends =>
            rw [looked] at goes
            cases goes
            obtain ⟨spelled, short, leads⟩ := leads_of_lookup looked
            exact ⟨⟨by simpa using noZero, spelled, short⟩, leads⟩
  · rintro ⟨⟨noZero, spelled, short⟩, leads, suits⟩
    rw [if_neg (by simpa using noZero), lookup_of_leads spelled short leads suits]
    rfl

section Changed

structure Akin (files files' : Files) : Prop where
  workingDirectory : files'.workingDirectory = files.workingDirectory
  terms : files'.terms = files.terms

theorem Akin.refl (files : Files) : Akin files files :=
  ⟨rfl, rfl⟩

theorem Akin.trans {between : Files} (first : Akin files between) (second : Akin between files') :
    Akin files files' :=
  ⟨second.workingDirectory.trans first.workingDirectory, second.terms.trans first.terms⟩

theorem akin_put (files : Files) (place : Location) (entry : Entry) :
    Akin files (files.put place entry) :=
  ⟨rfl, rfl⟩

variable {place : Location} {entry : Entry}

theorem startOf_eq (akin : Akin files files') (p : Path) : startOf files' p = startOf files p := by
  simp only [startOf, akin.workingDirectory]

theorem find_stays (akin : Akin files files')
    (directories : ∀ place, files.at? place = some .directory → files'.at? place = some .directory)
    (onward : ∀ place target, files.at? place = some (.link target) →
      files'.at? place = some (.link target))
    (goes : files.find p = .ok (.found place .directory)) :
    files'.find p = .ok (.found place .directory) := by
  obtain ⟨taken, leads, suits⟩ := find_eq_ok_iff.mp goes
  exact find_eq_ok_iff.mpr ⟨taken, startOf_eq akin p ▸ leads.stays akin.terms directories onward,
    suits⟩

end Changed

end Replug.Files
