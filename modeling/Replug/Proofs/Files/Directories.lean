import Mathlib.Logic.Relation
import Replug.Proofs.Files.Destinations

/-!
# Directories made along a path

Making a directory with the missing ones above it changes nothing else, whether it succeeds or not:
every location is left as it was, or nothing was there and it is a directory now, to which the path
or one above it leads.
-/

set_option autoImplicit false

namespace Replug

/-- A path stands above another one: its parent, the parent of that, and so on. -/
def Path.Above (p above : Path) : Prop :=
  Relation.TransGen (fun below above => Path.parent? below = some above) p above

namespace Files

variable {files between files' : Files} {ways : Path → Prop} {place : Location} {p : Path}

/-- A location had nothing, is a directory now, and one of some paths leads to it. -/
structure Made (ways : Path → Prop) (files files' : Files) (place : Location) : Prop where
  missing : files.at? place = none
  directory : files'.at? place = some .directory
  led : ∃ way, ways way ∧ files'.find way = .ok (.found place .directory)

/-- Files that differ in nothing but directories made where some paths lead. -/
structure Grown (ways : Path → Prop) (files files' : Files) : Prop where
  akin : Akin files files'
  each : ∀ place, files'.at? place = files.at? place ∨ Made ways files files' place

namespace Grown

theorem refl (ways : Path → Prop) (files : Files) : Grown ways files files :=
  ⟨.refl files, fun _ => .inl rfl⟩

theorem mono {more : Path → Prop} (grown : Grown ways files files')
    (wider : ∀ way, ways way → more way) : Grown more files files' := by
  refine ⟨grown.akin, fun place => ?_⟩
  rcases grown.each place with same | ⟨missing, directory, way, isWay, leads⟩
  · exact .inl same
  · exact .inr ⟨missing, directory, way, wider way isWay, leads⟩

theorem stays (grown : Grown ways files files') {entry : Entry}
    (there : files.at? place = some entry) : files'.at? place = some entry := by
  rcases grown.each place with same | ⟨missing, -, -⟩
  · rw [same, there]
  · rw [missing] at there
    cases there

theorem find_stays (grown : Grown ways files files') {way : Path}
    (goes : files.find way = .ok (.found place .directory)) :
    files'.find way = .ok (.found place .directory) :=
  Files.find_stays grown.akin (fun _ => grown.stays) (fun _ _ => grown.stays) goes

theorem trans (first : Grown ways files between) (second : Grown ways between files') :
    Grown ways files files' := by
  refine ⟨first.akin.trans second.akin, fun place => ?_⟩
  rcases second.each place with same | ⟨missing, directory, led⟩
  · rcases first.each place with before | ⟨missing, directory, way, isWay, leads⟩
    · exact .inl (same.trans before)
    · exact .inr ⟨missing, same.trans directory, way, isWay, second.find_stays leads⟩
  · rcases first.each place with before | ⟨-, directory', -⟩
    · exact .inr ⟨before.symm.trans missing, directory, led⟩
    · rw [missing] at directory'
      cases directory'

end Grown

/-! ## One directory -/

end Files

end Replug
