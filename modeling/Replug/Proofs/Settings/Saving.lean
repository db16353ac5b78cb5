import Replug.Files.Ground
import Replug.Proofs.Files.Contents
import Replug.Proofs.Files.Directories
import Replug.Proofs.Settings.RoundTrip
import Replug.Settings.Store

/-!
# Settings saved and loaded again

Saving either leaves all files as they were, because the settings cannot be written, or makes missing
directories above the file and then writes the file.  Nothing else is touched, however far it gets.
When writing breaks off, the file is left with the beginning of the document; when it does not, what
was saved is loaded from the same path, if it may be read.
-/

set_option autoImplicit false

namespace Replug.Settings

open Files

variable {s : Settings} {path : Path} {files files' : Files}

structure Saved (path : Path) (content : Bytes) (place : Location) (files files' : Files) : Prop where
  akin : Akin files files'
  file : ∃ runnable, files.TakesFile place runnable ∧
    files'.find path = .ok (.found place (.file content runnable))
  others : ∀ other, other ≠ place →
    files'.at? other = files.at? other ∨ Made path.Above files files' other

theorem saved_of_written {between : Files} {content : Bytes} {place : Location} {runnable : Bool}
    (grown : Grown path.Above files between)
    (written : Written path content place runnable between files') :
    Saved path content place files files' := by
  obtain ⟨below, takes, rfl, led⟩ := written
  have notThere : ∀ entry, between.at? place = some entry → ∃ old, entry = .file old runnable := by
    intro entry there
    rcases takes with ⟨old, file⟩ | ⟨free, -⟩
    · rw [file] at there
      exact ⟨old, (Option.some.inj there).symm⟩
    · rw [free] at there
      cases there
  have before : files.TakesFile place runnable := by
    rcases grown.each place with same | ⟨missing, directory, -⟩
    · simpa only [TakesFile, same] using takes
    · obtain ⟨old, isFile⟩ := notThere _ directory
      cases isFile
  refine ⟨grown.akin.trans (akin_put between _ _), ⟨runnable, before, led⟩, fun other differs => ?_⟩
  rw [at?_put_of_ne differs]
  rcases grown.each other with same | ⟨missing, directory, way, isWay, leads⟩
  · exact .inl same
  · -- A way to a directory that was made does not go by the file, so the file does not cut it off.
    have keeps : ∀ {entry} place', between.at? place' = some entry →
        (∀ old, entry ≠ .file old runnable) →
        (between.put place (.file content runnable)).at? place' = some entry := by
      intro entry place' there noFile
      rw [at?_put_of_ne _ between, there]
      rintro rfl
      obtain ⟨old, isFile⟩ := notThere entry there
      exact noFile old isFile
    have leads := Files.find_stays (akin_put between _ _) (fun place' there => keeps place' there (by simp))
      (fun place' target there => keeps place' there (by simp)) leads
    exact .inr ⟨missing, (at?_put_of_ne differs between _).trans directory, way, isWay, leads⟩

inductive Saving (s : Settings) (path : Path) (files : Files) :
    Option (Except SaveFault Unit) × Files → Prop
  | unwritable {why : Unwritable} (fails : s.toToml = .error why) :
    Saving s path files (some (.error (.unwritable why)), files)
  | directory {parent : Path} {fault : IoFault} {files' : Files} {document : List Char}
    (writable : s.toToml = .ok document) (grown : Grown path.Above files files') :
    Saving s path files (some (.error (.directory parent fault)), files')
  | file {document : List Char} {answer : Option (Except IoFault Unit)} {between files' : Files}
    (writable : s.toToml = .ok document) (grown : Grown path.Above files between)
    (writing : Writing between path (Bytes.ofString (String.ofList document)) answer files') :
    Saving s path files (answer.map (·.mapError (.file path)), files')

/-- Settings that were saved were taken by a device or are in a file as a whole. -/
theorem Saving.saved (saving : Saving s path files (some (.ok ()), files')) :
    ∃ document, s.toToml = .ok document ∧
      ((∃ place gives, files'.find path = .ok (.found place (.device gives)) ∧
          Grown path.Above files files') ∨
        ∃ place, Saved path (Bytes.ofString (String.ofList document)) place files files') := by
  generalize ends : some (Except.ok ()) = answer at saving
  cases saving with
  | unwritable => cases ends
  | directory => cases ends
  | @file document answered between _ writable grown writing =>
      have isOk : answered = some (.ok ()) := by
        rcases answered with _ | _ | _ <;> cases ends
        rfl
      cases writing with
      | unopened fails => exact absurd isOk fails
      | cut fails => exact absurd isOk fails
      | @device place gives leads =>
          exact ⟨document, writable, .inl ⟨place, gives, leads, grown⟩⟩
      | whole written =>
          exact ⟨document, writable, .inr ⟨_, saved_of_written grown written⟩⟩

end Replug.Settings
