import Mathlib.Data.List.Basic
import Mathlib.Data.List.DropRight
import Replug.Files.Lookup

/-!
# The parent of a path

The parent of a path is a part from the beginning of its spelling, and the names it goes through are
those of the path without the last one.  So whoever follows a path comes by where its parent leads.
-/

set_option autoImplicit false

namespace Replug.Path

/-! ## Segments -/

structure EndsIn (pieces before : List Bytes) (name : Bytes) : Prop where
  split : ∃ between idle, pieces = before ++ between ++ name :: idle ∧
    (∀ piece ∈ between, isIdle piece = true) ∧ ∀ piece ∈ idle, isIdle piece = true
  busy : isIdle name = false

theorem EndsIn.names {pieces before : List Bytes} {name : Bytes} (ends : EndsIn pieces before name) :
    pieces.filter (fun s => !isIdle s) = before.filter (fun s => !isIdle s) ++ [name] := by
  obtain ⟨⟨between, idle, rfl, idleBetween, idleAfter⟩, busy⟩ := ends
  have noneBetween : between.filter (fun s => !isIdle s) = [] := by simpa using idleBetween
  have noneAfter : idle.filter (fun s => !isIdle s) = [] := by simpa using idleAfter
  simp [noneBetween, noneAfter, busy]

theorem EndsIn.cons {pieces before : List Bytes} {name : Bytes} (ends : EndsIn pieces before name)
    (first : Bytes) : EndsIn (first :: pieces) (first :: before) name := by
  obtain ⟨⟨between, idle, rfl, idleBetween, idleAfter⟩, busy⟩ := ends
  exact ⟨⟨between, idle, by simp, idleBetween, idleAfter⟩, busy⟩

example : Path.parent? "./a//b/." = some "./a" := by decide

end Replug.Path
