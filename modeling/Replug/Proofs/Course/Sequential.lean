import Replug.Proofs.Course.Alone

/-!
# One call at a time

A course waits for one call before it goes on, so no two calls are ever under way together, with or
without a shutdown.
-/

set_option autoImplicit false

namespace Replug

variable {ρ σ : Type}

def Happening.underWay (calls : List Call) : Happening → List Call
  | .did _ _ => calls
  | .began c => c :: calls
  | .ended c _ => calls.erase c

/-- At no time is more than one call under way. -/
def Sequential (trace : List Happening) : Prop :=
  ∀ done, done <+: trace → (done.foldl Happening.underWay []).length ≤ 1

namespace Sequential

theorem nil : Sequential [] := by
  intro done part
  rw [List.prefix_nil.mp part]
  simp

theorem of_prefix {part whole : List Happening} (sequential : Sequential whole)
    (isPart : part <+: whole) : Sequential part := by
  intro done earlier
  exact sequential done (earlier.trans isPart)

theorem did {rest : List Happening} (a : Act) (ok : Bool) (sequential : Sequential rest) :
    Sequential (.did a ok :: rest) := by
  intro done part
  rcases List.prefix_cons_iff.mp part with rfl | ⟨later, rfl, within⟩
  · simp
  · exact sequential later within

theorem began (c : Call) : Sequential [.began c] := by
  intro done part
  rcases List.prefix_cons_iff.mp part with rfl | ⟨later, rfl, within⟩
  · simp
  · rw [List.prefix_nil.mp within]
    simp [Happening.underWay]

theorem ended {rest : List Happening} (c : Call) (ok : Bool) (sequential : Sequential rest) :
    Sequential (.began c :: .ended c ok :: rest) := by
  intro done part
  rcases List.prefix_cons_iff.mp part with rfl | ⟨later, rfl, within⟩
  · simp
  · rcases List.prefix_cons_iff.mp within with rfl | ⟨last, rfl, innermost⟩
    · simp [Happening.underWay]
    · simpa [Happening.underWay] using sequential last innermost

theorem noted {trace : List Happening} (record : Log.Record) (ok : Bool)
    (sequential : Sequential trace) : Sequential (trace ++ [.did (.note record) ok]) := by
  intro done part
  rcases List.prefix_concat_iff.mp part with rfl | part
  · simpa [Happening.underWay] using sequential trace List.prefix_rfl
  · exact sequential done part

end Sequential

theorem Course.alone_sequential (world : World σ) (course : Course ρ) (s : σ) :
    Sequential (course.alone world s).trace := by
  induction course generalizing s with
  | finished r => exact .nil
  | act a next ih => exact .did a _ (ih _ _)
  | await c next ih =>
      simp only [Course.alone]
      cases (world.call c s).answer? with
      | none => exact .began c
      | some returned => exact .ended c _ (ih _ _)

theorem Course.execute_sequential (world : World σ) (shutdown : Shutdown σ) (course : Course ρ)
    (s : σ) : Sequential (course.execute world shutdown s).trace := by
  have alone := course.alone_sequential world s
  rcases course.execute_cases world shutdown s with same | breaks | stopped
  · rw [same]
    exact alone
  · obtain ⟨before, c, rest, whole, part, -⟩ := breaks
    rw [part]
    apply alone.of_prefix
    rw [whole]
    exact ⟨rest, by simp⟩
  · rw [stopped]
    exact .nil

end Replug
