import Replug.Proofs.Course.Alone

/-!
# Worlds that a run cannot tell apart

A run learns of its world only what comes back from acts and calls.  Two worlds that always give the
same back, as long as a relation between them is kept, let every course do the same in both: the
traces and the endings are equal, and the worlds left behind are related again.

How long a call takes is not learned, so flights are compared by what they return and by nothing else.
-/

set_option autoImplicit false

namespace Replug

variable {α α' β β' ρ σ σ' τ τ' : Type}

inductive Flight.Alike (agree : α → β → Prop) (R : σ → τ → Prop) (f : Flight α σ)
    (g : Flight β τ) : Prop where
  | returns {a : α} {b : β} {s : σ} {t : τ} (first : f.answer? = some (a, s))
    (second : g.answer? = some (b, t)) (agrees : agree a b) (related : R s t)
  | waits (first : f.answer? = none) (second : g.answer? = none) (related : R f.last g.last)

def SameAnswer (R : σ → τ → Prop) (x : α × σ) (y : α × τ) : Prop := x.1 = y.1 ∧ R x.2 y.2

structure World.Alike (R : σ → τ → Prop) (world : World σ) (world' : World τ) : Prop where
  act : ∀ a s t, R s t → SameAnswer R (world.act a s) (world'.act a t)
  call : ∀ c s t, R s t → Flight.Alike Eq R (world.call c s) (world'.call c t)

structure Execution.Alike (R : σ → τ → Prop) (e : Execution ρ σ) (e' : Execution ρ τ) : Prop where
  trace : e.trace = e'.trace
  ending : e.ending = e'.ending
  world : R e.world e'.world

namespace Flight.Alike

variable {agree : α → β → Prop} {R : σ → τ → Prop}

/-- Where two flights are under way, each as a larger world sees it. -/
theorem map {agree' : α' → β' → Prop} {R' : σ' → τ' → Prop} {f : Flight α σ} {g : Flight β τ}
    (alike : Flight.Alike agree R f g) {meanwhile : σ → σ'} {meanwhile' : τ → τ'}
    {after : α → σ → α' × σ'} {after' : β → τ → β' × τ'}
    (held : ∀ s t, R s t → R' (meanwhile s) (meanwhile' t))
    (arrived : ∀ a b s t, agree a b → R s t →
      agree' (after a s).1 (after' b t).1 ∧ R' (after a s).2 (after' b t).2) :
    Flight.Alike agree' R' (f.map meanwhile after) (g.map meanwhile' after') := by
  cases alike with
  | returns first second agrees related =>
      obtain ⟨agrees', related'⟩ := arrived _ _ _ _ agrees related
      refine .returns ?_ ?_ agrees' related'
      · rw [answer?_map, first]
        rfl
      · rw [answer?_map, second]
        rfl
  | waits first second related =>
      refine .waits ?_ ?_ ?_
      · rw [answer?_map, first]
        rfl
      · rw [answer?_map, second]
        rfl
      · rw [last_map meanwhile after first, last_map meanwhile' after' second]
        exact held _ _ related

theorem returned {a : α} {b : β} {s : σ} {t : τ} (agrees : agree a b) (related : R s t) :
    Flight.Alike agree R (.returned a s) (.returned b t) :=
  .returns rfl rfl agrees related

theorem refl (f : Flight α σ) : Flight.Alike Eq Eq f f := by
  cases returns : f.answer? with
  | none => exact .waits returns returns rfl
  | some returned => exact .returns returns returns rfl rfl

end Flight.Alike

theorem Execution.Alike.after {R : σ → τ → Prop} {e : Execution ρ σ} {e' : Execution ρ τ}
    (before : List Happening) (alike : e.Alike R e') :
    (e.after before).Alike R (e'.after before) where
  trace := congrArg (before ++ ·) alike.trace
  ending := alike.ending
  world := alike.world

/-- A course does the same in two worlds that it cannot tell apart. -/
theorem Course.alone_alike {R : σ → τ → Prop} {world : World σ} {world' : World τ}
    (alike : World.Alike R world world') (course : Course ρ) {s : σ} {t : τ} (related : R s t) :
    (course.alone world s).Alike R (course.alone world' t) := by
  induction course generalizing s t with
  | finished r => exact ⟨rfl, rfl, related⟩
  | act a next ih =>
      obtain ⟨answer, kept⟩ := alike.act a s t related
      have goesOn := (ih (world.act a s).1 kept).after [.did a (a.succeeded (world.act a s).1)]
      rw [answer] at goesOn
      simp only [alone, answer]
      exact goesOn
  | await c next ih =>
      cases alike.call c s t related with
      | @returns answer _ s' t' first second same kept =>
          subst same
          simp only [alone, first, second]
          exact (ih answer kept).after _
      | waits first second kept =>
          simp only [alone, first, second]
          exact ⟨rfl, rfl, kept⟩

end Replug
