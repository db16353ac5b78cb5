import Replug.Course.Execution

/-!
# Courses followed alone

With nothing beside it, a course does whatever its world lets it do.  `Course.alone` says so
without polls and without a list of what was done before.  Under a shutdown an execution is this
one, or it breaks off inside a call and has done the same up to there.
-/

set_option autoImplicit false

namespace Replug

variable {α β ρ σ : Type}

/-- What stands in one list behind another stands in the first of them or in the second. -/
theorem append_split {first second before after : List α} {x : α}
    (split : first ++ second = before ++ x :: after) :
    (∃ between, first = before ++ x :: between) ∨
      ∃ between, before = first ++ between ∧ second = between ++ x :: after := by
  rcases List.append_eq_append_iff.mp split with
    ⟨between, begins, goesOn⟩ | ⟨between, begins, goesOn⟩
  · exact .inr ⟨between, begins, goesOn⟩
  · cases between with
    | nil => exact .inr ⟨[], by simpa using begins.symm, by simpa using goesOn.symm⟩
    | cons head between =>
        obtain ⟨rfl, -⟩ := List.cons.inj goesOn
        exact .inl ⟨between, begins⟩

/-- What has a property stands behind all those at the beginning that have it not. -/
theorem split_past {p : α → Bool} {first rest before after : List α} {x : α}
    (lack : ∀ y ∈ first, p y = false) (has : p x = true)
    (split : first ++ rest = before ++ x :: after) :
    ∃ between, before = first ++ between ∧ rest = between ++ x :: after := by
  rcases append_split split with ⟨between, rfl⟩ | behind
  · have none := lack x (by simp)
    rw [has] at none
    cases none
  · exact behind

namespace Flight

def last : Flight α σ → σ
  | .returned _ s => s
  | .suspended _ next => next.last
  | .stuck s => s

theorem answer?_map {τ : Type} (meanwhile : σ → τ) (after : α → σ → β × τ) (flight : Flight α σ) :
    (flight.map meanwhile after).answer? =
      flight.answer?.map fun returned => after returned.1 returned.2 := by
  induction flight with
  | returned answer s => rfl
  | suspended s next ih => exact ih
  | stuck s => rfl

theorem last_map {τ : Type} (meanwhile : σ → τ) (after : α → σ → β × τ) {flight : Flight α σ}
    (waits : flight.answer? = none) : (flight.map meanwhile after).last = meanwhile flight.last := by
  induction flight with
  | returned answer s => cases waits
  | suspended s next ih => exact ih waits
  | stuck s => rfl

/-- A shutdown may drop a flight, but it changes neither the answer nor the waiting for ever. -/
theorem land_cases (shutdown : Shutdown σ) (flight : Flight α σ) (p : Polling) :
    (∃ answer s p', flight.answer? = some (answer, s) ∧
      flight.land shutdown p = .returned answer s p') ∨
    (∃ s, flight.land shutdown p = .dropped s) ∨
    (flight.answer? = none ∧ flight.land shutdown p = .stuck flight.last) := by
  induction flight generalizing p with
  | returned answer s => exact .inl ⟨answer, s, p, rfl, rfl⟩
  | suspended s next ih =>
      simp only [land, answer?, last]
      split
      · exact .inr (.inl ⟨s, rfl⟩)
      · split
        · exact .inr (.inl ⟨s, rfl⟩)
        · exact ih _
  | stuck s =>
      simp only [land]
      split
      · exact .inr (.inl ⟨s, rfl⟩)
      · exact .inr (.inr ⟨rfl, rfl⟩)

theorem land_never (flight : Flight α σ) (poll : Nat) :
    (∃ answer s poll', flight.answer? = some (answer, s) ∧
      flight.land Shutdown.never ⟨poll, false⟩ = .returned answer s ⟨poll', false⟩) ∨
    (flight.answer? = none ∧ flight.land Shutdown.never ⟨poll, false⟩ = .stuck flight.last) := by
  induction flight generalizing poll with
  | returned answer s => exact .inl ⟨answer, s, poll, rfl, rfl⟩
  | suspended s next ih => exact ih (poll + 1)
  | stuck s => exact .inr ⟨rfl, rfl⟩

end Flight

namespace Execution

def after (before : List Happening) (e : Execution ρ σ) : Execution ρ σ :=
  { e with trace := before ++ e.trace }

def andThen (e : Execution α σ) (next : α → σ → Execution β σ) : Execution β σ :=
  match e.ending with
  | .finished a => (next a e.world).after e.trace
  | .interrupted => ⟨e.trace, .interrupted, e.world⟩
  | .hung => ⟨e.trace, .hung, e.world⟩

@[simp] theorem after_nil (e : Execution ρ σ) : e.after [] = e := rfl

theorem after_after (before between : List Happening) (e : Execution ρ σ) :
    (e.after between).after before = e.after (before ++ between) := by
  simp [after]

theorem after_andThen (before : List Happening) (e : Execution α σ)
    (next : α → σ → Execution β σ) :
    (e.after before).andThen next = (e.andThen next).after before := by
  rcases e with ⟨trace, ending, s⟩
  cases ending with
  | finished a => simp [after, andThen]
  | interrupted => rfl
  | hung => rfl

end Execution

namespace Course

def alone (world : World σ) : Course ρ → σ → Execution ρ σ
  | .finished r, s => ⟨[], .finished r, s⟩
  | .act a next, s =>
    let (answer, s) := world.act a s
    ((next answer).alone world s).after [.did a (a.succeeded answer)]
  | .await c next, s =>
    match (world.call c s).answer? with
    | some (answer, s) =>
      ((next answer).alone world s).after [.began c, .ended c (c.succeeded answer)]
    | none => ⟨[.began c], .hung, (world.call c s).last⟩

theorem alone_bind (world : World σ) (course : Course α) (f : α → Course β) (s : σ) :
    (course.bind f).alone world s =
      (course.alone world s).andThen fun a s => (f a).alone world s := by
  induction course generalizing s with
  | finished a => simp [bind, alone, Execution.andThen]
  | act a next ih =>
      simp only [bind, alone, ih, Execution.after_andThen]
  | await c next ih =>
      simp only [bind, alone]
      cases (world.call c s).answer? with
      | none => rfl
      | some returned => simp only [ih, Execution.after_andThen]

theorem follow_never (world : World σ) (course : Course ρ) (poll : Nat) (s : σ)
    (done : List Happening) :
    course.follow world Shutdown.never ⟨poll, false⟩ s done =
      (course.alone world s).after done.reverse := by
  induction course generalizing poll s done with
  | finished r => simp [follow, alone, Execution.after]
  | act a next ih => simp [follow, alone, ih, Execution.after_after]
  | await c next ih =>
      rcases (world.call c s).land_never poll with
        ⟨answer, s', poll', returns, lands⟩ | ⟨waits, lands⟩
      · simp [follow, alone, returns, lands, ih, Execution.after_after]
      · simp [follow, alone, waits, lands, Execution.after]

theorem execute_never (world : World σ) (course : Course ρ) (s : σ) :
    course.execute world Shutdown.never s = course.alone world s := by
  exact follow_never world course 0 s []

/-- An execution that breaks off inside a call, where another goes on. -/
def BreaksOff (e alone : Execution ρ σ) : Prop :=
  ∃ before c rest, alone.trace = before ++ .began c :: rest ∧
    e.trace = before ++ [.began c] ∧ e.ending = .interrupted

theorem BreaksOff.after {e alone : Execution ρ σ} (before : List Happening)
    (breaks : BreaksOff e alone) : BreaksOff (e.after before) (alone.after before) := by
  obtain ⟨first, c, rest, whole, part, ending⟩ := breaks
  refine ⟨before ++ first, c, rest, ?_, ?_, ending⟩
  · simp [Execution.after, whole]
  · simp [Execution.after, part]

/-- A shutdown changes nothing unless it breaks the run off inside a call. -/
theorem follow_alone_or_breaksOff (world : World σ) (shutdown : Shutdown σ) (course : Course ρ)
    (p : Polling) (s : σ) (done : List Happening) :
    course.follow world shutdown p s done = (course.alone world s).after done.reverse ∨
    BreaksOff (course.follow world shutdown p s done)
      ((course.alone world s).after done.reverse) := by
  induction course generalizing p s done with
  | finished r => exact .inl (by simp [follow, alone, Execution.after])
  | act a next ih =>
      have later := ih (world.act a s).1 p (world.act a s).2
        (.did a (a.succeeded (world.act a s).1) :: done)
      simpa [follow, alone, Execution.after_after] using later
  | await c next ih =>
      rcases (world.call c s).land_cases shutdown p with
        ⟨answer, s', p', returns, lands⟩ | ⟨s', lands⟩ | ⟨waits, lands⟩
      · have later := ih answer p' s' (.ended c (c.succeeded answer) :: .began c :: done)
        simpa [follow, alone, returns, lands, Execution.after_after] using later
      · right
        have begins : ∃ rest, ((Course.await c next).alone world s).trace = .began c :: rest := by
          simp only [alone]
          cases (world.call c s).answer? with
          | none => exact ⟨[], rfl⟩
          | some returned => exact ⟨_, rfl⟩
        obtain ⟨rest, begins⟩ := begins
        refine ⟨done.reverse, c, rest, ?_, ?_, ?_⟩
        · simp [Execution.after, begins]
        · simp [follow, lands]
        · simp [follow, lands]
      · exact .inl (by simp [follow, alone, waits, lands, Execution.after])

/-- Under a shutdown an execution is the one without it, breaks that one off inside a call, or
does nothing at all. -/
theorem execute_cases (world : World σ) (shutdown : Shutdown σ) (course : Course ρ) (s : σ) :
    course.execute world shutdown s = course.alone world s ∨
    BreaksOff (course.execute world shutdown s) (course.alone world s) ∨
    course.execute world shutdown s = ⟨[], .interrupted, s⟩ := by
  unfold execute
  by_cases first : (shutdown.arrived 0 s && shutdown.askedFirst 0) = true
  · exact .inr (.inr (if_pos first))
  · rw [if_neg first]
    have followed := follow_alone_or_breaksOff world shutdown course
      ⟨0, shutdown.arrived 0 s⟩ s []
    exact followed.imp id .inl

theorem alone_not_interrupted (world : World σ) (course : Course ρ) (s : σ) :
    (course.alone world s).ending ≠ .interrupted := by
  induction course generalizing s with
  | finished r => simp [alone]
  | act a next ih => exact ih _ _
  | await c next ih =>
      simp only [alone]
      cases (world.call c s).answer? with
      | none => simp
      | some returned => exact ih _ _

end Course

end Replug
