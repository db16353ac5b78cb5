import Replug.Proofs.Course.Alone

/-!
# Timelines

A trace tells what was done, but not at which poll.  A timeline has the polls as well, each with
whether the request to shut down was there.

The run is polled no more once the request is there: it ends before it would be suspended again, and
what it does up to that point it does in one go.  If the request is asked for first at that poll, it
does nothing at all.
-/

set_option autoImplicit false

namespace Replug

variable {α ρ σ : Type}

inductive Sight where
  /-- A poll, and whether the request to shut down was there. -/
  | poll (number : Nat) (there : Bool)
  | done (h : Happening)

def Sight.happening? : Sight → Option Happening
  | .poll _ _ => none
  | .done h => some h

/-- The polls made while a call is waited for.  A request that comes while the call never returns is
seen at one more poll. -/
def Flight.polls (shutdown : Shutdown σ) : Flight α σ → Polling → List Sight
  | .returned _ _, _ => []
  | .stuck s, p =>
    if p.pending || !shutdown.breaksStuck s then [] else [.poll (p.poll + 1) true]
  | .suspended s next, p =>
    if p.pending then []
    else
      let here := p.poll + 1
      .poll here (shutdown.arrived here s) ::
        if shutdown.arrived here s && shutdown.askedFirst here then []
        else next.polls shutdown ⟨here, shutdown.arrived here s⟩

namespace Course

def watch (world : World σ) (shutdown : Shutdown σ) : Course ρ → Polling → σ → List Sight
  | .finished _, _, _ => []
  | .act a next, p, s =>
    let (answer, s) := world.act a s
    .done (.did a (a.succeeded answer)) :: (next answer).watch world shutdown p s
  | .await c next, p, s =>
    .done (.began c) :: (world.call c s).polls shutdown p ++
      match (world.call c s).land shutdown p with
      | .returned answer s p =>
        .done (.ended c (c.succeeded answer)) :: (next answer).watch world shutdown p s
      | .dropped _ | .stuck _ => []

def timeline (course : Course ρ) (world : World σ) (shutdown : Shutdown σ) (s : σ) : List Sight :=
  let there := shutdown.arrived 0 s
  .poll 0 there ::
    if there && shutdown.askedFirst 0 then [] else course.watch world shutdown ⟨0, there⟩ s

end Course

theorem Flight.polls_no_happening (shutdown : Shutdown σ) (flight : Flight α σ) (p : Polling) :
    (flight.polls shutdown p).filterMap Sight.happening? = [] := by
  induction flight generalizing p with
  | returned answer s => rfl
  | suspended s next ih =>
      simp only [polls]
      split
      · rfl
      · simp only [List.filterMap_cons, Sight.happening?]
        split
        · rfl
        · exact ih _
  | stuck s =>
      simp only [polls]
      split
      · rfl
      · rfl

theorem Course.follow_trace (world : World σ) (shutdown : Shutdown σ) (course : Course ρ)
    (p : Polling) (s : σ) (done : List Happening) :
    (course.follow world shutdown p s done).trace =
      done.reverse ++ (course.watch world shutdown p s).filterMap Sight.happening? := by
  induction course generalizing p s done with
  | finished r => simp [follow, watch]
  | act a next ih => simp [follow, watch, ih, Sight.happening?]
  | await c next ih =>
      have quiet := (world.call c s).polls_no_happening shutdown p
      simp only [follow, watch]
      cases (world.call c s).land shutdown p with
      | returned answer s' p' => simp [ih, quiet, Sight.happening?]
      | dropped s' => simp [quiet, Sight.happening?]
      | stuck s' => simp [quiet, Sight.happening?]

theorem Course.execute_trace (course : Course ρ) (world : World σ) (shutdown : Shutdown σ) (s : σ) :
    (course.execute world shutdown s).trace =
      (course.timeline world shutdown s).filterMap Sight.happening? := by
  simp only [execute, timeline]
  by_cases first : (shutdown.arrived 0 s && shutdown.askedFirst 0) = true
  · simp [first, Sight.happening?]
  · have followed := course.follow_trace world shutdown ⟨0, shutdown.arrived 0 s⟩ s []
    rw [if_neg first, if_neg first, followed]
    rfl

/-! ## Polls at which the request is there -/

def Sight.isCalm : Sight → Bool
  | .poll _ there => !there
  | .done _ => true

inductive Flight.Flown (shutdown : Shutdown σ) : List Sight → Landing α σ → Prop where
  | calm {polls : List Sight} {answer : α} {s : σ} {poll : Nat}
    (calm : ∀ sight ∈ polls, sight.isCalm = true) :
    Flown shutdown polls (.returned answer s ⟨poll, false⟩)
  /-- The request was there when the call returned, and the run was asked first. -/
  | overtaken (polls : List Sight) {answer : α} {s : σ} {poll : Nat}
    (calm : ∀ sight ∈ polls, sight.isCalm = true) (late : shutdown.askedFirst poll = false) :
    Flown shutdown (polls ++ [.poll poll true]) (.returned answer s ⟨poll, true⟩)
  | dropped (polls : List Sight) {s : σ} {poll : Nat}
    (calm : ∀ sight ∈ polls, sight.isCalm = true) :
    Flown shutdown (polls ++ [.poll poll true]) (.dropped s)
  | stuck {polls : List Sight} {s : σ} (calm : ∀ sight ∈ polls, sight.isCalm = true) :
    Flown shutdown polls (.stuck s)

namespace Flight

theorem calm_cons (first : Sight) {rest : List Sight} (calm : first.isCalm = true)
    (others : ∀ sight ∈ rest, sight.isCalm = true) :
    ∀ sight ∈ first :: rest, sight.isCalm = true := by
  intro sight member
  rcases List.mem_cons.mp member with rfl | later
  · exact calm
  · exact others sight later

theorem Flown.cons {shutdown : Shutdown σ} {polls : List Sight} {landing : Landing α σ}
    (poll : Nat) (flown : Flown shutdown polls landing) :
    Flown shutdown (.poll poll false :: polls) landing := by
  cases flown with
  | calm calm => exact .calm (calm_cons _ rfl calm)
  | overtaken polls calm late => exact .overtaken (_ :: polls) (calm_cons _ rfl calm) late
  | dropped polls calm => exact .dropped (_ :: polls) (calm_cons _ rfl calm)
  | stuck calm => exact .stuck (calm_cons _ rfl calm)

/-- Once the request is there, a flight is not polled again: it has returned, or it is dropped. -/
theorem land_pending (shutdown : Shutdown σ) (flight : Flight α σ) (poll : Nat) :
    flight.polls shutdown ⟨poll, true⟩ = [] ∧
      ((∃ answer s, flight.land shutdown ⟨poll, true⟩ = .returned answer s ⟨poll, true⟩) ∨
        ∃ s, flight.land shutdown ⟨poll, true⟩ = .dropped s) := by
  cases flight with
  | returned answer s => exact ⟨rfl, .inl ⟨answer, s, rfl⟩⟩
  | suspended s next => exact ⟨rfl, .inr ⟨s, rfl⟩⟩
  | stuck s => exact ⟨rfl, .inr ⟨s, rfl⟩⟩

theorem flown (shutdown : Shutdown σ) (flight : Flight α σ) (poll : Nat) :
    Flown shutdown (flight.polls shutdown ⟨poll, false⟩) (flight.land shutdown ⟨poll, false⟩) := by
  induction flight generalizing poll with
  | returned answer s => exact .calm (by simp [polls])
  | stuck s =>
      cases breaks : shutdown.breaksStuck s with
      | false =>
          simp only [polls, land, breaks]
          exact .stuck (by simp)
      | true =>
          simp only [polls, land, breaks]
          exact .dropped [] (by simp)
  | suspended s next ih =>
      cases there : shutdown.arrived (poll + 1) s with
      | false =>
          simp only [polls, land, there]
          exact (ih (poll + 1)).cons (poll + 1)
      | true =>
          cases first : shutdown.askedFirst (poll + 1) with
          | true =>
              simp only [polls, land, there, first]
              exact .dropped [] (by simp)
          | false =>
              obtain ⟨noPolls, ⟨answer, s', lands⟩ | ⟨s', lands⟩⟩ :=
                next.land_pending shutdown (poll + 1)
              · simp only [polls, land, there, first, Bool.and_false, noPolls, lands]
                exact .overtaken [] (by simp) first
              · simp only [polls, land, there, first, Bool.and_false, noPolls, lands]
                exact .dropped [] (by simp)

end Flight

namespace Course

theorem watch_pending (world : World σ) (shutdown : Shutdown σ) (course : Course ρ) (poll : Nat)
    (s : σ) (done : List Happening) :
    (∀ number there, .poll number there ∉ course.watch world shutdown ⟨poll, true⟩ s) ∧
      (course.follow world shutdown ⟨poll, true⟩ s done).ending ≠ .hung := by
  induction course generalizing s done with
  | finished r => simp [watch, follow]
  | act a next ih =>
      obtain ⟨noPoll, ends⟩ := ih (world.act a s).1 (world.act a s).2
        (.did a (a.succeeded (world.act a s).1) :: done)
      refine ⟨?_, ends⟩
      intro number there member
      rcases List.mem_cons.mp member with same | later
      · cases same
      · exact noPoll number there later
  | await c next ih =>
      obtain ⟨noPolls, ⟨answer, s', lands⟩ | ⟨s', lands⟩⟩ :=
        (world.call c s).land_pending shutdown poll
      · obtain ⟨noPoll, ends⟩ := ih answer s' (.ended c (c.succeeded answer) :: .began c :: done)
        refine ⟨?_, by simpa [follow, lands] using ends⟩
        intro number there
        simpa [watch, noPolls, lands] using noPoll number there
      · simp [watch, follow, noPolls, lands]

structure Heard (shutdown : Shutdown σ) (number : Nat) (after : List Sight) (ending : Ending ρ) :
    Prop where
  last : ∀ other there, .poll other there ∉ after
  ends : ending ≠ .hung
  atOnce : shutdown.askedFirst number = true → after = [] ∧ ending = .interrupted

/-- Calm sights do not reach to a poll at which the request is there. -/
theorem calm_before {calm rest before after : List Sight} {number : Nat}
    (isCalm : ∀ sight ∈ calm, sight.isCalm = true)
    (split : calm ++ rest = before ++ .poll number true :: after) :
    ∃ between, before = calm ++ between ∧ rest = between ++ .poll number true :: after := by
  have lack : ∀ sight ∈ calm, (!sight.isCalm) = false := by
    intro sight member
    rw [isCalm sight member]
    rfl
  exact split_past lack rfl split

/-- The poll at which the request overtakes a run is the one that is looked for: no other comes
later. -/
theorem overtaken_heard (world : World σ) (shutdown : Shutdown σ) (course : Course ρ) (poll : Nat)
    (s : σ) (done : List Happening) (late : shutdown.askedFirst poll = false)
    (quiet : List Sight) {before after : List Sight} {number : Nat}
    (noPoll : ∀ other there, .poll other there ∉ quiet)
    (split : .poll poll true :: (quiet ++ course.watch world shutdown ⟨poll, true⟩ s) =
      before ++ .poll number true :: after) :
    Heard shutdown number after (course.follow world shutdown ⟨poll, true⟩ s done).ending := by
  have onwards := course.watch_pending world shutdown poll s done
  have noneLater : ∀ other there,
      .poll other there ∉ quiet ++ course.watch world shutdown ⟨poll, true⟩ s := by
    intro other there member
    rcases List.mem_append.mp member with first | later
    · exact noPoll other there first
    · exact onwards.1 other there later
  cases before with
  | nil =>
      simp only [List.nil_append, List.cons.injEq, Sight.poll.injEq, and_true] at split
      obtain ⟨rfl, rfl⟩ := split
      refine ⟨noneLater, onwards.2, fun first => ?_⟩
      rw [late] at first
      cases first
  | cons head before =>
      have rest := (List.cons.inj split).2
      exact absurd (by rw [rest]; simp) (noneLater number true)

theorem watch_heard (world : World σ) (shutdown : Shutdown σ) (course : Course ρ) (poll : Nat)
    (s : σ) (done : List Happening) {before after : List Sight} {number : Nat}
    (split : course.watch world shutdown ⟨poll, false⟩ s = before ++ .poll number true :: after) :
    Heard shutdown number after (course.follow world shutdown ⟨poll, false⟩ s done).ending := by
  induction course generalizing poll s done before with
  | finished r => simp [watch] at split
  | act a next ih =>
      have begins : [.done (.did a (a.succeeded (world.act a s).1))] ++
          (next (world.act a s).1).watch world shutdown ⟨poll, false⟩ (world.act a s).2 =
          before ++ .poll number true :: after := split
      obtain ⟨between, -, rest⟩ := calm_before (by simp [Sight.isCalm]) begins
      exact ih _ poll _ _ rest
  | await c next ih =>
      have flown := (world.call c s).flown shutdown poll
      simp only [watch, follow] at split ⊢
      generalize (world.call c s).polls shutdown ⟨poll, false⟩ = polls at flown split
      generalize (world.call c s).land shutdown ⟨poll, false⟩ = landing at flown split ⊢
      cases flown with
      | @calm _ answer s' poll' calm =>
          obtain ⟨between, -, returned⟩ := calm_before (Flight.calm_cons _ rfl calm) split
          have ended : [.done (.ended c (c.succeeded answer))] ++
              (next answer).watch world shutdown ⟨poll', false⟩ s' =
              between ++ .poll number true :: after := returned
          obtain ⟨between, -, rest⟩ := calm_before (by simp [Sight.isCalm]) ended
          exact ih answer poll' s' _ rest
      | @overtaken polls answer s' poll' calm late =>
          rw [← List.cons_append, List.append_assoc] at split
          obtain ⟨between, -, returned⟩ := calm_before (Flight.calm_cons _ rfl calm) split
          exact (next answer).overtaken_heard world shutdown poll' s' _ late
            [.done (.ended c (c.succeeded answer))] (by simp) returned
      | @dropped polls s' poll' calm =>
          rw [List.append_nil, ← List.cons_append] at split
          obtain ⟨between, -, last⟩ := calm_before (Flight.calm_cons _ rfl calm) split
          have nothing : after = [] := by
            cases between with
            | nil => simpa using (List.cons.inj last).2.symm
            | cons head between => simp at last
          subst nothing
          exact ⟨by simp, by simp, by simp⟩
      | stuck calm =>
          rw [List.append_nil] at split
          have found := Flight.calm_cons (.done (.began c)) rfl calm (.poll number true) (by simp [split])
          cases found

/-- A run is not polled again after the poll at which the request is there, so it comes to an end
before it would be suspended once more.  Where the request is asked for first, it ends right there. -/
theorem execute_heard (course : Course ρ) (world : World σ) (shutdown : Shutdown σ) (s : σ)
    {before after : List Sight} {number : Nat}
    (split : course.timeline world shutdown s = before ++ .poll number true :: after) :
    Heard shutdown number after (course.execute world shutdown s).ending := by
  unfold timeline at split
  unfold execute
  cases there : shutdown.arrived 0 s with
  | false =>
      simp only [there, Bool.false_and] at split ⊢
      have begins : [.poll 0 false] ++ course.watch world shutdown ⟨0, false⟩ s =
          before ++ .poll number true :: after := split
      obtain ⟨between, -, rest⟩ := calm_before (by simp [Sight.isCalm]) begins
      exact course.watch_heard world shutdown 0 s [] rest
  | true =>
      cases first : shutdown.askedFirst 0 with
      | true =>
          simp only [there, first, Bool.and_self, if_true] at split ⊢
          cases before with
          | nil =>
              obtain ⟨-, rfl⟩ := List.cons.inj split
              exact ⟨by simp, by simp, by simp⟩
          | cons head before => simp at split
      | false =>
          simp only [there, first, Bool.and_false] at split ⊢
          exact course.overtaken_heard world shutdown 0 s [] first [] (by simp) split

end Course

end Replug
