import Replug.Proofs.Course.Deeds

/-!
# Lines in order

A session that writes certain lines writes them in their order, in every world: a part from the
beginning of them if something does not come off, and all of them if it succeeds.  `Session.Tells`
says so of a session, together with what it may fail with, and goes through the parts of a session
one after the other.

`World.Shows` says of a world that it keeps the lines that were written.  What it has kept after a
run, whatever ended the run, are the lines in the trace.
-/

set_option autoImplicit false

namespace Replug

variable {α β ρ σ τ : Type}

def Happening.line? : Happening → Option String
  | .did (.write line) true => some line
  | .did _ _ | .began _ | .ended _ _ => none

def Execution.lines (e : Execution ρ σ) : List String := e.trace.filterMap Happening.line?

/-! ## Sessions -/

/-- A world in which no call is answered with the operator's interrupt. -/
def World.Serious (world : World σ) : Prop :=
  ∀ c s answer after, (world.call c s).answer? = some (answer, after) →
    c.failure? answer ≠ some .interrupted

/-- An execution that writes a part from the beginning of some lines, all of them if it succeeds,
and does not fail with an interrupt that did not come from its world. -/
structure Execution.Tells (world : World σ) (e : Execution (Except Failure α) σ)
    (texts : List String) : Prop where
  inOrder : e.lines <+: texts
  all : ∀ a, e.ending = .finished (.ok a) → e.lines = texts
  seriously : world.Serious → e.ending ≠ .finished (.error .interrupted)

structure Session.Tells (session : Session α) (texts : List String) : Prop where
  within : ∀ {σ : Type} (world : World σ) (s : σ), (session.alone world s).Tells world texts

theorem Execution.lines_after (before : List Happening) (e : Execution ρ σ) :
    (e.after before).lines = before.filterMap Happening.line? ++ e.lines := by
  simp [lines, after]

theorem Execution.Tells.after {world : World σ} {texts more : List String} {before : List Happening}
    (whole : before.filterMap Happening.line? = texts) {e : Execution (Except Failure α) σ}
    (later : e.Tells world more) : (e.after before).Tells world (texts ++ more) where
  inOrder := by
    rw [lines_after, whole]
    exact (List.prefix_append_right_inj texts).mpr later.inOrder
  all a succeeds := by rw [lines_after, whole, later.all a succeeds]
  seriously := later.seriously

def Deed.lines (deeds : List Deed) : List String :=
  (deeds.flatMap (Deed.shown true)).filterMap Happening.line?

theorem Deed.lines_append (first second : List Deed) :
    lines (first ++ second) = lines first ++ lines second := by
  simp [lines]

theorem Deed.line_of_failed (deed : Deed) : (deed.shown false).filterMap Happening.line? = [] := by
  cases deed with
  | act a => cases a <;> rfl
  | call c => rfl

/-- What ends a run early is a fault of the machine, or the answer to a call. -/
theorem Deed.failed_seriously {world : World σ} (serious : world.Serious) {deed : Deed}
    {s after : σ} {failure : Failure} (fails : deed.meet world s = .failed failure after) :
    failure ≠ .interrupted := by
  cases deed with
  | act a =>
      have isFailure := Deed.act_of_failed fails
      rintro rfl
      cases a with
      | note record => cases isFailure
      | word => cases isFailure
      | write line =>
          simp only [Act.failure?] at isFailure
          split at isFailure <;> cases isFailure
      | flush =>
          simp only [Act.failure?] at isFailure
          split at isFailure <;> cases isFailure
  | call c =>
      obtain ⟨answer, returns, isFailure⟩ := Deed.call_of_failed fails
      exact fun interrupted => serious c s answer after returns (interrupted ▸ isFailure)

theorem Pursues.tells {world : World σ} {deeds : List Deed} {result : α} {s : σ}
    {e : Execution (Except Failure α) σ} (pursues : Pursues world deeds result s e) :
    e.Tells world (Deed.lines deeds) := by
  cases pursues with
  | done after passes => exact ⟨List.prefix_rfl, fun _ _ => rfl, fun _ same => by cases same⟩
  | failed before deed rest reached failure after split passes fails =>
      refine ⟨?_, by simp, fun serious same => ?_⟩
      · rw [split, Deed.lines_append]
        simp [Execution.lines, Deed.lines, Deed.line_of_failed]
      · cases same
        exact Deed.failed_seriously serious fails rfl
  | endless before c rest reached forever split passes waits =>
      have noLine : [Happening.began c].filterMap Happening.line? = [] := rfl
      refine ⟨?_, by simp, by simp⟩
      rw [split, Deed.lines_append]
      simp [Execution.lines, Deed.lines, noLine]

namespace Session.Tells

variable {texts more : List String}

theorem of_pursues {session : Session α} (deeds : List Deed) (result : α)
    (pursues : ∀ {σ : Type} (world : World σ) (s : σ),
      Pursues world deeds result s (session.alone world s)) : session.Tells (Deed.lines deeds) :=
  ⟨fun world s => (pursues world s).tells⟩

theorem pure (a : α) : (Pure.pure a : Session α).Tells [] :=
  of_pursues [] a fun world s => .nil world a s

theorem bind {session : Session α} {f : α → Session β} (first : session.Tells texts)
    (second : ∀ a, (f a).Tells more) : (session >>= f).Tells (texts ++ more) := by
  refine ⟨fun world s => ?_⟩
  rw [Session.alone_bind]
  obtain ⟨inOrder, all, seriously⟩ := first.within world s
  generalize session.alone world s = e at inOrder all seriously
  obtain ⟨trace, ending, s'⟩ := e
  have part := inOrder.trans (List.prefix_append texts more)
  cases ending with
  | finished result => cases result with
    | ok a => exact ((second a).within world s').after (all a rfl)
    | error failure =>
        refine ⟨?_, by simp [Execution.andThen, Execution.after], ?_⟩
        · simp only [Execution.andThen, Execution.lines_after]
          simpa [Execution.lines] using part
        · simpa [Execution.andThen, Execution.after] using seriously
  | interrupted => exact ⟨part, by simp [Execution.andThen], by simp [Execution.andThen]⟩
  | hung => exact ⟨part, by simp [Execution.andThen], by simp [Execution.andThen]⟩

theorem note (record : Log.Record) : (Session.note record).Tells [] :=
  of_pursues [.act (.note record)] () fun world s => .note world record s

theorem write (line : String) : (Session.write line).Tells [line] :=
  of_pursues [.act (.write line)] () fun world s => .write world line s

theorem flush : Session.flush.Tells [] :=
  of_pursues [.act .flush] () fun world s => .flush world s

theorem attach (remote busId : String) : (Session.attach remote busId).Tells [] :=
  of_pursues [.call (.attach remote busId)] () fun world s => .attach world remote busId s

theorem pause (seconds : UInt64) : (Session.pause seconds).Tells [] :=
  of_pursues [.call (.pause seconds)] () fun world s => .pause world seconds s

theorem detach : Session.detach.Tells [] :=
  of_pursues [.call .detach] () fun world s => .detach world s

theorem draw (d : Drawing α) : (Session.draw d).Tells [] := by
  induction d with
  | settled a => exact pure a
  | wants next ih =>
      refine ⟨fun world s => ?_⟩
      have noLine : [Happening.did .word true].filterMap Happening.line? = [] := rfl
      exact .after noLine ((ih _).within world _)

end Session.Tells

/-! ## Worlds -/

namespace Flight

def Throughout (p : σ → Prop) : Flight α σ → Prop
  | .returned _ s => p s
  | .suspended s next => p s ∧ next.Throughout p
  | .stuck s => p s

theorem throughout_map {p : τ → Prop} {meanwhile : σ → τ} {after : α → σ → β × τ}
    (flight : Flight α σ) (held : ∀ s, p (meanwhile s)) (arrived : ∀ answer s, p (after answer s).2) :
    (flight.map meanwhile after).Throughout p := by
  induction flight with
  | returned answer s => exact arrived answer s
  | suspended s next ih => exact ⟨held s, ih⟩
  | stuck s => exact held s

theorem land_throughout {p : σ → Prop} (shutdown : Shutdown σ) (flight : Flight α σ)
    (polling : Polling) (throughout : flight.Throughout p) :
    (∃ answer s polling', flight.land shutdown polling = .returned answer s polling' ∧ p s) ∨
    (∃ s, flight.land shutdown polling = .dropped s ∧ p s) ∨
    (∃ s, flight.land shutdown polling = .stuck s ∧ p s) := by
  induction flight generalizing polling with
  | returned answer s => exact .inl ⟨answer, s, polling, rfl, throughout⟩
  | suspended s next ih =>
      simp only [land]
      split
      · exact .inr (.inl ⟨s, rfl, throughout.1⟩)
      · split
        · exact .inr (.inl ⟨s, rfl, throughout.1⟩)
        · exact ih _ throughout.2
  | stuck s =>
      simp only [land]
      split
      · exact .inr (.inl ⟨s, rfl, throughout⟩)
      · exact .inr (.inr ⟨s, rfl, throughout⟩)

end Flight

structure World.Shows (world : World σ) (kept : σ → List String) : Prop where
  act : ∀ a s, kept (world.act a s).2 =
    kept s ++ (Happening.did a (a.succeeded (world.act a s).1)).line?.toList
  call : ∀ c s, (world.call c s).Throughout fun after => kept after = kept s

namespace World.Shows

variable {world : World σ} {kept : σ → List String}

theorem follow (shows : world.Shows kept) (shutdown : Shutdown σ) (course : Course ρ)
    (polling : Polling) (s : σ) (done : List Happening) :
    ∃ more, (course.follow world shutdown polling s done).trace = done.reverse ++ more ∧
      kept (course.follow world shutdown polling s done).world =
        kept s ++ more.filterMap Happening.line? := by
  induction course generalizing polling s done with
  | finished r => exact ⟨[], by simp [Course.follow], by simp [Course.follow]⟩
  | act a next ih =>
      obtain ⟨more, trace, keeps⟩ := ih (world.act a s).1 polling (world.act a s).2
        (.did a (a.succeeded (world.act a s).1) :: done)
      refine ⟨.did a (a.succeeded (world.act a s).1) :: more, by simp [Course.follow, trace], ?_⟩
      simp only [Course.follow, keeps, shows.act, List.filterMap_cons]
      cases (Happening.did a (a.succeeded (world.act a s).1)).line? <;> simp
  | await c next ih =>
      rcases (world.call c s).land_throughout shutdown polling (shows.call c s) with
        ⟨answer, s', polling', lands, same⟩ | ⟨s', lands, same⟩ | ⟨s', lands, same⟩
      · obtain ⟨more, trace, keeps⟩ := ih answer polling' s'
          (.ended c (c.succeeded answer) :: .began c :: done)
        refine ⟨.began c :: .ended c (c.succeeded answer) :: more, ?_, ?_⟩
        · simp [Course.follow, lands, trace]
        · simp only [Course.follow, lands, keeps, same]
          rfl
      · exact ⟨[.began c], by simp [Course.follow, lands], by
          simp [Course.follow, lands, same, Happening.line?]⟩
      · exact ⟨[.began c], by simp [Course.follow, lands], by
          simp [Course.follow, lands, same, Happening.line?]⟩

/-- What a world has kept after a run are the lines that the run wrote, however it ended. -/
theorem execute (shows : world.Shows kept) (shutdown : Shutdown σ) (course : Course ρ) (s : σ) :
    kept (course.execute world shutdown s).world =
      kept s ++ (course.execute world shutdown s).lines := by
  unfold Course.execute
  by_cases first : (shutdown.arrived 0 s && shutdown.askedFirst 0) = true
  · simp [first, Execution.lines]
  · obtain ⟨more, trace, keeps⟩ := shows.follow shutdown course ⟨0, shutdown.arrived 0 s⟩ s []
    simp only [if_neg first, Execution.lines, keeps, trace]
    rfl

end World.Shows

end Replug
