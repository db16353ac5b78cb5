import Replug.Proofs.Course.Sequential
import Replug.Proofs.Cycle.Itinerary

/-!
# Runs that a shutdown breaks off

A shutdown can only break a run off while a call is under way, or before it has begun.  Up to there
the run is the one that would have been made without the shutdown, and since that one follows its
itinerary, the lines, attaches and detaches made so far are tied to each other.
-/

set_option autoImplicit false

namespace Replug.Cycle

variable {σ : Type}

def isLine : Happening → Bool
  | .did (.write _) ok => ok
  | _ => false

def startsAttach : Happening → Bool
  | .began (.attach _ _) => true
  | _ => false

def startsDetach : Happening → Bool
  | .began .detach => true
  | _ => false

/-- Each line has its attach and each attach its detach. -/
structure Paired (trace : List Happening) : Prop where
  attaches : trace.countP startsAttach = trace.countP isLine
  detaches : trace.countP startsDetach = trace.countP isLine

/-- A trace that ends with the start of a call of some cycle: each line has its attach, and only
the attach of that cycle may still be without its detach. -/
structure Within (plan : Plan) (trace : List Happening) (c : Call) : Prop where
  attaches : trace.countP startsAttach = trace.countP isLine
  detaches : trace.countP startsDetach + (if c = .detach then 0 else 1) = trace.countP isLine
  attach : ∀ remote busId, c = .attach remote busId → remote = plan.remote ∧ busId = plan.busId

theorem Paired.append_within {plan : Plan} {first second : List Happening} {c : Call}
    (paired : Paired first) (within : Within plan second c) : Within plan (first ++ second) c := by
  obtain ⟨attaches, detaches⟩ := paired
  obtain ⟨attaches', detaches', attach⟩ := within
  refine ⟨?_, ?_, attach⟩
  · simp only [List.countP_append]
    omega
  · simp only [List.countP_append]
    omega

/-- The attach without its detach is the call itself, or the call is the pause after it. -/
theorem Within.balance {plan : Plan} {trace : List Happening} {c : Call}
    (within : Within plan trace c) :
    trace.countP startsDetach = trace.countP startsAttach ∧ c = .detach ∨
      trace.countP startsDetach + 1 = trace.countP startsAttach ∧
        (c = .attach plan.remote plan.busId ∨ ∃ seconds, c = .pause seconds) := by
  have detaches := within.detaches
  rw [← within.attaches] at detaches
  cases c with
  | attach remote busId =>
      obtain ⟨rfl, rfl⟩ := within.attach remote busId rfl
      exact .inr ⟨detaches, .inl rfl⟩
  | pause seconds => exact .inr ⟨detaches, .inr ⟨seconds, rfl⟩⟩
  | detach => exact .inl ⟨detaches, rfl⟩

theorem begins_after {acts deeds before later : List Deed} {c : Call}
    (onlyActs : ∀ deed ∈ acts, ∃ a, deed = .act a)
    (split : acts ++ deeds = before ++ .call c :: later) :
    ∃ between, before = acts ++ between ∧ deeds = between ++ .call c :: later := by
  have lack : ∀ deed ∈ acts, deed.isCall = false := by
    intro deed member
    obtain ⟨a, rfl⟩ := onlyActs deed member
    rfl
  exact split_past lack rfl split

section Cycles

variable {plan : Plan} {words : WordStream} {i : Nat} {before later : List Deed} {c : Call}

theorem drawDeeds_acts {longest : UInt64} :
    ∀ deed ∈ drawDeeds words longest i, ∃ a, deed = Deed.act a := by
  intro deed member
  exact ⟨.word, (List.mem_replicate.mp member).2⟩

theorem drawDeeds_shown {longest : UInt64} :
    (drawDeeds words longest i).flatMap (Deed.shown true) =
      List.replicate ((Delay.sample longest).wanted (stream longest words i))
        (.did .word true) := by
  simp [drawDeeds, List.flatMap_replicate, Deed.shown]

theorem deeds_paired (plan : Plan) (words : WordStream) (i : Nat) :
    Paired ((deeds plan words i).flatMap (Deed.shown true)) := by
  cases drawn : wait plan.maxDelay words i with
  | none =>
      constructor <;>
        simp [deeds, drawn, restDeeds, drawDeeds_shown, Deed.shown, List.countP_cons,
          List.countP_replicate, isLine, startsAttach, startsDetach]
  | some seconds =>
      constructor <;>
        simp [deeds, drawn, restDeeds, drawDeeds_shown, Deed.shown, List.countP_cons,
          List.countP_replicate, isLine, startsAttach, startsDetach]

/-- A call that begins after the attach of its cycle has returned, with nothing in between that
counts. -/
theorem within_after_attach {between : List Deed} (notAttach : ∀ r b, c ≠ .attach r b)
    (lines : (between.flatMap (Deed.shown true)).countP isLine = 0)
    (attaches : (between.flatMap (Deed.shown true)).countP startsAttach = 0)
    (detaches : (between.flatMap (Deed.shown true)).countP startsDetach = 0) :
    Within plan (([Deed.act (.write (line (i + 1))), .act .flush] ++
      Deed.call (.attach plan.remote plan.busId) ::
        (drawDeeds words plan.maxDelay i ++ between)).flatMap (Deed.shown true) ++ [.began c])
      c := by
  cases c with
  | attach remote busId => exact absurd rfl (notAttach remote busId)
  | pause seconds =>
      constructor <;>
        simp [Deed.shown, drawDeeds_shown, List.countP_cons, List.countP_replicate, lines,
          attaches, detaches, isLine, startsAttach, startsDetach]
  | detach =>
      constructor <;>
        simp [Deed.shown, drawDeeds_shown, List.countP_cons, List.countP_replicate, lines,
          attaches, detaches, isLine, startsAttach, startsDetach]

/-- Wherever a call of a cycle begins, the line of that cycle was written; its detach was started
only if it is that call. -/
theorem deeds_within (split : deeds plan words i = before ++ .call c :: later) :
    Within plan (before.flatMap (Deed.shown true) ++ [.began c]) c := by
  have afterLine : [.act (.write (line (i + 1))), .act .flush] ++
      (.call (.attach plan.remote plan.busId) :: (drawDeeds words plan.maxDelay i ++
        (restDeeds (i + 1) (wait plan.maxDelay words i) ++ [.call .detach]))) =
      before ++ .call c :: later := by
    simpa [deeds] using split
  obtain ⟨before, rfl, atAttach⟩ := begins_after (by simp) afterLine
  rcases List.cons_eq_append_iff.mp atAttach with ⟨rfl, here⟩ | ⟨before, rfl, afterAttach⟩
  · obtain ⟨here, -⟩ := List.cons.inj here
    cases here
    constructor <;> simp [Deed.shown, List.countP_cons, isLine, startsAttach, startsDetach]
  obtain ⟨before, rfl, atRest⟩ := begins_after drawDeeds_acts afterAttach
  cases drawn : wait plan.maxDelay words i with
  | none =>
      have afterNote : [.act (.note (notWaiting (i + 1)))] ++ [.call .detach] =
          before ++ .call c :: later := by
        simpa [drawn, restDeeds] using atRest
      obtain ⟨before, rfl, atDetach⟩ := begins_after (by simp) afterNote
      rcases List.cons_eq_append_iff.mp atDetach with ⟨rfl, here⟩ | ⟨before, rfl, beyond⟩
      · cases here
        exact within_after_attach (by simp) rfl rfl rfl
      · simp at beyond
  | some seconds =>
      have afterNote : [.act (.note (waiting (i + 1) seconds))] ++
          [.call (.pause seconds), .call .detach] = before ++ .call c :: later := by
        simpa [drawn, restDeeds] using atRest
      obtain ⟨before, rfl, atPause⟩ := begins_after (by simp) afterNote
      rcases List.cons_eq_append_iff.mp atPause with ⟨rfl, here⟩ | ⟨before, rfl, atDetach⟩
      · cases here
        exact within_after_attach (by simp) rfl rfl rfl
      rcases List.cons_eq_append_iff.mp atDetach with ⟨rfl, here⟩ | ⟨before, rfl, beyond⟩
      · cases here
        exact within_after_attach (by simp) rfl rfl rfl
      · simp at beyond

theorem cycles_within {acts : List Deed} (onlyActs : ∀ deed ∈ acts, ∃ a, deed = .act a)
    (indices : List Nat)
    (split : indices.flatMap (deeds plan words) ++ acts = before ++ .call c :: later) :
    Within plan (before.flatMap (Deed.shown true) ++ [.began c]) c := by
  induction indices generalizing before with
  | nil =>
      have noDeeds : acts ++ [] = before ++ .call c :: later := by simpa using split
      obtain ⟨between, -, beyond⟩ := begins_after onlyActs noDeeds
      simp at beyond
  | cons i indices ih =>
      rw [List.flatMap_cons, List.append_assoc] at split
      rcases append_split split with ⟨between, begins⟩ | ⟨between, rfl, goesOn⟩
      · exact deeds_within begins
      · -- A whole cycle is paired, so a call of a later one is within it as before.
        have within := (deeds_paired plan words i).append_within (ih goesOn)
        simpa using within

theorem itinerary_within (split : itinerary plan words = before ++ .call c :: later) :
    Within plan (before.flatMap (Deed.shown true) ++ [.began c]) c := by
  have afterNote : [.act (.note (starting plan))] ++
      ((List.range plan.count.toNat).flatMap (deeds plan words) ++
        [.act (.note (completed (tally plan.maxDelay words plan.count.toNat)))]) =
      before ++ .call c :: later := by
    simpa [itinerary] using split
  obtain ⟨before, rfl, inCycles⟩ := begins_after (by simp) afterNote
  have within := cycles_within (by simp) _ inCycles
  have noted : Paired [.did (.note (starting plan)) true] := ⟨rfl, rfl⟩
  exact noted.append_within within

end Cycles

theorem dropped?_began {ρ : Type} {e : Execution ρ σ} {before : List Happening} {c : Call}
    {record : Log.Record} {ok : Bool}
    (ends : e.trace = before ++ [.began c] ++ [.did (.note record) ok]) : e.dropped? = some c := by
  simp [Execution.dropped?, ends, Happening.inFlight]

def StopsInside (alone : List Happening) (c : Call) (done : List Happening) : Prop :=
  ∃ before rest, done = before ++ [.began c] ∧ alone = before ++ .began c :: rest

/-- Under a shutdown the run is the one without it, or it stops inside a call or before it has
begun, and notes that. -/
theorem runUntil_cases (plan : Plan) (world : World σ) (shutdown : Shutdown σ) (s : σ) :
    runUntil plan world shutdown s = run plan world s ∨
    ((runUntil plan world shutdown s).ending = .interrupted ∧
      ∃ done, (runUntil plan world shutdown s).trace = done ++ [.did (.note leaving) true] ∧
        (done = [] ∨ ∃ c, StopsInside (run plan world s).trace c done)) := by
  rw [run_alone]
  have completes := Course.alone_not_interrupted world (session plan).run s
  rcases Course.execute_cases world shutdown (session plan).run s with same | breaks | stopped
  · left
    simp only [runUntil, same, Session.alone]
    split
    · contradiction
    · rfl
    · rfl
  · right
    obtain ⟨before, c, rest, whole, part, interrupted⟩ := breaks
    refine ⟨?_, before ++ [.began c], ?_, .inr ⟨c, before, rest, rfl, whole⟩⟩
    · simp [runUntil, interrupted, Execution.note]
    · simp [runUntil, interrupted, Execution.note, part]
  · right
    refine ⟨?_, [], ?_, .inl rfl⟩
    · simp [runUntil, stopped, Execution.note]
    · simp [runUntil, stopped, Execution.note]

theorem run_not_interrupted (plan : Plan) (world : World σ) (s : σ) :
    (run plan world s).ending ≠ .interrupted := by
  rw [run_alone]
  exact Course.alone_not_interrupted world (session plan).run s

theorem runUntil_sequential (plan : Plan) (world : World σ) (shutdown : Shutdown σ) (s : σ) :
    Sequential (runUntil plan world shutdown s).trace := by
  have sequential := Course.execute_sequential world shutdown (session plan).run s
  simp only [runUntil]
  split
  · exact sequential.noted leaving true
  · exact sequential
  · exact sequential

/-- Where a run alone starts a call, the lines, attaches and detaches are tied to each other. -/
theorem StopsInside.within {plan : Plan} {world : World σ} {s : σ} {words : WordStream} {c : Call}
    {done : List Happening}
    (stops : StopsInside (run plan world.withWords (s, words)).trace c done) :
    Within plan done c := by
  obtain ⟨before, rest, rfl, whole⟩ := stops
  have pursues := session_pursues plan world s words
  rw [← run_alone] at pursues
  obtain ⟨reached, later, split, rfl⟩ := pursues.began whole
  exact itinerary_within split

/-- Whatever a shutdown does, at most one call is under way at a time.  If it is what ends the run,
the result is the interruption; the run is the one without it up to the start of the call that is
dropped, if it began at all, and only a note follows.  Then every line has its attach, and at most
the last attach is without its detach, which means that the call dropped is that attach or the
pause after it.  Otherwise the run is the one without it. -/
theorem runUntil_interruption_safe (plan : Plan) (world : World σ)
    (shutdown : Shutdown (σ × WordStream)) (s : σ) (words : WordStream) :
    let alone := run plan world.withWords (s, words)
    let e := runUntil plan world.withWords shutdown (s, words)
    Sequential e.trace ∧
      (e.ending ≠ .interrupted → e = alone) ∧
      (e.ending = .interrupted →
        result e.ending = some (.error .interrupted) ∧
        ∃ done, e.trace = done ++ [.did (.note leaving) true] ∧ done <+: alone.trace ∧
          (done = [] ∧ e.dropped? = none ∨
            ∃ before c, done = before ++ [.began c] ∧ e.dropped? = some c) ∧
          done.countP startsAttach = done.countP isLine ∧
          (done.countP startsDetach = done.countP startsAttach ∧
              (e.dropped? = none ∨ e.dropped? = some .detach) ∨
            done.countP startsDetach + 1 = done.countP startsAttach ∧
              (e.dropped? = some (.attach plan.remote plan.busId) ∨
                ∃ seconds, e.dropped? = some (.pause seconds)))) := by
  intro alone e
  refine ⟨runUntil_sequential plan world.withWords shutdown (s, words), ?_, ?_⟩
  · intro finished
    rcases runUntil_cases plan world.withWords shutdown (s, words) with same | ⟨interrupted, -⟩
    · exact same
    · contradiction
  · intro interrupted
    refine ⟨by rw [interrupted]; rfl, ?_⟩
    rcases runUntil_cases plan world.withWords shutdown (s, words) with
      same | ⟨-, done, ends, rfl | ⟨c, stops⟩⟩
    · have completes := run_not_interrupted plan world.withWords (s, words)
      rw [← same] at completes
      contradiction
    · have nothing : e.dropped? = none := by
        simp [Execution.dropped?, e, ends, Happening.inFlight]
      exact ⟨[], ends, List.nil_prefix, .inl ⟨rfl, nothing⟩, rfl, .inl ⟨rfl, .inl nothing⟩⟩
    · have within := stops.within
      obtain ⟨before, rest, rfl, whole⟩ := stops
      have dropped : e.dropped? = some c := dropped?_began ends
      refine ⟨before ++ [.began c], ends, ?_, .inr ⟨before, c, rfl, dropped⟩, within.attaches, ?_⟩
      · exact ⟨rest, by simp [alone, whole]⟩
      · rw [dropped]
        rcases within.balance with ⟨even, rfl⟩ | ⟨odd, rfl | ⟨seconds, rfl⟩⟩
        · exact .inl ⟨even, .inr rfl⟩
        · exact .inr ⟨odd, .inl rfl⟩
        · exact .inr ⟨odd, .inr ⟨seconds, rfl⟩⟩

end Replug.Cycle
