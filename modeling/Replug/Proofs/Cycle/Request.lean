import Replug.Proofs.Course.Timeline
import Replug.Proofs.Cycle.Interruption

/-!
# Requests to shut down

A request ends a run in one of two ways.  Asked for first, it ends the run at the poll at which it is
there.  Asked for second, it finds that the run has used that poll to go on, perhaps through several
calls that return at once, or to its end.  So a run yields at once only if the request always goes
first.
-/

set_option autoImplicit false

namespace Replug.Cycle

variable {σ : Type}

def timeline (plan : Plan) (world : World σ) (shutdown : Shutdown σ) (s : σ) : List Sight :=
  (session plan).run.timeline world shutdown s

def starts : Happening → Bool
  | .did (.write _) _ | .began _ => true
  | .did _ _ | .ended _ _ => false

/-- Once the request is there nothing more is started, and a run that had still something to start is
interrupted. -/
def YieldsAtOnce (plan : Plan) (world : World σ) (shutdown : Shutdown σ) (s : σ) : Prop :=
  ∀ before number after, timeline plan world shutdown s = before ++ .poll number true :: after →
    (∀ h, .done h ∈ after → starts h = false) ∧
    ((∃ h ∈ (run plan world s).trace.drop (before.filterMap Sight.happening?).length,
        starts h = true) →
      (runUntil plan world shutdown s).ending = .interrupted)

theorem runUntil_ending (plan : Plan) (world : World σ) (shutdown : Shutdown σ) (s : σ) :
    (runUntil plan world shutdown s).ending =
      ((session plan).run.execute world shutdown s).ending := by
  simp only [runUntil]
  split
  · rfl
  · rfl
  · rfl

theorem runUntil_heard (plan : Plan) (world : World σ) (shutdown : Shutdown σ) (s : σ)
    {before after : List Sight} {number : Nat}
    (split : timeline plan world shutdown s = before ++ .poll number true :: after) :
    Course.Heard shutdown number after (runUntil plan world shutdown s).ending := by
  rw [runUntil_ending]
  exact Course.execute_heard (session plan).run world shutdown s split

def parting : Ending (Except Failure Summary) → List Happening
  | .interrupted => [.did (.note leaving) true]
  | .finished _ | .hung => []

theorem runUntil_trace (plan : Plan) (world : World σ) (shutdown : Shutdown σ) (s : σ) :
    (runUntil plan world shutdown s).trace =
      (timeline plan world shutdown s).filterMap Sight.happening? ++
        parting (runUntil plan world shutdown s).ending := by
  rw [runUntil_ending]
  simp only [timeline, ← Course.execute_trace, runUntil, parting]
  cases ((session plan).run.execute world shutdown s).ending with
  | finished result => simp
  | interrupted => rfl
  | hung => simp

/-- The poll at which the request is there is the last one: the run is interrupted, or it reaches its
end at that poll just as it would have without the request.  Where the request goes first, nothing
more is done and the run is interrupted; if it goes first always, the run yields at once. -/
theorem runUntil_heeds_request (plan : Plan) (world : World σ) (shutdown : Shutdown σ) (s : σ) :
    ((runUntil plan world shutdown s).trace =
      (timeline plan world shutdown s).filterMap Sight.happening? ++
        parting (runUntil plan world shutdown s).ending) ∧
    (∀ before number after, timeline plan world shutdown s = before ++ .poll number true :: after →
      (∀ other there, .poll other there ∉ after) ∧
      ((runUntil plan world shutdown s).ending = .interrupted ∨
        runUntil plan world shutdown s = run plan world s ∧
          ∃ result, (runUntil plan world shutdown s).ending = .finished result) ∧
      (shutdown.askedFirst number = true →
        after = [] ∧ (runUntil plan world shutdown s).ending = .interrupted)) ∧
    ((∀ number, shutdown.askedFirst number = true) → YieldsAtOnce plan world shutdown s) := by
  refine ⟨runUntil_trace plan world shutdown s, ?_, ?_⟩
  · intro before number after split
    obtain ⟨last, ends, atOnce⟩ := runUntil_heard plan world shutdown s split
    refine ⟨last, ?_, atOnce⟩
    rcases runUntil_cases plan world shutdown s with same | ⟨interrupted, -⟩
    · right
      refine ⟨same, ?_⟩
      have completes := run_not_interrupted plan world s
      rw [← same] at completes
      cases ending : (runUntil plan world shutdown s).ending with
      | finished result => exact ⟨result, rfl⟩
      | interrupted => exact absurd ending completes
      | hung => exact absurd ending ends
    · exact .inl interrupted
  · intro alwaysFirst before number after split
    obtain ⟨rfl, interrupted⟩ := (runUntil_heard plan world shutdown s split).atOnce
      (alwaysFirst number)
    exact ⟨by simp, fun _ => interrupted⟩

def briefWorld : World Unit where
  act
    | .note _, s => ((), s)
    | .write _, s => (.ok (), s)
    | .flush, s => (.ok (), s)
    | .word, s => ((0 : UInt64), s)
  call
    | .attach _ _, s => .suspended s (.returned (.ok ()) s)
    | .pause _, s => .returned () s
    | .detach, s => .returned (.ok ()) s

/-- A request that is there at the second poll, where the run is asked first. -/
def tiedRequest : Shutdown Unit where
  arrived poll _ := poll = 1
  askedFirst _ := false
  breaksStuck _ := false

def onePlan : Plan := ⟨"h", "1-1", 0, Path.ofString "usbip", 1⟩

/-- When the attach returns at the poll at which the request is there, the detach may still be
started, and the run ends as if nothing had been requested. -/
theorem not_yieldsAtOnce_tied : ¬ YieldsAtOnce onePlan briefWorld tiedRequest () ∧
    (runUntil onePlan briefWorld tiedRequest ()).ending = .finished (.ok ⟨1, 0⟩) := by
  have split : timeline onePlan briefWorld tiedRequest () =
      [.poll 0 false, .done (.did (.note (starting onePlan)) true),
        .done (.did (.write (line 1)) true), .done (.did .flush true),
        .done (.began (.attach "h" "1-1"))] ++ .poll 1 true ::
      [.done (.ended (.attach "h" "1-1") true), .done (.did (.note (notWaiting 1)) true),
        .done (.began .detach), .done (.ended .detach true),
        .done (.did (.note (completed ⟨1, 0⟩)) true)] := rfl
  refine ⟨fun yields => ?_, rfl⟩
  have nothing := (yields _ 1 _ split).1 (.began .detach) (by simp)
  cases nothing

end Replug.Cycle
