import Replug.Proofs.Cycle.Progress
import Replug.Proofs.Log.Calls
import Replug.Proofs.Program.Precedence

/-!
# How the program ends

On a machine that takes all output the program writes the lines of its cycles from the first on and
then, if something failed, one report.  What fails before the first cycle leaves nothing but the
report and starts no client.  The exit is one of success, and there are two ways to no exit at all.
The client that was started last never comes back; or nothing is written and no client is started,
since a settings file keeps the program waiting, a complaint is not taken, or a filter for the log is
not survived.
-/

set_option autoImplicit false

namespace Replug.Program

open Settings

variable {σ : Type}

/-! ## What is done with accepted arguments -/

section Requests

variable (patterns : Log.Patterns) (m : Machine σ) (env : Environment)
  (args : CommandLine.Arguments) (state : σ)

/-- The plan that a run makes its cycles by, if it comes to them, and the machine as it is then. -/
inductive Cycles : Plan → σ → Prop
  | intro {l : Layer} {complaint : Option String} {after : σ} {filter : Log.Filter}
    (selected : Selected env (m.files state) args.config l complaint)
    (heard : m.Hears complaint state after)
    (logs : Log.setup patterns env.logFilter ((args.logLevel.or l.logLevel).getD "info") none =
      (some (.ok ()), some filter))
    (complete : (l.plan env.homeDirectory args.remote args.busId args.overrides).Complete) :
    Cycles (l.plan env.homeDirectory args.remote args.busId args.overrides) after

end Requests

structure Outcome.Says (o : Outcome σ) (text : String) : Prop where
  exit : o.exit = some 0
  written : o.written = text
  launches : o.station.launches = []

section Ends

variable {patterns : Log.Patterns} {m : Machine σ} {env : Environment}
  {args : CommandLine.Arguments} {state : σ}

end Ends

/-! ## Saving -/

def cyclesOf (m : Machine σ) (plan : Plan) (state : σ) :
    Execution (Except Failure Summary) (Station σ) :=
  Cycle.runUntil plan (m.world plan.program) (m.shutdown.within Station.machine)
    ((Station.fresh state).note greeting)

def closing : Ending (Except Failure Summary) → String
  | .finished (.error failure) => (Report.ofFailure failure).message ++ "\n"
  | .finished (.ok _) | .interrupted | .hung => ""

/-- An outcome of cycles: the lines of the first of them, of all if they came to their end, and after
those a report exactly if something failed. -/
structure Outcome.Follows (o : Outcome σ) (plan : Plan)
    (e : Execution (Except Failure Summary) (Station σ)) : Prop where
  written : ∃ n ≤ plan.count.toNat,
    o.written = String.join (Cycle.linesUpTo n) ++ closing e.ending ∧
      ∀ summary, e.ending = .finished (.ok summary) → n = plan.count.toNat
  /-- The operator's interrupt is no failure. -/
  seriously : e.ending ≠ .finished (.error .interrupted)
  launches : o.station.launches = e.world.launches
  exit : o.exit = if e.ending matches .hung then none else some 0

section Cycling

variable {m : Machine σ} {plan : Plan} {state : σ}

theorem cyclesOf_written (m : Machine σ) (plan : Plan) (state : σ) :
    String.join (cyclesOf m plan state).world.written.reverse =
      String.join (cyclesOf m plan state).lines := by
  have kept := Cycle.runUntil_kept (m.world_shows plan.program) plan
    (m.shutdown.within Station.machine) ((Station.fresh state).note greeting)
  rw [cyclesOf, kept]
  simp [Station.note, Station.fresh]

theorem Outcome.Closes.follows {o : Outcome σ} (closes : o.Closes m (cyclesOf m plan state))
    (steady : m.Steady) : o.Follows plan (cyclesOf m plan state) := by
  obtain ⟨⟨n, small, lines, all⟩, seriously⟩ := Cycle.runUntil_progress plan
    (m.world_serious plan.program) (m.shutdown.within Station.machine)
    ((Station.fresh state).note greeting)
  have before := cyclesOf_written m plan state
  rw [cyclesOf, lines, ← cyclesOf] at before
  have quiet (station : o.station = (cyclesOf m plan state).world)
      (silent : closing (cyclesOf m plan state).ending = "") :
      o.written = String.join (Cycle.linesUpTo n) ++ closing (cyclesOf m plan state).ending := by
    rw [Outcome.written, station, before, silent, String.append_empty]
  cases closes with
  | done ends exit station =>
      exact ⟨⟨n, small, quiet station (by rw [ends]; rfl), all⟩, seriously, by rw [station],
        by rw [ends, exit]; rfl⟩
  | interrupted ends exit station =>
      rcases ends with ends | ends
      · exact ⟨⟨n, small, quiet station (by rw [ends]; rfl), all⟩, seriously, by rw [station],
          by rw [ends, exit]; rfl⟩
      · exact absurd ends seriously
  | failed ends serious reports =>
      obtain ⟨station, exit⟩ := reports
      rw [steady.print] at station exit
      refine ⟨⟨n, small, ?_, all⟩, seriously, by rw [station], by rw [ends, exit]; rfl⟩
      simp [Outcome.written, station, before, closing, ends]
  | hung ends stands =>
      obtain ⟨exit, station⟩ := stands
      exact ⟨⟨n, small, quiet station (by rw [ends]; rfl), all⟩, seriously, by rw [station],
        by rw [ends, exit]; rfl⟩

theorem cyclesOf_idle (m : Machine σ) (state : σ) (idle : plan.count = 0) :
    (cyclesOf m plan state).world.launches = [] ∧ closing (cyclesOf m plan state).ending = "" ∧
      (cyclesOf m plan state).ending ≠ .hung := by
  rcases Cycle.runUntil_idle idle (m.world plan.program) (m.shutdown.within Station.machine)
    ((Station.fresh state).note greeting) with ⟨ends, left⟩ | ⟨ends, left⟩
  · rw [cyclesOf, ends, left]
    exact ⟨rfl, rfl, by simp⟩
  · rw [cyclesOf, ends, left]
    exact ⟨rfl, rfl, by simp⟩

theorem Cycles.follows {patterns : Log.Patterns} {env : Environment} {args : CommandLine.Arguments}
    {after : σ} (cycles : Cycles patterns m env args state plan after) (steady : m.Steady)
    (loops : args.saveConfig = false) :
    (finish m (attempt patterns m env args (.fresh state))).Follows plan (cyclesOf m plan after) := by
  obtain ⟨selected, heard, logs, complete⟩ := cycles
  rw [attempt_heard loops selected heard, start_cycling logs complete]
  exact (finish_closes m _ _ _ _).follows steady

theorem Outcome.Follows.idle {o : Outcome σ} (follows : o.Follows plan (cyclesOf m plan state))
    (idle : plan.count = 0) : o.Says "" := by
  obtain ⟨launches, silent, comes⟩ := cyclesOf_idle m state idle
  obtain ⟨⟨n, small, written, -⟩, -, same, exit⟩ := follows
  have noCycle : n = 0 := by simpa [idle] using small
  refine ⟨?_, ?_, same.trans launches⟩
  · rw [exit]
    cases ending : (cyclesOf m plan state).ending with
    | finished result => rfl
    | interrupted => rfl
    | hung => exact absurd ending comes
  · rw [written, silent, noCycle]
    rfl

end Cycling

end Replug.Program
