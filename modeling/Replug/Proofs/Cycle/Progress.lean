import Replug.Proofs.Course.Lines
import Replug.Proofs.Cycle.Request

/-!
# The lines of a run

A run writes the lines of its cycles from the first on and in their order, in whatever world it is
made and whatever ends it.  A run that comes to its end has written all of them.
-/

set_option autoImplicit false

namespace Replug.Cycle

variable {σ : Type}

def linesUpTo (count : Nat) : List String := (List.range' 1 count).map line

theorem rest_tells (iteration : Nat) (wait : Option UInt64) : (rest iteration wait).Tells [] := by
  cases wait with
  | none => exact .note _
  | some seconds => exact .bind (.note _) fun _ => .pause seconds

theorem once_tells (plan : Plan) (iteration : Nat) : (once plan iteration).Tells [line iteration] :=
  .bind (.write _) fun _ => .bind .flush fun _ => .bind (.attach _ _) fun _ =>
    .bind (.draw _) fun wait => .bind (rest_tells _ wait) fun _ => .bind .detach fun _ => .pure _

theorem cycles_tell (plan : Plan) (left : Nat) (summary : Summary) :
    (cycles plan left summary).Tells ((List.range' (summary.iterations + 1) left).map line) := by
  induction left generalizing summary with
  | zero => exact .pure summary
  | succ left ih =>
      rw [List.range'_succ, List.map_cons, ← List.singleton_append]
      exact .bind (once_tells plan _) fun waited => ih ⟨summary.iterations + 1, _⟩

theorem session_tells (plan : Plan) : (session plan).Tells (linesUpTo plan.count.toNat) := by
  have told := Session.Tells.bind (cycles_tell plan plan.count.toNat ⟨0, 0⟩)
    fun summary => .bind (.note (completed summary)) fun _ => .pure summary
  rw [List.append_nil, List.append_nil] at told
  exact .bind (.note (starting plan)) fun _ => told

theorem linesUpTo_of_prefix {lines : List String} {count : Nat} (part : lines <+: linesUpTo count) :
    ∃ n ≤ count, lines = linesUpTo n := by
  have short : lines.length ≤ count := by simpa [linesUpTo] using part.length_le
  refine ⟨lines.length, short, ?_⟩
  have taken := List.prefix_iff_eq_take.mp part
  rw [linesUpTo, ← List.map_take, List.take_range'_of_length_ge short] at taken
  exact taken

/-- What a run under a shutdown has written begins the lines that it would have written alone. -/
theorem runUntil_lines_begin (plan : Plan) (world : World σ) (shutdown : Shutdown σ) (s : σ) :
    (runUntil plan world shutdown s).lines <+: (run plan world s).lines := by
  rcases runUntil_cases plan world shutdown s with same | ⟨-, done, ends, rfl | ⟨c, stops⟩⟩
  · exact same ▸ List.prefix_rfl
  · rw [Execution.lines, ends]
    exact List.nil_prefix
  · -- What breaks off inside a call has written what stands before the call.
    obtain ⟨before, rest, rfl, whole⟩ := stops
    refine ⟨rest.filterMap Happening.line?, ?_⟩
    simp only [Execution.lines, ends, whole, List.filterMap_append, List.append_assoc]
    rfl

/-- A run under a shutdown has written the lines of some cycles from the first on, and of all cycles
if it came to its end.  It does not fail with an interrupt that none of its calls gave. -/
theorem runUntil_progress (plan : Plan) {world : World σ} (serious : world.Serious)
    (shutdown : Shutdown σ) (s : σ) :
    (∃ n ≤ plan.count.toNat, (runUntil plan world shutdown s).lines = linesUpTo n ∧
      ∀ summary, (runUntil plan world shutdown s).ending = .finished (.ok summary) →
        n = plan.count.toNat) ∧
    (runUntil plan world shutdown s).ending ≠ .finished (.error .interrupted) := by
  obtain ⟨inOrder, all, seriously⟩ := (session_tells plan).within world s
  rw [← run_alone] at inOrder all seriously
  have part := (runUntil_lines_begin plan world shutdown s).trans inOrder
  rcases runUntil_cases plan world shutdown s with same | ⟨interrupted, -⟩
  · rw [same]
    refine ⟨?_, seriously serious⟩
    by_cases ends : ∃ summary, (run plan world s).ending = .finished (.ok summary)
    · obtain ⟨summary, ends⟩ := ends
      exact ⟨_, Nat.le_refl _, all summary ends, fun _ _ => rfl⟩
    · obtain ⟨n, small, lines⟩ := linesUpTo_of_prefix inOrder
      exact ⟨n, small, lines, fun summary finished => absurd ⟨summary, finished⟩ ends⟩
  · obtain ⟨n, small, lines⟩ := linesUpTo_of_prefix part
    exact ⟨⟨n, small, lines, by simp [interrupted]⟩, by simp [interrupted]⟩

/-- What a world keeps after a run are the lines of the run, since the last entry in the log adds
none. -/
theorem runUntil_kept {world : World σ} {kept : σ → List String} (shows : world.Shows kept)
    (plan : Plan) (shutdown : Shutdown σ) (s : σ) :
    kept (runUntil plan world shutdown s).world =
      kept s ++ (runUntil plan world shutdown s).lines := by
  have keeps := shows.execute shutdown (session plan).run s
  simp only [runUntil]
  split
  · rw [Execution.note, shows.act, keeps]
    simp [Execution.lines, Happening.line?]
  · exact keeps
  · exact keeps

def noted (world : World σ) (record : Log.Record) (s : σ) : σ := (world.act (.note record) s).2

theorem runUntil_idle {plan : Plan} (idle : plan.count = 0) (world : World σ)
    (shutdown : Shutdown σ) (s : σ) :
    (runUntil plan world shutdown s).ending = .finished (.ok ⟨0, 0⟩) ∧
        (runUntil plan world shutdown s).world =
          noted world (completed ⟨0, 0⟩) (noted world (starting plan) s) ∨
      (runUntil plan world shutdown s).ending = .interrupted ∧
        (runUntil plan world shutdown s).world = noted world leaving s := by
  have twoNotes : (session plan).run = .act (.note (starting plan)) fun _ =>
      .act (.note (completed ⟨0, 0⟩)) fun _ => .finished (.ok ⟨0, 0⟩) := by
    simp only [session, idle]
    rfl
  by_cases first : (shutdown.arrived 0 s && shutdown.askedFirst 0) = true
  · right
    simp [runUntil, Course.execute, first, Execution.note, noted]
  · left
    simp [runUntil, twoNotes, Course.execute, first, Course.follow, noted]

end Replug.Cycle
