import Replug.Cycle.Rehearsal
import Replug.Proofs.Course.Alike
import Replug.Proofs.Course.Sink

/-!
# The sink of a rehearsal

A rehearsal says at once what becomes of a whole line.  Underneath there is a sink that takes as many
bytes as it still has room for, and a rehearsal is a run with that sink: whatever pieces the lines are
cut into, nothing can be told apart.
-/

set_option autoImplicit false

namespace Replug

variable {σ : Type}

/-- A world does not change for a run when marks are kept of its calls. -/
theorem World.withSink_alike {world : World σ} {sink : Sink σ} {cut : Cut}
    (lines : ∀ line s, (world.act (.write line) s) =
      ((sink.giveAll (cut.pieces line) s).outcome, (sink.giveAll (cut.pieces line) s).after))
    (flushes : ∀ s, world.act .flush s = sink.flush s) :
    World.Alike (fun s t => t.1 = s) world (world.withSink sink cut) where
  act a s t same := by
    subst same
    cases a with
    | note record => exact ⟨rfl, rfl⟩
    | write line =>
        rw [lines]
        exact ⟨rfl, rfl⟩
    | flush =>
        rw [flushes]
        exact ⟨rfl, rfl⟩
    | word => exact ⟨rfl, rfl⟩
  call c s t same := by
    subst same
    cases returns : (world.call c t.1).answer? with
    | none =>
        refine .waits returns ?_ ?_
        · rw [withSink, Flight.answer?_map, returns]
          rfl
        · rw [withSink, Flight.last_map _ _ returns]
    | some returned =>
        obtain ⟨answer, after⟩ := returned
        refine .returns (t := (after, t.2 ++ [.began c])) returns ?_ rfl rfl
        rw [withSink, Flight.answer?_map, returns]
        rfl

namespace Rehearsal

def Script.taken (script : Script) (bytes : Bytes) (s : Stage) : Bytes :=
  match script.capacity with
  | none => bytes
  | some room => bytes.take (room - s.written.length)

def Stage.receive (s : Stage) (bytes : Bytes) : Stage :=
  { s with written := bytes.reverse ++ s.written, unflushed := bytes.reverse ++ s.unflushed }

def Script.given (script : Script) (bytes : Bytes) (s : Stage) : Giving Stage where
  accepted := script.taken bytes s
  outcome := if (script.taken bytes s).length < bytes.length then .error script.refusal else .ok ()
  after := s.receive (script.taken bytes s)

theorem Script.refusal_final (script : Script) : ¬ script.refusal.isInterruption = true := by
  unfold Script.refusal
  split <;> decide

/-- The sink of a rehearsal.  When it is full it takes nothing, or it fails. -/
def Script.sink (script : Script) : Sink Stage where
  write bytes s :=
    (if script.taken bytes s = [] ∧ script.takesNothing = false then .error script.refusal
      else .ok (script.taken bytes s).length, s.receive (script.taken bytes s))
  flush := script.flush
  patience _ _ := 0
  relents bytes s fault after answer interrupted := by
    simp only [Prod.mk.injEq] at answer
    split at answer
    · obtain rfl : script.refusal = fault := by simpa using answer.1
      exact absurd interrupted script.refusal_final
    · simp at answer

section Sink

variable {script : Script} {first second : Bytes} {s : Stage}

theorem receive_append (s : Stage) (first second : Bytes) :
    s.receive (first ++ second) = (s.receive first).receive second := by
  simp [Stage.receive]

theorem taken_begins (bytes : Bytes) : script.taken bytes s <+: bytes := by
  unfold Script.taken
  cases script.capacity with
  | none => exact List.prefix_rfl
  | some room => exact List.take_prefix _ _

theorem taken_taken : script.taken (script.taken first s) s = script.taken first s := by
  unfold Script.taken
  cases script.capacity with
  | none => rfl
  | some room =>
      simp only
      rw [List.take_take, Nat.min_self]

theorem taken_append (all : script.taken first s = first) :
    script.taken (first ++ second) s = first ++ script.taken second (s.receive first) := by
  unfold Script.taken at all ⊢
  cases capacity : script.capacity with
  | none => rfl
  | some room =>
      rw [capacity] at all
      simp only at all ⊢
      rw [List.take_append, all, Stage.receive]
      congr 2
      simp only [List.length_append, List.length_reverse]
      omega

theorem taken_stopped (few : script.taken first s ≠ first) :
    script.taken (first ++ second) s = script.taken first s := by
  unfold Script.taken at few ⊢
  cases capacity : script.capacity with
  | none => simp [capacity] at few
  | some room =>
      rw [capacity] at few
      by_cases enough : first.length ≤ room - s.written.length
      · exact absurd (List.take_of_length_le enough) few
      · exact List.take_append_of_le_length (by omega)

theorem given_nil : script.given [] s = ⟨[], .ok (), s⟩ := by
  have none : script.taken [] s = [] := List.prefix_nil.mp (taken_begins [])
  simp [Script.given, none, Stage.receive]

theorem given_append (second : Bytes) (all : script.taken first s = first) :
    script.given (first ++ second) s = (script.given second (s.receive first)).behind first := by
  simp only [Script.given, Giving.behind, taken_append all, receive_append, List.length_append,
    Nat.add_lt_add_iff_left]

theorem length_taken (few : script.taken first s ≠ first) :
    (script.taken first s).length < first.length := by
  refine Nat.lt_of_le_of_ne (taken_begins first).length_le fun same => few ?_
  exact (taken_begins first).eq_of_length same

/-- What the sink did not take of some bytes, it will not take either when more are behind them. -/
theorem given_stopped (few : script.taken first s ≠ first) :
    script.given (first ++ second) s = script.given first s := by
  have fewer := length_taken few
  have fewer' : (script.taken first s).length < (first ++ second).length := by
    rw [List.length_append]
    omega
  simp only [Script.given, taken_stopped few, if_pos fewer, if_pos fewer']

theorem given_full {byte : UInt8} (full : script.taken (byte :: first) s = []) :
    script.given (byte :: first) s = ⟨[], .error script.refusal, s.receive []⟩ := by
  simp [Script.given, full]

theorem give_eq (bytes : Bytes) (s : Stage) : script.sink.give bytes s = script.given bytes s := by
  induction bytes, s using Sink.give.induct script.sink with
  | case1 s => rw [Sink.give, given_nil]
  | case2 first rest s after answer =>
      rw [Sink.give_nothing answer]
      obtain ⟨counted, rfl⟩ := Prod.mk.inj answer
      split at counted
      · cases counted
      · next willing =>
          have none : script.taken (first :: rest) s = [] := by simpa using counted
          have quiet : script.takesNothing = true := by simpa [none] using willing
          simp [given_full none, none, Script.refusal, quiet, Sink.nothingTaken]
  | case3 first rest s more after answer ih =>
      rw [Sink.give_some answer, ih]
      obtain ⟨counted, rfl⟩ := Prod.mk.inj answer
      split at counted
      · cases counted
      · have count : (script.taken (first :: rest) s).length = more + 1 := by simpa using counted
        have part : script.taken (first :: rest) s = first :: rest.take more := by
          rw [List.prefix_iff_eq_take.mp (taken_begins (first :: rest)), count, List.take_succ_cons]
        have all : script.taken (first :: rest.take more) s = first :: rest.take more := by
          rw [← part, taken_taken]
        rw [part, ← given_append (rest.drop more) all, List.cons_append, List.take_append_drop]
  | case4 first rest s fault after answer interrupted ih =>
      exact absurd (script.sink.relents _ _ _ _ answer interrupted) (Nat.not_lt_zero _)
  | case5 first rest s fault after answer final =>
      rw [Sink.give_failed answer final]
      obtain ⟨fails, rfl⟩ := Prod.mk.inj answer
      split at fails
      · next full =>
          cases fails
          rw [given_full full.1, full.1]
      · cases fails

theorem giveAll_eq (pieces : List Bytes) (s : Stage) :
    script.sink.giveAll pieces s = script.given pieces.flatten s := by
  induction pieces generalizing s with
  | nil => rw [Sink.giveAll, List.flatten_nil, given_nil]
  | cons piece pieces ih =>
      rw [Sink.giveAll, List.flatten_cons, give_eq]
      by_cases all : script.taken piece s = piece
      · rw [given_append _ all, ← ih]
        simp [Script.given, all]
      · rw [given_stopped all]
        simp [Script.given, length_taken all]

end Sink

theorem world_alike (script : Script) (cut : Cut) :
    World.Alike (fun s t => t.1 = s) script.world (script.world.withSink script.sink cut) := by
  apply World.withSink_alike
  · intro line s
    rw [giveAll_eq, cut.whole]
    rfl
  · intro s
    rfl

def Cue.Passes (cue : Cue) : Prop := cue.hangs = false ∧ cue.failure = none

theorem wait_returns {α : Type} {answer : α} {next : Stage → Flight α Stage}
    (returns : ∀ s, ∃ after, (next s).answer? = some (answer, after)) (s : Stage)
    (milliseconds : Nat) : ∃ after, (s.wait milliseconds next).answer? = some (answer, after) := by
  unfold Stage.wait
  split
  · exact returns s
  · exact returns _

theorem client_passes {cues : List Cue} (pass : ∀ cue ∈ cues, cue.Passes) (s : Stage) (call : Nat) :
    ∃ after, (s.client cues call).answer? = some (.ok (), after) := by
  unfold Stage.client
  split
  · exact ⟨s, rfl⟩
  · next cue found =>
      obtain ⟨returns, noFailure⟩ := pass cue (List.mem_of_find?_eq_some found)
      refine wait_returns (fun s => ⟨s, ?_⟩) s cue.milliseconds
      simp [returns, noFailure, Flight.answer?]

theorem world_obliging {script : Script} (attach : ∀ cue ∈ script.attach, cue.Passes)
    (detach : ∀ cue ∈ script.detach, cue.Passes) (pauses : script.endlessPause = none) :
    script.world.Obliging := by
  intro c s
  cases c with
  | attach remote busId =>
      obtain ⟨after, returns⟩ := client_passes attach
        { s.see (.attach remote busId) with attaches := s.attaches + 1 } (s.attaches + 1)
      exact ⟨_, after, returns, rfl⟩
  | pause seconds =>
      have ends : ∀ s : Stage, ∃ after, (Flight.returned () s).answer? = some ((), after) :=
        fun s => ⟨s, rfl⟩
      obtain ⟨after, returns⟩ := wait_returns ends
        { s.see (.pause seconds) with pauses := s.pauses + 1 } (seconds.toNat * 1000)
      refine ⟨(), after, ?_, rfl⟩
      simp only [Script.world, pauses]
      exact returns
  | detach =>
      obtain ⟨after, returns⟩ := client_passes detach
        { s.see .detach with detaches := s.detaches + 1 } (s.detaches + 1)
      exact ⟨_, after, returns, rfl⟩

end Rehearsal

end Replug
