import Replug.Machine
import Replug.Proofs.Course.Lines

/-!
# What a station keeps

A station keeps what was written on it and which clients were started.  Orders, pauses and entries in
the log add no line; only an order starts a client, and only a client can make an order wait for
ever.  An order fails because the client cannot be started or the output is at fault, never because
of the operator.  What is said outside the log is taken or is the end of the program.
-/

set_option autoImplicit false

namespace Replug

variable {σ : Type}

namespace Machine

/-- A machine on which everything that is written is taken and every pause ends. -/
structure Steady (m : Machine σ) : Prop where
  accepts : ∀ text s, (m.write text s).1 = .ok ()
  wakes : ∀ seconds s, (m.pause seconds s).answer?.isSome

theorem Steady.print {m : Machine σ} (steady : m.Steady) (text : String) (s : Station σ) :
    m.print text s = (.ok (), { s with
      machine := (m.write text s.machine).2, written := text :: s.written }) := by
  have accepted := steady.accepts text s.machine
  unfold Machine.print
  split
  · next state taken => rw [taken]
  · next fault state taken =>
      rw [taken] at accepted
      cases accepted

/-- What there is to complain about, if anything, is taken. -/
inductive Hears (m : Machine σ) : Option String → σ → σ → Prop
  | nothing (state : σ) : m.Hears none state state
  | complaint {line : String} {state after : σ} (taken : m.complain line state = (.ok (), after)) :
    m.Hears (some line) state after

theorem Hears.warn {m : Machine σ} {complaint : Option String} {state after : σ}
    (hears : m.Hears complaint state after) :
    m.warn complaint (.fresh state) = (.ok (), .fresh after) := by
  cases hears with
  | nothing => rfl
  | complaint taken => rw [Machine.warn]; simp only [Station.fresh, taken]

theorem hears_or_refuses (m : Machine σ) (complaint : Option String) (state : σ) :
    (∃ after, m.Hears complaint state after) ∨
      ∃ line fault, complaint = some line ∧ (m.complain line state).1 = .error fault := by
  rcases complaint with _ | line
  · exact .inl ⟨state, .nothing state⟩
  · cases said : m.complain line state with
    | mk answer after =>
        cases answer with
        | ok done => exact .inl ⟨after, .complaint said⟩
        | error fault => exact .inr ⟨line, fault, rfl, by rw [said]⟩

def started (program : Path) (order : Client.Order) (s : Station σ) : Station σ :=
  { s with launches := order.launch program :: s.launches }

/-- An order fails before a client is started, or is what becomes of the client. -/
theorem perform_cases (m : Machine σ) (program : Path) (order : Client.Order) (s : Station σ) :
    (∃ failure state, failure ≠ .interrupted ∧
      m.perform program order s = .returned (.error failure) { s with machine := state }) ∨
    ∃ state, m.perform program order s = (m.launch (order.launch program) state).map
      (fun state => { started program order s with machine := state })
      (conclude program order (started program order s)) := by
  unfold perform
  split
  · exact .inl ⟨_, _, by simp, rfl⟩
  · split
    · exact .inl ⟨_, _, by simp [Client.launchFailure], rfl⟩
    · exact .inr ⟨_, rfl⟩

theorem conclude_written (program : Path) (order : Client.Order) (s : Station σ)
    (answer : Except IoFault Client.Status) (state : σ) :
    (conclude program order s answer state).2.written = s.written := by
  cases answer <;> rfl

theorem conclude_serious (program : Path) (order : Client.Order) (s : Station σ)
    (answer : Except IoFault Client.Status) (state : σ) :
    (conclude program order s answer state).1 ≠ .error .interrupted := by
  cases answer <;> simp [conclude, Client.launchFailure]

theorem perform_keeps (m : Machine σ) (program : Path) (order : Client.Order) (s : Station σ) :
    (m.perform program order s).Throughout fun after => after.written.reverse = s.written.reverse := by
  rcases perform_cases m program order s with ⟨_, _, -, fails⟩ | ⟨state, starts⟩
  · rw [fails]
    rfl
  · rw [starts]
    refine Flight.throughout_map _ (fun _ => rfl) fun answer state => ?_
    rw [conclude_written]
    rfl

theorem world_shows (m : Machine σ) (program : Path) :
    (m.world program).Shows fun s => s.written.reverse where
  act a s := by
    cases a with
    | note record => simp [world, Station.note, Happening.line?]
    | write text =>
        simp only [world, print]
        split <;> simp [Act.succeeded, Except.isOk, Except.toBool, Happening.line?]
    | flush => simp [world, Happening.line?]
    | word => simp [world, Happening.line?]
  call c s := by
    cases c with
    | attach remote busId => exact perform_keeps m program _ s
    | pause seconds => exact Flight.throughout_map _ (fun _ => rfl) fun _ _ => rfl
    | detach => exact perform_keeps m program _ s

theorem perform_serious {m : Machine σ} {program : Path} {order : Client.Order} {s after : Station σ}
    {failure : Failure}
    (returns : (m.perform program order s).answer? = some (.error failure, after)) :
    failure ≠ .interrupted := by
  rcases perform_cases m program order s with ⟨_, _, notInterrupt, fails⟩ | ⟨state, starts⟩
  · rw [fails] at returns
    cases returns
    exact notInterrupt
  · rw [starts, Flight.answer?_map, Option.map_eq_some_iff] at returns
    obtain ⟨⟨ended, state'⟩, -, concluded⟩ := returns
    have serious := conclude_serious program order (started program order s) ended state'
    simpa [concluded] using serious

theorem world_serious (m : Machine σ) (program : Path) : (m.world program).Serious := by
  intro c s answer after returns
  cases c with
  | attach remote busId => cases (answer : Except Failure Unit) with
    | ok _ => simp [Call.failure?]
    | error failure => simpa [Call.failure?] using perform_serious returns
  | pause seconds => simp [Call.failure?]
  | detach => cases (answer : Except Failure Unit) with
    | ok _ => simp [Call.failure?]
    | error failure => simpa [Call.failure?] using perform_serious returns

end Machine

end Replug
