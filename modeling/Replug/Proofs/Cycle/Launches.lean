import Replug.Proofs.Cycle.Route
import Replug.Proofs.Machine.Statuses

/-!
# The clients that a run starts

An order to the client can fail in four places: the progress cannot be pushed out, the output cannot
be shared, the client cannot be started, or it cannot be waited for.  `Obstacle` lists them, each with
the failure that comes of it, and an order fails exactly if it meets one.

A run on a machine starts the client for one cycle after the other.  It ends with the first obstacle,
and nothing that a client does with its exit status changes what it does.
-/

set_option autoImplicit false

namespace Replug

variable {α σ τ : Type}

def Client.Order.call : Client.Order → Call
  | .attach remote busId => .attach remote busId
  | .detach => .detach

/-- What stands in the way of an order, and the failure that comes of it. -/
inductive Machine.Obstacle (m : Machine σ) (program : Path) (order : Client.Order) (s : Station σ) :
    Failure → Prop where
  | flush {fault : IoFault} {state : σ} (refused : m.flush s.machine = (.error fault, state)) :
    Obstacle m program order s (.io fault)
  | share {fault : IoFault} {state state' : σ} (flushed : m.flush s.machine = (.ok (), state))
    (refused : m.share state = (.error fault, state')) :
    Obstacle m program order s (.launch program order.action fault)
  /-- The client cannot be started, or it cannot be waited for. -/
  | client {fault : IoFault} {state state' after : σ}
    (flushed : m.flush s.machine = (.ok (), state)) (shared : m.share state = (.ok (), state'))
    (fails : (m.launch (order.launch program) state').answer? = some (.error fault, after)) :
    Obstacle m program order s (.launch program order.action fault)

def Deed.launches (program : Path) : Deed → List Client.Launch
  | .act _ | .call (.pause _) => []
  | .call (.attach remote busId) => [(Client.Order.attach remote busId).launch program]
  | .call .detach => [Client.Order.detach.launch program]

def Meeting.left : Meeting σ → σ
  | .cameOff after => after
  | .failed _ after => after
  | .endless forever => forever

namespace Machine

section Orders

variable {m : Machine σ} {program : Path} {order : Client.Order} {s : Station σ}

theorem obstacle_iff {failure : Failure} :
    (∃ after, (m.perform program order s).answer? = some (.error failure, after)) ↔
      m.Obstacle program order s failure := by
  constructor
  · rintro ⟨after, fails⟩
    unfold perform at fails
    split at fails
    · next fault state refused =>
        cases fails
        exact .flush refused
    · next state flushed =>
        split at fails
        · next fault state' refused =>
            cases fails
            exact .share flushed refused
        · next state' shared =>
            rw [Flight.answer?_map, Option.map_eq_some_iff] at fails
            obtain ⟨⟨ended, last⟩, returns, concludes⟩ := fails
            cases ended with
            | ok status => cases concludes
            | error fault =>
                cases concludes
                exact .client flushed shared returns
  · intro obstacle
    cases obstacle with
    | @flush fault state refused =>
        refine ⟨{ s with machine := state }, ?_⟩
        simp only [perform, refused, Flight.answer?]
    | @share fault state state' flushed refused =>
        refine ⟨{ s with machine := state' }, ?_⟩
        simp only [perform, flushed, refused, Flight.answer?, Client.launchFailure]
    | @client fault state state' after flushed shared fails =>
        refine ⟨{ started program order s with machine := after }, ?_⟩
        simp only [perform, flushed, shared, Flight.answer?_map, fails, Option.map_some, conclude,
          Client.launchFailure, started]

theorem meet_order (m : Machine σ) (program : Path) (order : Client.Order) (s : Station σ) :
    (Deed.call order.call).meet (m.world program) s =
    match (m.perform program order s).answer? with
    | none => .endless (m.perform program order s).last
    | some (.ok _, after) => .cameOff after
    | some (.error failure, after) => .failed failure after := by
  cases returns : (m.perform program order s).answer? with
  | none =>
      cases order with
      | attach remote busId => exact Deed.meet_of_waits returns
      | detach => exact Deed.meet_of_waits returns
  | some returned =>
      obtain ⟨answer, after⟩ := returned
      cases order with
      | attach remote busId => cases answer with
        | ok done => exact Deed.meet_of_well returns rfl
        | error failure => exact Deed.meet_of_failure returns rfl
      | detach => cases answer with
        | ok done => exact Deed.meet_of_well returns rfl
        | error failure => exact Deed.meet_of_failure returns rfl

theorem order_fails_iff {failure : Failure} :
    (∃ after, (Deed.call order.call).meet (m.world program) s = .failed failure after) ↔
      m.Obstacle program order s failure := by
  rw [← obstacle_iff, meet_order]
  rcases (m.perform program order s).answer? with _ | ⟨_ | _, after⟩ <;> simp

theorem order_launches (m : Machine σ) (program : Path) (order : Client.Order) (s : Station σ) :
    ((Deed.call order.call).meet (m.world program) s).left.launches =
        order.launch program :: s.launches ∨
      ∃ failure after, (Deed.call order.call).meet (m.world program) s = .failed failure after ∧
        after.launches = s.launches := by
  rw [meet_order]
  rcases perform_cases m program order s with ⟨failure, state, -, fails⟩ | ⟨state, starts⟩
  · right
    refine ⟨failure, { s with machine := state }, ?_, rfl⟩
    simp only [fails, Flight.answer?]
  · left
    rw [starts, Flight.answer?_map]
    cases ends : (m.launch (order.launch program) state).answer? with
    | none =>
        simp only [Option.map_none, Flight.last_map _ _ ends]
        rfl
    | some ended => rcases ended with ⟨_ | _, after⟩ <;> rfl

theorem act_launches (a : Act) : ((m.world program).act a s).2.launches = s.launches := by
  cases a with
  | note record => rfl
  | write text =>
      simp only [world, print]
      split <;> rfl
  | flush => rfl
  | word => rfl

/-- A deed starts the clients that it is to start, or it fails and has started none. -/
theorem meet_launches (m : Machine σ) (program : Path) (deed : Deed) (s : Station σ) :
    (deed.meet (m.world program) s).left.launches.reverse =
        s.launches.reverse ++ deed.launches program ∨
      ∃ failure after, deed.meet (m.world program) s = .failed failure after ∧
        after.launches = s.launches := by
  cases deed with
  | act a =>
      left
      simp only [Deed.meet, Deed.launches, List.append_nil]
      split <;> exact congrArg List.reverse (act_launches a)
  | call c => cases c with
    | attach remote busId =>
        rcases order_launches m program (.attach remote busId) s with starts | fails
        · left
          exact (congrArg List.reverse starts).trans List.reverse_cons
        · exact .inr fails
    | pause seconds =>
        left
        simp only [Deed.meet, Deed.launches, List.append_nil, world, Flight.answer?_map]
        cases ends : (m.pause seconds s.machine).answer? with
        | none => simp only [Option.map_none, Flight.last_map _ _ ends, Meeting.left]
        | some ended => rfl
    | detach =>
        rcases order_launches m program .detach s with starts | fails
        · left
          exact (congrArg List.reverse starts).trans List.reverse_cons
        · exact .inr fails

theorem through_launches {m : Machine σ} {program : Path} {deeds : List Deed} {s after : Station σ}
    (passes : Deed.through (m.world program) deeds s = some after) :
    after.launches.reverse = s.launches.reverse ++ deeds.flatMap (Deed.launches program) := by
  induction deeds generalizing s with
  | nil =>
      cases passes
      simp
  | cons deed deeds ih =>
      have starts := meet_launches m program deed s
      simp only [Deed.through] at passes
      cases meets : deed.meet (m.world program) s with
      | cameOff between =>
          simp only [meets] at passes starts
          rcases starts with starts | ⟨failure, after, fails, -⟩
          · rw [ih passes, List.flatMap_cons, ← List.append_assoc, ← starts]
            rfl
          · cases fails
      | failed failure after => simp [meets] at passes
      | endless forever => simp [meets] at passes

end Orders

/-- What an execution has started are the clients of its deeds, from the first on. -/
theorem pursues_launches {m : Machine σ} {program : Path} {deeds : List Deed} {result : α}
    {s : Station σ} {e : Execution (Except Failure α) (Station σ)}
    (pursues : Pursues (m.world program) deeds result s e) :
    e.world.launches.reverse <+: s.launches.reverse ++ deeds.flatMap (Deed.launches program) := by
  cases pursues with
  | done after passes => exact through_launches passes ▸ List.prefix_rfl
  | failed before deed rest reached failure after split passes fails =>
      rw [split, List.flatMap_append, List.flatMap_cons, ← List.append_assoc, ← List.append_assoc,
        ← through_launches passes]
      rcases meet_launches m program deed reached with starts | ⟨failure', after', fails', same⟩
      · rw [fails] at starts
        exact starts ▸ List.prefix_append _ _
      · rw [fails] at fails'
        cases fails'
        rw [same, List.append_assoc]
        exact List.prefix_append _ _
  | endless before c rest reached forever split passes waits =>
      rw [split, List.flatMap_append, List.flatMap_cons, ← List.append_assoc, ← List.append_assoc,
        ← through_launches passes]
      rcases meet_launches m program (.call c) reached with starts | ⟨failure', after', fails', -⟩
      · rw [waits] at starts
        exact starts ▸ List.prefix_append _ _
      · rw [waits] at fails'
        cases fails'

end Machine

namespace Cycle

/-- The clients of one cycle.  Host and bus id are one argument each, whatever they are. -/
def launches (plan : Plan) : List Client.Launch :=
  [⟨plan.program, ["attach", "--remote", plan.remote, "--bus-id", plan.busId]⟩,
    ⟨plan.program, ["detach", "--all"]⟩]

theorem launches_leg (plan : Plan) (i : Nat) (leg : Leg) :
    (leg.deeds plan i).flatMap (Deed.launches plan.program) = launches plan := by
  have noWord : leg.drawing.flatMap (Deed.launches plan.program) = [] := by
    simp [Leg.drawing, List.flatMap_replicate, Deed.launches]
  have noRest : (restDeeds i leg.wait).flatMap (Deed.launches plan.program) = [] := by
    cases leg.wait <;> rfl
  rw [Leg.deeds, List.flatMap_append, List.flatMap_append, List.flatMap_append, noWord, noRest]
  rfl

theorem launches_stretch (plan : Plan) (i : Nat) (legs : List Leg) :
    (stretch plan i legs).flatMap (Deed.launches plan.program) =
      (List.replicate legs.length (launches plan)).flatten := by
  induction legs generalizing i with
  | nil => rfl
  | cons leg legs ih =>
      rw [stretch, List.flatMap_append, launches_leg, ih, List.length_cons, List.replicate_succ,
        List.flatten_cons]

theorem launches_route (plan : Plan) (legs : List Leg) :
    (route plan legs).flatMap (Deed.launches plan.program) =
      (List.replicate legs.length (launches plan)).flatten := by
  rw [route, sofar, List.flatMap_append, List.flatMap_cons, launches_stretch]
  simp [Deed.launches]

/-- A run does the same on two machines that differ only in how the clients on them exit.  Wherever it
begins an order, the order fails exactly if it meets an obstacle, and then the run ends with that.
The clients that it starts are those of one cycle after the other. -/
theorem run_whatever_statuses (plan : Plan) {m : Machine σ} {m' : Machine τ} {R : σ → τ → Prop}
    (twins : Machine.Twins R m m') {s : σ} {t : τ} (related : R s t) :
    let e := run plan (m.world plan.program) (.fresh s)
    let e' := run plan (m'.world plan.program) (.fresh t)
    (e.trace = e'.trace ∧ e.ending = e'.ending ∧ e.world.launches = e'.world.launches ∧
      e.world.written = e'.world.written ∧
      List.Forall₂ Client.SameEntry e.world.log e'.world.log) ∧
    (∀ first order rest, e.trace = first ++ .began order.call :: rest →
      ∃ done reached, first = done.flatMap (Deed.shown true) ∧
        Deed.through (m.world plan.program) done (.fresh s) = some reached ∧
        ∀ failure, m.Obstacle plan.program order reached failure ↔
          rest = [.ended order.call false] ∧ e.ending = .finished (.error failure)) ∧
    e.world.launches.reverse <+: (List.replicate plan.count.toNat (launches plan)).flatten ∧
    ∀ launch ∈ e.world.launches, launch.program = plan.program ∧
      (launch.arguments = ["attach", "--remote", plan.remote, "--bus-id", plan.busId] ∨
        launch.arguments = ["detach", "--all"]) := by
  intro e e'
  have fresh : Station.Twins R (.fresh s) (.fresh t) := ⟨related, rfl, rfl, .nil⟩
  have alike : e.Alike (Station.Twins R) e' := by
    simp only [e, e', run_alone]
    exact Course.alone_alike (twins.world plan.program) _ fresh
  obtain ⟨legs, all, pursues⟩ := exists_route plan (m.world plan.program) (.fresh s)
  have part : e.world.launches.reverse <+:
      (List.replicate plan.count.toNat (launches plan)).flatten := by
    have started := Machine.pursues_launches pursues
    rw [launches_route, all] at started
    exact started
  refine ⟨⟨alike.trace, alike.ending, alike.world.launches, alike.world.written,
    alike.world.log⟩, ?_, part, ?_⟩
  · intro first order rest split
    obtain ⟨done, later, reached, -, shows, passes, onwards⟩ := pursues.began_onwards split
    refine ⟨done, reached, shows, passes, ?_⟩
    intro failure
    rw [← Machine.order_fails_iff]
    generalize (Deed.call order.call).meet (m.world plan.program) reached = meeting at onwards ⊢
    change Onwards order.call meeting rest e.ending at onwards
    generalize e.ending = ending at onwards ⊢
    cases onwards with
    | cameOff after later ending => simp
    | failed failure' after => simp [eq_comm]
    | endless forever => simp
  · intro launch member
    have among := part.subset (List.mem_reverse.mpr member)
    simp only [List.mem_flatten, List.mem_replicate] at among
    obtain ⟨_, ⟨-, rfl⟩, here⟩ := among
    simp only [launches, List.mem_cons, List.not_mem_nil, or_false] at here
    rcases here with rfl | rfl
    · exact ⟨rfl, .inl rfl⟩
    · exact ⟨rfl, .inr rfl⟩

def obliging : Machine Unit where
  write _ s := (.ok (), s)
  flush s := (.ok (), s)
  complain _ s := (.ok (), s)
  word s := (0, s)
  pause _ s := .returned () s
  share s := (.ok (), s)
  launch _ s := .returned (.ok (.code 0)) s
  files _ := ⟨[], [], []⟩
  withFiles _ s := s
  shutdown := .never

/-- Clients that are killed are started again as if they had exited well, but the log tells. -/
theorem run_whatever_statuses_killed :
    let killing := obliging.withStatuses fun _ _ _ => .signal 9
    let plan : Plan := ⟨"h", "1-1 --all", 0, "/bin/usbip", 2⟩
    let e := run plan (obliging.world plan.program) (.fresh ())
    let e' := run plan (killing.world plan.program) (.fresh ())
    Machine.Twins Eq obliging killing ∧ (e.trace = e'.trace ∧ e.world.launches = e'.world.launches) ∧
      e.world.launches.reverse = launches plan ++ launches plan ∧ e.world.log ≠ e'.world.log := by
  intro killing plan e e'
  have twins : Machine.Twins Eq obliging killing := Machine.withStatuses_twins obliging _
  obtain ⟨⟨trace, -, launched, -⟩, -⟩ := run_whatever_statuses plan twins (Eq.refl ())
  refine ⟨twins, ⟨trace, launched⟩, by decide, by decide⟩

end Cycle

end Replug
