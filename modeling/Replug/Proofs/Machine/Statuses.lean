import Replug.Proofs.Course.Alike
import Replug.Proofs.Machine.Stations

/-!
# How clients exit

The status with which a client exits is noted in the log of the station and read by nobody.  So two
machines that differ only in how the clients on them exit are the same to a run: whatever an act or a
call gives back on the one, it gives back on the other, and the stations differ in nothing but what the
log says of the exits.
-/

set_option autoImplicit false

namespace Replug

variable {σ τ : Type}

namespace Client

/-- What two launches come to, when both fail for the same reason or neither fails. -/
inductive SameEnd : Except IoFault Status → Except IoFault Status → Prop where
  | exited (status status' : Status) : SameEnd (.ok status) (.ok status')
  | failed (fault : IoFault) : SameEnd (.error fault) (.error fault)

/-- Two entries of the log that are equal, or tell of the same order that its client exited. -/
inductive SameEntry : Log.Record → Log.Record → Prop where
  | same (record : Log.Record) : SameEntry record record
  | exited (order : Order) (status status' : Status) :
    SameEntry (Client.exited order status) (Client.exited order status')

end Client

/-! ## Two machines -/

structure Station.Twins (R : σ → τ → Prop) (s : Station σ) (t : Station τ) : Prop where
  machine : R s.machine t.machine
  written : s.written = t.written
  launches : s.launches = t.launches
  log : List.Forall₂ Client.SameEntry s.log t.log

theorem Station.Twins.on {R : σ → τ → Prop} {s : Station σ} {t : Station τ} (twins : s.Twins R t)
    {a : σ} {b : τ} (related : R a b) :
    Station.Twins R { s with machine := a } { t with machine := b } :=
  ⟨related, twins.written, twins.launches, twins.log⟩

namespace Machine

/-- Two machines that differ at most in how the clients on them exit, and in how long that takes, as
long as a relation between them is kept. -/
structure Twins (R : σ → τ → Prop) (m : Machine σ) (m' : Machine τ) : Prop where
  write : ∀ text s t, R s t → SameAnswer R (m.write text s) (m'.write text t)
  flush : ∀ s t, R s t → SameAnswer R (m.flush s) (m'.flush t)
  word : ∀ s t, R s t → SameAnswer R (m.word s) (m'.word t)
  pause : ∀ seconds s t, R s t → Flight.Alike Eq R (m.pause seconds s) (m'.pause seconds t)
  share : ∀ s t, R s t → SameAnswer R (m.share s) (m'.share t)
  launch : ∀ l s t, R s t → Flight.Alike Client.SameEnd R (m.launch l s) (m'.launch l t)

/-- The machine with other exit statuses, which may depend on the client and on all that the machine
has seen. -/
def withStatuses (m : Machine σ) (change : Client.Launch → σ → Client.Status → Client.Status) :
    Machine σ :=
  { m with launch := fun l s => (m.launch l s).map id fun ended after =>
      (ended.map (change l after), after) }

theorem withStatuses_twins (m : Machine σ)
    (change : Client.Launch → σ → Client.Status → Client.Status) :
    Twins Eq m (m.withStatuses change) where
  write := by
    rintro text s _ rfl
    exact ⟨rfl, rfl⟩
  flush := by
    rintro s _ rfl
    exact ⟨rfl, rfl⟩
  word := by
    rintro s _ rfl
    exact ⟨rfl, rfl⟩
  pause := by
    rintro seconds s _ rfl
    exact .refl _
  share := by
    rintro s _ rfl
    exact ⟨rfl, rfl⟩
  launch := by
    rintro l s _ rfl
    cases ends : (m.launch l s).answer? with
    | none =>
        refine .waits ends ?_ ?_
        · simp [withStatuses, Flight.answer?_map, ends]
        · simp [withStatuses, Flight.last_map _ _ ends]
    | some ended =>
        obtain ⟨answer, after⟩ := ended
        refine .returns (b := answer.map (change l after)) ends ?_ ?_ rfl
        · simp [withStatuses, Flight.answer?_map, ends]
        · cases answer with
          | ok status => exact .exited _ _
          | error fault => exact .failed fault

section Twins

variable {R : σ → τ → Prop} {m : Machine σ} {m' : Machine τ} {s : Station σ} {t : Station τ}

theorem conclude_twins (alike : s.Twins R t) (program : Path) (order : Client.Order)
    {ended ended' : Except IoFault Client.Status} (same : Client.SameEnd ended ended')
    {a : σ} {b : τ} (related : R a b) :
    SameAnswer (Station.Twins R) (conclude program order s ended a)
      (conclude program order t ended' b) := by
  cases same with
  | exited status status' =>
      exact ⟨rfl, related, alike.written, alike.launches,
        .cons (.exited order status status') alike.log⟩
  | failed fault => exact ⟨rfl, alike.on related⟩

theorem Twins.perform (twins : Twins R m m') (program : Path) (order : Client.Order)
    (alike : s.Twins R t) :
    Flight.Alike Eq (Station.Twins R) (m.perform program order s) (m'.perform program order t) := by
  have flushes := twins.flush _ _ alike.machine
  unfold Machine.perform
  generalize m.flush s.machine = flush, m'.flush t.machine = flush' at flushes ⊢
  obtain ⟨flushed, state⟩ := flush
  obtain ⟨_, state'⟩ := flush'
  obtain ⟨rfl, related⟩ := flushes
  cases flushed with
  | error fault => exact .returned rfl (alike.on related)
  | ok done =>
      have shares := twins.share _ _ related
      dsimp only at shares ⊢
      generalize m.share state = share, m'.share state' = share' at shares ⊢
      obtain ⟨shared, state⟩ := share
      obtain ⟨_, state'⟩ := share'
      obtain ⟨rfl, related⟩ := shares
      cases shared with
      | error fault => exact .returned rfl (alike.on related)
      | ok done =>
          have begun : Station.Twins R { s with launches := order.launch program :: s.launches }
              { t with launches := order.launch program :: t.launches } :=
            ⟨alike.machine, alike.written, congrArg _ alike.launches, alike.log⟩
          exact (twins.launch _ _ _ related).map (fun _ _ kept => begun.on kept)
            fun _ _ _ _ same kept => conclude_twins begun program order same kept

theorem Twins.print (twins : Twins R m m') (text : String) (alike : s.Twins R t) :
    SameAnswer (Station.Twins R) (m.print text s) (m'.print text t) := by
  have writes := twins.write text _ _ alike.machine
  unfold Machine.print
  generalize m.write text s.machine = write, m'.write text t.machine = write' at writes ⊢
  obtain ⟨taken, state⟩ := write
  obtain ⟨_, state'⟩ := write'
  obtain ⟨rfl, related⟩ := writes
  cases taken with
  | error fault => exact ⟨rfl, alike.on related⟩
  | ok done => exact ⟨rfl, related, congrArg _ alike.written, alike.launches, alike.log⟩

/-- A run cannot tell two machines apart by the exits of their clients. -/
theorem Twins.world (twins : Twins R m m') (program : Path) :
    World.Alike (Station.Twins R) (m.world program) (m'.world program) where
  act a s t alike := by
    cases a with
    | note record => exact ⟨rfl, alike.machine, alike.written, alike.launches,
        .cons (.same record) alike.log⟩
    | write text => exact twins.print text alike
    | flush =>
        obtain ⟨same, related⟩ := twins.flush _ _ alike.machine
        exact ⟨same, alike.on related⟩
    | word =>
        obtain ⟨same, related⟩ := twins.word _ _ alike.machine
        exact ⟨same, alike.on related⟩
  call c s t alike := by
    cases c with
    | attach remote busId => exact twins.perform program _ alike
    | pause seconds =>
        exact (twins.pause seconds _ _ alike.machine).map (fun _ _ kept => alike.on kept)
          fun _ _ _ _ _ kept => ⟨rfl, alike.on kept⟩
    | detach => exact twins.perform program _ alike

end Twins

end Machine

end Replug
