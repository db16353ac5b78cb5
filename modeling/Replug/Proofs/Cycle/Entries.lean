import Replug.Proofs.Cycle.Request
import Replug.Proofs.Cycle.Route

/-!
# The entries of a run in the log

What a run did can be told from its trace without looking at the log: which attaches came off, and
whether a pause was made after each.  `Cycle.rests` reads that off.  The log of a run says the same,
wherever the run failed or was broken off, with one entry for each attach that came off.
-/

set_option autoImplicit false

namespace Replug.Cycle

variable {σ : Type}

def attached : Happening → Bool
  | .ended (.attach _ _) ok => ok
  | .ended _ _ | .began _ | .did _ _ => false

def paused : Happening → Bool
  | .ended (.pause _) ok => ok
  | .ended _ _ | .began _ | .did _ _ => false

def detached : Happening → Bool
  | .ended .detach ok => ok
  | .ended _ _ | .began _ | .did _ _ => false

/-- The pause that begins before any other call and before the next line. -/
def nextPause : List Happening → Option UInt64
  | .began (.pause seconds) :: _ => some seconds
  | .began _ :: _ | .did (.write _) _ :: _ | [] => none
  | .ended _ _ :: later | .did _ _ :: later => nextPause later

/-- For each attach that came off, the pause that was made after it, if there was one. -/
def rests : List Happening → List (Option UInt64)
  | [] => []
  | h :: later => if attached h then nextPause later :: rests later else rests later

def opening (plan : Plan) : Log.Record :=
  ⟨.info, .cycle, "Cycling " ++ plan.busId ++ " on " ++ plan.remote ++ " via " ++
    plan.program.display ++ " (" ++ toString plan.count ++ " iterations, max delay " ++
    toString plan.maxDelay ++ "s)", []⟩

def entry (iteration : Nat) : Option UInt64 → Log.Record
  | some seconds => ⟨.debug, .cycle, "Waiting before detach",
      [("iteration", iteration), ("delay_secs", seconds.toNat)]⟩
  | none => ⟨.debug, .cycle, "Detaching without delay", [("iteration", iteration)]⟩

/-- The entries of some cycles, the first of which is cycle `i`. -/
def entries : Nat → List (Option UInt64) → List Log.Record
  | _, [] => []
  | i, wait :: later => entry i wait :: entries (i + 1) later

/-- The last entry: none if the run failed or hangs. -/
def closing : Ending (Except Failure Summary) → List Log.Record
  | .finished (.ok summary) => [⟨.info, .cycle, "Completed " ++ toString summary.iterations ++
      " iterations (" ++ toString summary.sleeps ++ " with a delay)", []⟩]
  | .finished (.error _) | .hung => []
  | .interrupted => [⟨.debug, .cycle, "Shutdown requested, leaving loop", []⟩]

@[simp] theorem opening_eq (plan : Plan) : opening plan = starting plan := rfl

@[simp] theorem closing_ok (summary : Summary) :
    closing (.finished (.ok summary)) = [completed summary] := rfl

@[simp] theorem closing_error (failure : Failure) : closing (.finished (.error failure)) = [] := rfl

@[simp] theorem closing_hung : closing .hung = [] := rfl

@[simp] theorem closing_interrupted : closing .interrupted = [leaving] := rfl

theorem length_rests (trace : List Happening) : (rests trace).length = trace.countP attached := by
  induction trace with
  | nil => rfl
  | cons h later ih =>
      rw [rests, List.countP_cons]
      by_cases came : attached h = true
      · rw [if_pos came, if_pos came, List.length_cons, ih]
      · rw [if_neg came, if_neg came, ih, Nat.add_zero]

theorem entries_append (i : Nat) (first second : List (Option UInt64)) :
    entries i (first ++ second) = entries i first ++ entries (i + first.length) second := by
  induction first generalizing i with
  | nil => rfl
  | cons wait first ih =>
      rw [List.cons_append, entries, entries, ih, List.cons_append, List.length_cons,
        Nat.add_assoc i 1, Nat.add_comm 1]

theorem entry_injective {i j : Nat} {wait wait' : Option UInt64}
    (same : entry i wait = entry j wait') : i = j := by
  have fields := congrArg (fun r => r.fields.head?) same
  cases wait <;> cases wait' <;> simpa [entry] using fields

theorem entry_level (i : Nat) (wait : Option UInt64) : (entry i wait).level = .debug := by
  cases wait <;> rfl

theorem entry_ne_leaving (i : Nat) (wait : Option UInt64) : entry i wait ≠ leaving := by
  intro same
  have fields := congrArg Log.Record.fields same
  cases wait <;> cases fields

/-! ## What legs leave behind -/

section Legs

variable {plan : Plan} {i : Nat} {leg : Leg}

theorem shown_drawing (leg : Leg) :
    leg.drawing.flatMap (Deed.shown true) = List.replicate leg.words (.did .word true) := by
  simp [Leg.drawing, List.flatMap_replicate, Deed.shown]

theorem nextPause_words (count : Nat) (later : List Happening) :
    nextPause (List.replicate count (.did .word true) ++ later) = nextPause later := by
  induction count with
  | zero => rfl
  | succ count ih => exact ih

theorem rests_words (count : Nat) (later : List Happening) :
    rests (List.replicate count (.did .word true) ++ later) = rests later := by
  induction count with
  | zero => rfl
  | succ count ih => exact ih

/-- Up to the attach of a leg and the words after it, nothing else is waited for. -/
theorem rests_behind_drawing (plan : Plan) (i : Nat) (leg : Leg) (later : List Happening) :
    rests ((Leg.approach plan i ++ leg.drawing).flatMap (Deed.shown true) ++ later) =
      nextPause later :: rests later := by
  rw [List.flatMap_append, shown_drawing, List.append_assoc]
  simp [Leg.approach, Deed.shown, rests, attached, nextPause_words, rests_words]

theorem rests_restDeeds (i : Nat) (wait : Option UInt64) (later : List Happening) :
    rests ((restDeeds i wait).flatMap (Deed.shown true) ++ later) = rests later := by
  cases wait <;> simp [restDeeds, Deed.shown, rests, attached]

theorem nextPause_restDeeds (i : Nat) (wait : Option UInt64) {later : List Happening}
    (none_ : nextPause later = none) :
    nextPause ((restDeeds i wait).flatMap (Deed.shown true) ++ later) = wait := by
  cases wait with
  | none => exact none_
  | some seconds => rfl

theorem rests_leg (plan : Plan) (i : Nat) (leg : Leg) (later : List Happening) :
    rests ((leg.deeds plan i).flatMap (Deed.shown true) ++ later) = leg.wait :: rests later := by
  have detaches : nextPause ([Deed.call .detach].flatMap (Deed.shown true) ++ later) = none := rfl
  have grouped : (leg.deeds plan i).flatMap (Deed.shown true) ++ later =
      (Leg.approach plan i ++ leg.drawing).flatMap (Deed.shown true) ++
        ((restDeeds i leg.wait).flatMap (Deed.shown true) ++
          ([Deed.call .detach].flatMap (Deed.shown true) ++ later)) := by
    simp [Leg.deeds]
  rw [grouped, rests_behind_drawing, nextPause_restDeeds i leg.wait detaches, rests_restDeeds]
  rfl

theorem log_behind_drawing (plan : Plan) (i : Nat) (leg : Leg) :
    ((Leg.approach plan i ++ leg.drawing).flatMap (Deed.shown true)).filterMap Happening.record? =
      [] := by
  rw [List.flatMap_append, shown_drawing]
  simp [Leg.approach, Deed.shown, Happening.record?]

theorem log_restDeeds (i : Nat) (wait : Option UInt64) :
    ((restDeeds i wait).flatMap (Deed.shown true)).filterMap Happening.record? = [entry i wait] := by
  cases wait <;> rfl

theorem log_leg (plan : Plan) (i : Nat) (leg : Leg) :
    ((leg.deeds plan i).flatMap (Deed.shown true)).filterMap Happening.record? =
      [entry i leg.wait] := by
  rw [Leg.deeds, List.flatMap_append, List.flatMap_append, List.filterMap_append,
    List.filterMap_append, log_behind_drawing, log_restDeeds]
  rfl

theorem rests_stretch (plan : Plan) (i : Nat) (legs : List Leg) (later : List Happening) :
    rests ((stretch plan i legs).flatMap (Deed.shown true) ++ later) =
      legs.map Leg.wait ++ rests later := by
  induction legs generalizing i with
  | nil => rfl
  | cons leg legs ih =>
      rw [stretch, List.flatMap_append, List.append_assoc, rests_leg, ih]
      rfl

theorem log_stretch (plan : Plan) (i : Nat) (legs : List Leg) :
    ((stretch plan i legs).flatMap (Deed.shown true)).filterMap Happening.record? =
      entries i (legs.map Leg.wait) := by
  induction legs generalizing i with
  | nil => rfl
  | cons leg legs ih =>
      rw [stretch, List.flatMap_append, List.filterMap_append, log_leg, ih]
      rfl

/-- What a run gives back when it goes all its legs is what its trace shows. -/
theorem stretch_counts (plan : Plan) (i : Nat) (legs : List Leg) :
    ((stretch plan i legs).flatMap (Deed.shown true)).countP attached = legs.length ∧
      ((stretch plan i legs).flatMap (Deed.shown true)).countP detached = legs.length ∧
      ((stretch plan i legs).flatMap (Deed.shown true)).countP paused =
        legs.countP fun leg => leg.wait.isSome := by
  induction legs generalizing i with
  | nil => exact ⟨rfl, rfl, rfl⟩
  | cons leg legs ih =>
      obtain ⟨attaches, detaches, pauses⟩ := ih (i + 1)
      rw [stretch, List.flatMap_append, List.countP_append, List.countP_append, List.countP_append,
        attaches, detaches, pauses, List.countP_cons, List.length_cons, Leg.deeds,
        List.flatMap_append, List.flatMap_append, List.flatMap_append, shown_drawing]
      cases waits : leg.wait with
      | none =>
          simp [Leg.approach, restDeeds, Deed.shown, attached, detached, paused,
            List.countP_replicate, List.countP_cons, Nat.add_comm]
      | some seconds =>
          simp [Leg.approach, restDeeds, Deed.shown, attached, detached, paused,
            List.countP_replicate, List.countP_cons, Nat.add_comm]

end Legs

/-! ## Runs that are held up -/

inductive Stuck : Deed → List Happening → Ending (Except Failure Summary) → Prop where
  | failed (deed : Deed) (failure : Failure) :
    Stuck deed (deed.shown false) (.finished (.error failure))
  | hung (c : Call) : Stuck (.call c) [.began c] .hung
  | left (c : Call) : Stuck (.call c) [.began c, .did (.note leaving) true] .interrupted

variable {deed : Deed} {tail : List Happening} {ending : Ending (Except Failure Summary)}

theorem Stuck.no_rests (stuck : Stuck deed tail ending) : rests tail = [] := by
  cases stuck with
  | failed deed failure => cases deed with
    | act a => cases a <;> rfl
    | call c => cases c <;> rfl
  | hung c => rfl
  | left c => cases c <;> rfl

theorem Stuck.nextPause_detach (stuck : Stuck (.call .detach) tail ending) :
    nextPause tail = none := by
  cases stuck <;> rfl

theorem Stuck.nextPause_pause {seconds : UInt64} (stuck : Stuck (.call (.pause seconds)) tail ending) :
    nextPause tail = some seconds := by
  cases stuck <;> rfl

theorem Stuck.closes (stuck : Stuck deed tail ending) (shows : isShown deed = true) :
    tail.filterMap Happening.record? = closing ending := by
  cases stuck with
  | failed deed failure => cases deed with
    | act a => cases a with
      | note record => cases shows
      | write text => rfl
      | flush => rfl
      | word => rfl
    | call c => rfl
  | hung c => rfl
  | left c => rfl

/-- In the leg in which a run is held up, there is an entry if the attach came off, and it tells the
pause that was begun. -/
theorem Leg.HeldUp.log {plan : Plan} {i : Nat} {leg : Leg} {inner : List Deed}
    (heldUp : leg.HeldUp plan i inner deed) (stuck : Stuck deed tail ending) :
    (inner.flatMap (Deed.shown true)).filterMap Happening.record? =
      entries i (rests (inner.flatMap (Deed.shown true) ++ tail)) := by
  have none := stuck.no_rests
  cases heldUp with
  | line =>
      rw [List.flatMap_nil, List.nil_append, none]
      rfl
  | flush =>
      change _ = entries i (rests tail)
      rw [none]
      rfl
  | attach =>
      change _ = entries i (rests tail)
      rw [none]
      rfl
  | pause seconds waits =>
      rw [List.flatMap_append, List.filterMap_append, log_behind_drawing, List.append_assoc,
        rests_behind_drawing]
      change _ = entries i (nextPause tail :: rests tail)
      rw [none, stuck.nextPause_pause]
      rfl
  | detach =>
      rw [List.flatMap_append, List.filterMap_append, log_behind_drawing, log_restDeeds,
        List.append_assoc, rests_behind_drawing, nextPause_restDeeds i leg.wait stuck.nextPause_detach,
        rests_restDeeds, none]
      rfl

theorem HeldUp.isShown {plan : Plan} {before : List Deed} (heldUp : HeldUp plan before deed) :
    isShown deed = true := by
  obtain ⟨-, here⟩ := heldUp
  cases here <;> rfl

theorem HeldUp.log {plan : Plan} {before : List Deed} (heldUp : HeldUp plan before deed)
    (stuck : Stuck deed tail ending) :
    (before.flatMap (Deed.shown true) ++ tail).filterMap Happening.record? =
      [starting plan] ++ entries 1 (rests (before.flatMap (Deed.shown true) ++ tail)) ++
        closing ending := by
  have closes := stuck.closes heldUp.isShown
  cases heldUp with
  | @inside done leg inner _ few here =>
      have opened : (sofar plan done ++ inner).flatMap (Deed.shown true) =
          .did (.note (starting plan)) true :: ((stretch plan 1 done).flatMap (Deed.shown true) ++
            inner.flatMap (Deed.shown true)) := by
        simp [sofar, Deed.shown]
      have told : rests ((sofar plan done ++ inner).flatMap (Deed.shown true) ++ tail) =
          done.map Leg.wait ++ rests (inner.flatMap (Deed.shown true) ++ tail) := by
        rw [opened, List.cons_append, List.append_assoc, ← rests_stretch]
        rfl
      rw [List.filterMap_append, closes, told, entries_append, List.length_map, Nat.add_comm 1,
        ← here.log stuck, opened, ← log_stretch plan]
      simp [Happening.record?]

/-- A run under a shutdown that has begun goes all its legs or is held up. -/
theorem runUntil_begun (plan : Plan) (world : World σ) (shutdown : Shutdown σ) (s : σ)
    (begun : (shutdown.arrived 0 s && shutdown.askedFirst 0) = false) :
    (∃ legs, legs.length = plan.count.toNat ∧
      (runUntil plan world shutdown s).trace = (route plan legs).flatMap (Deed.shown true) ∧
      (runUntil plan world shutdown s).ending = .finished (.ok (amount legs))) ∨
    ∃ before deed tail, HeldUp plan before deed ∧
      Stuck deed tail (runUntil plan world shutdown s).ending ∧
      (runUntil plan world shutdown s).trace = before.flatMap (Deed.shown true) ++ tail := by
  rcases runUntil_cases plan world shutdown s with same | ⟨interrupted, done, ends, rfl | ⟨c, stops⟩⟩
  · rw [same]
    have goes := run_goes plan world s
    generalize run plan world s = e at goes
    cases goes with
    | through legs after all passes => exact .inl ⟨legs, all, rfl, rfl⟩
    | fails before deed reached failure after heldUp passes meets =>
        exact .inr ⟨before, deed, _, heldUp, .failed deed failure, rfl⟩
    | waits before c reached forever heldUp passes meets =>
        exact .inr ⟨before, .call c, _, heldUp, .hung c, rfl⟩
  · -- A run that has begun has noted so, and then there is no room for nothing but the parting.
    have first : ∃ later, (timeline plan world shutdown s).filterMap Sight.happening? =
        .did (.note (starting plan)) true :: later := by
      simp only [timeline, Course.timeline, begun, Bool.false_eq_true, if_false]
      exact ⟨_, rfl⟩
    obtain ⟨later, begins⟩ := first
    have trace := runUntil_trace plan world shutdown s
    rw [ends, begins] at trace
    have same : leaving = starting plan := by simpa using (List.cons.inj trace).1
    exact absurd (congrArg Log.Record.level same) (by simp [leaving, starting])
  · obtain ⟨before, heldUp, rfl⟩ := stops.heldUp
    refine .inr ⟨before, .call c, [.began c, .did (.note leaving) true], heldUp, ?_, ?_⟩
    · rw [interrupted]
      exact .left c
    · rw [ends]
      simp

theorem runUntil_unbegun (plan : Plan) (world : World σ) (shutdown : Shutdown σ) (s : σ)
    (unbegun : (shutdown.arrived 0 s && shutdown.askedFirst 0) = true) :
    (runUntil plan world shutdown s).trace = [.did (.note leaving) true] ∧
      (runUntil plan world shutdown s).ending = .interrupted := by
  simp [runUntil, Course.execute, unbegun, Execution.note]

/-! ## Where the entries stand -/

def isNote : Deed → Bool
  | .act (.note _) => true
  | .act (.write _) | .act .flush | .act .word | .call _ => false

theorem Leg.note_split {plan : Plan} {i : Nat} {leg : Leg} {inner rest : List Deed}
    {record : Log.Record} (split : leg.deeds plan i = inner ++ .act (.note record) :: rest) :
    inner = approach plan i ++ leg.drawing ∧ record = entry i leg.wait := by
  have lack : ∀ deed ∈ approach plan i ++ leg.drawing, isNote deed = false := by
    intro deed member
    rcases List.mem_append.mp member with first | word
    · simp only [approach, List.mem_cons, List.not_mem_nil, or_false] at first
      rcases first with rfl | rfl | rfl <;> rfl
    · rw [(List.mem_replicate.mp word).2]
      rfl
  rw [deeds, List.append_assoc] at split
  obtain ⟨between, rfl, atRest⟩ := split_past lack rfl split
  cases waits : leg.wait with
  | none =>
      simp only [waits, restDeeds, List.cons_append, List.nil_append] at atRest
      rcases List.cons_eq_append_iff.mp atRest with ⟨rfl, here⟩ | ⟨between, rfl, beyond⟩
      · cases here
        exact ⟨List.append_nil _, rfl⟩
      · cases between <;> simp at beyond
  | some seconds =>
      simp only [waits, restDeeds, List.cons_append, List.nil_append] at atRest
      rcases List.cons_eq_append_iff.mp atRest with ⟨rfl, here⟩ | ⟨between, rfl, beyond⟩
      · cases here
        exact ⟨List.append_nil _, rfl⟩
      · rcases List.cons_eq_append_iff.mp beyond with ⟨rfl, here⟩ | ⟨between, rfl, beyond⟩
        · simp at here
        · cases between <;> simp at beyond

/-- On a route the entry of a cycle comes when its line is written and its attach is done, as were
those of the cycles before. -/
theorem entry_split {plan : Plan} {legs : List Leg} {before after : List Deed} {i : Nat}
    {wait : Option UInt64}
    (split : route plan legs = before ++ .act (.note (entry i wait)) :: after) :
    .did (.write (line i)) true ∈ before.flatMap (Deed.shown true) ∧
      (before.flatMap (Deed.shown true)).countP attached = i := by
  have notFirst : Deed.act (.note (entry i wait)) ≠ .act (.note (starting plan)) := by
    intro same
    injection same with act
    injection act with record
    have level := congrArg Log.Record.level record
    rw [entry_level] at level
    cases level
  have notLast : Deed.act (.note (entry i wait)) ≠ .act (.note (completed (amount legs))) := by
    intro same
    injection same with act
    injection act with record
    have level := congrArg Log.Record.level record
    rw [entry_level] at level
    cases level
  obtain ⟨done, leg, later, inner, rest, -, rfl, here⟩ := route_split split notFirst notLast
  obtain ⟨rfl, record⟩ := leg.note_split here
  obtain rfl := entry_injective record
  obtain ⟨attaches, -, -⟩ := stretch_counts plan 1 done
  constructor
  · simp [Leg.approach, Deed.shown]
  · rw [List.flatMap_append, sofar, List.flatMap_cons, List.countP_append, List.countP_append,
      attaches, List.flatMap_append, shown_drawing]
    simp [Leg.approach, Deed.shown, attached, List.countP_replicate, List.countP_cons]

/-- An entry of a cycle in a trace is one of its deeds, since nothing of the kind is seen at the end. -/
theorem entry_behind_attach {plan : Plan} {legs : List Leg} {deeds more : List Deed}
    {tail before after : List Happening} {i : Nat} {wait : Option UInt64} {ok : Bool}
    (begins : route plan legs = deeds ++ more)
    (noEntry : entry i wait ∉ tail.filterMap Happening.record?)
    (split : deeds.flatMap (Deed.shown true) ++ tail =
      before ++ .did (.note (entry i wait)) ok :: after) :
    .did (.write (line i)) true ∈ before ∧ before.countP attached = i := by
  rcases Deed.shown_split_act split with ⟨first, later, rfl, rfl⟩ | ⟨between, -, rfl⟩
  · rw [List.append_assoc, List.cons_append] at begins
    exact entry_split begins
  · exact absurd (by simp [Happening.record?]) noEntry

/-! ## What a log recounts -/

/-- The log in a trace recounts what the trace shows, after what it begins with. -/
structure Recounts (first : List Log.Record) (trace : List Happening)
    (ending : Ending (Except Failure Summary)) : Prop where
  log : trace.filterMap Happening.record? = first ++ entries 1 (rests trace) ++ closing ending
  amounts : ∀ summary, ending = .finished (.ok summary) →
    summary.iterations = trace.countP attached ∧
    summary.iterations = trace.countP detached ∧
    summary.sleeps = trace.countP paused
  behind : ∀ i wait ok before after, trace = before ++ .did (.note (entry i wait)) ok :: after →
    .did (.write (line i)) true ∈ before ∧ before.countP attached = i

theorem recounts_unbegun : Recounts [] [.did (.note leaving) true] .interrupted := by
  refine ⟨rfl, ?_, ?_⟩
  · intro summary succeeds
    cases succeeds
  · intro i wait ok before after split
    cases before with
    | nil =>
        simp only [List.nil_append, List.cons.injEq, Happening.did.injEq, Act.note.injEq] at split
        exact absurd split.1.1.symm (entry_ne_leaving i wait)
    | cons head before => simp at split

theorem recounts_route (plan : Plan) (legs : List Leg) :
    Recounts [starting plan] ((route plan legs).flatMap (Deed.shown true))
      (.finished (.ok (amount legs))) := by
  have opened : (route plan legs).flatMap (Deed.shown true) = .did (.note (starting plan)) true ::
      ((stretch plan 1 legs).flatMap (Deed.shown true) ++
        [.did (.note (completed (amount legs))) true]) := by
    simp [route, sofar, Deed.shown]
  obtain ⟨attaches, detaches, pauses⟩ := stretch_counts plan 1 legs
  refine ⟨?_, ?_, ?_⟩
  · have told : rests ((route plan legs).flatMap (Deed.shown true)) = legs.map Leg.wait := by
      rw [opened, ← List.append_nil (legs.map _)]
      exact rests_stretch plan 1 legs [.did (.note (completed (amount legs))) true]
    rw [told, ← log_stretch plan, opened]
    simp [Happening.record?]
  · intro summary succeeds
    cases succeeds
    rw [opened, List.countP_cons, List.countP_cons, List.countP_cons, List.countP_append,
      List.countP_append, List.countP_append, attaches, detaches, pauses]
    exact ⟨rfl, rfl, rfl⟩
  · intro i wait ok before after split
    rw [← List.append_nil ((route plan legs).flatMap _)] at split
    exact entry_behind_attach (List.append_nil _).symm (by simp) split

theorem HeldUp.recounts {plan : Plan} {before : List Deed} (heldUp : HeldUp plan before deed)
    (stuck : Stuck deed tail ending) :
    Recounts [starting plan] (before.flatMap (Deed.shown true) ++ tail) ending := by
  refine ⟨heldUp.log stuck, ?_, ?_⟩
  · intro summary succeeds
    rw [succeeds] at stuck
    cases stuck
  · intro i wait ok first after split
    obtain ⟨legs, rest, begins⟩ := heldUp.begins
    have noEntry : entry i wait ∉ tail.filterMap Happening.record? := by
      rw [stuck.closes heldUp.isShown]
      cases stuck with
      | failed deed failure => simp
      | hung c => simp
      | left c => simp [entry_ne_leaving]
    exact entry_behind_attach begins noEntry split

theorem runUntil_recounts (plan : Plan) (world : World σ) (shutdown : Shutdown σ) (s : σ) :
    Recounts (if shutdown.arrived 0 s && shutdown.askedFirst 0 then [] else [starting plan])
      (runUntil plan world shutdown s).trace (runUntil plan world shutdown s).ending := by
  cases begun : shutdown.arrived 0 s && shutdown.askedFirst 0 with
  | true =>
      obtain ⟨trace, ending⟩ := runUntil_unbegun plan world shutdown s begun
      rw [trace, ending]
      exact recounts_unbegun
  | false =>
      rcases runUntil_begun plan world shutdown s begun with
        ⟨legs, -, trace, ending⟩ | ⟨before, deed, tail, heldUp, stuck, trace⟩
      · rw [trace, ending]
        exact recounts_route plan legs
      · rw [trace]
        exact heldUp.recounts stuck

/-- The log of a run says what its trace shows, whatever the world is and however the run ends.  It
begins with the plan, unless a shutdown came before the run was first polled; then there is one entry
for each attach that came off, numbered from one on, with the pause that was begun after it or without
any; and it ends with what the run amounts to, if it succeeded, or with the shutdown, if that is what
ended it.  What a run amounts to are its detaches and pauses.  No entry of a cycle comes before its
line is written and its attach is done. -/
theorem runUntil_log (plan : Plan) (world : World σ) (shutdown : Shutdown σ) (s : σ) :
    let e := runUntil plan world shutdown s
    e.log = (if shutdown.arrived 0 s && shutdown.askedFirst 0 then [] else [opening plan]) ++
        entries 1 (rests e.trace) ++ closing e.ending ∧
      (rests e.trace).length = e.trace.countP attached ∧
      (∀ summary, e.ending = .finished (.ok summary) →
        summary.iterations = e.trace.countP attached ∧
        summary.iterations = e.trace.countP detached ∧
        summary.sleeps = e.trace.countP paused) ∧
      ∀ i wait ok before after, e.trace = before ++ .did (.note (entry i wait)) ok :: after →
        .did (.write ("#" ++ toString i ++ "\n")) true ∈ before ∧ before.countP attached = i := by
  intro e
  obtain ⟨log, amounts, behind⟩ := runUntil_recounts plan world shutdown s
  refine ⟨?_, length_rests e.trace, amounts, behind⟩
  rw [opening_eq]
  exact log

end Replug.Cycle
