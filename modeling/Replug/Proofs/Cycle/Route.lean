import Replug.Proofs.Cycle.Interruption

/-!
# The route of a run

Whatever world a run is made in, each of its cycles is a leg of the same shape: a line, an attach, some
words, perhaps a pause, a detach.  Only how many words it takes and how long it pauses is up to the
world.  So every run has a route, and follows it to its end or to a deed that holds it up.

Entries in the log and words hold nothing up.  That leaves five places in a leg, which `Leg.HeldUp`
lists with all that came off before.
-/

set_option autoImplicit false

namespace Replug.Cycle

variable {α β ι σ : Type}

/-- What is up to the world in a cycle: the words that are taken, and the wait that they stand for. -/
structure Leg where
  words : Nat
  wait : Option UInt64

namespace Leg

def approach (plan : Plan) (i : Nat) : List Deed :=
  [.act (.write (line i)), .act .flush, .call (.attach plan.remote plan.busId)]

def drawing (leg : Leg) : List Deed := List.replicate leg.words (.act .word)

def deeds (plan : Plan) (i : Nat) (leg : Leg) : List Deed :=
  approach plan i ++ leg.drawing ++ restDeeds i leg.wait ++ [.call .detach]

end Leg

def stretch (plan : Plan) : Nat → List Leg → List Deed
  | _, [] => []
  | i, leg :: later => leg.deeds plan i ++ stretch plan (i + 1) later

def amount (legs : List Leg) : Summary := ⟨legs.length, legs.countP fun leg => leg.wait.isSome⟩

def sofar (plan : Plan) (legs : List Leg) : List Deed :=
  .act (.note (starting plan)) :: stretch plan 1 legs

def route (plan : Plan) (legs : List Leg) : List Deed :=
  sofar plan legs ++ [.act (.note (completed (amount legs)))]

/-! ## Every run has a route -/

theorem exists_bind {world : World σ} {first : List Deed} {more : ι → List Deed} {s : σ}
    {session : Session α} {f : α → Session β} {a : α} {b : ι → β}
    (begins : Pursues world first a s (session.alone world s))
    (goesOn : ∀ s', ∃ x, Pursues world (more x) (b x) s' ((f a).alone world s')) :
    ∃ x, Pursues world (first ++ more x) (b x) s ((session >>= f).alone world s) := by
  cases passes : Deed.through world first s with
  | none =>
      obtain ⟨x, -⟩ := goesOn s
      refine ⟨x, begins.bind fun reached here => ?_⟩
      rw [passes] at here
      cases here
  | some reached =>
      obtain ⟨x, later⟩ := goesOn reached
      refine ⟨x, begins.bind fun reached' here => ?_⟩
      rw [passes] at here
      cases here
      exact later

theorem exists_draw (world : World σ) (d : Drawing α) (s : σ) :
    ∃ count a, Pursues world (List.replicate count (.act .word)) a s
      ((Session.draw d).alone world s) := by
  induction d generalizing s with
  | settled a => exact ⟨0, a, .nil world a s⟩
  | wants next ih =>
      obtain ⟨count, a, later⟩ := ih (world.act .word s).1 (world.act .word s).2
      have first : Deed.through world [.act .word] s = some (world.act .word s).2 := rfl
      exact ⟨count + 1, a, Pursues.after first later⟩

theorem exists_leg (plan : Plan) (world : World σ) (i : Nat) (s : σ) :
    ∃ leg : Leg, Pursues world (leg.deeds plan i) leg.wait.isSome s
      ((once plan i).alone world s) := by
  have grouped : ∀ leg : Leg, leg.deeds plan i =
      [.act (.write (line i))] ++ ([.act .flush] ++ ([.call (.attach plan.remote plan.busId)] ++
        (leg.drawing ++ (restDeeds i leg.wait ++ ([.call .detach] ++ []))))) := by
    intro leg
    simp [Leg.deeds, Leg.approach]
  simp only [grouped]
  refine exists_bind (Pursues.write _ _ _) fun s => ?_
  refine exists_bind (Pursues.flush _ _) fun s => ?_
  refine exists_bind (Pursues.attach _ _ _ _) fun s => ?_
  obtain ⟨count, wait, draws⟩ := exists_draw world (Delay.sample plan.maxDelay) s
  refine ⟨⟨count, wait⟩, draws.bind fun s _ => ?_⟩
  refine (rest_pursues world i wait s).bind fun s _ => ?_
  exact (Pursues.detach world s).bind fun s _ => .nil world wait.isSome s

theorem exists_stretch (plan : Plan) (world : World σ) (left : Nat) (summary : Summary) (s : σ) :
    ∃ legs : { legs : List Leg // legs.length = left },
      Pursues world (stretch plan (summary.iterations + 1) legs)
        ⟨summary.iterations + left, summary.sleeps + (amount legs).sleeps⟩ s
        ((cycles plan left summary).alone world s) := by
  induction left generalizing summary s with
  | zero => exact ⟨⟨[], rfl⟩, .nil world summary s⟩
  | succ left ih =>
      obtain ⟨leg, made⟩ := exists_leg plan world (summary.iterations + 1) s
      let next (waited : Bool) : Summary :=
        ⟨summary.iterations + 1, summary.sleeps + if waited then 1 else 0⟩
      obtain ⟨legs, goes⟩ := exists_bind (f := fun waited => cycles plan left (next waited)) made
        fun s' => ih (next leg.wait.isSome) s'
      refine ⟨⟨leg :: legs.1, congrArg (· + 1) legs.2⟩, ?_⟩
      have sleeps : (amount (leg :: legs.1)).sleeps =
          (if leg.wait.isSome then 1 else 0) + (amount legs.1).sleeps := by
        simp only [amount, List.countP_cons]
        omega
      have iterations : summary.iterations + (left + 1) = summary.iterations + 1 + left := by omega
      rw [sleeps, iterations, ← Nat.add_assoc]
      exact goes

theorem exists_route (plan : Plan) (world : World σ) (s : σ) :
    ∃ legs, legs.length = plan.count.toNat ∧
      Pursues world (route plan legs) (amount legs) s (run plan world s) := by
  rw [run_alone]
  have made : ∃ legs : { legs : List Leg // legs.length = plan.count.toNat },
      Pursues world ([.act (.note (starting plan))] ++ (stretch plan 1 legs ++
        ([.act (.note (completed (amount legs)))] ++ []))) (amount legs) s
        ((session plan).alone world s) := by
    refine exists_bind (Pursues.note _ _ _) fun s => ?_
    obtain ⟨legs, goes⟩ := exists_stretch plan world plan.count.toNat ⟨0, 0⟩ s
    have total : (⟨0 + plan.count.toNat, 0 + (amount legs.1).sleeps⟩ : Summary) = amount legs.1 := by
      simp [amount, legs.2]
    rw [total] at goes
    refine ⟨legs, goes.bind fun s _ => ?_⟩
    exact (Pursues.note world _ s).bind fun s _ => .nil world (amount legs.1) s
  obtain ⟨legs, goes⟩ := made
  exact ⟨legs.1, legs.2, goes⟩

/-! ## Where a run is held up -/

theorem stretch_append (plan : Plan) (i : Nat) (first second : List Leg) :
    stretch plan i (first ++ second) = stretch plan i first ++ stretch plan (i + first.length) second := by
  induction first generalizing i with
  | nil => rfl
  | cons leg first ih =>
      rw [List.cons_append, stretch, stretch, ih, List.append_assoc, List.length_cons,
        Nat.add_assoc i 1, Nat.add_comm 1]

theorem stretch_split {plan : Plan} {i : Nat} {legs : List Leg} {before after : List Deed}
    {deed : Deed} (split : stretch plan i legs = before ++ deed :: after) :
    ∃ done leg later inner rest, legs = done ++ leg :: later ∧
      before = stretch plan i done ++ inner ∧
      Leg.deeds plan (i + done.length) leg = inner ++ deed :: rest := by
  induction legs generalizing i before with
  | nil => simp [stretch] at split
  | cons leg legs ih =>
      rw [stretch] at split
      rcases append_split split with ⟨between, begins⟩ | ⟨between, rfl, goesOn⟩
      · exact ⟨[], leg, legs, before, between, rfl, rfl, begins⟩
      · obtain ⟨done, leg', later, inner, rest, rfl, rfl, here⟩ := ih goesOn
        refine ⟨leg :: done, leg', later, inner, rest, rfl, ?_, ?_⟩
        · rw [stretch, List.append_assoc]
        · rw [List.length_cons, Nat.add_comm done.length, ← Nat.add_assoc]
          exact here

inductive Leg.HeldUp (plan : Plan) (i : Nat) (leg : Leg) : List Deed → Deed → Prop where
  | line : HeldUp plan i leg [] (.act (.write (line i)))
  | flush : HeldUp plan i leg [.act (.write (line i))] (.act .flush)
  | attach : HeldUp plan i leg [.act (.write (line i)), .act .flush]
      (.call (.attach plan.remote plan.busId))
  | pause (seconds : UInt64) (waits : leg.wait = some seconds) :
    HeldUp plan i leg (approach plan i ++ leg.drawing ++ [.act (.note (waiting i seconds))])
      (.call (.pause seconds))
  | detach : HeldUp plan i leg (approach plan i ++ leg.drawing ++ restDeeds i leg.wait)
      (.call .detach)

theorem Leg.drawing_hidden (leg : Leg) : ∀ deed ∈ leg.drawing, isShown deed = false := by
  intro deed member
  rw [(List.mem_replicate.mp member).2]
  rfl

theorem Leg.heldUp_of_split {plan : Plan} {i : Nat} {leg : Leg} {inner rest : List Deed}
    {deed : Deed} (split : leg.deeds plan i = inner ++ deed :: rest) (shows : isShown deed = true) :
    leg.HeldUp plan i inner deed := by
  have opened : .act (.write (line i)) :: .act .flush ::
      .call (.attach plan.remote plan.busId) :: (leg.drawing ++
        (restDeeds i leg.wait ++ [.call .detach])) = inner ++ deed :: rest := by
    simpa [deeds, approach] using split
  rcases List.cons_eq_append_iff.mp opened with ⟨rfl, here⟩ | ⟨inner, rfl, atFlush⟩
  · cases here
    exact .line
  rcases List.cons_eq_append_iff.mp atFlush with ⟨rfl, here⟩ | ⟨inner, rfl, atAttach⟩
  · cases here
    exact .flush
  rcases List.cons_eq_append_iff.mp atAttach with ⟨rfl, here⟩ | ⟨inner, rfl, atDrawing⟩
  · cases here
    exact .attach
  obtain ⟨inner, rfl, atRest⟩ := split_past leg.drawing_hidden shows atDrawing
  have behind : ∀ more, .act (.write (line i)) :: .act .flush ::
      .call (.attach plan.remote plan.busId) :: (leg.drawing ++ more) =
      approach plan i ++ leg.drawing ++ more := by
    intro more
    simp [approach]
  rw [behind]
  cases waits : leg.wait with
  | none =>
      have hidden : ∀ deed ∈ restDeeds i none, isShown deed = false := by simp [restDeeds, isShown]
      rw [waits] at atRest
      obtain ⟨inner, rfl, atDetach⟩ := split_past hidden shows atRest
      rcases List.cons_eq_append_iff.mp atDetach with ⟨rfl, here⟩ | ⟨inner, rfl, beyond⟩
      · cases here
        rw [List.append_nil, ← waits]
        exact .detach
      · simp at beyond
  | some seconds =>
      have hidden : ∀ deed ∈ [Deed.act (.note (waiting i seconds))], isShown deed = false := by
        simp [isShown]
      have atNote : [.act (.note (waiting i seconds))] ++ [.call (.pause seconds), .call .detach] =
          inner ++ deed :: rest := by
        simpa [waits, restDeeds] using atRest
      obtain ⟨inner, rfl, atPause⟩ := split_past hidden shows atNote
      rcases List.cons_eq_append_iff.mp atPause with ⟨rfl, here⟩ | ⟨inner, rfl, atDetach⟩
      · cases here
        rw [List.append_nil]
        exact .pause seconds waits
      rcases List.cons_eq_append_iff.mp atDetach with ⟨rfl, here⟩ | ⟨inner, rfl, beyond⟩
      · cases here
        have whole : [.act (.note (waiting i seconds))] ++ [.call (.pause seconds)] =
            restDeeds i leg.wait := by rw [waits]; rfl
        rw [whole]
        exact .detach
      · simp at beyond

/-- A place of some route where a run can be held up: all that came off before, and the deed that did
not. -/
inductive HeldUp (plan : Plan) : List Deed → Deed → Prop where
  | inside {done : List Leg} {leg : Leg} {inner : List Deed} {deed : Deed}
    (few : done.length < plan.count.toNat) (here : leg.HeldUp plan (done.length + 1) inner deed) :
    HeldUp plan (sofar plan done ++ inner) deed

/-- Between the first entry in the log and the last, a deed of a route is a deed of one of its legs. -/
theorem route_split {plan : Plan} {legs : List Leg} {before after : List Deed} {deed : Deed}
    (split : route plan legs = before ++ deed :: after)
    (notFirst : deed ≠ .act (.note (starting plan)))
    (notLast : deed ≠ .act (.note (completed (amount legs)))) :
    ∃ done leg later inner rest, legs = done ++ leg :: later ∧ before = sofar plan done ++ inner ∧
      Leg.deeds plan (done.length + 1) leg = inner ++ deed :: rest := by
  have opened : .act (.note (starting plan)) ::
      (stretch plan 1 legs ++ [.act (.note (completed (amount legs)))]) =
      before ++ deed :: after := split
  rcases List.cons_eq_append_iff.mp opened with ⟨rfl, here⟩ | ⟨before, rfl, inStretch⟩
  · exact absurd (List.cons.inj here).1 notFirst
  have closed : ∃ rest, stretch plan 1 legs = before ++ deed :: rest := by
    rcases append_split inStretch with within | ⟨between, -, atNote⟩
    · exact within
    · have last : deed ∈ [Deed.act (.note (completed (amount legs)))] := by simp [atNote]
      exact absurd (List.mem_singleton.mp last) notLast
  obtain ⟨rest, within⟩ := closed
  obtain ⟨done, leg, later, inner, rest, legsAre, rfl, here⟩ := stretch_split within
  rw [Nat.add_comm] at here
  exact ⟨done, leg, later, inner, rest, legsAre, rfl, here⟩

theorem heldUp_of_split {plan : Plan} {legs : List Leg} {before after : List Deed} {deed : Deed}
    (all : legs.length = plan.count.toNat) (split : route plan legs = before ++ deed :: after)
    (shows : isShown deed = true) : HeldUp plan before deed := by
  have noNote : ∀ record, deed ≠ .act (.note record) := by
    rintro record rfl
    cases shows
  obtain ⟨done, leg, later, inner, rest, rfl, rfl, here⟩ := route_split split (noNote _) (noNote _)
  have few : done.length < plan.count.toNat := by
    rw [← all, List.length_append, List.length_cons]
    omega
  exact .inside few (leg.heldUp_of_split here shows)

theorem Leg.HeldUp.goesOn {plan : Plan} {i : Nat} {leg : Leg} {inner : List Deed} {deed : Deed}
    (heldUp : leg.HeldUp plan i inner deed) : ∃ rest, leg.deeds plan i = inner ++ deed :: rest := by
  cases heldUp with
  | line => exact ⟨_, rfl⟩
  | flush => exact ⟨_, rfl⟩
  | attach => exact ⟨_, rfl⟩
  | pause seconds waits => exact ⟨[.call .detach], by simp [deeds, restDeeds, waits]⟩
  | detach => exact ⟨[], rfl⟩

/-- What came off before a run was held up is the beginning of some route. -/
theorem HeldUp.begins {plan : Plan} {before : List Deed} {deed : Deed}
    (heldUp : HeldUp plan before deed) : ∃ legs rest, route plan legs = before ++ deed :: rest := by
  cases heldUp with
  | @inside done leg inner _ few here =>
      obtain ⟨rest, goesOn⟩ := here.goesOn
      refine ⟨done ++ [leg], rest ++ [.act (.note (completed (amount (done ++ [leg]))))], ?_⟩
      have last : stretch plan (1 + done.length) [leg] = inner ++ deed :: rest := by
        rw [Nat.add_comm, ← goesOn, stretch, stretch, List.append_nil]
      rw [route, sofar, stretch_append, last]
      simp [sofar]

/-- What holds a run up shows: neither an entry in the log nor a word can fail. -/
theorem isShown_of_failed {world : World σ} {deed : Deed} {s after : σ} {failure : Failure}
    (fails : deed.meet world s = .failed failure after) : isShown deed = true := by
  cases deed with
  | call c => rfl
  | act a => cases a with
    | note record => cases fails
    | word => cases fails
    | write text => rfl
    | flush => rfl

inductive Goes (plan : Plan) (world : World σ) (s : σ) :
    Execution (Except Failure Summary) σ → Prop where
  | through (legs : List Leg) (after : σ) (all : legs.length = plan.count.toNat)
    (passes : Deed.through world (route plan legs) s = some after) :
    Goes plan world s
      ⟨(route plan legs).flatMap (Deed.shown true), .finished (.ok (amount legs)), after⟩
  | fails (before : List Deed) (deed : Deed) (reached : σ) (failure : Failure) (after : σ)
    (heldUp : HeldUp plan before deed) (passes : Deed.through world before s = some reached)
    (meets : deed.meet world reached = .failed failure after) :
    Goes plan world s
      ⟨before.flatMap (Deed.shown true) ++ deed.shown false, .finished (.error failure), after⟩
  | waits (before : List Deed) (c : Call) (reached forever : σ)
    (heldUp : HeldUp plan before (.call c)) (passes : Deed.through world before s = some reached)
    (meets : (Deed.call c).meet world reached = .endless forever) :
    Goes plan world s ⟨before.flatMap (Deed.shown true) ++ [.began c], .hung, forever⟩

theorem run_goes (plan : Plan) (world : World σ) (s : σ) : Goes plan world s (run plan world s) := by
  obtain ⟨legs, all, pursues⟩ := exists_route plan world s
  generalize run plan world s = e at pursues
  cases pursues with
  | done after passes => exact .through legs after all passes
  | failed before deed rest reached failure after split passes fails =>
      exact .fails before deed reached failure after
        (heldUp_of_split all split (isShown_of_failed fails)) passes fails
  | endless before c rest reached forever split passes waits =>
      exact .waits before c reached forever (heldUp_of_split all split rfl) passes waits

/-- Where a run alone starts a call, a run under a shutdown can be held up. -/
theorem StopsInside.heldUp {plan : Plan} {world : World σ} {s : σ} {c : Call}
    {done : List Happening} (stops : StopsInside (run plan world s).trace c done) :
    ∃ before, HeldUp plan before (.call c) ∧
      done = before.flatMap (Deed.shown true) ++ [.began c] := by
  obtain ⟨before, rest, rfl, whole⟩ := stops
  obtain ⟨legs, all, pursues⟩ := exists_route plan world s
  obtain ⟨reached, later, split, rfl⟩ := pursues.began whole
  exact ⟨reached, heldUp_of_split all split rfl, rfl⟩

end Replug.Cycle
