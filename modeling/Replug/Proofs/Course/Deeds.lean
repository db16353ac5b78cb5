import Mathlib.Data.List.Basic
import Replug.Proofs.Course.Alone

/-!
# Deeds in order

A session that is told beforehand what to do is a list of deeds.  It does them one after the other
up to and including the first that does not come off; `Pursues` says so of an execution, with the
exact trace, the ending and the world left behind.

The random words are the one thing that a session does not know beforehand.  `World.withWords` takes
them from a stream that nothing else touches, so the stream tells what the drawings will be.
-/

set_option autoImplicit false

namespace Replug

variable {α β σ : Type}

def Act.failure? : (a : Act) → a.Answer → Option Failure
  | .note _, _ | .word, _ => none
  | .write _, answer | .flush, answer => match (answer : Except IoFault Unit) with
    | .ok _ => none
    | .error fault => some (.io fault)

def Call.failure? : (c : Call) → c.Answer → Option Failure
  | .pause _, _ => none
  | .attach _ _, answer | .detach, answer => match (answer : Except Failure Unit) with
    | .ok _ => none
    | .error failure => some failure

theorem Act.succeeded_eq (a : Act) (answer : a.Answer) :
    a.succeeded answer = (a.failure? answer).isNone := by
  cases a with
  | note record => rfl
  | write line => cases (answer : Except IoFault Unit) <;> rfl
  | flush => cases (answer : Except IoFault Unit) <;> rfl
  | word => rfl

theorem Call.succeeded_eq (c : Call) (answer : c.Answer) :
    c.succeeded answer = (c.failure? answer).isNone := by
  cases c with
  | attach remote busId => cases (answer : Except Failure Unit) <;> rfl
  | pause seconds => rfl
  | detach => cases (answer : Except Failure Unit) <;> rfl

inductive Deed where
  | act (a : Act)
  | call (c : Call)

def Deed.isCall : Deed → Bool
  | .act _ => false
  | .call _ => true

inductive Meeting (σ : Type) where
  | cameOff (after : σ)
  | failed (failure : Failure) (after : σ)
  | endless (forever : σ)

namespace Deed

def meet (world : World σ) : Deed → σ → Meeting σ
  | .act a, s => match a.failure? (world.act a s).1 with
    | none => .cameOff (world.act a s).2
    | some failure => .failed failure (world.act a s).2
  | .call c, s => match (world.call c s).answer? with
    | none => .endless (world.call c s).last
    | some (answer, s) => match c.failure? answer with
      | none => .cameOff s
      | some failure => .failed failure s

section Calls

variable {world : World σ} {c : Call} {s after : σ} {answer : c.Answer}

theorem meet_of_waits (waits : (world.call c s).answer? = none) :
    (Deed.call c).meet world s = .endless (world.call c s).last := by
  simp only [meet, waits]

theorem meet_of_well (returns : (world.call c s).answer? = some (answer, after))
    (well : c.failure? answer = none) : (Deed.call c).meet world s = .cameOff after := by
  simp only [meet, returns, well]

theorem meet_of_failure {failure : Failure}
    (returns : (world.call c s).answer? = some (answer, after))
    (fails : c.failure? answer = some failure) :
    (Deed.call c).meet world s = .failed failure after := by
  simp only [meet, returns, fails]

theorem call_of_cameOff (meets : (Deed.call c).meet world s = .cameOff after) :
    ∃ answer, (world.call c s).answer? = some (answer, after) ∧ c.failure? answer = none := by
  simp only [meet] at meets
  split at meets
  · cases meets
  · next answer between returns =>
      split at meets
      · next well =>
          cases meets
          exact ⟨answer, returns, well⟩
      · cases meets

theorem call_of_failed {failure : Failure}
    (meets : (Deed.call c).meet world s = .failed failure after) :
    ∃ answer, (world.call c s).answer? = some (answer, after) ∧
      c.failure? answer = some failure := by
  simp only [meet] at meets
  split at meets
  · cases meets
  · next answer between returns =>
      split at meets
      · cases meets
      · next failure' fails =>
          cases meets
          exact ⟨answer, returns, fails⟩

end Calls

theorem act_of_cameOff {world : World σ} {a : Act} {s after : σ}
    (meets : (Deed.act a).meet world s = .cameOff after) : after = (world.act a s).2 := by
  simp only [meet] at meets
  split at meets
  · cases meets
    rfl
  · cases meets

theorem act_of_failed {world : World σ} {a : Act} {s after : σ} {failure : Failure}
    (meets : (Deed.act a).meet world s = .failed failure after) :
    a.failure? (world.act a s).1 = some failure := by
  simp only [meet] at meets
  split at meets
  · cases meets
  · next failure' fails =>
      cases meets
      exact fails

/-- The world after some deeds, if all of them come off. -/
def through (world : World σ) : List Deed → σ → Option σ
  | [], s => some s
  | deed :: rest, s => match deed.meet world s with
    | .cameOff s => through world rest s
    | .failed _ _ | .endless _ => none

/-- What a trace shows of a deed that returned, and whether that came off. -/
def shown (ok : Bool) : Deed → List Happening
  | .act a => [.did a ok]
  | .call c => [.began c, .ended c ok]

theorem through_append (world : World σ) (first second : List Deed) (s : σ) :
    through world (first ++ second) s = (through world first s).bind (through world second) := by
  induction first generalizing s with
  | nil => rfl
  | cons deed rest ih =>
      simp only [List.cons_append, through]
      cases deed.meet world s with
      | cameOff s' => exact ih s'
      | failed failure s' => rfl
      | endless s' => rfl

end Deed

/-- An execution that does some deeds in their order, up to and including the first that does not
come off.  If all of them do, it finishes with the given result. -/
inductive Pursues (world : World σ) (deeds : List Deed) (result : α) (s : σ) :
    Execution (Except Failure α) σ → Prop where
  | done (after : σ) (passes : Deed.through world deeds s = some after) :
    Pursues world deeds result s ⟨deeds.flatMap (Deed.shown true), .finished (.ok result), after⟩
  | failed (before : List Deed) (deed : Deed) (rest : List Deed) (reached : σ) (failure : Failure)
      (after : σ) (split : deeds = before ++ deed :: rest)
      (passes : Deed.through world before s = some reached)
      (fails : deed.meet world reached = .failed failure after) :
    Pursues world deeds result s
      ⟨before.flatMap (Deed.shown true) ++ deed.shown false, .finished (.error failure), after⟩
  | endless (before : List Deed) (c : Call) (rest : List Deed) (reached forever : σ)
      (split : deeds = before ++ .call c :: rest)
      (passes : Deed.through world before s = some reached)
      (waits : (Deed.call c).meet world reached = .endless forever) :
    Pursues world deeds result s
      ⟨before.flatMap (Deed.shown true) ++ [.began c], .hung, forever⟩

def Session.alone (world : World σ) (session : Session α) (s : σ) :
    Execution (Except Failure α) σ :=
  Course.alone world session.run s

theorem Session.alone_bind (world : World σ) (session : Session α) (f : α → Session β) (s : σ) :
    (session >>= f).alone world s =
      (session.alone world s).andThen fun
        | .ok a, s => (f a).alone world s
        | .error failure, s => ⟨[], .finished (.error failure), s⟩ := by
  have unfolded : (session >>= f).alone world s =
      (session.alone world s).andThen fun result s =>
        Course.alone world (ExceptT.bindCont f result) s :=
    Course.alone_bind world session.run (ExceptT.bindCont f) s
  rw [unfolded]
  congr 1
  funext result s
  cases result <;> rfl

namespace Pursues

variable {world : World σ} {deeds more : List Deed} {s reached : σ}

theorem nil (world : World σ) (result : α) (s : σ) :
    Pursues world [] result s (Session.alone world (pure result) s) :=
  .done s rfl

theorem after {result : α} {e : Execution (Except Failure α) σ}
    (passes : Deed.through world deeds s = some reached)
    (later : Pursues world more result reached e) :
    Pursues world (deeds ++ more) result s (e.after (deeds.flatMap (Deed.shown true))) := by
  have joined : ∀ next, Deed.through world (deeds ++ next) s = Deed.through world next reached := by
    intro next
    simp [Deed.through_append, passes]
  cases later with
  | done after passes' =>
      have whole : Pursues world (deeds ++ more) result s _ :=
        .done after ((joined more).trans passes')
      simpa [Execution.after] using whole
  | failed before deed rest reached' failure after split passes' fails =>
      have whole : Pursues world (deeds ++ more) result s _ :=
        .failed (deeds ++ before) deed rest reached' failure after (by simp [split])
          ((joined before).trans passes') fails
      simpa [Execution.after] using whole
  | endless before c rest reached' forever split passes' waits =>
      have whole : Pursues world (deeds ++ more) result s _ :=
        .endless (deeds ++ before) c rest reached' forever (by simp [split])
          ((joined before).trans passes') waits
      simpa [Execution.after] using whole

theorem eq_done {result : α} {e : Execution (Except Failure α) σ} {after : σ}
    (pursues : Pursues world deeds result s e)
    (passes : Deed.through world deeds s = some after) :
    e = ⟨deeds.flatMap (Deed.shown true), .finished (.ok result), after⟩ := by
  cases pursues with
  | done after' passes' =>
      rw [passes] at passes'
      cases passes'
      rfl
  | failed before deed rest reached failure after' split passes' fails =>
      rw [split, Deed.through_append, passes'] at passes
      simp [Deed.through, fails] at passes
  | endless before c rest reached forever split passes' waits =>
      rw [split, Deed.through_append, passes'] at passes
      simp [Deed.through, waits] at passes

theorem bind {session : Session α} {f : α → Session β} {a : α} {b : β}
    (first : Pursues world deeds a s (session.alone world s))
    (second : ∀ reached, Deed.through world deeds s = some reached →
      Pursues world more b reached ((f a).alone world reached)) :
    Pursues world (deeds ++ more) b s ((session >>= f).alone world s) := by
  rw [Session.alone_bind]
  generalize session.alone world s = e at first
  cases first with
  | done reached passes => exact (second reached passes).after passes
  | failed before deed rest reached failure after split passes fails =>
      have whole : Pursues world (deeds ++ more) b s _ :=
        .failed before deed (rest ++ more) reached failure after (by simp [split]) passes fails
      simpa [Execution.andThen, Execution.after] using whole
  | endless before c rest reached forever split passes waits =>
      exact .endless before c (rest ++ more) reached forever (by simp [split]) passes waits

theorem act {a : Act} {next : a.Answer → Course (Except Failure α)} {result : α} {s : σ}
    (continues : ∀ answer, next answer = .finished (match a.failure? answer with
      | none => .ok result
      | some failure => .error failure)) :
    Pursues world [.act a] result s (Course.alone world (.act a next) s) := by
  have ending : Course.alone world (.act a next) s =
      ⟨[.did a (a.failure? (world.act a s).1).isNone],
        .finished (match a.failure? (world.act a s).1 with
          | none => .ok result
          | some failure => .error failure), (world.act a s).2⟩ := by
    simp [Course.alone, continues, Execution.after, Act.succeeded_eq]
  rw [ending]
  cases outcome : a.failure? (world.act a s).1 with
  | none => exact .done _ (by simp [Deed.through, Deed.meet, outcome])
  | some failure =>
      exact .failed [] (.act a) [] s failure _ rfl rfl (by simp [Deed.meet, outcome])

theorem call {c : Call} {next : c.Answer → Course (Except Failure α)} {result : α} {s : σ}
    (continues : ∀ answer, next answer = .finished (match c.failure? answer with
      | none => .ok result
      | some failure => .error failure)) :
    Pursues world [.call c] result s (Course.alone world (.await c next) s) := by
  cases returns : (world.call c s).answer? with
  | none =>
      have ending : Course.alone world (.await c next) s =
          ⟨[.began c], .hung, (world.call c s).last⟩ := by
        simp [Course.alone, returns]
      rw [ending]
      exact .endless [] c [] s _ rfl rfl (Deed.meet_of_waits returns)
  | some returned =>
      have ending : Course.alone world (.await c next) s =
          ⟨[.began c, .ended c (c.failure? returned.1).isNone],
            .finished (match c.failure? returned.1 with
              | none => .ok result
              | some failure => .error failure), returned.2⟩ := by
        simp [Course.alone, returns, continues, Execution.after, Call.succeeded_eq]
      rw [ending]
      cases outcome : c.failure? returned.1 with
      | none => exact .done _ (by simp [Deed.through, Deed.meet_of_well returns outcome])
      | some failure =>
          exact .failed [] (.call c) [] s failure _ rfl rfl (Deed.meet_of_failure returns outcome)

theorem note (world : World σ) (record : Log.Record) (s : σ) :
    Pursues world [.act (.note record)] () s ((Session.note record).alone world s) :=
  act fun _ => rfl

theorem write (world : World σ) (line : String) (s : σ) :
    Pursues world [.act (.write line)] () s ((Session.write line).alone world s) :=
  act fun answer => by cases (answer : Except IoFault Unit) <;> rfl

theorem flush (world : World σ) (s : σ) :
    Pursues world [.act .flush] () s (Session.flush.alone world s) :=
  act fun answer => by cases (answer : Except IoFault Unit) <;> rfl

theorem attach (world : World σ) (remote busId : String) (s : σ) :
    Pursues world [.call (.attach remote busId)] () s
      ((Session.attach remote busId).alone world s) :=
  call fun answer => by cases (answer : Except Failure Unit) <;> rfl

theorem pause (world : World σ) (seconds : UInt64) (s : σ) :
    Pursues world [.call (.pause seconds)] () s ((Session.pause seconds).alone world s) :=
  call fun _ => rfl

theorem detach (world : World σ) (s : σ) :
    Pursues world [.call .detach] () s (Session.detach.alone world s) :=
  call fun answer => by cases (answer : Except Failure Unit) <;> rfl

end Pursues

/-- A deed shows nothing before its beginning, so what is not the return of a call stands there. -/
theorem Deed.shown_opening {deed : Deed} {ok : Bool} {before rest : List Happening} {h : Happening}
    (noReturn : ∀ c ok, h ≠ .ended c ok) (split : deed.shown ok = before ++ h :: rest) :
    before = [] ∧ (deed.shown ok).head? = some h := by
  cases before with
  | nil => exact ⟨rfl, by rw [split]; rfl⟩
  | cons first before =>
      cases deed with
      | act a => simp [Deed.shown] at split
      | call c => cases before with
        | nil =>
            simp only [Deed.shown, List.cons_append, List.nil_append, List.cons.injEq] at split
            exact absurd split.2.1.symm (noReturn c ok)
        | cons second before => simp [Deed.shown] at split

theorem Deed.shown_began {deed : Deed} {ok : Bool} {before rest : List Happening} {c : Call}
    (split : deed.shown ok = before ++ .began c :: rest) : before = [] ∧ deed = .call c := by
  obtain ⟨first, begins⟩ := Deed.shown_opening (by simp) split
  refine ⟨first, ?_⟩
  cases deed with
  | act a => simp [Deed.shown] at begins
  | call c' => simpa [Deed.shown] using begins

/-- What some deeds show begins, wherever it is not the return of a call, with one of them. -/
theorem Deed.shown_split_opening {deeds : List Deed} {tail first rest : List Happening}
    {h : Happening} (noReturn : ∀ c ok, h ≠ .ended c ok)
    (split : deeds.flatMap (Deed.shown true) ++ tail = first ++ h :: rest) :
    (∃ before deed later, deeds = before ++ deed :: later ∧
      first = before.flatMap (Deed.shown true) ∧ (deed.shown true).head? = some h) ∨
    (∃ between, first = deeds.flatMap (Deed.shown true) ++ between ∧
      tail = between ++ h :: rest) := by
  induction deeds generalizing first with
  | nil => exact .inr ⟨first, rfl, split⟩
  | cons deed deeds ih =>
      rw [List.flatMap_cons, List.append_assoc] at split
      -- It stands where the first deed begins, or behind all that this deed shows.
      rcases append_split split with ⟨between, begins⟩ | ⟨between, rfl, goesOn⟩
      · obtain ⟨rfl, opens⟩ := Deed.shown_opening noReturn begins
        exact .inl ⟨[], deed, deeds, rfl, rfl, opens⟩
      · rcases ih goesOn with ⟨before, deed', later, rfl, rfl, begins⟩ | ⟨more, rfl, atTail⟩
        · exact .inl ⟨deed :: before, deed', later, rfl, rfl, begins⟩
        · exact .inr ⟨more, by simp, atTail⟩

theorem Deed.shown_split {deeds : List Deed} {tail first rest : List Happening} {c : Call}
    (split : deeds.flatMap (Deed.shown true) ++ tail = first ++ .began c :: rest) :
    (∃ before later, deeds = before ++ .call c :: later ∧
      first = before.flatMap (Deed.shown true)) ∨
    (∃ between, first = deeds.flatMap (Deed.shown true) ++ between ∧
      tail = between ++ .began c :: rest) := by
  rcases Deed.shown_split_opening (by simp) split with
    ⟨before, deed, later, rfl, rfl, begins⟩ | atTail
  · left
    cases deed with
    | act a => simp [Deed.shown] at begins
    | call c' =>
        obtain rfl : c' = c := by simpa [Deed.shown] using begins
        exact ⟨before, later, rfl, rfl⟩
  · exact .inr atTail

theorem Deed.shown_split_act {deeds : List Deed} {tail first rest : List Happening} {a : Act}
    {ok : Bool} (split : deeds.flatMap (Deed.shown true) ++ tail = first ++ .did a ok :: rest) :
    (∃ before later, deeds = before ++ .act a :: later ∧
      first = before.flatMap (Deed.shown true)) ∨
    (∃ between, first = deeds.flatMap (Deed.shown true) ++ between ∧
      tail = between ++ .did a ok :: rest) := by
  rcases Deed.shown_split_opening (by simp) split with
    ⟨before, deed, later, rfl, rfl, begins⟩ | atTail
  · left
    cases deed with
    | act a' =>
        simp only [Deed.shown, List.head?_cons, Option.some.injEq, Happening.did.injEq] at begins
        obtain ⟨rfl, -⟩ := begins
        exact ⟨before, later, rfl, rfl⟩
    | call c => simp [Deed.shown] at begins
  · exact .inr atTail

inductive Onwards (c : Call) : Meeting σ → List Happening → Ending (Except Failure α) → Prop where
  | cameOff (after : σ) (later : List Happening) (ending : Ending (Except Failure α)) :
    Onwards c (.cameOff after) (.ended c true :: later) ending
  | failed (failure : Failure) (after : σ) :
    Onwards c (.failed failure after) [.ended c false] (.finished (.error failure))
  | endless (forever : σ) : Onwards c (.endless forever) [] .hung

/-- Among deeds that all come off, each meets the world that those before it left. -/
theorem Deed.meet_of_through {world : World σ} {before later : List Deed} {deed : Deed} {s after : σ}
    (passes : through world (before ++ deed :: later) s = some after) :
    ∃ reached between, through world before s = some reached ∧
      deed.meet world reached = .cameOff between := by
  rw [through_append] at passes
  cases reaches : through world before s with
  | none => simp [reaches] at passes
  | some reached =>
      simp only [reaches, Option.bind_some, through] at passes
      cases meets : deed.meet world reached with
      | cameOff between => exact ⟨reached, between, rfl, meets⟩
      | failed failure after => simp [meets] at passes
      | endless forever => simp [meets] at passes

/-- Where a call begins in an execution that pursues some deeds, it is one of them, all those before
it came off, and what it meets there tells what comes next. -/
theorem Pursues.began_onwards {world : World σ} {deeds : List Deed} {result : α} {s : σ}
    {e : Execution (Except Failure α) σ} {first rest : List Happening} {c : Call}
    (pursues : Pursues world deeds result s e) (split : e.trace = first ++ .began c :: rest) :
    ∃ before later reached, deeds = before ++ .call c :: later ∧
      first = before.flatMap (Deed.shown true) ∧ Deed.through world before s = some reached ∧
      Onwards c ((Deed.call c).meet world reached) rest e.ending := by
  -- A call that is not the last deed came off, and the trace goes on with that.
  have inside : ∀ (before later : List Deed) (tail : List Happening) (after : σ),
      Deed.through world (before ++ .call c :: later) s = some after →
      (before ++ .call c :: later).flatMap (Deed.shown true) ++ tail =
        before.flatMap (Deed.shown true) ++ .began c :: rest →
      ∃ reached, Deed.through world before s = some reached ∧
        Onwards c ((Deed.call c).meet world reached) rest e.ending := by
    intro before later tail after passes shows
    obtain ⟨reached, between, reaches, meets⟩ := Deed.meet_of_through passes
    rw [List.flatMap_append, List.append_assoc, List.append_cancel_left_eq] at shows
    obtain ⟨-, rfl⟩ := List.cons.inj shows
    refine ⟨reached, reaches, ?_⟩
    rw [meets]
    exact .cameOff between _ _
  cases pursues with
  | done after passes =>
      have noTail : deeds.flatMap (Deed.shown true) ++ [] = first ++ .began c :: rest := by
        simpa using split
      rcases Deed.shown_split noTail with ⟨before, later, rfl, rfl⟩ | ⟨between, -, atTail⟩
      · obtain ⟨reached, reaches, onwards⟩ := inside before later [] after passes noTail
        exact ⟨before, later, reached, rfl, rfl, reaches, onwards⟩
      · simp at atTail
  | failed done deed more reached failure after whole passes fails =>
      rcases Deed.shown_split split with ⟨before, later, rfl, rfl⟩ | ⟨between, rfl, atTail⟩
      · obtain ⟨reached, reaches, onwards⟩ := inside before later _ reached passes split
        exact ⟨before, later ++ deed :: more, reached, by simp [whole], rfl, reaches, onwards⟩
      · obtain ⟨rfl, rfl⟩ := Deed.shown_began atTail
        obtain ⟨-, rfl⟩ := List.cons.inj atTail
        refine ⟨done, more, reached, whole, by simp, passes, ?_⟩
        rw [fails]
        exact .failed failure after
  | endless done c' more reached forever whole passes waits =>
      rcases Deed.shown_split split with ⟨before, later, rfl, rfl⟩ | ⟨between, rfl, atTail⟩
      · obtain ⟨reached, reaches, onwards⟩ := inside before later _ reached passes split
        exact ⟨before, later ++ .call c' :: more, reached, by simp [whole], rfl, reaches, onwards⟩
      · cases between with
        | nil =>
            obtain ⟨same, rfl⟩ := List.cons.inj atTail
            cases same
            refine ⟨done, more, reached, whole, by simp, passes, ?_⟩
            rw [waits]
            exact .endless forever
        | cons head between => simp at atTail

theorem Pursues.began {world : World σ} {deeds : List Deed} {result : α} {s : σ}
    {e : Execution (Except Failure α) σ} {first rest : List Happening} {c : Call}
    (pursues : Pursues world deeds result s e) (split : e.trace = first ++ .began c :: rest) :
    ∃ before later, deeds = before ++ .call c :: later ∧
      first = before.flatMap (Deed.shown true) := by
  obtain ⟨before, later, -, whole, shows, -⟩ := pursues.began_onwards split
  exact ⟨before, later, whole, shows⟩

def World.withWords (world : World σ) : World (σ × WordStream) where
  act a t := match a with
    | .word => (t.2.next.1, t.1, t.2.next.2)
    | .note record => ((world.act (.note record) t.1).1, (world.act (.note record) t.1).2, t.2)
    | .write line => ((world.act (.write line) t.1).1, (world.act (.write line) t.1).2, t.2)
    | .flush => ((world.act .flush t.1).1, (world.act .flush t.1).2, t.2)
  call c t := (world.call c t.1).map (fun s => (s, t.2)) fun answer s => (answer, s, t.2)

def WordStream.skip (words : WordStream) (count : Nat) : WordStream :=
  { words with taken := words.taken + count }

def Drawing.wanted : Drawing α → WordStream → Nat
  | .settled _, _ => 0
  | .wants next, words => (next words.next.1).wanted words.next.2 + 1

theorem Drawing.read_skip (d : Drawing α) (words : WordStream) :
    (d.read words).2 = words.skip (d.wanted words) := by
  induction d generalizing words with
  | settled a => rfl
  | wants next ih =>
      rw [read, wanted, ih]
      simp only [WordStream.skip, WordStream.next]
      congr 1
      omega

def Deed.isWord : Deed → Bool
  | .act .word => true
  | _ => false

theorem World.withWords_act (world : World σ) (a : Act) (t : σ × WordStream) :
    (world.withWords.act a t).2.2 = t.2.skip (if (Deed.act a).isWord then 1 else 0) := by
  cases a <;> rfl

theorem World.withWords_call (world : World σ) (c : Call) (t after : σ × WordStream)
    (answer : c.Answer) (returns : (world.withWords.call c t).answer? = some (answer, after)) :
    after.2 = t.2 := by
  simp only [withWords, Flight.answer?_map, Option.map_eq_some_iff, Prod.mk.injEq] at returns
  obtain ⟨returned, -, -, rfl⟩ := returns
  rfl

theorem Deed.meet_words (world : World σ) (deed : Deed) (t after : σ × WordStream)
    (cameOff : deed.meet world.withWords t = .cameOff after) :
    after.2 = t.2.skip (if deed.isWord then 1 else 0) := by
  cases deed with
  | act a =>
      rw [act_of_cameOff cameOff]
      exact world.withWords_act a t
  | call c =>
      obtain ⟨answer, returns, -⟩ := call_of_cameOff cameOff
      exact world.withWords_call c t after answer returns

/-- Only the drawings take words from the stream. -/
theorem Deed.through_words (world : World σ) (deeds : List Deed) (t after : σ × WordStream)
    (passes : through world.withWords deeds t = some after) :
    after.2 = t.2.skip (deeds.countP Deed.isWord) := by
  induction deeds generalizing t with
  | nil =>
      cases passes
      rfl
  | cons deed rest ih =>
      simp only [through] at passes
      cases meeting : deed.meet world.withWords t with
      | cameOff between =>
          simp only [meeting] at passes
          rw [ih between passes, Deed.meet_words world deed t between meeting]
          simp only [WordStream.skip, List.countP_cons]
          congr 1
          omega
      | failed failure s => simp [meeting] at passes
      | endless s => simp [meeting] at passes

/-- A drawing inside a session takes its words one after the other, and settles as it does when it
is read from the stream. -/
theorem Pursues.draw (world : World σ) (d : Drawing α) (s : σ) (words : WordStream) :
    Pursues world.withWords (List.replicate (d.wanted words) (.act .word)) (d.read words).1
      (s, words) ((Session.draw d).alone world.withWords (s, words)) := by
  induction d generalizing words with
  | settled a => exact .nil world.withWords a (s, words)
  | wants next ih =>
      have first : Deed.through world.withWords [.act .word] (s, words) =
          some (s, words.next.2) := rfl
      exact Pursues.after first (ih words.next.1 words.next.2)

end Replug
