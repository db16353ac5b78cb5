import Replug.Proofs.Course.Deeds

/-!
# Sinks that take a part

A world takes a line as a whole or not at all.  A sink underneath takes bytes: of those that it is
offered some, from the first on, and the rest is offered again.  It may stop anywhere, also inside a
line, and it may fail when it is flushed.  `Sink.give` is the loop that offers what was not taken,
and offers everything again if the sink was merely interrupted; a formatter cuts the line into pieces
first, and each of them goes through that loop.

`World.withSink` is a world whose lines go to a sink.  It keeps marks of all that a run does to the
outside, in order, so that one can see how far the sink was when a call began.
-/

set_option autoImplicit false

namespace Replug

variable {σ : Type}

def IoFault.isInterruption : IoFault → Bool
  | .system code => code.number == 4
  | .plain kind | .described kind _ | .carrying kind _ => kind == .interrupted

/-- Where bytes go.  A write answers with how many of them were taken, from the first on; a number
beyond those that were offered stands for all of them. -/
structure Sink (σ : Type) where
  write : Bytes → σ → Except IoFault Nat × σ
  flush : σ → Except IoFault Unit × σ
  /-- How often it may still interrupt the writing of some bytes. -/
  patience : Bytes → σ → Nat
  relents : ∀ bytes s fault after, write bytes s = (.error fault, after) →
    fault.isInterruption = true → patience bytes after < patience bytes s

/-- What became of bytes given to a sink: those that it took, and whether that were all. -/
structure Giving (σ : Type) where
  accepted : Bytes
  outcome : Except IoFault Unit
  after : σ

namespace Giving

def behind (earlier : Bytes) (g : Giving σ) : Giving σ :=
  { g with accepted := earlier ++ g.accepted }

/-- The sink took a part of the bytes, from the beginning, and all of them if nothing failed. -/
structure Faithful (g : Giving σ) (bytes : Bytes) : Prop where
  inOrder : g.accepted <+: bytes
  whole : g.outcome = .ok () → g.accepted = bytes

theorem Faithful.behind {g : Giving σ} {bytes : Bytes} (faithful : g.Faithful bytes)
    (earlier : Bytes) : (g.behind earlier).Faithful (earlier ++ bytes) where
  inOrder := (List.prefix_append_right_inj earlier).mpr faithful.inOrder
  whole succeeds := congrArg (earlier ++ ·) (faithful.whole succeeds)

end Giving

namespace Sink

def nothingTaken : IoFault := .described .writeZero "failed to write whole buffer"

def give (sink : Sink σ) : Bytes → σ → Giving σ
  | [], s => ⟨[], .ok (), s⟩
  | first :: rest, s =>
    match _ : sink.write (first :: rest) s with
    | (.ok 0, after) => ⟨[], .error nothingTaken, after⟩
    | (.ok (more + 1), after) =>
      (sink.give (rest.drop more) after).behind (first :: rest.take more)
    | (.error fault, after) =>
      if _ : fault.isInterruption = true then sink.give (first :: rest) after
      else ⟨[], .error fault, after⟩
termination_by bytes s => (bytes.length, sink.patience bytes s)
decreasing_by
  · left
    rw [List.length_drop, List.length_cons]
    omega
  · right
    exact sink.relents _ _ _ _ ‹_› ‹_›

def giveAll (sink : Sink σ) : List Bytes → σ → Giving σ
  | [], s => ⟨[], .ok (), s⟩
  | piece :: pieces, s =>
    let first := sink.give piece s
    match first.outcome with
    | .ok () => (sink.giveAll pieces first.after).behind first.accepted
    | .error _ => first

section Steps

variable {sink : Sink σ} {first : UInt8} {rest : Bytes} {s after : σ}

theorem give_nothing (answer : sink.write (first :: rest) s = (.ok 0, after)) :
    sink.give (first :: rest) s = ⟨[], .error nothingTaken, after⟩ := by
  rw [give]
  split <;> simp_all

theorem give_some {more : Nat} (answer : sink.write (first :: rest) s = (.ok (more + 1), after)) :
    sink.give (first :: rest) s =
      (sink.give (rest.drop more) after).behind (first :: rest.take more) := by
  rw [give]
  split <;> simp_all

theorem give_again {fault : IoFault} (answer : sink.write (first :: rest) s = (.error fault, after))
    (interrupted : fault.isInterruption = true) :
    sink.give (first :: rest) s = sink.give (first :: rest) after := by
  rw [give]
  split <;> simp_all

theorem give_failed {fault : IoFault} (answer : sink.write (first :: rest) s = (.error fault, after))
    (final : ¬ fault.isInterruption = true) :
    sink.give (first :: rest) s = ⟨[], .error fault, after⟩ := by
  rw [give]
  split <;> simp_all

end Steps

theorem give_faithful (sink : Sink σ) (bytes : Bytes) (s : σ) :
    (sink.give bytes s).Faithful bytes := by
  induction bytes, s using give.induct sink with
  | case1 s =>
      rw [give]
      exact ⟨List.prefix_rfl, fun _ => rfl⟩
  | case2 first rest s after answer =>
      rw [give_nothing answer]
      exact ⟨List.nil_prefix, fun succeeds => by cases succeeds⟩
  | case3 first rest s more after answer ih =>
      have faithful := ih.behind (first :: rest.take more)
      rw [List.cons_append, List.take_append_drop] at faithful
      rw [give_some answer]
      exact faithful
  | case4 first rest s fault after answer interrupted ih =>
      rw [give_again answer interrupted]
      exact ih
  | case5 first rest s fault after answer final =>
      rw [give_failed answer final]
      exact ⟨List.nil_prefix, fun succeeds => by cases succeeds⟩

theorem giveAll_faithful (sink : Sink σ) (pieces : List Bytes) (s : σ) :
    (sink.giveAll pieces s).Faithful pieces.flatten := by
  induction pieces generalizing s with
  | nil => exact ⟨List.prefix_rfl, fun _ => rfl⟩
  | cons piece pieces ih =>
      obtain ⟨inOrder, whole⟩ := sink.give_faithful piece s
      rw [giveAll, List.flatten_cons]
      cases outcome : (sink.give piece s).outcome with
      | ok done =>
          have faithful := (ih (sink.give piece s).after).behind (sink.give piece s).accepted
          rw [whole outcome] at faithful
          simp only [whole outcome]
          exact faithful
      | error fault =>
          refine ⟨inOrder.trans (List.prefix_append _ _), fun succeeds => ?_⟩
          rw [outcome] at succeeds
          cases succeeds

end Sink

/-- The pieces in which a formatter hands over each line. -/
structure Cut where
  pieces : String → List Bytes
  whole : ∀ line, (pieces line).flatten = Bytes.ofString line

/-- What a run does to the outside, as its sink and its calls see it. -/
inductive Mark where
  /-- The bytes of one line that the sink took: all of them, unless its failure comes next. -/
  | accepted (bytes : Bytes)
  | flushed
  | failed (fault : IoFault)
  | drew
  | began (c : Call)

/-- The mark of the sink's failure, if it failed, and otherwise those of what came off. -/
def Mark.orFailed (cameOff : List Mark) : Except IoFault Unit → List Mark
  | .ok () => cameOff
  | .error fault => [.failed fault]

def World.withSink (world : World σ) (sink : Sink σ) (cut : Cut) : World (σ × List Mark) where
  act a t := match a with
    | .note record => ((), (world.act (.note record) t.1).2, t.2)
    | .write line =>
      let giving := sink.giveAll (cut.pieces line) t.1
      (giving.outcome, giving.after,
        t.2 ++ .accepted giving.accepted :: Mark.orFailed [] giving.outcome)
    | .flush =>
      ((sink.flush t.1).1, (sink.flush t.1).2, t.2 ++ Mark.orFailed [.flushed] (sink.flush t.1).1)
    | .word => ((world.act .word t.1).1, (world.act .word t.1).2, t.2 ++ [.drew])
  call c t := (world.call c t.1).map (fun s => (s, t.2 ++ [.began c])) fun answer s =>
    (answer, s, t.2 ++ [.began c])

/-- A world in which every call comes off. -/
def World.Obliging (world : World σ) : Prop :=
  ∀ c s, ∃ answer after, (world.call c s).answer? = some (answer, after) ∧ c.failure? answer = none

def Deed.marks : Deed → List Mark
  | .act (.note _) => []
  | .act (.write line) => [.accepted (Bytes.ofString line)]
  | .act .flush => [.flushed]
  | .act .word => [.drew]
  | .call c => [.began c]

inductive Deed.FailedMarks (fault : IoFault) : Deed → List Mark → Prop where
  | line {line : String} {part : Bytes} (some_ : part <+: Bytes.ofString line) :
    FailedMarks fault (.act (.write line)) [.accepted part, .failed fault]
  | flush : FailedMarks fault (.act .flush) [.failed fault]

/-- In a world whose calls come off, a deed comes off with its marks, or the sink fails. -/
theorem Deed.meet_marks {world : World σ} (obliging : world.Obliging) (sink : Sink σ) (cut : Cut)
    (deed : Deed) (t : σ × List Mark) :
    (∃ s, deed.meet (world.withSink sink cut) t = .cameOff (s, t.2 ++ deed.marks)) ∨
    ∃ fault s marks, deed.meet (world.withSink sink cut) t = .failed (.io fault) (s, t.2 ++ marks) ∧
      deed.FailedMarks fault marks := by
  cases deed with
  | act a => cases a with
    | note record =>
        left
        refine ⟨(world.act (.note record) t.1).2, ?_⟩
        simp only [meet, World.withSink, Act.failure?, marks, List.append_nil]
    | word => exact .inl ⟨_, rfl⟩
    | write line =>
        have faithful := sink.giveAll_faithful (cut.pieces line) t.1
        rw [cut.whole] at faithful
        cases outcome : (sink.giveAll (cut.pieces line) t.1).outcome with
        | ok done =>
            left
            refine ⟨(sink.giveAll (cut.pieces line) t.1).after, ?_⟩
            simp only [meet, World.withSink, outcome, Act.failure?, marks, Mark.orFailed,
              faithful.whole outcome]
        | error fault =>
            right
            refine ⟨fault, (sink.giveAll (cut.pieces line) t.1).after, _, ?_,
              .line faithful.inOrder⟩
            simp only [meet, World.withSink, outcome, Act.failure?, Mark.orFailed]
    | flush =>
        cases outcome : (sink.flush t.1).1 with
        | ok done =>
            left
            refine ⟨(sink.flush t.1).2, ?_⟩
            simp only [meet, World.withSink, outcome, Act.failure?, marks, Mark.orFailed]
        | error fault =>
            right
            refine ⟨fault, (sink.flush t.1).2, _, ?_, .flush⟩
            simp only [meet, World.withSink, outcome, Act.failure?, Mark.orFailed]
  | call c =>
      left
      obtain ⟨answer, after, returns, well⟩ := obliging c t.1
      refine ⟨after, meet_of_well ?_ well⟩
      rw [World.withSink, Flight.answer?_map, returns]
      rfl

theorem Deed.through_marks {world : World σ} (obliging : world.Obliging) {sink : Sink σ} {cut : Cut}
    {deeds : List Deed} {t after : σ × List Mark}
    (passes : through (world.withSink sink cut) deeds t = some after) :
    after.2 = t.2 ++ deeds.flatMap marks := by
  induction deeds generalizing t with
  | nil =>
      cases passes
      simp
  | cons deed deeds ih =>
      simp only [through] at passes
      rcases meet_marks obliging sink cut deed t with ⟨s, cameOff⟩ | ⟨fault, s, _, fails, -⟩
      · simp only [cameOff] at passes
        rw [ih passes, List.flatMap_cons, List.append_assoc]
      · simp [fails] at passes

theorem Deed.marks_few (deed : Deed) : deed.marks = [] ∨ ∃ mark, deed.marks = [mark] := by
  cases deed with
  | act a => cases a <;> simp [marks]
  | call c => exact .inr ⟨_, rfl⟩

theorem Deed.marks_split {deeds : List Deed} {earlier later : List Mark} {mark : Mark}
    (split : deeds.flatMap marks = earlier ++ mark :: later) :
    ∃ before deed rest, deeds = before ++ deed :: rest ∧ earlier = before.flatMap marks ∧
      deed.marks = [mark] := by
  induction deeds generalizing earlier with
  | nil => simp at split
  | cons deed deeds ih =>
      rw [List.flatMap_cons] at split
      rcases deed.marks_few with none | ⟨first, one⟩
      · rw [none, List.nil_append] at split
        obtain ⟨before, deed', rest, rfl, rfl, makes⟩ := ih split
        exact ⟨deed :: before, deed', rest, rfl, by simp [none], makes⟩
      · rw [one] at split
        rcases List.cons_eq_append_iff.mp split with ⟨rfl, here⟩ | ⟨earlier, rfl, onwards⟩
        · obtain ⟨rfl, -⟩ := List.cons.inj here
          exact ⟨[], deed, deeds, rfl, rfl, one⟩
        · obtain ⟨before, deed', rest, rfl, rfl, makes⟩ := ih onwards
          exact ⟨deed :: before, deed', rest, rfl, by simp [one], makes⟩

end Replug
