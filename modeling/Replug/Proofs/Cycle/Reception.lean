import Replug.Proofs.Cycle.Progress
import Replug.Proofs.Cycle.Rehearsed
import Replug.Proofs.Cycle.Route
import Replug.Proofs.Failure.Interrupts

/-!
# What the sink of a run receives

Where the lines of a run go to a sink that may take a part of one and fail at any byte and any flush,
its marks still have the shape of its route: whole legs, and behind them at most the beginning of one
more line and the failure.  From that shape everything else is read off: what was received, what had
been pushed out when an attach began, and how the run ends.
-/

set_option autoImplicit false

namespace Replug

variable {σ : Type}

namespace Mark

def bytes : Mark → Bytes
  | .accepted bytes => bytes
  | .flushed | .failed _ | .drew | .began _ => []

def isFlush : Mark → Bool
  | .flushed => true
  | .accepted _ | .failed _ | .drew | .began _ => false

def isFailure : Mark → Bool
  | .failed _ => true
  | .accepted _ | .flushed | .drew | .began _ => false

def isAttach : Mark → Bool
  | .began (.attach _ _) => true
  | .began _ | .accepted _ | .flushed | .failed _ | .drew => false

def isDetach : Mark → Bool
  | .began .detach => true
  | .began _ | .accepted _ | .flushed | .failed _ | .drew => false

def received (marks : List Mark) : Bytes := marks.flatMap bytes

theorem received_append (first second : List Mark) :
    received (first ++ second) = received first ++ received second := List.flatMap_append

end Mark

namespace Cycle

def bytesUpTo (count : Nat) : Bytes := (linesUpTo count).flatMap Bytes.ofString

theorem bytesUpTo_succ (count : Nat) :
    bytesUpTo (count + 1) = bytesUpTo count ++ Bytes.ofString (line (count + 1)) := by
  simp [bytesUpTo, linesUpTo, List.range'_1_concat, Nat.add_comm 1]

theorem bytesUpTo_begins {few count : Nat} (fewer : few ≤ count) :
    bytesUpTo few <+: bytesUpTo count := by
  induction count with
  | zero =>
      obtain rfl : few = 0 := by omega
      exact List.prefix_rfl
  | succ count ih =>
      by_cases same : few = count + 1
      · subst same
        exact List.prefix_rfl
      · rw [bytesUpTo_succ]
        exact (ih (by omega)).trans (List.prefix_append _ _)

/-! ## Marks of a route -/

def marksOf (plan : Plan) (legs : List Leg) : List Mark := (stretch plan 1 legs).flatMap Deed.marks

theorem marks_drawing (leg : Leg) :
    leg.drawing.flatMap Deed.marks = List.replicate leg.words .drew := by
  simp [Leg.drawing, List.flatMap_replicate, Deed.marks]

theorem received_leg (plan : Plan) (i : Nat) (leg : Leg) :
    Mark.received ((leg.deeds plan i).flatMap Deed.marks) = Bytes.ofString (line i) := by
  have noWord : Mark.received (List.replicate leg.words .drew) = [] := by
    simp [Mark.received, List.flatMap_replicate, Mark.bytes]
  have noRest : Mark.received ((restDeeds i leg.wait).flatMap Deed.marks) = [] := by
    cases leg.wait <;> rfl
  rw [Leg.deeds, List.flatMap_append, List.flatMap_append, List.flatMap_append, marks_drawing,
    Mark.received_append, Mark.received_append, Mark.received_append, noWord, noRest]
  simp [Leg.approach, Deed.marks, Mark.received, Mark.bytes]

theorem received_stretch (plan : Plan) (i : Nat) (legs : List Leg) :
    Mark.received ((stretch plan i legs).flatMap Deed.marks) =
      ((List.range' i legs.length).map line).flatMap Bytes.ofString := by
  induction legs generalizing i with
  | nil => rfl
  | cons leg legs ih =>
      rw [stretch, List.flatMap_append, Mark.received_append, received_leg, ih, List.length_cons,
        List.range'_succ, List.map_cons, List.flatMap_cons]

theorem received_marksOf (plan : Plan) (legs : List Leg) :
    Mark.received (marksOf plan legs) = bytesUpTo legs.length :=
  received_stretch plan 1 legs

theorem counts_stretch (plan : Plan) (i : Nat) (legs : List Leg) :
    ((stretch plan i legs).flatMap Deed.marks).countP Mark.isFlush = legs.length ∧
      ((stretch plan i legs).flatMap Deed.marks).countP Mark.isAttach = legs.length ∧
      ((stretch plan i legs).flatMap Deed.marks).countP Mark.isDetach = legs.length ∧
      ((stretch plan i legs).flatMap Deed.marks).countP Mark.isFailure = 0 := by
  induction legs generalizing i with
  | nil => exact ⟨rfl, rfl, rfl, rfl⟩
  | cons leg legs ih =>
      obtain ⟨flushes, attaches, detaches, failures⟩ := ih (i + 1)
      have rest : ∀ p : Mark → Bool, (∀ seconds, p (.began (.pause seconds)) = false) →
          ((restDeeds i leg.wait).flatMap Deed.marks).countP p = 0 := by
        intro p noPause
        cases leg.wait with
        | none => rfl
        | some seconds => simp [restDeeds, Deed.marks, noPause]
      simp only [stretch, Leg.deeds, List.flatMap_append, marks_drawing, List.countP_append, flushes,
        attaches, detaches, failures, List.length_cons, List.countP_replicate]
      rw [rest, rest, rest, rest]
      · simp [Leg.approach, Deed.marks, List.countP_cons, Mark.isFlush, Mark.isAttach,
          Mark.isDetach, Mark.isFailure, Nat.add_comm]
      all_goals exact fun _ => rfl

theorem marks_sofar (plan : Plan) (legs : List Leg) :
    (sofar plan legs).flatMap Deed.marks = marksOf plan legs := rfl

theorem marks_route (plan : Plan) (legs : List Leg) :
    (route plan legs).flatMap Deed.marks = marksOf plan legs := by
  rw [route, List.flatMap_append, marks_sofar]
  exact List.append_nil _

/-- An attach begins right behind the line of its cycle and a flush. -/
theorem attach_split {plan : Plan} {legs : List Leg} {earlier later : List Mark}
    {remote busId : String}
    (split : marksOf plan legs = earlier ++ .began (.attach remote busId) :: later) :
    ∃ done : List Leg, earlier =
      marksOf plan done ++ [.accepted (Bytes.ofString (line (done.length + 1))), .flushed] := by
  obtain ⟨before, deed, rest, inStretch, rfl, makes⟩ := Deed.marks_split split
  obtain rfl : deed = .call (.attach remote busId) := by
    cases deed with
    | act a => cases a <;> simp [Deed.marks] at makes
    | call c => simpa [Deed.marks] using makes
  obtain ⟨done, leg, later, inner, rest, -, rfl, here⟩ := stretch_split inStretch
  refine ⟨done, ?_⟩
  rw [List.flatMap_append, Nat.add_comm]
  cases leg.heldUp_of_split here rfl with
  | attach => rfl

/-! ## Runs -/

inductive Leaves (plan : Plan) : List Mark → Ending (Except Failure Summary) → Prop where
  | through (legs : List Leg) (all : legs.length = plan.count.toNat) (summary : Summary) :
    Leaves plan (marksOf plan legs) (.finished (.ok summary))
  | fails (done : List Leg) (few : done.length < plan.count.toNat) (part : Bytes) (fault : IoFault)
    (begins : part <+: Bytes.ofString (line (done.length + 1))) :
    Leaves plan (marksOf plan done ++ [.accepted part, .failed fault])
      (.finished (.error (.io fault)))

theorem run_leaves (plan : Plan) {world : World σ} (obliging : world.Obliging) (sink : Sink σ)
    (cut : Cut) (s : σ) :
    Leaves plan (run plan (world.withSink sink cut) (s, [])).world.2
      (run plan (world.withSink sink cut) (s, [])).ending := by
  have goes := run_goes plan (world.withSink sink cut) (s, [])
  generalize run plan (world.withSink sink cut) (s, []) = e at goes
  cases goes with
  | through legs after all passes =>
      have marks := Deed.through_marks obliging passes
      rw [List.nil_append, marks_route] at marks
      simp only [marks]
      exact .through legs all _
  | fails before deed reached failure after heldUp passes meets =>
      have marks := Deed.through_marks obliging passes
      rw [List.nil_append] at marks
      rcases Deed.meet_marks obliging sink cut deed reached with
        ⟨s', cameOff⟩ | ⟨fault, s', more, fails, failed⟩
      · rw [cameOff] at meets
        cases meets
      · rw [fails] at meets
        cases meets
        cases heldUp with
        | @inside done leg inner _ few here =>
            rw [List.flatMap_append, marks_sofar] at marks
            simp only [marks]
            cases failed with
            | line begins => cases here with
              | line =>
                  simp only [List.flatMap_nil, List.append_nil]
                  exact .fails done few _ fault begins
            | flush => cases here with
              | flush =>
                  rw [List.append_assoc]
                  exact .fails done few _ fault List.prefix_rfl
  | waits before c reached forever heldUp passes meets =>
      rcases Deed.meet_marks obliging sink cut (.call c) reached with
        ⟨s', cameOff⟩ | ⟨fault, s', more, fails, -⟩
      · rw [cameOff] at meets
        cases meets
      · rw [fails] at meets
        cases meets

/-- What the sink of a run received, when that was, and how the run ends. -/
structure Reception (plan : Plan) (marks : List Mark) (ending : Ending (Except Failure Summary)) :
    Prop where
  inOrder : Mark.received marks <+: bytesUpTo plan.count.toNat
  /-- An attach begins when all lines up to that of its cycle were taken and then pushed out. -/
  announced : ∀ earlier remote busId later,
    marks = earlier ++ .began (.attach remote busId) :: later →
    ∃ before, earlier = before ++ [.flushed] ∧
      Mark.received before = bytesUpTo (earlier.countP Mark.isAttach + 1)
  attaches : marks.countP Mark.isAttach = marks.countP Mark.isFlush
  detaches : marks.countP Mark.isDetach = marks.countP Mark.isFlush
  /-- The sink did not fail and took everything; or its failure is the last mark, the run ends with
  that fault, and whatever remarks are put around it, it is not taken for an interrupt. -/
  ends : marks.countP Mark.isFailure = 0 ∧ Mark.received marks = bytesUpTo plan.count.toNat ∧
      (∃ summary, ending = .finished (.ok summary)) ∨
    ∃ earlier fault, marks = earlier ++ [.failed fault] ∧ earlier.countP Mark.isFailure = 0 ∧
      ending = .finished (.error (.io fault)) ∧
      ∀ layers, (Report.around (.failure (.io fault)) layers).termination =
        .failed (Report.around (.failure (.io fault)) layers).message

theorem termination_io (fault : IoFault) (layers : List Remark) :
    (Report.around (.failure (.io fault)) layers).termination =
      .failed (Report.around (.failure (.io fault)) layers).message := by
  have interrupts := Report.isInterrupt_iff (Report.around (.failure (.io fault)) layers)
  rw [Report.termination]
  by_cases interrupted : (Report.around (.failure (.io fault)) layers).isInterrupt = true
  · rw [interrupts, Report.around_eq] at interrupted
    cases interrupted
  · rw [if_neg interrupted]

theorem announced_of_attach {plan : Plan} {legs : List Leg} {earlier later : List Mark}
    {remote busId : String}
    (split : marksOf plan legs = earlier ++ .began (.attach remote busId) :: later) :
    ∃ before, earlier = before ++ [.flushed] ∧
      Mark.received before = bytesUpTo (earlier.countP Mark.isAttach + 1) := by
  obtain ⟨done, rfl⟩ := attach_split split
  obtain ⟨-, attaches, -⟩ := counts_stretch plan 1 done
  have attached : (marksOf plan done).countP Mark.isAttach = done.length := attaches
  refine ⟨marksOf plan done ++ [.accepted (Bytes.ofString (line (done.length + 1)))], by simp, ?_⟩
  rw [Mark.received_append, received_marksOf, List.countP_append, attached]
  simp [Mark.received, Mark.bytes, Mark.isAttach, bytesUpTo_succ]

/-- A run in a world whose calls come off writes its lines to a sink before their cycles act, however
much of them the sink takes at a time and wherever it fails. -/
theorem run_reception (plan : Plan) {world : World σ} (obliging : world.Obliging) (sink : Sink σ)
    (cut : Cut) (s : σ) :
    Reception plan (run plan (world.withSink sink cut) (s, [])).world.2
      (run plan (world.withSink sink cut) (s, [])).ending := by
  have leaves := run_leaves plan obliging sink cut s
  generalize (run plan (world.withSink sink cut) (s, [])).world.2 = marks,
    (run plan (world.withSink sink cut) (s, [])).ending = ending at leaves ⊢
  cases leaves with
  | through legs all summary =>
      obtain ⟨flushes, attaches, detaches, failures⟩ := counts_stretch plan 1 legs
      have whole : Mark.received (marksOf plan legs) = bytesUpTo plan.count.toNat := by
        rw [received_marksOf, all]
      exact ⟨whole ▸ List.prefix_rfl, fun _ _ _ _ => announced_of_attach,
        attaches.trans flushes.symm, detaches.trans flushes.symm,
        .inl ⟨failures, whole, summary, rfl⟩⟩
  | fails done few part fault begins =>
      obtain ⟨flushes, attaches, detaches, failures⟩ := counts_stretch plan 1 done
      have noMore : ∀ p : Mark → Bool, p (.accepted part) = false → p (.failed fault) = false →
          (marksOf plan done ++ [Mark.accepted part, .failed fault]).countP p =
            (marksOf plan done).countP p := by
        intro p notPart notFault
        simp [notPart, notFault]
      refine ⟨?_, ?_, ?_, ?_, .inr ⟨marksOf plan done ++ [.accepted part], fault, by simp, ?_, rfl,
        termination_io fault⟩⟩
      · rw [Mark.received_append, received_marksOf]
        have next : bytesUpTo done.length ++ part <+: bytesUpTo (done.length + 1) := by
          rw [bytesUpTo_succ]
          exact (List.prefix_append_right_inj _).mpr begins
        simpa [Mark.received, Mark.bytes] using next.trans (bytesUpTo_begins few)
      · intro earlier remote busId later split
        rcases append_split split with ⟨between, inLegs⟩ | ⟨between, -, atEnd⟩
        · exact announced_of_attach inLegs
        · have last : Mark.began (.attach remote busId) ∈ [Mark.accepted part, .failed fault] := by
            simp [atEnd]
          simp at last
      · rw [noMore Mark.isAttach rfl rfl, noMore Mark.isFlush rfl rfl]
        exact attaches.trans flushes.symm
      · rw [noMore Mark.isDetach rfl rfl, noMore Mark.isFlush rfl rfl]
        exact detaches.trans flushes.symm
      · rw [List.countP_append]
        exact congrArg (· + 0) failures

def asWhole : Cut := ⟨fun line => [Bytes.ofString line], fun _ => List.flatten_singleton⟩

/-- A rehearsal whose sink stops inside the tenth line. -/
theorem run_reception_tenth_line :
    let plan : Plan := ⟨"h", "1-1", 0, "/bin/usbip", 12⟩
    let script : Rehearsal.Script := ⟨[], [], none, some 29, true, none⟩
    let opening := Rehearsal.Stage.opening (.cycling [])
    let e := run plan (script.world.withSink script.sink asWhole) (opening, [])
    script.world.Obliging ∧ Reception plan e.world.2 e.ending ∧
      (result e.ending).map Except.isOk = some false ∧
      e.world.1.written.reverse = bytesUpTo 9 ++ Bytes.ofString "#1" := by
  intro plan script opening e
  have obliging : script.world.Obliging :=
    Rehearsal.world_obliging (by simp [script]) (by simp [script]) rfl
  have alike : (run plan script.world opening).Alike (fun s t => t.1 = s) e := by
    simp only [e, run_alone]
    exact Course.alone_alike (Rehearsal.world_alike script asWhole) _ rfl
  refine ⟨obliging, run_reception plan obliging script.sink asWhole opening, ?_, ?_⟩
  · rw [← alike.ending]
    decide +kernel
  · rw [alike.world]
    decide +kernel

end Cycle

end Replug
