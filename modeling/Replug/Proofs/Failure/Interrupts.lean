import Replug.Failure.Report

/-!
# Which reports are interrupts

The chain of a report is followed from source to source, and a fault that stands for a failure is
passed over to the source of that failure.  So below its first link the chain of a base holds only
faults, and a failure wrapped in a fault, however deep, is not met again.  Together with the remarks,
which are no failures either, this leaves the base as the only place where an interrupt counts.
-/

set_option autoImplicit false

namespace Replug

/-! ## Sources -/

def Failure.blames? : Failure → Option IoFault
  | .launch _ _ cause | .io cause => some cause
  | .interrupted | .config _ => none

/-- The fault that a fault blames.  One that stands for a failure blames what that failure blames,
and not the failure. -/
def IoFault.blames? : IoFault → Option IoFault
  | .carrying _ inner => inner.blames?
  | .system _ | .plain _ | .described _ _ => none

inductive Leads : Link → Link → Prop where
  | failure {f : Failure} {cause : IoFault} (blames : f.blames? = some cause) :
    Leads (.failure f) (.fault cause)
  | fault {f cause : IoFault} (blames : f.blames? = some cause) : Leads (.fault f) (.fault cause)

/-- The links from one on, each the source of the one before it, down to one without a source. -/
inductive Descent : Link → List Link → Prop where
  | bottom {link : Link} (ends : ∀ next, ¬ Leads link next) : Descent link [link]
  | down {link next : Link} {below : List Link} (leads : Leads link next)
    (onwards : Descent next below) : Descent link (link :: below)

theorem Descent.failure_alone {f : Failure} (blameless : f.blames? = none) :
    Descent (.failure f) [.failure f] := by
  refine .bottom fun next leads => ?_
  cases leads with
  | failure blames => rw [blameless] at blames; cases blames

theorem Descent.fault_alone {f : IoFault} (blameless : f.blames? = none) :
    Descent (.fault f) [.fault f] := by
  refine .bottom fun next leads => ?_
  cases leads with
  | fault blames => rw [blameless] at blames; cases blames

theorem Descent.faults_below {link : Link} {links : List Link} (descent : Descent link links) :
    ∃ below, links = link :: below ∧ ∀ l ∈ below, ∃ cause, l = .fault cause := by
  induction descent with
  | bottom ends => exact ⟨[], rfl, by simp⟩
  | @down link next links leads onwards ih =>
      obtain ⟨below, rfl, faults⟩ := ih
      refine ⟨next :: below, rfl, ?_⟩
      intro l member
      rcases List.mem_cons.mp member with rfl | deeper
      · cases leads with
        | failure blames => exact ⟨_, rfl⟩
        | fault blames => exact ⟨_, rfl⟩
      · exact faults l deeper

theorem Descent.carrying (kind : FaultKind) {inner : Failure}
    (descent : Descent (.failure inner) (.failure inner :: inner.causes)) :
    Descent (.fault (.carrying kind inner)) (.fault (.carrying kind inner) :: inner.causes) := by
  generalize inner.causes = causes at descent ⊢
  cases descent with
  | bottom ends =>
      refine .bottom fun next leads => ?_
      cases leads with
      | fault blames => exact ends _ (.failure blames)
  | down leads onwards =>
      cases leads with
      | failure blames => exact .down (.fault blames) onwards

mutual

theorem Failure.descent : ∀ f : Failure, Descent (.failure f) (.failure f :: f.causes)
  | .interrupted => .failure_alone rfl
  | .launch _ _ cause => .down (.failure rfl) cause.descent
  | .config _ => .failure_alone rfl
  | .io cause => .down (.failure rfl) cause.descent

theorem IoFault.descent : ∀ f : IoFault, Descent (.fault f) (.fault f :: f.causes)
  | .system _ => .fault_alone rfl
  | .plain _ => .fault_alone rfl
  | .described _ _ => .fault_alone rfl
  | .carrying kind inner => inner.descent.carrying kind

end

/-! ## Reports -/

namespace Report

def Base.link : Base → Link
  | .failure f => .failure f
  | .fault f => .fault f
  | .words text => .words text

theorem Base.descent (base : Base) : Descent base.link base.chain := by
  cases base with
  | failure f => exact f.descent
  | fault f => exact f.descent
  | words text =>
      apply Descent.bottom
      rintro next ⟨blames⟩

/-- A base with remarks put around it one after the other, the innermost first. -/
def around (base : Base) (layers : List Remark) : Report := layers.foldl within ⟨[], base⟩

theorem foldl_within (r : Report) (layers : List Remark) :
    layers.foldl within r = ⟨layers.reverse ++ r.layers, r.base⟩ := by
  induction layers generalizing r with
  | nil => rfl
  | cons layer layers ih => simp [ih, within]

theorem around_eq (base : Base) (layers : List Remark) :
    around base layers = ⟨layers.reverse, base⟩ := by
  simp [around, foldl_within]

theorem isInterrupt_eq (r : Report) : r.isInterrupt = r.base.link.isInterrupt := by
  obtain ⟨below, chain, faults⟩ := r.base.descent.faults_below
  have noRemark : (r.layers.map Link.remark).any Link.isInterrupt = false := by
    simp [Link.isInterrupt]
  have noneBelow : below.any Link.isInterrupt = false := by
    rw [List.any_eq_false]
    intro l deeper
    obtain ⟨cause, rfl⟩ := faults l deeper
    simp [Link.isInterrupt]
  simp [isInterrupt, Report.chain, chain, noRemark, noneBelow]

theorem isInterrupt_iff (r : Report) : r.isInterrupt = true ↔ r.base = .failure .interrupted := by
  rw [isInterrupt_eq]
  cases r.base with
  | failure f => cases f <;> simp [Base.link, Link.isInterrupt, Failure.isInterrupt]
  | fault f => simp [Base.link, Link.isInterrupt]
  | words text => simp [Base.link, Link.isInterrupt]

theorem message_eq (r : Report) :
    r.message = ": ".intercalate (r.remarks ++ r.base.chain.map Link.text) := by
  simp [message, Report.chain, remarks, Link.text, Function.comp_def]

/-- However many remarks are put around a base, and whether they are words or failures, a report is
taken for the operator's interrupt exactly if its base is one.  Otherwise it is reported with one
remark after the other, the outermost first, and then the base and its sources down to the last. -/
theorem termination_around (base : Base) (layers : List Remark) :
    ((around base layers).termination = .cancelled ↔ base = .failure .interrupted) ∧
      ((around base layers).termination = .cancelled ∨
        (around base layers).termination = .failed (": ".intercalate
          ((layers.map Remark.text).reverse ++ base.chain.map Link.text))) ∧
      (around base layers).chain = layers.reverse.map .remark ++ base.chain ∧
      Descent base.link base.chain := by
  have interrupts := isInterrupt_iff (around base layers)
  have message := message_eq (around base layers)
  rw [around_eq] at interrupts message ⊢
  refine ⟨?_, ?_, rfl, base.descent⟩
  · rw [← interrupts]
    by_cases interrupted : (Report.mk layers.reverse base).isInterrupt = true
    · simp [termination, interrupted]
    · simp [termination, interrupted]
  · by_cases interrupted : (Report.mk layers.reverse base).isInterrupt = true
    · exact .inl (by simp [termination, interrupted])
    · right
      simp only [termination, interrupted, message]
      simp [remarks]

/-- A full disk met by a report that a fault carries, below words and below a remark that is itself
the operator's interrupt. -/
theorem termination_around_full_disk :
    let base := Base.fault (.carrying .other (.launch "/bin/usbip" "attach" (.system ⟨28⟩)))
    let layers := [Remark.words "step 3", .failure .interrupted, .words "outside"]
    base ≠ .failure .interrupted ∧ (around base layers).termination = .failed
      ("outside: Interrupted: step 3: Failed to run attach with /bin/usbip: " ++
        "No space left on device (os error 28)") := by
  intro base layers
  obtain ⟨silent, told, -⟩ := termination_around base layers
  have serious : base ≠ .failure .interrupted := by simp [base]
  refine ⟨serious, ?_⟩
  rcases told with cancelled | failed
  · exact absurd (silent.mp cancelled) serious
  · rw [failed]
    decide +kernel

end Report

end Replug
