import Mathlib.Data.List.Infix
import Replug.Proofs.Failure.Interrupts

/-!
# How often a cause is told

A report tells a cause once if no link but the cause's own says its words.  The message of a failed
launch has only the action and the program in it, so the cause is told once.  The message of an input
or output failure has the words of the cause in it, and the cause follows as the next link: it is told
twice.

A launch message could say the words of a cause by chance, also across the seams between its own words,
the action and the program.  For the texts of the system and those of a kind of fault the seams do not
matter: none of them begins, ends or goes on as the words of the message do.
-/

set_option autoImplicit false

namespace Replug

/-- A text stands somewhere in another one. -/
def Occurs (text inside : String) : Prop := text.toList <:+: inside.toList

instance (text inside : String) : Decidable (Occurs text inside) :=
  inferInstanceAs (Decidable (text.toList <:+: inside.toList))

theorem occurs_append_right (front text : String) : Occurs text (front ++ text) := by
  unfold Occurs
  rw [String.toList_append]
  exact List.infix_append_right

/-- The number of links that say a text. -/
def Report.tellings (r : Report) (text : String) : Nat :=
  r.chain.countP fun link => Occurs text link.text

variable {text : String} {layers : List Remark}

theorem Report.tellings_around (base : Report.Base)
    (aside : ∀ layer ∈ layers, ¬ Occurs text layer.text) :
    (Report.around base layers).tellings text =
      base.chain.countP fun link => Occurs text link.text := by
  have quiet : ((layers.reverse.map Link.remark).countP fun link => Occurs text link.text) = 0 := by
    rw [List.countP_eq_zero]
    intro link member
    obtain ⟨layer, isLayer, rfl⟩ := List.mem_map.mp member
    have notSaid : ¬ Occurs text (Link.remark layer).text :=
      aside layer (List.mem_reverse.mp isLayer)
    simpa using notSaid
  unfold Report.tellings
  rw [Report.around_eq]
  change ((layers.reverse.map Link.remark ++ base.chain).countP _) = _
  rw [List.countP_append, quiet, Nat.zero_add]

/-- With a cause that has no cause itself, it is the failure's own message that may tell it again. -/
theorem countP_chain {f : Failure} {cause : IoFault} (blames : f.causes = .fault cause :: cause.causes)
    (last : cause.causes = []) :
    (f.chain.countP fun link => Occurs cause.text link.text) =
      if Occurs cause.text f.message then 2 else 1 := by
  have first : (Link.failure f).text = f.message := rfl
  have second : (Link.fault cause).text = cause.text := rfl
  have told : Occurs cause.text cause.text := List.infix_rfl
  unfold Failure.chain
  rw [blames, last]
  by_cases again : Occurs cause.text f.message
  · simp [first, second, told, again]
  · simp [first, second, told, again]

/-! ## The seams of a launch message -/

def launchOpening : List Char := "Failed to run ".toList

def launchMiddle : List Char := " with ".toList

theorem toList_fourfold (a b c d : String) :
    (a ++ b ++ c ++ d).toList = a.toList ++ (b.toList ++ (c.toList ++ d.toList)) := by
  simp

theorem toList_launch (program : Path) (action : String) (cause : IoFault) :
    (Failure.launch program action cause).message.toList =
      launchOpening ++ (action.toList ++ (launchMiddle ++ program.display.toList)) :=
  toList_fourfold _ _ _ _

structure Compact (t : List Char) : Prop where
  begins : ∀ u ≠ [], u <:+ launchOpening ∨ u <:+ launchMiddle → ¬ u <+: t
  ends : ∀ v ≠ [], v <+: launchMiddle → ¬ v <:+ t
  outside : ¬ t <:+: launchOpening ∧ ¬ t <:+: launchMiddle
  inside : ¬ launchMiddle <:+: t

theorem Compact.not_infix {t a p : List Char} (compact : Compact t) (notAction : ¬ t <:+: a)
    (notProgram : ¬ t <:+: p) : ¬ t <:+: launchOpening ++ (a ++ (launchMiddle ++ p)) := by
  -- The first seam that the words run across decides which of their ends is at fault.
  intro runs
  rcases List.infix_append_iff_ne_nil.mp runs with opening | later | ⟨u, v, front, -, rfl, ends, -⟩
  · exact compact.outside.1 opening
  · rcases List.infix_append_iff_ne_nil.mp later with action | later | ⟨u, v, -, back, rfl, -, begins⟩
    · exact notAction action
    · rcases List.infix_append_iff_ne_nil.mp later with
        middle | program | ⟨u, v, front, -, rfl, ends, -⟩
      · exact compact.outside.2 middle
      · exact notProgram program
      · exact compact.begins u front (Or.inr ends) (List.prefix_append u v)
    · rcases List.prefix_or_prefix_of_prefix begins (List.prefix_append launchMiddle p) with
        short | whole
      · exact compact.ends v back short (List.suffix_append u v)
      · exact compact.inside (List.infix_append_of_infix_right whole.isInfix)
  · exact compact.begins u front (Or.inl ends) (List.prefix_append u v)

theorem Compact.not_occurs {program : Path} {action : String} (compact : Compact text.toList)
    (notAction : ¬ Occurs text action) (notProgram : ¬ Occurs text program.display)
    (cause : IoFault) : ¬ Occurs text (Failure.launch program action cause).message := by
  unfold Occurs
  rw [toList_launch]
  exact compact.not_infix notAction notProgram

theorem compact_iff (t : List Char) : Compact t ↔
    (∀ u ∈ launchOpening.tails ++ launchMiddle.tails, u ≠ [] → ¬ u <+: t) ∧
      (∀ v ∈ launchMiddle.inits, v ≠ [] → ¬ v <:+ t) ∧
      (¬ t <:+: launchOpening ∧ ¬ t <:+: launchMiddle) ∧ ¬ launchMiddle <:+: t := by
  constructor
  · rintro ⟨begins, ends, outside, inside⟩
    refine ⟨fun u ending front => ?_, fun v beginning back => ?_, outside, inside⟩
    · exact begins u front (by simpa using ending)
    · exact ends v back (by simpa using beginning)
  · rintro ⟨begins, ends, outside, inside⟩
    refine ⟨fun u front ending => ?_, fun v back beginning => ?_, outside, inside⟩
    · exact begins u (by simpa using ending) front
    · exact ends v (by simpa using beginning) back

instance (t : List Char) : Decidable (Compact t) := decidable_of_iff _ (compact_iff t).symm

theorem FaultKind.compact (kind : FaultKind) : Compact kind.text.toList := by
  cases kind <;> decide +kernel

/-! ## The texts of the system -/

namespace SystemCode

def openings : List String := "Unknown error " :: phrases.filterMap id

theorem notMem_repr (n : Int) : 'h' ∉ (toString n).toList := by
  have noDigit : ∀ n : Nat, 'h' ∉ (Nat.repr n).toList := by
    intro n member
    rw [Nat.toList_repr] at member
    exact absurd (Nat.isDigit_of_mem_toDigits (by decide) (by decide) member) (by decide)
  rw [Int.toString_eq_repr, Int.repr_eq_if]
  by_cases positive : 0 ≤ n
  · rw [if_pos positive]
    exact noDigit _
  · rw [if_neg positive, String.toList_append]
    intro member
    rcases List.mem_append.mp member with sign | digits
    · exact absurd sign (by decide)
    · exact noDigit _ digits

/-- The text for a number is one of the known openings, and then something that ends in a bracket. -/
theorem text_eq (code : SystemCode) : ∃ opening ∈ openings, ∃ between : List Char,
    'h' ∉ between ∧ code.text.toList = opening.toList ++ (between ++ [')']) := by
  have number : 'h' ∉ " (os error ".toList ++ (toString code.number).toList := by
    intro member
    rcases List.mem_append.mp member with words | digits
    · exact absurd words (by decide)
    · exact notMem_repr code.number digits
  cases known : code.number.toNat?.bind phrase? with
  | some opening =>
      refine ⟨opening, List.mem_cons_of_mem _ ?_, _, number, ?_⟩
      · obtain ⟨n, -, found⟩ := Option.bind_eq_some_iff.mp known
        have there := Option.join_eq_some_iff.mp found
        exact List.mem_filterMap.mpr ⟨_, List.mem_of_getElem? there, rfl⟩
      · simp [text, phrase, known]
  | none =>
      refine ⟨"Unknown error ", List.mem_cons_self, (toString code.number).toList ++
        (" (os error ".toList ++ (toString code.number).toList), ?_, ?_⟩
      · intro member
        rcases List.mem_append.mp member with digits | rest
        · exact notMem_repr code.number digits
        · exact number rest
      · simp [text, phrase, known]

def withWord : List Char := " with".toList

/-- No opening begins as a part of the launch message ends, or the other way round, and none has the
word. -/
theorem openings_apart : ∀ opening ∈ openings,
    (∀ u ∈ launchOpening.tails ++ launchMiddle.tails, u ≠ [] →
      ¬ u <+: opening.toList ∧ ¬ opening.toList <+: u) ∧ ¬ withWord <:+: opening.toList := by
  decide +kernel

/-- What follows on an opening has no `h` and so does not go on with the word either. -/
theorem withWord_not_infix {opening rest : List Char} (without : ¬ withWord <:+: opening)
    (noLetter : 'h' ∉ rest) : ¬ withWord <:+: opening ++ rest := by
  intro runs
  rcases List.infix_append_iff_ne_nil.mp runs with inside | later | ⟨u, v, -, back, split, -, begins⟩
  · exact without inside
  · exact noLetter (later.subset (by decide))
  · have last : v.getLast? = some 'h' := by
      have whole : (u ++ v).getLast? = some 'h' := split ▸ (by decide : withWord.getLast? = some 'h')
      rwa [List.getLast?_append_of_ne_nil _ back] at whole
    exact noLetter (begins.subset (List.mem_of_getLast? last))

theorem compact (code : SystemCode) : Compact code.text.toList := by
  obtain ⟨opening, known, between, noLetter, spelled⟩ := code.text_eq
  obtain ⟨starts, without⟩ := openings_apart opening known
  rw [spelled]
  have bracket : ')' ∈ opening.toList ++ (between ++ [')']) := by simp
  refine ⟨fun u front ending begins => ?_, fun v back beginning ends => ?_,
    ⟨fun inside => ?_, fun inside => ?_⟩, fun inside => ?_⟩
  · obtain ⟨notBefore, notBehind⟩ := starts u (by simpa using ending) front
    exact (List.prefix_or_prefix_of_prefix begins (List.prefix_append _ _)).elim notBefore notBehind
  · rw [← List.append_assoc, List.suffix_concat_iff] at ends
    obtain ⟨w, rfl, -⟩ := ends.resolve_left back
    exact absurd (beginning.subset (List.mem_append_right _ List.mem_cons_self)) (by decide)
  · exact absurd (inside.subset bracket) (by decide)
  · exact absurd (inside.subset bracket) (by decide)
  · have word : withWord <+: launchMiddle := by decide
    refine withWord_not_infix without ?_ (word.isInfix.trans inside)
    simpa using noLetter

end SystemCode

/-! ## Tellings -/

inductive IoFault.Known : IoFault → Prop where
  | system (code : SystemCode) : Known (.system code)
  | plain (kind : FaultKind) : Known (.plain kind)

theorem IoFault.Known.compact {cause : IoFault} (known : cause.Known) :
    Compact cause.text.toList := by
  cases known with
  | system code => exact code.compact
  | plain kind => exact kind.compact

theorem Report.termination_of_blames {f : Failure} {cause : IoFault} (blames : f.blames? = some cause)
    (layers : List Remark) : (around (.failure f) layers).termination =
      .failed (": ".intercalate ((around (.failure f) layers).chain.map Link.text)) := by
  have serious : ¬ (around (.failure f) layers).isInterrupt = true := by
    rw [isInterrupt_iff, around_eq]
    intro interrupted
    obtain rfl := Report.Base.failure.inj interrupted
    cases blames
  rw [termination, if_neg serious]
  rfl

/-- A cause without a cause of its own, under remarks that do not mention it.  A failed launch tells it
once, unless the launch message itself has its words, which for a fault of the system or a kind of fault
takes an action or a program that has them.  A failure of input or output always tells it twice, since
its own message repeats it.  Either way the links are what the operator gets to see. -/
theorem cause_tellings (cause : IoFault) (last : cause.causes = []) (layers : List Remark)
    (aside : ∀ layer ∈ layers, ¬ Occurs cause.text layer.text) :
    (∀ program action,
      let r := Report.around (.failure (.launch program action cause)) layers
      (r.tellings cause.text = 1 ↔
        ¬ Occurs cause.text (Failure.launch program action cause).message) ∧
      (cause.Known → ¬ Occurs cause.text action → ¬ Occurs cause.text program.display →
        r.tellings cause.text = 1) ∧
      r.termination = .failed (": ".intercalate (r.chain.map Link.text))) ∧
    let r := Report.around (.failure (.io cause)) layers
    r.tellings cause.text = 2 ∧
      r.termination = .failed (": ".intercalate (r.chain.map Link.text)) := by
  have launched : ∀ program action,
      (Report.around (.failure (.launch program action cause)) layers).tellings cause.text =
        if Occurs cause.text (Failure.launch program action cause).message then 2 else 1 := by
    intro program action
    rw [Report.tellings_around _ aside]
    exact countP_chain rfl last
  refine ⟨fun program action => ⟨?_, ?_, Report.termination_of_blames rfl layers⟩, ?_,
    Report.termination_of_blames rfl layers⟩
  · rw [launched]
    by_cases again : Occurs cause.text (Failure.launch program action cause).message
    · simp [again]
    · simp [again]
  · intro known notAction notProgram
    rw [launched, if_neg (known.compact.not_occurs notAction notProgram cause)]
  · rw [Report.tellings_around _ aside]
    have repeated : Occurs cause.text (Failure.io cause).message := occurs_append_right _ _
    exact (countP_chain rfl last).trans (if_pos repeated)

theorem cause_tellings_missing_client :
    let cause : IoFault := .system .noEntry
    let layers : List Remark := [.words "Attach loop failed"]
    cause.causes = [] ∧ (∀ layer ∈ layers, ¬ Occurs cause.text layer.text) ∧
      (Report.around (.failure (.launch "/opt/missing/usbip" "attach" cause)) layers).tellings
        "No such file or directory (os error 2)" = 1 := by
  intro cause layers
  have aside : ∀ layer ∈ layers, ¬ Occurs cause.text layer.text := by decide +kernel
  have text : cause.text = "No such file or directory (os error 2)" := by decide +kernel
  obtain ⟨launched, -⟩ := cause_tellings cause rfl layers aside
  obtain ⟨-, once, -⟩ := launched "/opt/missing/usbip" "attach"
  exact ⟨rfl, aside, text ▸ once (.system _) (by decide +kernel) (by decide +kernel)⟩

/-- A full disk is told twice where progress is written, though nothing but the cause has its words. -/
theorem full_disk_told_twice :
    let cause : IoFault := .system ⟨28⟩
    let r := Report.around (.failure (.io cause)) []
    cause.causes = [] ∧ cause.text ≠ "" ∧ ¬ Occurs cause.text "IO error: " ∧
      r.tellings cause.text ≠ 1 ∧
      r.termination = .failed ("IO error: No space left on device (os error 28): " ++
        "No space left on device (os error 28)") := by
  decide +kernel

end Replug
