import Replug.Cycle
import Replug.Proofs.Course.Deeds

/-!
# The itinerary of a run

Once the random words are known, so is all that a run sets out to do: which cycles wait and how
long, what it writes and what it calls, down to the entries in the log.  `Cycle.itinerary` lists
it, and a run left to itself does this list in order until something does not come off.
-/

set_option autoImplicit false

namespace Replug.Cycle

variable {σ : Type}

section Ideal

variable (longest : UInt64) (words : WordStream)

/-- The stream as the drawing of a cycle finds it.  The first cycle has the index 0. -/
def stream : Nat → WordStream
  | 0 => words
  | i + 1 => ((Delay.sample longest).read (stream i)).2

def wait (i : Nat) : Option UInt64 := ((Delay.sample longest).read (stream longest words i)).1

/-- What some cycles from the first on amount to. -/
def tally (count : Nat) : Summary where
  iterations := count
  sleeps := (List.range count).countP fun i => (wait longest words i).isSome

end Ideal

section Lists

variable (plan : Plan) (words : WordStream)

/-- What one cycle shows to the outside. -/
def shownDeeds (i : Nat) : List Deed :=
  [.act (.write ("#" ++ toString (i + 1) ++ "\n")), .act .flush, .call (.attach plan.remote plan.busId)] ++
    ((wait plan.maxDelay words i).map fun seconds => Deed.call (.pause seconds)).toList ++
    [.call .detach]

/-- What a run shows to the outside, if everything comes off. -/
def ideal : List Deed := (List.range plan.count.toNat).flatMap (shownDeeds plan words)

def restDeeds (iteration : Nat) : Option UInt64 → List Deed
  | some seconds => [.act (.note (waiting iteration seconds)), .call (.pause seconds)]
  | none => [.act (.note (notWaiting iteration))]

def drawDeeds (longest : UInt64) (i : Nat) : List Deed :=
  List.replicate ((Delay.sample longest).wanted (stream longest words i)) (.act .word)

def deeds (i : Nat) : List Deed :=
  [.act (.write (line (i + 1))), .act .flush, .call (.attach plan.remote plan.busId)] ++
    drawDeeds words plan.maxDelay i ++
    restDeeds (i + 1) (wait plan.maxDelay words i) ++
    [.call .detach]

def itinerary : List Deed :=
  [.act (.note (starting plan))] ++
    (List.range plan.count.toNat).flatMap (deeds plan words) ++
    [.act (.note (completed (tally plan.maxDelay words plan.count.toNat)))]

end Lists

/-- Whether a deed shows to the outside: neither an entry in the log nor the taking of a word. -/
def isShown : Deed → Bool
  | .act (.note _) | .act .word => false
  | .act (.write _) | .act .flush | .call _ => true

theorem tally_succ (longest : UInt64) (words : WordStream) (i : Nat) :
    tally longest words (i + 1) =
      ⟨i + 1, (tally longest words i).sleeps +
        if (wait longest words i).isSome then 1 else 0⟩ := by
  simp [tally, List.range_succ, List.countP_append, List.countP_cons]

theorem sleeps_le (longest : UInt64) (words : WordStream) (count : Nat) :
    (tally longest words count).sleeps ≤ count := by
  have bounded : (tally longest words count).sleeps ≤ (List.range count).length :=
    List.countP_le_length
  simpa using bounded

theorem isShown_deeds (plan : Plan) (words : WordStream) (i : Nat) :
    (deeds plan words i).filter isShown = shownDeeds plan words i := by
  have noWord : (drawDeeds words plan.maxDelay i).filter isShown = [] := by
    simp [drawDeeds, isShown]
  simp only [deeds, shownDeeds, List.filter_append, noWord]
  cases wait plan.maxDelay words i <;> rfl

theorem isShown_itinerary (plan : Plan) (words : WordStream) :
    (itinerary plan words).filter isShown = ideal plan words := by
  simp [itinerary, ideal, List.filter_flatMap, isShown_deeds, isShown]

/-- One session after another, in a world with a stream: the second finds the stream as the deeds
of the first left it. -/
theorem bind_words {α β : Type} {world : World σ} {first more : List Deed} {s : σ}
    {words : WordStream} {session : Session α} {f : α → Session β} {a : α} {b : β}
    (begins : Pursues world.withWords first a (s, words)
      (session.alone world.withWords (s, words)))
    (goesOn : ∀ s', Pursues world.withWords more b
      (s', words.skip (first.countP Deed.isWord))
      ((f a).alone world.withWords (s', words.skip (first.countP Deed.isWord)))) :
    Pursues world.withWords (first ++ more) b (s, words)
      ((session >>= f).alone world.withWords (s, words)) := by
  apply begins.bind
  intro reached passes
  obtain ⟨s', words'⟩ := reached
  have position := Deed.through_words world first (s, words) (s', words') passes
  simp only at position
  subst position
  exact goesOn s'

theorem rest_pursues (world : World σ) (iteration : Nat) (wait : Option UInt64) (s : σ) :
    Pursues world (restDeeds iteration wait) () s ((rest iteration wait).alone world s) := by
  cases wait with
  | none => exact .note world _ s
  | some seconds =>
      exact Pursues.bind (Pursues.note world (waiting iteration seconds) s)
        fun reached _ => .pause world seconds reached

theorem restDeeds_words (iteration : Nat) (wait : Option UInt64) :
    (restDeeds iteration wait).countP Deed.isWord = 0 := by
  cases wait <;> rfl

theorem once_pursues (plan : Plan) (world : World σ) (words : WordStream) (i : Nat) (s : σ) :
    Pursues world.withWords (deeds plan words i) (wait plan.maxDelay words i).isSome
      (s, stream plan.maxDelay words i)
      ((once plan (i + 1)).alone world.withWords (s, stream plan.maxDelay words i)) := by
  let now := stream plan.maxDelay words i
  have grouped : deeds plan words i =
      [.act (.write (line (i + 1)))] ++ ([.act .flush] ++
        ([.call (.attach plan.remote plan.busId)] ++ (drawDeeds words plan.maxDelay i ++
          (restDeeds (i + 1) (wait plan.maxDelay words i) ++ ([.call .detach] ++ []))))) := by
    simp [deeds]
  rw [grouped]
  refine bind_words (Pursues.write _ _ _) fun s => ?_
  refine bind_words (Pursues.flush _ _) fun s => ?_
  refine bind_words (Pursues.attach _ _ _ _) fun s => ?_
  refine bind_words (Pursues.draw world (Delay.sample plan.maxDelay) s now) fun s => ?_
  refine bind_words (rest_pursues _ _ _ _) fun s => ?_
  refine bind_words (Pursues.detach _ _) fun s => ?_
  exact .nil _ _ _

theorem stream_succ (plan : Plan) (words : WordStream) (i : Nat) :
    stream plan.maxDelay words (i + 1) =
      (stream plan.maxDelay words i).skip ((deeds plan words i).countP Deed.isWord) := by
  have drawn : (drawDeeds words plan.maxDelay i).countP Deed.isWord =
      (Delay.sample plan.maxDelay).wanted (stream plan.maxDelay words i) := by
    simp [drawDeeds, List.countP_replicate, Deed.isWord]
  have counted : (deeds plan words i).countP Deed.isWord =
      (Delay.sample plan.maxDelay).wanted (stream plan.maxDelay words i) := by
    simp [deeds, List.countP_append, drawn, restDeeds_words, Deed.isWord]
  rw [counted]
  exact Drawing.read_skip _ _

theorem cycles_pursue (plan : Plan) (world : World σ) (words : WordStream) (left i : Nat) (s : σ) :
    Pursues world.withWords ((List.range' i left).flatMap (deeds plan words))
      (tally plan.maxDelay words (i + left)) (s, stream plan.maxDelay words i)
      ((cycles plan left (tally plan.maxDelay words i)).alone world.withWords
        (s, stream plan.maxDelay words i)) := by
  induction left generalizing i s with
  | zero => exact .nil _ _ _
  | succ left ih =>
      have rest := fun s' => ih (i + 1) s'
      rw [tally_succ, stream_succ, Nat.add_assoc, Nat.add_comm 1 left] at rest
      simp only [List.range'_succ, List.flatMap_cons]
      exact bind_words (once_pursues plan world words i s) rest

theorem session_pursues (plan : Plan) (world : World σ) (s : σ) (words : WordStream) :
    Pursues world.withWords (itinerary plan words) (tally plan.maxDelay words plan.count.toNat)
      (s, words) ((session plan).alone world.withWords (s, words)) := by
  have grouped : itinerary plan words =
      [.act (.note (starting plan))] ++
        ((List.range' 0 plan.count.toNat).flatMap (deeds plan words) ++
          ([.act (.note (completed (tally plan.maxDelay words plan.count.toNat)))] ++ [])) := by
    simp [itinerary, List.range_eq_range']
  have made := fun s => cycles_pursue plan world words plan.count.toNat 0 s
  rw [Nat.zero_add] at made
  rw [grouped]
  refine bind_words (Pursues.note _ _ _) fun s => ?_
  refine bind_words (made s) fun s => ?_
  refine bind_words (Pursues.note _ _ _) fun s => ?_
  exact .nil _ _ _

theorem run_alone (plan : Plan) (world : World σ) (s : σ) :
    run plan world s = (session plan).alone world s := by
  have never := Course.execute_never world (session plan).run s
  have completes := Course.alone_not_interrupted world (session plan).run s
  simp only [run, runUntil, never, Session.alone]
  split
  · contradiction
  · rfl
  · rfl

/-- A run left to itself does its itinerary in order, up to and including the first deed that
fails or never returns, and nothing after it.  If every deed comes off, it does the whole of it and
returns what the cycles amount to.  What shows of the itinerary is the ideal run. -/
theorem run_pursues_itinerary (plan : Plan) (world : World σ) (s : σ) (words : WordStream) :
    Pursues world.withWords (itinerary plan words)
        (tally plan.maxDelay words plan.count.toNat) (s, words)
        (run plan world.withWords (s, words)) ∧
      (∀ after, Deed.through world.withWords (itinerary plan words) (s, words) = some after →
        run plan world.withWords (s, words) =
          ⟨(itinerary plan words).flatMap (Deed.shown true),
            .finished (.ok (tally plan.maxDelay words plan.count.toNat)), after⟩) ∧
      (itinerary plan words).filter isShown = ideal plan words ∧
      (tally plan.maxDelay words plan.count.toNat).iterations = plan.count.toNat ∧
      (tally plan.maxDelay words plan.count.toNat).sleeps ≤
        (tally plan.maxDelay words plan.count.toNat).iterations ∧
      (tally plan.maxDelay words plan.count.toNat).iterations < UInt64.size := by
  have pursues := session_pursues plan world s words
  rw [← run_alone] at pursues
  refine ⟨pursues, fun after passes => pursues.eq_done passes, isShown_itinerary plan words, rfl,
    ?_, ?_⟩
  · exact sleeps_le plan.maxDelay words plan.count.toNat
  · exact plan.count.toNat_lt

end Replug.Cycle
