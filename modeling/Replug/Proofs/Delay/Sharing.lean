import Replug.Proofs.Course.Deeds
import Replug.Proofs.Delay.Shortcut

/-!
# Requests that share a stream

Drawings made one after the other share one stream of words: each starts where the one before it
stopped.  What may be asked for is the seconds drawn or the wait that they stand for.  Both take the
same words, so either can stand in the place of the other without any other request noticing.
-/

set_option autoImplicit false

namespace Replug

variable {α β : Type}

def WordStream.ahead : Nat → WordStream → List UInt64
  | 0, _ => []
  | count + 1, s => s.next.1 :: s.next.2.ahead count

def Drawing.words : Drawing α → WordStream → List UInt64
  | .settled _, _ => []
  | .wants next, s => s.next.1 :: (next s.next.1).words s.next.2

theorem WordStream.skip_skip (s : WordStream) (m n : Nat) : (s.skip m).skip n = s.skip (m + n) := by
  simp [skip, Nat.add_assoc]

theorem WordStream.ahead_add (s : WordStream) (m n : Nat) :
    s.ahead (m + n) = s.ahead m ++ (s.skip m).ahead n := by
  induction m generalizing s with
  | zero =>
      rw [Nat.zero_add]
      rfl
  | succ m ih =>
      have onwards : s.next.2.skip m = s.skip (m + 1) := by
        simp only [next, skip]
        congr 1
        omega
      rw [Nat.add_right_comm, ahead, ih, onwards]
      rfl

theorem Drawing.words_eq (d : Drawing α) (s : WordStream) : d.words s = s.ahead (d.wanted s) := by
  induction d generalizing s with
  | settled a => rfl
  | wants next ih =>
      rw [words, ih]
      rfl

theorem WordStream.length_ahead (count : Nat) (s : WordStream) : (s.ahead count).length = count := by
  induction count generalizing s with
  | zero => rfl
  | succ count ih => rw [ahead, List.length_cons, ih]

theorem Drawing.length_words (d : Drawing α) (s : WordStream) :
    (d.words s).length = d.wanted s := by
  rw [words_eq, WordStream.length_ahead]

theorem Drawing.wanted_map (f : α → β) (d : Drawing α) (s : WordStream) :
    (d.map f).wanted s = d.wanted s := by
  induction d generalizing s with
  | settled a => rfl
  | wants next ih =>
      rw [map, wanted, ih]
      rfl

namespace Delay

inductive Request where
  | seconds
  | wait
  deriving DecidableEq, Repr

structure Reply where
  /-- The words that were taken for it, in their order. -/
  words : List UInt64
  answer : Option UInt64
  deriving DecidableEq, Repr

def Request.drawing (longest : UInt64) : Request → Drawing (Option UInt64)
  | .seconds => Delay.seconds longest
  | .wait => Delay.sample longest

def Request.reply (longest : UInt64) (request : Request) (s : WordStream) : Reply :=
  ⟨(request.drawing longest).words s, ((request.drawing longest).read s).1⟩

/-- The replies to some requests, each made of the stream that the one before it left. -/
def replies (longest : UInt64) : List Request → WordStream → List Reply
  | [], _ => []
  | request :: later, s =>
    request.reply longest s :: replies longest later ((request.drawing longest).read s).2

def wordsTaken (given : List Reply) : Nat := (given.flatMap Reply.words).length

variable {longest : UInt64}

theorem wanted_drawing (request : Request) (s : WordStream) :
    (request.drawing longest).wanted s = (seconds longest).wanted s := by
  cases request with
  | seconds => rfl
  | wait => exact Drawing.wanted_map wait? (seconds longest) s

theorem words_reply (request : Request) (s : WordStream) :
    (request.reply longest s).words = (seconds longest).words s := by
  change (request.drawing longest).words s = _
  rw [Drawing.words_eq, Drawing.words_eq, wanted_drawing]

theorem answer_wait (s : WordStream) :
    (Request.wait.reply longest s).answer = wait? (Request.seconds.reply longest s).answer := by
  change ((sample longest).read s).1 = wait? ((seconds longest).read s).1
  rw [sample, read_map]

theorem wanted_seconds (positive : longest ≠ 0) (s : WordStream) :
    (seconds longest).wanted s = wordsFor longest (s.word s.taken) := by
  have left := (Drawing.read_skip (seconds longest) s).symm.trans (read_seconds_rest positive s)
  have positions := congrArg WordStream.taken left
  simp only [WordStream.skip] at positions
  omega

theorem replies_cons (request : Request) (later : List Request) (s : WordStream) :
    replies longest (request :: later) s =
      request.reply longest s ::
        replies longest later (s.skip (request.reply longest s).words.length) := by
  have left : ((request.drawing longest).read s).2 =
      s.skip (request.reply longest s).words.length := by
    rw [Drawing.read_skip, Request.reply, Drawing.length_words]
  rw [replies, left]

theorem wordsTaken_cons (reply : Reply) (given : List Reply) :
    wordsTaken (reply :: given) = reply.words.length + wordsTaken given := by
  simp [wordsTaken]

theorem replies_at (requests : List Request) (s : WordStream) (i : Nat) :
    (replies longest requests s)[i]? = requests[i]?.map fun request =>
      request.reply longest (s.skip (wordsTaken ((replies longest requests s).take i))) := by
  induction requests generalizing i s with
  | nil => rfl
  | cons request later ih =>
      rw [replies_cons]
      cases i with
      | zero => rfl
      | succ i =>
          rw [List.getElem?_cons_succ, List.getElem?_cons_succ, List.take_succ_cons, ih,
            wordsTaken_cons]
          simp only [WordStream.skip_skip]

theorem words_of_replies (requests : List Request) (s : WordStream) :
    (replies longest requests s).flatMap Reply.words =
      s.ahead (wordsTaken (replies longest requests s)) := by
  induction requests generalizing s with
  | nil => rfl
  | cons request later ih =>
      have own : (request.reply longest s).words =
          s.ahead (request.reply longest s).words.length := by
        rw [Request.reply, Drawing.length_words, ← Drawing.words_eq]
      rw [replies_cons, List.flatMap_cons, ih, wordsTaken_cons, WordStream.ahead_add, ← own]

/-- Whatever is asked for instead, the words go to the same places. -/
theorem words_replies_congr (requests others : List Request) (s : WordStream)
    (same : others.length = requests.length) :
    (replies longest others s).map Reply.words = (replies longest requests s).map Reply.words := by
  induction requests generalizing others s with
  | nil =>
      rw [List.eq_nil_of_length_eq_zero same]
  | cons request later ih =>
      cases others with
      | nil => cases same
      | cons other others =>
          have stream : (other.reply longest s).words = (request.reply longest s).words := by
            rw [words_reply, words_reply]
          rw [replies_cons, replies_cons, List.map_cons, List.map_cons, stream,
            ih others _ (Nat.succ.inj same)]

theorem wordsTaken_congr {given others : List Reply}
    (same : others.map Reply.words = given.map Reply.words) : wordsTaken others = wordsTaken given := by
  simp only [wordsTaken, List.flatMap_def, same]

theorem wordsTaken_take_congr (requests others : List Request) (s : WordStream) (i : Nat)
    (same : others.length = requests.length) :
    wordsTaken ((replies longest others s).take i) =
      wordsTaken ((replies longest requests s).take i) := by
  apply wordsTaken_congr
  rw [List.map_take, List.map_take, words_replies_congr requests others s same]

theorem replies_congr (requests others : List Request) (s : WordStream) (i : Nat)
    (same : others.length = requests.length) (here : others[i]? = requests[i]?) :
    (replies longest others s)[i]? = (replies longest requests s)[i]? := by
  have before : wordsTaken ((replies longest others s).take i) =
      wordsTaken ((replies longest requests s).take i) :=
    wordsTaken_take_congr requests others s i same
  rw [replies_at, replies_at, here, before]

theorem wait?_eq_none_iff (drawn : Option UInt64) :
    wait? drawn = none ↔ drawn = none ∨ drawn = some 0 := by
  cases drawn with
  | none => simp [wait?]
  | some seconds =>
      by_cases zero : seconds = 0
      · simp [wait?, zero]
      · simp [wait?, zero]

theorem eq_some_of_wait? {drawn : Option UInt64} {wait : UInt64} (waits : wait? drawn = some wait) :
    drawn = some wait ∧ wait ≠ 0 := by
  cases drawn with
  | none => cases waits
  | some seconds =>
      by_cases zero : seconds = 0
      · simp [wait?, zero] at waits
      · simp only [wait?, if_neg zero, Option.some.injEq] at waits
        subst waits
        exact ⟨rfl, zero⟩

theorem drawn_le (positive : longest ≠ 0) {s : WordStream} {drawn : UInt64}
    (answers : (Request.seconds.reply longest s).answer = some drawn) : drawn ≤ longest := by
  have fits := toNat_lt_wordCount longest
  have inRange := scaling_lt (s.word s.taken) (s.word (s.taken + 1)) (longest.toNat + 1)
    (Nat.succ_pos _)
  change ((seconds longest).read s).1 = some drawn at answers
  rw [read_seconds longest positive, Option.some.injEq] at answers
  subst answers
  rw [UInt64.le_iff_toNat_le, UInt64.toNat_ofNat_of_lt']
  · omega
  · change _ < wordCount
    omega

/-- With no wait allowed, nothing is asked of the stream. -/
theorem reply_idle (request : Request) (s : WordStream) : request.reply 0 s = ⟨[], none⟩ := by
  cases request with
  | seconds => rfl
  | wait => rfl

theorem length_words_reply (positive : longest ≠ 0) (request : Request) (s : WordStream) :
    (request.reply longest s).words.length = wordsFor longest (s.word s.taken) := by
  rw [words_reply, Drawing.length_words, wanted_seconds positive]

theorem wordsFor_eq_or (longest first : UInt64) :
    wordsFor longest first = 1 ∨ wordsFor longest first = 2 := by
  unfold wordsFor
  split
  · exact Or.inl rfl
  · exact Or.inr rfl

/-- Every reply is the reply to some request, made of the stream from some point on. -/
theorem reply_of_mem {requests : List Request} {s : WordStream} {reply : Reply}
    (member : reply ∈ replies longest requests s) :
    ∃ (request : Request) (count : Nat), reply = request.reply longest (s.skip count) := by
  obtain ⟨i, here⟩ := List.mem_iff_getElem?.mp member
  rw [replies_at, Option.map_eq_some_iff] at here
  obtain ⟨request, -, rfl⟩ := here
  exact ⟨request, _, rfl⟩

/-- Requests made of one stream, in any order and number.  Each is answered out of the words that
those before it left, and together they take the next words of the stream, none left out.  To ask for
something else in some of the places changes neither the words taken in any place nor the replies in
the others.  A wait is the seconds that would have been drawn in its place, if there are any, and so
between one and the longest.  No words are taken if no wait is allowed; otherwise each request takes
one or two, and one where every word is a fair answer. -/
theorem replies_share_stream (longest : UInt64) (s : WordStream) (requests : List Request) :
    (∀ i : Nat, (replies longest requests s)[i]? = requests[i]?.map fun request =>
      request.reply longest (s.skip (wordsTaken ((replies longest requests s).take i)))) ∧
    (replies longest requests s).flatMap Reply.words =
      s.ahead (wordsTaken (replies longest requests s)) ∧
    (∀ others : List Request, others.length = requests.length →
      (replies longest others s).map Reply.words = (replies longest requests s).map Reply.words ∧
        ∀ i : Nat, others[i]? = requests[i]? →
          (replies longest others s)[i]? = (replies longest requests s)[i]?) ∧
    (∀ i : Nat, requests[i]? = some .wait → ∃ waited drawn,
      (replies longest requests s)[i]? = some waited ∧
      (replies longest (requests.set i .seconds) s)[i]? = some drawn ∧
      (waited.answer = none ↔ drawn.answer = none ∨ drawn.answer = some 0) ∧
      ∀ wait, waited.answer = some wait →
        drawn.answer = some wait ∧ 1 ≤ wait ∧ wait ≤ longest) ∧
    (longest = 0 → ∀ reply ∈ replies longest requests s, reply = ⟨[], none⟩) ∧
    (longest ≠ 0 → ∀ reply ∈ replies longest requests s,
      (reply.words.length = 1 ∨ reply.words.length = 2) ∧
        (longest.toNat = 2 ^ 64 - 1 → reply.words.length = 1)) := by
  refine ⟨replies_at requests s, words_of_replies requests s, ?_, ?_, ?_, ?_⟩
  · intro others same
    exact ⟨words_replies_congr requests others s same,
      fun i here => replies_congr requests others s i same here⟩
  · intro i isWait
    have inside : i < requests.length := (List.getElem?_eq_some_iff.mp isWait).1
    have isDraw : (requests.set i .seconds)[i]? = some .seconds := List.getElem?_set_self inside
    let before := s.skip (wordsTaken ((replies longest requests s).take i))
    have waits : (replies longest requests s)[i]? = some (Request.wait.reply longest before) := by
      rw [replies_at, isWait]
      rfl
    have taken : wordsTaken ((replies longest (requests.set i .seconds) s).take i) =
        wordsTaken ((replies longest requests s).take i) :=
      wordsTaken_take_congr _ _ s i (List.length_set ..)
    have draws : (replies longest (requests.set i .seconds) s)[i]? =
        some (Request.seconds.reply longest before) := by
      rw [replies_at, isDraw, taken]
      rfl
    refine ⟨_, _, waits, draws, ?_, ?_⟩
    · rw [answer_wait]
      exact wait?_eq_none_iff _
    · intro wait answers
      rw [answer_wait] at answers
      obtain ⟨drawn, nonzero⟩ := eq_some_of_wait? answers
      have positive : longest ≠ 0 := by
        rintro rfl
        rw [reply_idle] at drawn
        cases drawn
      refine ⟨drawn, ?_, drawn_le positive drawn⟩
      rw [UInt64.le_iff_toNat_le]
      exact Nat.pos_of_ne_zero fun none => nonzero (UInt64.toNat_inj.mp none)
  · rintro rfl reply member
    obtain ⟨request, count, rfl⟩ := reply_of_mem member
    exact reply_idle request _
  · intro positive reply member
    obtain ⟨request, count, rfl⟩ := reply_of_mem member
    rw [length_words_reply positive]
    refine ⟨wordsFor_eq_or _ _, fun full => ?_⟩
    exact if_pos (Or.inl full)

end Delay

end Replug
