import Replug.Proofs.Log.Directives

/-!
# Which texts the reader of filters does not survive

The reader breaks off when it would have to cut inside a character.  The places at which parts are
found lie between the characters of a piece without the white space around it, and so they do in the
whole piece, unless white space stands in front of it and not all of its characters are of one byte.
-/

set_option autoImplicit false

namespace Replug.Log

/-! ## Where parts are found -/

/-- Two places, in their order, that lie between the characters of a text. -/
def Apart (text : List Char) (start stop : Nat) : Prop :=
  ∃ front part rest, text = front ++ (part ++ rest) ∧ byteLength front = start ∧
    byteLength (front ++ part) = stop

structure Layout.Fits (text : List Char) (l : Layout) : Prop where
  target : ∀ stop, l.target = some stop → Apart text 0 stop
  span : ∀ place, l.span = some place → Apart text place.1 place.2
  field : ∀ place, l.field = some place → Apart text place.1 place.2
  level : ∀ start, l.level = some start → ∃ stop, Apart text start stop

section Places

variable {text rest : List Char} {l : Layout} {place : Nat}

theorem Layout.fits_none (text : List Char) (closed : Bool) :
    Layout.Fits text ⟨none, none, none, none, closed⟩ :=
  ⟨by simp, by simp, by simp, by simp⟩

theorem Layout.Fits.withLevel (fits : l.Fits text) (front : List Char)
    (split : text = front ++ rest) (here : place = byteLength front) : (l.withLevel place rest).Fits text := by
  cases rest with
  | nil => exact ⟨fits.target, fits.span, fits.field, fits.level⟩
  | cons c cs =>
      by_cases isEquals : c = '='
      · subst isEquals
        simp only [Layout.withLevel, if_true]
        refine ⟨fits.target, fits.span, fits.field, ?_⟩
        rintro _ ⟨rfl⟩
        refine ⟨_, front ++ ['='], cs, [], by simp [split], ?_, rfl⟩
        rw [byteLength_append, here]
        rfl
      · simpa [Layout.withLevel, isEquals] using fits

theorem Layout.Fits.withField (fits : l.Fits text) (front : List Char)
    (split : text = front ++ rest) (here : place = byteLength front) : (l.withField place rest).Fits text := by
  unfold Layout.withField
  split
  · exact fits
  · next stop sign after found =>
      obtain ⟨field, rfl, -, isSign, rfl⟩ := signFrom?_eq_some_iff.mp found
      obtain rfl : sign = '\x7d' := List.mem_singleton.mp isSign
      have more : Layout.Fits text { l with field := some (place, place + byteLength field) } := by
        refine ⟨fits.target, fits.span, ?_, fits.level⟩
        rintro _ ⟨rfl⟩
        exact ⟨front, field, _, split, here.symm, by rw [byteLength_append, here]⟩
      dsimp only
      split
      · next after =>
          split
          · exact more
          · refine more.withLevel (front ++ (field ++ ['\x7d', ']'])) ?_ ?_
            · simp [split]
            · simp [byteLength_append, byteLength, Char.utf8Size, here, Nat.add_assoc]
      · exact more

theorem Layout.Fits.withSpan (fits : l.Fits text) (front : List Char)
    (split : text = front ++ rest) (here : place = byteLength front) : (l.withSpan place rest).Fits text := by
  unfold Layout.withSpan
  split
  · exact fits
  · next stop sign after found =>
      obtain ⟨name, rfl, -, isSign, rfl⟩ := signFrom?_eq_some_iff.mp found
      have more : Layout.Fits text { l with span := some (place, place + byteLength name) } := by
        refine ⟨fits.target, ?_, fits.field, fits.level⟩
        rintro _ ⟨rfl⟩
        exact ⟨front, name, _, split, here.symm, by rw [byteLength_append, here]⟩
      have behind : text = (front ++ (name ++ [sign])) ++ after := by simp [split]
      have there : place + byteLength name + 1 = byteLength (front ++ (name ++ [sign])) := by
        have short : sign.utf8Size = 1 := by
          have isEither : sign = ']' ∨ sign = '\x7b' := by simpa using isSign
          rcases isEither with rfl | rfl <;> rfl
        simp [byteLength_append, byteLength, short, here, Nat.add_assoc]
      dsimp only
      split
      · exact more.withLevel _ behind there
      · exact more.withField _ behind there

theorem Layout.of_fits (text : List Char) : (Layout.of text).Fits text := by
  cases text with
  | nil => exact Layout.fits_none [] false
  | cons c cs =>
      simp only [Layout.of]
      split
      · next isBracket =>
          subst isBracket
          exact (Layout.fits_none _ false).withSpan ['['] rfl rfl
      · split
        · exact Layout.fits_none _ false
        · split
          · exact Layout.fits_none _ true
          · next stop sign after found =>
              obtain ⟨target, split, -, isSign, rfl⟩ := signFrom?_eq_some_iff.mp found
              have fits : Layout.Fits (c :: cs)
                  ⟨some (0 + byteLength target), none, none, none, false⟩ := by
                refine ⟨?_, by simp, by simp, by simp⟩
                rintro _ ⟨rfl⟩
                exact ⟨[], target, _, split, rfl, by simp⟩
              have behind : c :: cs = (target ++ [sign]) ++ after := by simp [split]
              have isEither : sign = '=' ∨ sign = '[' := by simpa using isSign
              have there : 0 + byteLength target + 1 = byteLength (target ++ [sign]) := by
                rcases isEither with rfl | rfl <;> simp [byteLength_append, byteLength, Char.utf8Size]
              split
              · refine ⟨fits.target, by simp, by simp, ?_⟩
                rintro _ ⟨rfl⟩
                exact ⟨_, target ++ [sign], after, [], by simp [split], there.symm, rfl⟩
              · exact fits.withSpan _ behind there

end Places

/-! ## What is cut out of a whole piece -/

section Pieces

variable {text : List Char} {start stop : Nat}

theorem Apart.partOf (apart : Apart text start stop) :
    ∃ cut, Log.partOf text (start, stop) = .ok cut := by
  obtain ⟨front, part, rest, split, rfl, rfl⟩ := apart
  rw [byteLength_append]
  exact ⟨part, partOf_eq_ok_iff.mpr ⟨front, rest, split, rfl, rfl⟩⟩

theorem Apart.endOf (apart : Apart text start stop) : ∃ cut, Log.endOf text start = .ok cut := by
  obtain ⟨front, part, rest, split, rfl, -⟩ := apart
  exact ⟨part ++ rest, endOf_eq_ok_iff.mpr ⟨front, split, rfl⟩⟩

theorem trimmed_split (text : List Char) :
    ∃ trail, text = text.takeWhile Text.isBlank ++ (Text.trimmed text ++ trail) := by
  refine ⟨((text.dropWhile Text.isBlank).reverse.takeWhile Text.isBlank).reverse, ?_⟩
  rw [Text.trimmed, ← List.reverse_append, List.takeWhile_append_dropWhile, List.reverse_reverse,
    List.takeWhile_append_dropWhile]

theorem byteLength_of_narrow (narrow : ∀ c ∈ text, c.utf8Size = 1) :
    byteLength text = text.length := by
  induction text with
  | nil => rfl
  | cons c cs ih =>
      obtain ⟨one, more⟩ := List.forall_mem_cons.mp narrow
      rw [byteLength, one, ih more, List.length_cons, Nat.add_comm]

/-- Any two places in order lie between the characters of a text whose characters are of one byte. -/
theorem apart_of_narrow (narrow : ∀ c ∈ text, c.utf8Size = 1) (inOrder : start ≤ stop)
    (inside : stop ≤ text.length) : Apart text start stop := by
  refine ⟨text.take start, (text.drop start).take (stop - start), (text.drop start).drop (stop - start),
    by rw [List.take_append_drop, List.take_append_drop], ?_, ?_⟩
  · rw [byteLength_of_narrow fun c member => narrow c (List.mem_of_mem_take member), List.length_take]
    omega
  · rw [byteLength_append,
      byteLength_of_narrow fun c member => narrow c (List.mem_of_mem_take member),
      byteLength_of_narrow fun c member =>
        narrow c (List.mem_of_mem_drop (List.mem_of_mem_take member))]
    simp only [List.length_take, List.length_drop]
    omega

def Indented (text : List Char) : Prop :=
  (∃ c cs, text = c :: cs ∧ Text.isBlank c = true) ∧ ∃ c ∈ text, 1 < c.utf8Size

/-- Places between the characters of a text without the white space around it lie between those of
the whole. -/
theorem Apart.of_trimmed (apart : Apart (Text.trimmed text) start stop) (flush : ¬ Indented text) :
    Apart text start stop := by
  obtain ⟨front, part, rest, split, rfl, rfl⟩ := apart
  obtain ⟨trail, whole⟩ := trimmed_split text
  rcases Classical.em (text.takeWhile Text.isBlank = []) with none | some
  · refine ⟨front, part, rest ++ trail, ?_, rfl, rfl⟩
    rw [whole, none, split]
    simp
  · have blank : ∃ c cs, text = c :: cs ∧ Text.isBlank c = true := by
      cases text with
      | nil => exact absurd rfl some
      | cons c cs =>
          cases isBlank : Text.isBlank c with
          | true => exact ⟨c, cs, rfl, isBlank⟩
          | false => simp [isBlank] at some
    have narrow : ∀ c ∈ text, c.utf8Size = 1 := by
      intro c member
      have one := c.utf8Size_pos
      refine Nat.le_antisymm (Nat.le_of_not_lt fun wide => flush ⟨blank, c, member, wide⟩) one
    rw [split] at whole
    have lengths := congrArg List.length whole
    have narrowPart : ∀ c ∈ front ++ part, c.utf8Size = 1 := by
      intro c member
      refine narrow c ?_
      rw [whole]
      rcases List.mem_append.mp member with inFront | inPart
      · simp [inFront]
      · simp [inPart]
    have total := byteLength_of_narrow narrowPart
    have first := byteLength_of_narrow fun c member =>
      narrowPart c (List.mem_append_left part member)
    simp only [List.length_append] at lengths total
    refine apart_of_narrow narrow ?_ ?_
    · rw [byteLength_append]
      exact Nat.le_add_right _ _
    · omega

theorem Layout.Fits.of_trimmed {l : Layout} (fits : l.Fits (Text.trimmed text))
    (flush : ¬ Indented text) : l.Fits text where
  target stop given := (fits.target stop given).of_trimmed flush
  span place given := (fits.span place given).of_trimmed flush
  field place given := (fits.field place given).of_trimmed flush
  level start given :=
    (fits.level start given).imp fun _ apart => apart.of_trimmed flush

end Pieces

/-! ## Breaking off -/

section Breaks

variable {ε α β : Type} {patterns : Patterns} {text : List Char} {l : Layout}

theorem bind_eq_error_iff {x : Except ε α} {f : α → Except ε β} {fault : ε} :
    (x >>= f) = .error fault ↔ x = .error fault ∨ ∃ a, x = .ok a ∧ f a = .error fault := by
  cases x <;> simp [bind, Except.bind]

theorem optionMapM_eq_error_iff {o : Option α} {f : α → Except ε β} {fault : ε} :
    o.mapM f = .error fault ↔ ∃ a, o = some a ∧ f a = .error fault := by
  cases o with
  | none => simp [pure, Except.pure]
  | some a => cases answer : f a <;> simp [answer, Functor.map, Except.map]

theorem listMapM_eq_error {xs : List α} {f : α → Except ε β} {fault : ε}
    (fails : xs.mapM f = .error fault) : ∃ x ∈ xs, f x = .error fault := by
  induction xs with
  | nil => simp [pure, Except.pure] at fails
  | cons x xs ih =>
      rw [List.mapM_cons, bind_eq_error_iff] at fails
      rcases fails with here | ⟨y, -, later⟩
      · exact ⟨x, List.mem_cons_self, here⟩
      · rw [bind_eq_error_iff] at later
        rcases later with fails | ⟨ys, -, returned⟩
        · obtain ⟨z, member, there⟩ := ih fails
          exact ⟨z, List.mem_cons_of_mem x member, there⟩
        · cases returned

theorem FieldDemand.parse_survives : FieldDemand.parse patterns text ≠ .error .uncut := by
  unfold FieldDemand.parse
  split
  · simp
  · simp
  · split <;> simp

theorem parseEnd_survives : Threshold.parseEnd text ≠ .error .uncut := by
  unfold Threshold.parseEnd
  split
  · simp
  · split <;> simp

theorem ofParts_survives (fits : l.Fits text) :
    Directive.ofParts patterns text l ≠ .error .uncut := by
  intro breaks
  simp only [Directive.ofParts, bind_eq_error_iff, optionMapM_eq_error_iff] at breaks
  rcases breaks with ⟨stop, given, fails⟩ | ⟨_, -, ⟨place, given, fails⟩ | ⟨_, -,
    ⟨place, given, fails⟩ | ⟨_, -, breaks⟩⟩⟩
  · obtain ⟨cut, found⟩ := (fits.target stop given).partOf
    rw [found] at fails
    cases fails
  · obtain ⟨cut, found⟩ := (fits.span place given).partOf
    rw [found] at fails
    cases fails
  · obtain ⟨cut, found⟩ := (fits.field place given).partOf
    rcases fails with fails | ⟨_, -, fails⟩
    · rw [found] at fails
      cases fails
    · exact FieldDemand.parse_survives fails
  · split at breaks
    · simp only [bind_eq_error_iff, optionMapM_eq_error_iff] at breaks
      rcases breaks with ⟨start, given, fails⟩ | ⟨_, -, fails | ⟨_, -, returned⟩⟩
      · obtain ⟨stop, apart⟩ := fits.level start given
        obtain ⟨cut, found⟩ := apart.endOf
        rw [found] at fails
        cases fails
      · exact parseEnd_survives fails
      · cases returned
    · cases breaks

theorem Directive.parse_survives (flush : ¬ Indented text) :
    Directive.parse patterns text ≠ .error .uncut := by
  cases single : (Layout.of (Text.trimmed text)).isSingle with
  | true =>
      simp only [Directive.parse, single, if_true]
      split <;> simp
  | false =>
      simp only [Directive.parse, single]
      exact ofParts_survives ((Layout.of_fits _).of_trimmed flush)

/-- Where the reader of filters breaks off, white space stands in front of some piece whose characters
are not all of one byte. -/
theorem Filter.indented_of_parse {text : String}
    (breaks : Filter.parse patterns text = .error .uncut) :
    ∃ piece ∈ text.toList.splitOn ',', Indented piece := by
  rw [Filter.parse, bind_eq_error_iff] at breaks
  rcases breaks with breaks | ⟨directives, -, returned⟩
  · obtain ⟨piece, member, fails⟩ := listMapM_eq_error breaks
    rw [pieces_eq_splitOn] at member
    refine ⟨piece, (List.mem_filter.mp member).1, ?_⟩
    by_cases indented : Indented piece
    · exact indented
    · exact absurd fails (Directive.parse_survives indented)
  · cases returned

end Breaks

end Replug.Log
