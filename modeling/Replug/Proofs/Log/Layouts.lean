import Replug.Log.Filter

/-!
# The parts of a directive

A directive is a target, or brackets, or both in this order, and then perhaps an equals sign and a
level.  This is said here without the places at which the parts are found: every directive that is
put together from parts is laid out as they lie in it, and nothing else is laid out as a whole.  The
places are counted in bytes, so that where a part begins is the length of what stands before it.
-/

set_option autoImplicit false

namespace Replug.Log

/-! ## Places -/

def byteLength : List Char → Nat
  | [] => 0
  | c :: cs => c.utf8Size + byteLength cs

section Places

variable {front back text rest signs : List Char} {sign : Char} {n place stop : Nat}

@[simp] theorem byteLength_nil : byteLength [] = 0 := rfl

theorem byteLength_append : byteLength (front ++ back) = byteLength front + byteLength back := by
  induction front with
  | nil => simp
  | cons c cs ih => simp [byteLength, ih, Nat.add_assoc]

theorem byteLength_pos (filled : text ≠ []) : 0 < byteLength text := by
  obtain ⟨c, cs, rfl⟩ := List.exists_cons_of_ne_nil filled
  exact Nat.add_pos_left c.utf8Size_pos _

theorem cutAfter?_zero (text : List Char) : cutAfter? 0 text = some ([], text) := by
  cases text <;> rfl

theorem cutAfter?_append (front back : List Char) :
    cutAfter? (byteLength front) (front ++ back) = some (front, back) := by
  induction front with
  | nil => exact cutAfter?_zero back
  | cons c cs ih =>
      obtain ⟨n, length⟩ : ∃ n, byteLength (c :: cs) = n + 1 :=
        Nat.exists_eq_add_one.mpr (byteLength_pos (by simp))
      have inside : ¬ n + 1 < c.utf8Size := by
        rw [← length, byteLength]
        omega
      have left : n + 1 - c.utf8Size = byteLength cs := by
        rw [← length, byteLength, Nat.add_sub_cancel_left]
      simp [length, cutAfter?, inside, left, ih]

theorem cutAfter?_eq_some_iff :
    cutAfter? n text = some (front, back) ↔ text = front ++ back ∧ byteLength front = n := by
  constructor
  · intro cut
    fun_induction cutAfter? n text generalizing front with
    | case1 cs =>
        cases cut
        exact ⟨rfl, rfl⟩
    | case2 => cases cut
    | case3 => cases cut
    | case4 n c cs fits ih =>
        obtain ⟨⟨front', back'⟩, cut', same⟩ := Option.map_eq_some_iff.mp cut
        cases same
        obtain ⟨rfl, length⟩ := ih cut'
        refine ⟨rfl, ?_⟩
        rw [byteLength, length]
        omega
  · rintro ⟨rfl, rfl⟩
    exact cutAfter?_append front back

theorem signFrom?_eq_none_iff : signFrom? signs place text = none ↔ ∀ c ∈ text, c ∉ signs := by
  induction text generalizing place with
  | nil => simp [signFrom?]
  | cons c cs ih =>
      by_cases isSign : c ∈ signs
      · simp [signFrom?, isSign]
      · simp [signFrom?, isSign, ih]

theorem signFrom?_eq_some_iff : signFrom? signs place text = some (stop, sign, rest) ↔
    ∃ front, text = front ++ sign :: rest ∧ (∀ c ∈ front, c ∉ signs) ∧ sign ∈ signs ∧
      stop = place + byteLength front := by
  induction text generalizing place with
  | nil => simp [signFrom?]
  | cons c cs ih =>
      by_cases isSign : c ∈ signs
      · have found : signFrom? signs place (c :: cs) = some (place, c, cs) := by
          simp [signFrom?, isSign]
        rw [found]
        constructor
        · intro same
          cases same
          exact ⟨[], rfl, by simp, isSign, rfl⟩
        · rintro ⟨front, split, noSign, -, rfl⟩
          cases front with
          | nil =>
              cases split
              rfl
          | cons d more =>
              cases split
              exact absurd isSign (noSign c List.mem_cons_self)
      · have passed : signFrom? signs place (c :: cs) = signFrom? signs (place + c.utf8Size) cs := by
          simp [signFrom?, isSign]
        rw [passed, ih]
        constructor
        · rintro ⟨front, rfl, noSign, known, rfl⟩
          refine ⟨c :: front, rfl, ?_, known, ?_⟩
          · exact List.forall_mem_cons.mpr ⟨isSign, noSign⟩
          · simp [byteLength, Nat.add_assoc]
        · rintro ⟨front, split, noSign, known, rfl⟩
          cases front with
          | nil =>
              cases split
              exact absurd known isSign
          | cons d more =>
              cases split
              exact ⟨more, rfl, fun e member => noSign e (List.mem_cons_of_mem _ member), known,
                by simp [byteLength, Nat.add_assoc]⟩

end Places

/-! ## Spelling a directive -/

inductive IsTarget : List Char → Prop
  | intro {c : Char} {cs : List Char} (starts : mayStart c = true)
    (inside : ∀ d ∈ c :: cs, d ∉ ['=', '[']) : IsTarget (c :: cs)

/-- The parts of a directive without the signs around them: a target; brackets, which name a span of
work and perhaps a field; and a level. -/
structure Spelling where
  target : Option (List Char)
  brackets : Option (List Char × Option (List Char))
  level : Option (List Char)

namespace Spelling

def bracketText : Option (List Char × Option (List Char)) → List Char
  | none => []
  | some (name, none) => '[' :: (name ++ [']'])
  | some (name, some field) => '[' :: (name ++ '\x7b' :: (field ++ ['\x7d', ']']))

def levelText : Option (List Char) → List Char
  | none => []
  | some level => '=' :: level

def beforeLevel (s : Spelling) : List Char := s.target.getD [] ++ bracketText s.brackets

def text (s : Spelling) : List Char := s.beforeLevel ++ levelText s.level

/-- No part of a directive has a sign in it that would end it, and a field is not empty. -/
structure Proper (s : Spelling) : Prop where
  starts : s.target = none → s.brackets ≠ none
  target : ∀ target, s.target = some target → IsTarget target
  name : ∀ name field, s.brackets = some (name, field) → ∀ c ∈ name, c ∉ [']', '\x7b']
  field : ∀ name field, s.brackets = some (name, some field) →
    field ≠ [] ∧ ∀ c ∈ field, c ∉ ['\x7d']

def Single (s : Spelling) : Prop := s.brackets = none ∧ s.level = none

def beforeName (s : Spelling) : List Char := s.target.getD [] ++ ['[']

def beforeField (s : Spelling) (name : List Char) : List Char := s.beforeName ++ (name ++ ['\x7b'])

def layout (s : Spelling) : Layout where
  target := if s.brackets.isNone && s.level.isNone then none else s.target.map byteLength
  span := s.brackets.map fun (name, _) =>
    (byteLength s.beforeName, byteLength s.beforeName + byteLength name)
  field := s.brackets.bind fun (name, field) => field.map fun field =>
    (byteLength (s.beforeField name), byteLength (s.beforeField name) + byteLength field)
  level := s.level.map fun _ => byteLength s.beforeLevel + 1
  closed := true

end Spelling

/-! ## Laying out what is spelled -/

namespace Layout

section Parts

variable {name field after : List Char} {level : Option (List Char)} {start place : Nat}

theorem withLevel_levelText (l : Layout) (place : Nat) (level : Option (List Char)) :
    l.withLevel place (Spelling.levelText level) =
      { l with level := (level.map fun _ => place + 1).or l.level, closed := true } := by
  cases level <;> simp [Spelling.levelText, withLevel]

theorem withField_of_named (l : Layout) (start : Nat) (named : field ≠ [])
    (inside : ∀ c ∈ field, c ∉ ['\x7d']) (after : List Char) :
    l.withField start (field ++ '\x7d' :: ']' :: after) =
      { l with field := some (start, start + byteLength field) }.withLevel
        (start + byteLength field + 2) after := by
  have found : signFrom? ['\x7d'] start (field ++ '\x7d' :: ']' :: after) =
      some (start + byteLength field, '\x7d', ']' :: after) :=
    signFrom?_eq_some_iff.mpr ⟨field, rfl, inside, List.mem_singleton_self _, rfl⟩
  have longer := byteLength_pos named
  simp only [withField, found, if_neg (show start ≠ start + byteLength field by omega)]

theorem withSpan_of_sign {sign : Char} (l : Layout) (start : Nat)
    (inside : ∀ c ∈ name, c ∉ [']', '\x7b']) (isSign : sign ∈ [']', '\x7b']) (after : List Char) :
    l.withSpan start (name ++ sign :: after) =
      if sign = ']' then
        { l with span := some (start, start + byteLength name) }.withLevel
          (start + byteLength name + 1) after
      else { l with span := some (start, start + byteLength name) }.withField
        (start + byteLength name + 1) after := by
  have found : signFrom? [']', '\x7b'] start (name ++ sign :: after) =
      some (start + byteLength name, sign, after) :=
    signFrom?_eq_some_iff.mpr ⟨name, rfl, inside, isSign, rfl⟩
  simp only [withSpan, found]

end Parts

section Whole

variable {s : Spelling} {text target name field after : List Char} {sign : Char}

theorem ne_bracket {c : Char} {cs : List Char} (inside : ∀ d ∈ c :: cs, d ∉ ['=', '[']) :
    c ≠ '[' := by
  rintro rfl
  exact inside '[' List.mem_cons_self (by decide)

theorem of_target (isTarget : IsTarget target) : of target = ⟨none, none, none, none, true⟩ := by
  obtain @⟨c, cs, starts, inside⟩ := isTarget
  simp [of, ne_bracket inside, starts, signFrom?_eq_none_iff.mpr inside]

theorem of_targetSign (isTarget : IsTarget target) (isSign : sign ∈ ['=', '[']) (after : List Char) :
    of (target ++ sign :: after) =
      if sign = '=' then
        ⟨some (byteLength target), none, none, some (byteLength target + 1), true⟩
      else
        (Layout.mk (some (byteLength target)) none none none false).withSpan (byteLength target + 1)
          after := by
  obtain @⟨c, cs, starts, inside⟩ := isTarget
  have found : signFrom? ['=', '['] 0 (c :: (cs ++ sign :: after)) =
      some (byteLength (c :: cs), sign, after) :=
    signFrom?_eq_some_iff.mpr ⟨c :: cs, rfl, inside, isSign, by rw [Nat.zero_add]⟩
  simp [of, ne_bracket inside, starts, found]

/-- How a text is laid out in which brackets follow on a target, or on nothing. -/
theorem of_bracket (isTarget : ∀ t, s.target = some t → IsTarget t) (after : List Char) :
    of (s.beforeName ++ after) =
      (Layout.mk (s.target.map byteLength) none none none false).withSpan (byteLength s.beforeName)
        after := by
  cases given : s.target with
  | none => simp [Spelling.beforeName, given, of, byteLength, Char.utf8Size]
  | some target =>
      have isSign : '[' ∈ ['=', '['] := by decide
      have laid := of_targetSign (isTarget target given) isSign after
      simpa [Spelling.beforeName, given, byteLength_append, byteLength, Char.utf8Size] using laid

/-- A directive that is put together from parts is laid out as they lie in it. -/
theorem of_text (proper : s.Proper) : of s.text = s.layout := by
  obtain ⟨target, brackets, level⟩ := s
  cases brackets with
  | none =>
      obtain ⟨t, rfl⟩ := Option.ne_none_iff_exists'.mp fun none => proper.starts none rfl
      have isTarget := proper.target t rfl
      cases level with
      | none => simpa [Spelling.text, Spelling.beforeLevel, Spelling.bracketText,
          Spelling.levelText, Spelling.layout] using of_target isTarget
      | some level =>
          have isSign : '=' ∈ ['=', '['] := by decide
          have laid := of_targetSign isTarget isSign level
          rw [if_pos rfl] at laid
          simpa [Spelling.text, Spelling.beforeLevel, Spelling.bracketText, Spelling.levelText,
            Spelling.layout] using laid
  | some brackets =>
      obtain ⟨name, field⟩ := brackets
      have inside := proper.name name field rfl
      have laid := of_bracket proper.target
      cases field with
      | none =>
          have bracketed := laid (name ++ ']' :: Spelling.levelText level)
          rw [withSpan_of_sign _ _ inside (by decide), if_pos rfl, withLevel_levelText] at bracketed
          simpa [Spelling.text, Spelling.beforeLevel, Spelling.bracketText, Spelling.beforeName,
            Spelling.layout, byteLength_append, byteLength, Char.utf8Size, Nat.add_assoc]
            using bracketed
      | some field =>
          obtain ⟨named, closes⟩ := proper.field name field rfl
          have bracketed := laid (name ++ '\x7b' :: (field ++ '\x7d' :: ']' :: Spelling.levelText level))
          rw [withSpan_of_sign _ _ inside (by decide), if_neg (by decide),
            withField_of_named _ _ named closes, withLevel_levelText] at bracketed
          simpa [Spelling.text, Spelling.beforeLevel, Spelling.bracketText, Spelling.beforeName,
            Spelling.beforeField, Spelling.layout, byteLength_append, byteLength, Char.utf8Size,
            Nat.add_assoc] using bracketed

end Whole

/-! ## Spelling what is laid out -/

section Closed

variable {l : Layout} {text : List Char} {place : Nat}

theorem of_withLevel_closed (opened : l.closed = false)
    (closed : (l.withLevel place text).closed = true) :
    ∃ level, text = Spelling.levelText level := by
  cases text with
  | nil => exact ⟨none, rfl⟩
  | cons c cs =>
      by_cases isEquals : c = '='
      · exact ⟨some cs, by rw [isEquals]; rfl⟩
      · simp [withLevel, isEquals, opened] at closed

theorem of_withField_closed (opened : l.closed = false)
    (closed : (l.withField place text).closed = true) :
    ∃ field level, (field ≠ [] ∧ ∀ c ∈ field, c ∉ ['\x7d']) ∧
      text = field ++ '\x7d' :: ']' :: Spelling.levelText level := by
  unfold withField at closed
  split at closed
  · simp [opened] at closed
  · next stop sign rest found =>
      obtain ⟨field, rfl, inside, isSign, rfl⟩ := signFrom?_eq_some_iff.mp found
      obtain rfl : sign = '\x7d' := List.mem_singleton.mp isSign
      dsimp only at closed
      split at closed
      · next after =>
          split at closed
          · simp [opened] at closed
          · next notEmpty =>
              have named : field ≠ [] := by
                rintro rfl
                exact notEmpty rfl
              obtain ⟨level, rfl⟩ := of_withLevel_closed (by simp [opened]) closed
              exact ⟨field, level, ⟨named, inside⟩, rfl⟩
      · simp [opened] at closed

theorem of_withSpan_closed (opened : l.closed = false)
    (closed : (l.withSpan place text).closed = true) :
    ∃ name field level, (∀ c ∈ name, c ∉ [']', '\x7b']) ∧
      (∀ f, field = some f → f ≠ [] ∧ ∀ c ∈ f, c ∉ ['\x7d']) ∧
      '[' :: text = Spelling.bracketText (some (name, field)) ++ Spelling.levelText level := by
  unfold withSpan at closed
  split at closed
  · simp [opened] at closed
  · next stop sign rest found =>
      obtain ⟨name, rfl, inside, isSign, rfl⟩ := signFrom?_eq_some_iff.mp found
      dsimp only at closed
      split at closed
      · next closing =>
          subst closing
          obtain ⟨level, rfl⟩ := of_withLevel_closed (by simp [opened]) closed
          exact ⟨name, none, level, inside, by simp, by simp [Spelling.bracketText]⟩
      · next notClosing =>
          obtain rfl : sign = '\x7b' := by simpa [notClosing] using isSign
          obtain ⟨field, level, proper, rfl⟩ := of_withField_closed (by simp [opened]) closed
          refine ⟨name, some field, level, inside, ?_, by simp [Spelling.bracketText]⟩
          rintro f ⟨rfl⟩
          exact proper

theorem exists_target {c sign : Char} {cs after : List Char} {stop : Nat} (starts : mayStart c = true)
    (found : signFrom? ['=', '['] 0 (c :: cs) = some (stop, sign, after)) (notBracket : c ≠ '[') :
    ∃ target, IsTarget target ∧ c :: cs = target ++ sign :: after ∧ sign ∈ ['=', '['] := by
  obtain ⟨front, split, inside, isSign, -⟩ := signFrom?_eq_some_iff.mp found
  cases front with
  | nil =>
      -- The sign in front would be an equals sign, which starts nothing.
      cases split
      obtain rfl : c = '=' := by simpa [notBracket] using isSign
      exact absurd starts (by decide)
  | cons d target =>
      cases split
      exact ⟨c :: target, .intro starts inside, rfl, isSign⟩

/-- A directive that is laid out as a whole is put together from parts. -/
theorem exists_spelling (closed : (of text).closed = true) :
    ∃ s : Spelling, s.Proper ∧ s.text = text := by
  have bracketed (target : Option (List Char)) (isTarget : ∀ t, target = some t → IsTarget t)
      {end? : Option Nat} {place : Nat} {after : List Char}
      (closed : ((Layout.mk end? none none none false).withSpan place after).closed = true) :
      ∃ s : Spelling, s.Proper ∧ s.text = target.getD [] ++ '[' :: after := by
    obtain ⟨name, field, level, inside, named, split⟩ := of_withSpan_closed rfl closed
    refine ⟨⟨target, some (name, field), level⟩, ⟨by simp, isTarget, ?_, ?_⟩, ?_⟩
    · rintro _ _ ⟨⟩
      exact inside
    · rintro _ f ⟨⟩
      exact named f rfl
    · simp [Spelling.text, Spelling.beforeLevel, split]
  have plain (target : List Char) (isTarget : IsTarget target) (level : Option (List Char)) :
      ∃ s : Spelling, s.Proper ∧ s.text = target ++ Spelling.levelText level := by
    refine ⟨⟨some target, none, level⟩, ⟨by simp, ?_, by simp, by simp⟩, ?_⟩
    · rintro t ⟨rfl⟩
      exact isTarget
    · simp [Spelling.text, Spelling.beforeLevel, Spelling.bracketText]
  cases text with
  | nil => simp [of] at closed
  | cons c cs =>
      simp only [of] at closed
      split at closed
      · next isBracket =>
          subst isBracket
          exact bracketed none (by simp) closed
      · next notBracket =>
          split at closed
          · simp at closed
          · next starts =>
              have starts : mayStart c = true := by simpa using starts
              split at closed
              · next found =>
                  simpa [Spelling.levelText] using
                    plain (c :: cs) (.intro starts (signFrom?_eq_none_iff.mp found)) none
              · next stop sign after found =>
                  obtain ⟨target, isTarget, split, isSign⟩ := exists_target starts found notBracket
                  rw [split]
                  split at closed
                  · next isEquals =>
                      subst isEquals
                      exact plain target isTarget (some after)
                  · next notEquals =>
                      obtain rfl : sign = '[' := by simpa [notEquals] using isSign
                      refine bracketed (some target) ?_ closed
                      rintro t ⟨rfl⟩
                      exact isTarget

end Closed

end Layout

end Replug.Log
