import Replug.Proofs.CommandLine.Drafts

/-!
# Arguments that spell settings

A setting with its value is spelled by one argument or by two.  However settings are spelled and
wherever among the others each of them stands, reading the arguments amounts to the draft's taking
their values one after the other.

The value of an option that has just been read is still pending, so what a reading amounts to is
the draft after that value too.
-/

set_option autoImplicit false

namespace Replug.CommandLine

variable {setting : Setting} {name : String} {letter : Char} {value : Bytes}
  {tokens rest argv : List Bytes} {items : List (Setting × Bytes)} {d d' : Draft} {p : Progress}

inductive Named : Setting → String → Char → Prop
  | remote : Named .remote "remote" 'r'
  | busId : Named .busId "bus-id" 'b'
  | maxDelay : Named .maxDelay "max-delay" 'd'
  | program : Named .program "program" 'p'
  | config : Named .config "config" 'c'
  | logLevel : Named .logLevel "log-level" 'l'

/-- The arguments by which a setting is given its value.  A value that starts with a dash has to
stand in the same argument as the option. -/
inductive Spells : Setting → Bytes → List Bytes → Prop
  | joined {setting : Setting} {name : String} {letter : Char} {value : Bytes}
    (named : Named setting name letter) :
    Spells setting value [dash :: dash :: (Bytes.ofString name ++ equals :: value)]
  | long {setting : Setting} {name : String} {letter : Char} {value : Bytes}
    (named : Named setting name letter) (bare : value.head? ≠ some dash) :
    Spells setting value [dash :: dash :: Bytes.ofString name, value]
  | short {setting : Setting} {name : String} {letter : Char} {value : Bytes}
    (named : Named setting name letter) (bare : value.head? ≠ some dash) :
    Spells setting value [dash :: Bytes.ofString (String.singleton letter), value]
  | saveConfig : Spells .saveConfig [] [dash :: dash :: Bytes.ofString "save-config"]
  | count {value : Bytes} (bare : value.head? ≠ some dash) : Spells .count value [value]

/-- Arguments that spell settings one after the other. -/
inductive Spelled : List (Setting × Bytes) → List Bytes → Prop
  | nil : Spelled [] []
  | cons {setting : Setting} {value : Bytes} {tokens argv : List Bytes}
    {items : List (Setting × Bytes)} (first : Spells setting value tokens)
    (others : Spelled items argv) : Spelled ((setting, value) :: items) (tokens ++ argv)

/-! ## What the arguments look like -/

theorem Named.noEquals (named : Named setting name letter) : equals ∉ Bytes.ofString name := by
  cases named <;> decide

theorem Named.longMeaning? (named : Named setting name letter) :
    longMeaning? (Bytes.ofString name) = some (.sets setting) := by
  cases named <;> decide

theorem Named.firstLetter? (named : Named setting name letter) :
    firstLetter? (Bytes.ofString (String.singleton letter)) = some (letter, []) := by
  cases named <;> decide

theorem Named.shortMeaning? (named : Named setting name letter) :
    shortMeaning? letter = some (.sets setting) := by
  cases named <;> decide

theorem Named.shape_short (named : Named setting name letter) :
    Shape.of (dash :: Bytes.ofString (String.singleton letter)) =
      .short (Bytes.ofString (String.singleton letter)) := by
  cases named <;> decide

theorem Named.shape_joined (named : Named setting name letter) (value : Bytes) :
    Shape.of (dash :: dash :: (Bytes.ofString name ++ equals :: value)) =
      .long (Bytes.ofString name) (some value) := by
  have differs : ∀ b ∈ Bytes.ofString name, decide (b ≠ equals) = true := by
    intro b member
    exact decide_eq_true (ne_of_mem_of_not_mem member named.noEquals)
  simp only [Shape.of]
  rw [List.takeWhile_append_of_pos differs, List.dropWhile_append_of_pos differs]
  simp

theorem Named.shape_long (named : Named setting name letter) :
    Shape.of (dash :: dash :: Bytes.ofString name) = .long (Bytes.ofString name) none := by
  cases named <;> decide

theorem shape_bare (bare : value.head? ≠ some dash) : Shape.of value = .plain := by
  cases value with
  | nil => rfl
  | cons a more =>
      cases more with
      | nil => rfl
      | cons b rest =>
          have other : a ≠ dash := by simpa using bare
          simp only [Shape.of]
          rw [if_neg other]

theorem shape_saveConfig : Shape.of (dash :: dash :: Bytes.ofString "save-config") =
    .long (Bytes.ofString "save-config") none := by
  decide

/-! ## What one argument does -/

theorem readAll_long {arg : Bytes} {name : Bytes} {value : Option Bytes}
    (shape : Shape.of arg = .long name value) :
    readAll (arg :: rest) p = p.longOption name value >>= readAll rest := by
  rw [readAll, shape]

theorem readAll_short {arg letters : Bytes} (shape : Shape.of arg = .short letters) :
    readAll (arg :: rest) p = p.shortOptions letters >>= readAll rest := by
  rw [readAll, shape]

theorem readAll_plain {arg : Bytes} (shape : Shape.of arg = .plain) :
    readAll (arg :: rest) p = p.plain arg >>= readAll rest := by
  rw [readAll, shape]

theorem settled_bind (next : Progress → Except Refusal Progress) :
    (p.settled >>= next) =
      settle p.draft p.pending >>= fun d => next ⟨d, none, p.counted⟩ := by
  unfold Progress.settled
  cases settle p.draft p.pending <;> rfl

theorem option_value (long : Bool) : p.option (.sets setting) (some value) long =
    settle p.draft p.pending >>= fun d =>
      d.setOnce setting value >>= fun d' => .ok ⟨d', none, p.counted⟩ :=
  settled_bind _

theorem option_saveConfig (long : Bool) : p.option .saveConfig none long =
    settle p.draft p.pending >>= fun d =>
      d.setOnce .saveConfig [] >>= fun d' => .ok ⟨d', none, p.counted⟩ :=
  settled_bind _

theorem option_waiting (long : Bool) : p.option (.sets setting) none long =
    settle p.draft p.pending >>= fun d => .ok ⟨d, some (setting, none), p.counted⟩ :=
  settled_bind _

theorem Named.longOption (named : Named setting name letter) (given : Option Bytes) :
    p.longOption (Bytes.ofString name) given = p.option (.sets setting) given true := by
  unfold Progress.longOption
  rw [named.longMeaning?]

theorem longOption_saveConfig :
    p.longOption (Bytes.ofString "save-config") none = p.option .saveConfig none true := rfl

theorem Named.shortOptions (named : Named setting name letter) :
    p.shortOptions (Bytes.ofString (String.singleton letter)) =
      p.option (.sets setting) none false := by
  unfold Progress.shortOptions
  rw [named.firstLetter?]
  simp only [named.shortMeaning?, attached?]

/-! ## What a reading amounts to -/

def Reaches (argv : List Bytes) (p : Progress) (d' : Draft) : Prop :=
  ∃ q, readAll argv p = .ok q ∧ settle q.draft q.pending = .ok d'

theorem reaches_nil : Reaches [] p d' ↔ settle p.draft p.pending = .ok d' := by
  constructor
  · rintro ⟨q, reads, settles⟩
    cases reads
    exact settles
  · intro settles
    exact ⟨p, rfl, settles⟩

theorem reaches_bind {step : Except Refusal Progress}
    (reads : readAll argv p = step >>= readAll rest) :
    Reaches argv p d' ↔ ∃ q, step = .ok q ∧ Reaches rest q d' := by
  unfold Reaches
  rw [reads]
  simp only [bind_eq_ok_iff]
  constructor
  · rintro ⟨last, ⟨q, stepped, others⟩, settles⟩
    exact ⟨q, stepped, last, others, settles⟩
  · rintro ⟨q, stepped, last, others, settles⟩
    exact ⟨last, ⟨q, stepped, others⟩, settles⟩

/-- No option waits for a value, and once the number of cycles was given the draft has it. -/
structure Progress.Sound (p : Progress) : Prop where
  idle : ∀ setting, p.pending ≠ some (setting, none)
  counted : ∀ d, p.counted = true → settle p.draft p.pending = .ok d → d.has .count = true

theorem Progress.start_sound : Progress.start.Sound where
  idle := by
    intro setting waits
    cases waits
  counted := by
    intro d counted
    cases counted

/-- Wherever these arguments stand, reading them is the draft's taking these values. -/
def AmountsTo (items : List (Setting × Bytes)) (argv : List Bytes) : Prop :=
  ∀ p d', p.Sound →
    (Reaches argv p d' ↔ ∃ d, settle p.draft p.pending = .ok d ∧ TakesAll d items d')

structure Gives (p : Progress) (setting : Setting) (value : Bytes)
    (step : Except Refusal Progress) : Prop where
  draft : ∀ next, (∃ q, step = .ok q ∧ settle q.draft q.pending = .ok next) ↔
    ∃ d, settle p.draft p.pending = .ok d ∧ Takes d setting value next
  idle : ∀ q, step = .ok q → ∀ s, q.pending ≠ some (s, none)
  counted : ∀ q, step = .ok q → q.counted = true → p.counted = true ∨ setting = .count

theorem gives_now : Gives p setting value (settle p.draft p.pending >>= fun d =>
    d.setOnce setting value >>= fun d' => .ok ⟨d', none, p.counted⟩) := by
  have gives (q : Progress) : (settle p.draft p.pending >>= fun d =>
      d.setOnce setting value >>= fun d' => .ok ⟨d', none, p.counted⟩) = .ok q ↔
        ∃ d d', settle p.draft p.pending = .ok d ∧ Takes d setting value d' ∧
          q = ⟨d', none, p.counted⟩ := by
    simp only [bind_eq_ok_iff, setOnce_eq_ok_iff, Except.ok.injEq, exists_and_left, @eq_comm _ _ q]
  constructor
  · intro next
    constructor
    · rintro ⟨q, steps, settles⟩
      obtain ⟨d, d', before, takes, rfl⟩ := (gives q).mp steps
      cases settles
      exact ⟨d, before, takes⟩
    · rintro ⟨d, before, takes⟩
      exact ⟨_, (gives _).mpr ⟨d, next, before, takes, rfl⟩, rfl⟩
  · intro q steps s waits
    obtain ⟨d, d', before, takes, rfl⟩ := (gives q).mp steps
    cases waits
  · intro q steps counted
    obtain ⟨d, d', before, takes, rfl⟩ := (gives q).mp steps
    exact Or.inl counted

theorem gives_later (counted : Bool)
    (counts : counted = true → p.counted = true ∨ setting = .count) :
    Gives p setting value (settle p.draft p.pending >>= fun d =>
      .ok ⟨d, some (setting, some value), counted⟩) := by
  have gives (q : Progress) : (settle p.draft p.pending >>= fun d =>
      .ok ⟨d, some (setting, some value), counted⟩) = .ok q ↔
        ∃ d, settle p.draft p.pending = .ok d ∧ q = ⟨d, some (setting, some value), counted⟩ := by
    simp only [bind_eq_ok_iff, Except.ok.injEq, @eq_comm _ _ q]
  constructor
  · intro next
    constructor
    · rintro ⟨q, steps, settles⟩
      obtain ⟨d, before, rfl⟩ := (gives q).mp steps
      exact ⟨d, before, setOnce_eq_ok_iff.mp settles⟩
    · rintro ⟨d, before, takes⟩
      exact ⟨_, (gives _).mpr ⟨d, before, rfl⟩, setOnce_eq_ok_iff.mpr takes⟩
  · intro q steps s waits
    obtain ⟨d, before, rfl⟩ := (gives q).mp steps
    cases waits
  · intro q steps
    obtain ⟨d, before, rfl⟩ := (gives q).mp steps
    exact counts

theorem Gives.sound {step : Except Refusal Progress} {q : Progress}
    (gives : Gives p setting value step) (sound : p.Sound) (steps : step = .ok q) : q.Sound where
  idle := gives.idle q steps
  counted := by
    intro next counts settles
    obtain ⟨d, before, takes⟩ := (gives.draft next).mp ⟨q, steps, settles⟩
    rw [takes.has_iff]
    rcases gives.counted q steps counts with already | rfl
    · exact Or.inr (sound.counted d already before)
    · exact Or.inl rfl

theorem Gives.amounts {step : Except Refusal Progress} (gives : Gives p setting value step)
    (sound : p.Sound) (others : AmountsTo items rest)
    (reads : readAll argv p = step >>= readAll rest) :
    Reaches argv p d' ↔
      ∃ d, settle p.draft p.pending = .ok d ∧ TakesAll d ((setting, value) :: items) d' := by
  rw [reaches_bind reads]
  constructor
  · rintro ⟨q, steps, reaches⟩
    obtain ⟨next, settles, later⟩ := (others q d' (gives.sound sound steps)).mp reaches
    obtain ⟨d, before, first⟩ := (gives.draft next).mp ⟨q, steps, settles⟩
    exact ⟨d, before, .cons first later⟩
  · rintro ⟨d, before, takes⟩
    cases takes with
    | cons first later =>
        obtain ⟨q, steps, settles⟩ := (gives.draft _).mpr ⟨d, before, first⟩
        exact ⟨q, steps, (others q d' (gives.sound sound steps)).mpr ⟨_, settles, later⟩⟩

/-! ## All arguments -/

theorem readAll_two {arg : Bytes} (long : Bool) (bare : value.head? ≠ some dash)
    (reads : readAll (arg :: value :: rest) p =
      p.option (.sets setting) none long >>= readAll (value :: rest)) :
    readAll (arg :: value :: rest) p = (settle p.draft p.pending >>= fun d =>
      .ok ⟨d, some (setting, some value), p.counted⟩) >>= readAll rest := by
  rw [reads, option_waiting]
  cases settle p.draft p.pending with
  | error refusal => rfl
  | ok d => exact readAll_plain (shape_bare bare)

theorem positional_fresh (sound : p.Sound) (fresh : p.counted = false) :
    p.plain value = settle p.draft p.pending >>= fun d =>
      .ok ⟨d, some (.count, some value), true⟩ := by
  have positional : p.positional value = settle p.draft p.pending >>= fun d =>
      .ok ⟨d, some (.count, some value), true⟩ := by
    unfold Progress.positional
    rw [if_neg (by simp [fresh])]
    exact settled_bind _
  unfold Progress.plain
  split
  · next setting waits => exact absurd waits (sound.idle setting)
  · exact positional

theorem plain_counted (sound : p.Sound) (counted : p.counted = true) :
    p.plain value = .error (.unexpected value.display) := by
  unfold Progress.plain
  split
  · next setting waits => exact absurd waits (sound.idle setting)
  · exact if_pos counted

theorem Spells.amounts (spells : Spells setting value tokens) (others : AmountsTo items rest) :
    AmountsTo ((setting, value) :: items) (tokens ++ rest) := by
  intro p d' sound
  cases spells with
  | joined named =>
      refine gives_now.amounts sound others ?_
      rw [List.singleton_append, readAll_long (named.shape_joined value), named.longOption,
        option_value]
  | long named bare =>
      refine (gives_later p.counted Or.inl).amounts sound others (readAll_two true bare ?_)
      rw [← named.longOption, ← readAll_long named.shape_long]
  | short named bare =>
      refine (gives_later p.counted Or.inl).amounts sound others (readAll_two false bare ?_)
      rw [← named.shortOptions, ← readAll_short named.shape_short]
  | saveConfig =>
      refine gives_now.amounts sound others ?_
      rw [List.singleton_append, readAll_long shape_saveConfig, longOption_saveConfig,
        option_saveConfig]
  | count bare =>
      cases counted : p.counted with
      | false =>
          refine (gives_later true fun _ => Or.inr rfl).amounts sound others ?_
          rw [List.singleton_append, readAll_plain (shape_bare bare),
            positional_fresh sound counted]
      | true =>
          -- The argument is refused, and the draft would take no second number either.
          rw [List.singleton_append, reaches_bind (readAll_plain (shape_bare bare)),
            plain_counted sound counted]
          constructor
          · rintro ⟨q, refused, _⟩
            cases refused
          · rintro ⟨d, before, takes⟩
            cases takes with
            | cons first later =>
                have unset := first.unset
                rw [sound.counted d counted before] at unset
                cases unset

theorem Spelled.amounts (spelled : Spelled items argv) : AmountsTo items argv := by
  induction spelled with
  | nil =>
      intro p d' sound
      rw [reaches_nil]
      constructor
      · intro settles
        exact ⟨d', settles, .nil⟩
      · rintro ⟨d, settles, takes⟩
        cases takes
        exact settles
  | cons first others ih => exact first.amounts ih

theorem complete_eq_ok_iff {a : Arguments} : d.complete = .ok a ↔
    d = ⟨some a.remote, some a.busId, a.maxDelay, a.program, a.count, a.config, a.saveConfig,
      a.logLevel⟩ := by
  cases d with
  | mk remote busId maxDelay program count config saveConfig logLevel =>
      cases remote <;> cases busId <;> cases a <;> simp [Draft.complete]

/-- What arguments that spell settings are read as. -/
theorem parse_eq_ok_iff {a : Arguments} (spelled : Spelled items argv) :
    Arguments.parse argv = .ok a ↔ ∃ d, TakesAll .empty items d ∧ d.complete = .ok a := by
  have amounts (d : Draft) := spelled.amounts Progress.start d Progress.start_sound
  have parses : Arguments.parse argv = .ok a ↔
      ∃ d, Reaches argv Progress.start d ∧ d.complete = .ok a := by
    unfold Arguments.parse Reaches
    simp only [bind_eq_ok_iff]
    constructor
    · rintro ⟨q, reads, d, settles, complete⟩
      exact ⟨d, ⟨q, reads, settles⟩, complete⟩
    · rintro ⟨d, ⟨q, reads, settles⟩, complete⟩
      exact ⟨q, reads, d, settles, complete⟩
  rw [parses]
  constructor
  · rintro ⟨d, reaches, complete⟩
    obtain ⟨_, same, takes⟩ := (amounts d).mp reaches
    cases same
    exact ⟨d, takes, complete⟩
  · rintro ⟨d, takes, complete⟩
    exact ⟨d, (amounts d).mpr ⟨_, rfl, takes⟩, complete⟩

end Replug.CommandLine
