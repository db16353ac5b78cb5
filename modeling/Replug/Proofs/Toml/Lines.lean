import Replug.Proofs.Toml.Scalar

/-!
# Lines read back

The lines of a plain document: headers of one bare name, entries of one bare name and a scalar, and
empty lines.  Each is read off the front of what follows by one unit of fuel, whatever follows.
-/

set_option autoImplicit false

namespace Replug.Toml

/-! ## Bare names -/

theorem bare_ne (c d : Char) (bare : isBareKeyChar c = true) (other : isBareKeyChar d = false) :
    c ≠ d := by
  intro same
  rw [same, other] at bare
  cases bare

structure BareName (name : List Char) : Prop where
  bare : ∀ c ∈ name, isBareKeyChar c = true
  nonempty : name ≠ []

theorem BareName.head (name : List Char) (isName : BareName name) :
    ∃ c others, name = c :: others ∧ isBareKeyChar c = true := by
  cases name with
  | nil => exact absurd rfl isName.nonempty
  | cons c others => exact ⟨c, others, rfl, isName.bare c (by simp)⟩

/-- The key that a bare name in front of some characters makes. -/
def bareKey (name after : List Char) : Key :=
  ⟨String.ofList name, ⟨(name ++ after).length, after.length⟩⟩

theorem skipBlanks_of_head (c : Char) (rest : List Char) (notBlank : isBlank c = false) :
    skipBlanks (c :: rest) = c :: rest := by
  simp [skipBlanks, notBlank]

theorem skipBlanks_space (rest : List Char) : skipBlanks (' ' :: rest) = skipBlanks rest := rfl

theorem isBlank_of_bare (c : Char) (bare : isBareKeyChar c = true) : isBlank c = false := by
  simp [isBlank, bare_ne c ' ' bare rfl, bare_ne c '\t' bare rfl]

theorem keyName_bare (name after : List Char) (isName : BareName name)
    (boundary : ∀ c, after.head? = some c → isBareKeyChar c = false) :
    keyName (name ++ after) = some (String.ofList name, after) := by
  have stopsTaking : after.takeWhile isBareKeyChar = [] := by
    cases after with
    | nil => rfl
    | cons c more => simp [boundary c rfl]
  have stopsDropping : after.dropWhile isBareKeyChar = after := by
    cases after with
    | nil => rfl
    | cons c more => simp [boundary c rfl]
  have taken : (name ++ after).takeWhile isBareKeyChar = name := by
    rw [List.takeWhile_append_of_pos isName.bare, stopsTaking, List.append_nil]
  have dropped : (name ++ after).dropWhile isBareKeyChar = after := by
    rw [List.dropWhile_append_of_pos isName.bare, stopsDropping]
  obtain ⟨c, others, rfl, bare⟩ := isName.head
  have unquoted : shortQuoted (c :: others ++ after) = none := by
    have notDouble := bare_ne c '"' bare rfl
    have notSingle := bare_ne c '\'' bare rfl
    unfold shortQuoted
    split <;> simp_all
  simp only [keyName, unquoted, taken, dropped]

theorem keyNames_bare (fuel : Nat) (name after : List Char) (isName : BareName name)
    (boundary : ∀ c, after.head? = some c → isBareKeyChar c = false)
    (noPoint : (skipBlanks after).head? ≠ some '.') :
    keyNames (fuel + 1) (name ++ after) = some ([bareKey name after], skipBlanks after) := by
  have unmoved : skipBlanks (name ++ after) = name ++ after := by
    obtain ⟨c, others, rfl, bare⟩ := isName.head
    exact skipBlanks_of_head c _ (isBlank_of_bare c bare)
  have read := keyName_bare name after isName boundary
  simp only [keyNames, unmoved, spanned, read, Option.map_some, Option.bind_eq_bind,
    Option.bind_some]
  split
  · next same => simp [same] at noPoint
  · rfl

theorem keyPath_bare (name after : List Char) (isName : BareName name)
    (boundary : ∀ c, after.head? = some c → isBareKeyChar c = false)
    (noPoint : (skipBlanks after).head? ≠ some '.') :
    keyPath (name ++ after) = some ([bareKey name after], skipBlanks after) :=
  keyNames_bare (longestPath - 2) name after isName boundary noPoint

/-! ## Lines -/

def lineEntry (name cs rest : List Char) (v : Scalar) : Entry :=
  ([bareKey name (' ' :: '=' :: ' ' :: (cs ++ '\n' :: rest))],
    .scalar ⟨(cs ++ '\n' :: rest).length, ('\n' :: rest).length⟩ v)

theorem value_spelled (depth : Nat) (cs rest : List Char) (v : Scalar) (spells : Spells cs v) :
    value (depth + 1) (cs ++ '\n' :: rest) =
      some (.scalar ⟨(cs ++ '\n' :: rest).length, ('\n' :: rest).length⟩ v, '\n' :: rest) := by
  have read := spells.reads rest
  obtain ⟨c, others, rfl, notArray, notTable, -⟩ := spells.starts
  simp only [List.cons_append] at read ⊢
  unfold value
  split
  · next same => exact absurd (List.cons.inj same).1 notArray
  · next same => exact absurd (List.cons.inj same).1 notTable
  · simp [spanned, read]

theorem entry_line (depth : Nat) (name cs rest : List Char) (v : Scalar) (isName : BareName name)
    (spells : Spells cs v) :
    entry (value (depth + 1)) (name ++ ' ' :: '=' :: ' ' :: (cs ++ '\n' :: rest)) =
      some (lineEntry name cs rest v, '\n' :: rest) := by
  have key := keyPath_bare name (' ' :: '=' :: ' ' :: (cs ++ '\n' :: rest)) isName
    (by intro c head; cases head; rfl) (by simp [skipBlanks, isBlank])
  have equals : skipBlanks (' ' :: '=' :: ' ' :: (cs ++ '\n' :: rest)) =
      '=' :: ' ' :: (cs ++ '\n' :: rest) := rfl
  have unmoved : skipBlanks ('=' :: ' ' :: (cs ++ '\n' :: rest)) =
      '=' :: ' ' :: (cs ++ '\n' :: rest) := rfl
  have front : skipBlanks (' ' :: (cs ++ '\n' :: rest)) = cs ++ '\n' :: rest := by
    obtain ⟨c, others, rfl, -, -, notBlank⟩ := spells.starts
    rw [skipBlanks_space]
    exact skipBlanks_of_head c _ notBlank
  rw [equals] at key
  simp only [entry, key, unmoved, front, value_spelled depth cs rest v spells, lineEntry,
    Option.bind_eq_bind, Option.bind_some]

theorem lineEnd?_newline (rest : List Char) : lineEnd? ('\n' :: rest) = some rest := rfl

theorem documentLines_nil (fuel : Nat) : documentLines (fuel + 1) [] = some ⟨[], []⟩ := rfl

theorem documentLines_empty (fuel : Nat) (rest : List Char) :
    documentLines (fuel + 1) ('\n' :: rest) = documentLines fuel rest := rfl

theorem documentLines_entry (fuel : Nat) (name cs rest : List Char) (v : Scalar)
    (isName : BareName name) (spells : Spells cs v) :
    documentLines (fuel + 1) (name ++ ' ' :: '=' :: ' ' :: (cs ++ '\n' :: rest)) =
      (documentLines fuel rest).map (Document.withEntry (lineEntry name cs rest v)) := by
  have read := entry_line (deepestNesting - 1) name cs rest v isName spells
  obtain ⟨c, others, rfl, bare⟩ := isName.head
  have notComment := bare_ne c '#' bare rfl
  have notHeader := bare_ne c '[' bare rfl
  have notNewline := newline?_of_head c (others ++ ' ' :: '=' :: ' ' :: (cs ++ '\n' :: rest))
    (bare_ne c '\n' bare rfl) (bare_ne c '\r' bare rfl)
  simp only [List.cons_append] at read ⊢
  rw [Option.map_eq_bind]
  rw [documentLines]
  rw [skipBlanks_of_head c _ (isBlank_of_bare c bare)]
  split
  · next same => cases same
  · next same => exact absurd (List.cons.inj same).1 notComment
  · next same => exact absurd (List.cons.inj same).1 notHeader
  · simp only [notNewline]
    refine (congrArg (Option.bind · _) read).trans ?_
    rfl

def headerSpan (name rest : List Char) : Span :=
  ⟨('[' :: (name ++ ']' :: '\n' :: rest)).length, ('\n' :: rest).length⟩

theorem header_line (name rest : List Char) (isName : BareName name) :
    header ('[' :: (name ++ ']' :: '\n' :: rest)) =
      some (([bareKey name (']' :: '\n' :: rest)], false), '\n' :: rest) := by
  have key := keyPath_bare name (']' :: '\n' :: rest) isName
    (by intro c head; cases head; rfl) (by simp [skipBlanks, isBlank])
  have bracket : skipBlanks (']' :: '\n' :: rest) = ']' :: '\n' :: rest := rfl
  obtain ⟨c, others, rfl, bare⟩ := isName.head
  have notItem := bare_ne c '[' bare rfl
  simp only [List.cons_append] at key ⊢
  unfold header
  split
  · next same => exact absurd (List.cons.inj (List.cons.inj same).2).1 notItem
  · next same =>
    obtain ⟨-, rfl⟩ := List.cons.inj same
    simp [key, bracket]
  · next isHeader => exact absurd rfl (isHeader _)

theorem documentLines_header (fuel : Nat) (name rest : List Char) (isName : BareName name) :
    documentLines (fuel + 1) ('[' :: (name ++ ']' :: '\n' :: rest)) =
      (documentLines fuel rest).map
        (Document.under (headerSpan name rest) [bareKey name (']' :: '\n' :: rest)] false) := by
  have read := header_line name rest isName
  rw [Option.map_eq_bind]
  rw [documentLines]
  rw [skipBlanks_of_head '[' _ rfl]
  simp only [spanned, read, Option.map_some, Option.bind_eq_bind, Option.bind_some,
    lineEnd?_newline, headerSpan]
  rfl

end Replug.Toml
