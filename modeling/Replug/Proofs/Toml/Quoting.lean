import Mathlib.Tactic.SplitIfs
import Replug.Toml.Quoting

/-!
# Quoted texts read back

A text and its spelling between the quotes of a form are related by `Spelled`, which says nothing
about how either is computed.  The reader gives the text of every spelling, up to its closing
quotes (`quotedBody_of_spelled`), and every form that the writer picks is a spelling of the text
(`spelled_writtenBody`).  Together: `quoted_written`.

The index of `Spelled` counts the bare quotes right before a place.  In a long form there may be
two of them; those at the very end of a text run into the closing quotes, and the reader takes all
of them at once.
-/

set_option autoImplicit false

namespace Replug.Toml

/-! ## Escapes -/

/-- The spellings of a character that begin with a backslash. -/
inductive Escape : Char → List Char → Prop
  | short {letter c : Char} (means : escaped? letter = some c) : Escape c ['\\', letter]
  | code (c : Char) (fits : c.toNat < 0x10000) : Escape c (codeEscape c)

theorem hexDigit?_capitalDigit (n : Nat) (small : n < 16) :
    hexDigit? (capitalDigit n) = some n := by
  revert n
  decide

theorem charOf?_toNat (c : Char) : charOf? c.toNat = some c := by
  have valid : c.toNat.isValidChar := c.valid
  simp [charOf?, valid, Char.ofNat_toNat]

theorem quotedBody_codeEscape (f : Form) (c : Char) (rest : List Char)
    (escapes : f.hasEscapes = true) (fits : c.toNat < 0x10000) :
    quotedBody f .plain (codeEscape c ++ rest) = keep c (quotedBody f .plain rest) := by
  have notQuote : '\\' ≠ f.quote := by cases f <;> decide
  have notShort : escaped? 'u' = none := rfl
  have digit : ∀ n, hexDigit? (capitalDigit (n % 16)) = some (n % 16) := fun n =>
    hexDigit?_capitalDigit (n % 16) (Nat.mod_lt n (by decide))
  have whole : ((c.toNat / 4096 % 16 * 16 + c.toNat / 256 % 16) * 16 + c.toNat / 16 % 16) * 16 +
      c.toNat % 16 = c.toNat := by omega
  simp [codeEscape, quotedBody, notQuote, escapes, notShort, digit, whole, charOf?_toNat]

theorem quotedBody_escape (f : Form) (c : Char) (spelling rest : List Char)
    (escapes : f.hasEscapes = true) (escape : Escape c spelling) :
    quotedBody f .plain (spelling ++ rest) = keep c (quotedBody f .plain rest) := by
  have notQuote : '\\' ≠ f.quote := by cases f <;> decide
  cases escape with
  | short means => simp [quotedBody, notQuote, escapes, means]
  | code _ fits => exact quotedBody_codeEscape f c rest escapes fits

/-! ## Spellings -/

structure Form.Admits (f : Form) (c : Char) : Prop where
  notQuote : c ≠ f.quote
  notControl : isControl c = false
  notEscape : f.hasEscapes = true → c ≠ '\\'
  inLine : f.isLong = false → c ≠ '\n'

/-- `Spelled f run text spelling`: after `run` bare quotes, this is a spelling of the text. -/
inductive Spelled (f : Form) : Nat → List Char → List Char → Prop
  | nil {run : Nat} : Spelled f run [] []
  | quote {run : Nat} {text spelling : List Char} (long : f.isLong = true) (room : run < 2)
      (tail : Spelled f (run + 1) text spelling) :
      Spelled f run (f.quote :: text) (f.quote :: spelling)
  | plain {run : Nat} {c : Char} {text spelling : List Char} (admits : f.Admits c)
      (tail : Spelled f 0 text spelling) : Spelled f run (c :: text) (c :: spelling)
  | escape {run : Nat} {c : Char} {text front spelling : List Char}
      (escapes : f.hasEscapes = true) (front_spells : Escape c front)
      (tail : Spelled f 0 text spelling) : Spelled f run (c :: text) (front ++ spelling)

theorem isCommentChar_of_not_control (c : Char) (notControl : isControl c = false)
    (notLineEnd : c ≠ '\n') : isCommentChar c = true := by
  by_cases tab : c = '\t'
  · subst tab; rfl
  · simp [isControl, tab, notLineEnd] at notControl
    simp [isCommentChar, tab, notControl]

theorem quotedBody_admitted (f : Form) (c : Char) (rest : List Char) (admits : f.Admits c) :
    quotedBody f .plain (c :: rest) = keep c (quotedBody f .plain rest) := by
  have notEscape : ¬ (c = '\\' ∧ f.hasEscapes = true) := fun h => admits.notEscape h.2 h.1
  by_cases lineEnd : c = '\n'
  · have long : f.isLong = true := by
      cases h : f.isLong with
      | true => rfl
      | false => exact absurd lineEnd (admits.inLine h)
    have notQuote := admits.notQuote
    subst lineEnd
    simp [quotedBody, notQuote, long]
  · have notReturn : c ≠ '\r' := by
      intro h
      subst h
      exact absurd admits.notControl (by decide)
    simp [quotedBody, admits.notQuote, notEscape, lineEnd, notReturn,
      isCommentChar_of_not_control c admits.notControl lineEnd]

/-! ## Reading a spelling -/

theorem quotesFollow_append_of_head (f : Form) (spelling rest : List Char) (c : Char)
    (head : spelling.head? = some c) (notQuote : c ≠ f.quote) :
    quotesFollow f.quote (spelling ++ rest) = false := by
  cases spelling with
  | nil => simp at head
  | cons first others =>
    have same : first = c := by simpa using head
    subst same
    cases h : others ++ rest with
    | nil => simp [quotesFollow, h]
    | cons second more => simp [quotesFollow, h, notQuote]

theorem escape_head (c : Char) (spelling : List Char) (escape : Escape c spelling) :
    ∃ others, spelling = '\\' :: others := by
  cases escape with
  | short _ => exact ⟨_, rfl⟩
  | code _ _ => exact ⟨_, rfl⟩

theorem closeLong_of_head (quote : Char) (rest : List Char) (ends : rest.head? ≠ some quote) :
    closeLong quote rest = ([], rest) := by
  match rest with
  | [] => rfl
  | [a] =>
    have other : a ≠ quote := by simpa using ends
    simp [closeLong, other]
  | a :: b :: more =>
    have other : a ≠ quote := by simpa using ends
    simp [closeLong, other]

theorem closeLong_one (quote : Char) (rest : List Char) (ends : rest.head? ≠ some quote) :
    closeLong quote (quote :: rest) = ([quote], rest) := by
  cases rest with
  | nil => simp [closeLong]
  | cons a more =>
    have other : a ≠ quote := by simpa using ends
    simp [closeLong, other]

/-- A bare quote that does not begin the closing quotes is kept. -/
theorem quotedBody_bareQuote (f : Form) (rest : List Char) (long : f.isLong = true)
    (alone : quotesFollow f.quote rest = false) :
    quotedBody f .plain (f.quote :: rest) = keep f.quote (quotedBody f .plain rest) := by
  simp [quotedBody, long, alone]

theorem quotedBody_closing (f : Form) (rest : List Char) (long : f.isLong = true) :
    quotedBody f .plain (f.quote :: f.quote :: f.quote :: rest) = some (closeLong f.quote rest) := by
  simp [quotedBody, long, quotesFollow]

theorem delimiter_of_long (f : Form) (long : f.isLong = true) :
    f.delimiter = [f.quote, f.quote, f.quote] := by
  simp [Form.delimiter, long, List.replicate]

theorem delimiter_of_short (f : Form) (short : f.isLong = false) : f.delimiter = [f.quote] := by
  simp [Form.delimiter, short]

/-- After a bare quote, the text either ends within one more of them, or goes on with something
that keeps the closing quotes away. -/
theorem spelled_after_quote (f : Form) (run : Nat) (text spelling : List Char)
    (spelled : Spelled f (run + 1) text spelling) :
    (text = [] ∧ spelling = []) ∨ (text = [f.quote] ∧ spelling = [f.quote]) ∨
      ∀ rest, quotesFollow f.quote (spelling ++ rest) = false := by
  cases spelled with
  | nil => exact Or.inl ⟨rfl, rfl⟩
  | plain admits _ =>
    refine Or.inr (Or.inr fun rest => ?_)
    exact quotesFollow_append_of_head f _ rest _ rfl admits.notQuote
  | escape _ front_spells _ =>
    refine Or.inr (Or.inr fun rest => ?_)
    obtain ⟨others, rfl⟩ := escape_head _ _ front_spells
    exact quotesFollow_append_of_head f _ rest '\\' rfl (by cases f <;> decide)
  | quote _ room tail =>
    -- The run has reached two, so no third bare quote can come.
    cases tail with
    | nil => exact Or.inr (Or.inl ⟨rfl, rfl⟩)
    | quote _ full _ => omega
    | plain admits _ =>
      refine Or.inr (Or.inr fun rest => ?_)
      simp [quotesFollow, admits.notQuote]
    | escape _ front_spells _ =>
      refine Or.inr (Or.inr fun rest => ?_)
      obtain ⟨others, rfl⟩ := escape_head _ _ front_spells
      have notQuote : '\\' ≠ f.quote := by cases f <;> decide
      simp [quotesFollow, notQuote]

theorem quotedBody_of_spelled (f : Form) (run : Nat) (text spelling rest : List Char)
    (spelled : Spelled f run text spelling) (ends : rest.head? ≠ some f.quote) :
    quotedBody f .plain (spelling ++ (f.delimiter ++ rest)) = some (text, rest) := by
  induction spelled with
  | nil =>
    cases long : f.isLong with
    | true =>
      simp only [delimiter_of_long f long, List.nil_append, List.cons_append]
      rw [quotedBody_closing f rest long, closeLong_of_head f.quote rest ends]
    | false => simp [delimiter_of_short f long, quotedBody, long]
  | plain admits _ ih => rw [List.cons_append, quotedBody_admitted f _ _ admits, ih]; rfl
  | escape escapes front_spells _ ih =>
    rw [List.append_assoc, quotedBody_escape f _ _ _ escapes front_spells, ih]
    rfl
  | quote long room tail ih =>
    rcases spelled_after_quote f _ _ _ tail with ⟨rfl, rfl⟩ | ⟨rfl, rfl⟩ | goesOn
    · simp only [delimiter_of_long f long, List.nil_append, List.cons_append]
      rw [quotedBody_closing f _ long, closeLong_one f.quote rest ends]
    · simp only [delimiter_of_long f long, List.nil_append, List.cons_append]
      rw [quotedBody_closing f _ long]
      simp [closeLong]
    · rw [List.cons_append, quotedBody_bareQuote f _ long (goesOn _), ih]
      rfl

/-! ## What the writer spells -/

theorem toNat_lt_of_isControl (c : Char) (control : isControl c = true) : c.toNat < 0x80 := by
  simp [isControl] at control
  omega

theorem spelled_writtenChar (f : Form) (c : Char) (run : Nat) (text spelling : List Char)
    (escapes : f.hasEscapes = true) (notQuote : c ≠ f.quote) (tail : Spelled f 0 text spelling) :
    Spelled f run (c :: text) (writtenChar f.isLong c ++ spelling) := by
  have short : ∀ letter, escaped? letter = some c →
      Spelled f run (c :: text) (['\\', letter] ++ spelling) :=
    fun _ means => .escape escapes (.short means) tail
  unfold writtenChar
  split
  · next lineEnd =>
    subst lineEnd
    cases long : f.isLong with
    | true => exact .plain ⟨notQuote, rfl, fun _ => by decide, by simp [long]⟩ tail
    | false => exact short 'n' rfl
  split
  · next backslash => subst backslash; exact short '\\' rfl
  split
  · next tab => subst tab; exact short 't' rfl
  split
  · next backspace => subst backspace; exact short 'b' rfl
  split
  · next feed => subst feed; exact short 'f' rfl
  split
  · next ret => subst ret; exact short 'r' rfl
  split
  · next control =>
    have small := toNat_lt_of_isControl c control
    exact .escape escapes (.code c (by omega)) tail
  · next lineEnd backslash _ _ _ _ control =>
    exact .plain ⟨notQuote, by simpa using control, fun _ => backslash, fun _ => lineEnd⟩ tail

theorem spelled_writtenEscaped (f : Form) (escapes : f.hasEscapes = true) (run : Nat)
    (text : List Char) : Spelled f run text (writtenEscaped f.isLong run text) := by
  have quoteIs : f.quote = '"' := by
    cases f with
    | basic | longBasic => rfl
    | literal | longLiteral => simp [Form.hasEscapes] at escapes
  induction text generalizing run with
  | nil => exact .nil
  | cons c text ih =>
    by_cases quote : c = '"'
    · subst quote
      by_cases room : (f.isLong && decide (run < 2)) = true
      · obtain ⟨long, few⟩ := Bool.and_eq_true_iff.mp room
        have bare := Spelled.quote long (of_decide_eq_true few) (ih (run + 1))
        rw [quoteIs] at bare
        rwa [writtenEscaped, if_pos rfl, if_pos room]
      · have escaped : Spelled f run ('"' :: text)
            (['\\', '"'] ++ writtenEscaped f.isLong 0 text) :=
          .escape escapes (.short rfl) (ih 0)
        rwa [writtenEscaped, if_pos rfl, if_neg room]
    · have notQuote : c ≠ f.quote := by rwa [quoteIs]
      simpa [writtenEscaped, quote] using
        spelled_writtenChar f c run text _ escapes notQuote (ih 0)

theorem le_longestRun (q : Char) (run : Nat) (text : List Char) : run ≤ longestRun q run text := by
  induction text generalizing run with
  | nil => exact Nat.le_refl run
  | cons c text ih =>
    simp only [longestRun]
    split
    · exact Nat.le_of_succ_le (ih (run + 1))
    · exact Nat.le_max_left run _

def Form.room (f : Form) : Nat := if f.isLong then 2 else 0

/-- A text spells itself in a form without escapes if it has no control characters, no runs of
quotes that are too long, and no more lines than the form. -/
theorem spelled_self (f : Form) (noEscapes : f.hasEscapes = false) (run : Nat) (text : List Char)
    (noControl : ∀ c ∈ text, isControl c = false)
    (inLine : f.isLong = false → '\n' ∉ text)
    (runs : longestRun f.quote run text ≤ f.room) : Spelled f run text text := by
  induction text generalizing run with
  | nil => exact .nil
  | cons c text ih =>
    have noControlTail : ∀ d ∈ text, isControl d = false := fun d member =>
      noControl d (List.mem_cons_of_mem c member)
    have inLineTail : f.isLong = false → '\n' ∉ text := fun short member =>
      inLine short (List.mem_cons_of_mem c member)
    simp only [longestRun] at runs
    by_cases quote : c = f.quote
    · rw [if_pos quote] at runs
      have used := le_longestRun f.quote (run + 1) text
      have long : f.isLong = true := by
        cases h : f.isLong with
        | true => rfl
        | false => simp [Form.room, h] at runs; omega
      have room : run < 2 := by
        simp [Form.room, long] at runs
        omega
      rw [quote]
      exact .quote long room (ih (run + 1) noControlTail inLineTail runs)
    · rw [if_neg quote] at runs
      have tail := ih 0 noControlTail inLineTail (Nat.le_trans (Nat.le_max_right _ _) runs)
      refine .plain ⟨quote, noControl c (by simp), ?_, ?_⟩ tail
      · intro escapes
        rw [noEscapes] at escapes
        cases escapes
      · intro short lineEnd
        exact inLine short (by simp [lineEnd])

/-- A form without escapes is only picked for a text that can stand in it as it is. -/
theorem formFor_without_escapes (s : List Char) (noEscapes : (formFor s).hasEscapes = false) :
    (∀ c ∈ s, isControl c = false) ∧ ((formFor s).isLong = false → '\n' ∉ s) ∧
      longestRun (formFor s).quote 0 s ≤ (formFor s).room := by
  unfold formFor at noEscapes ⊢
  dsimp only at noEscapes ⊢
  split_ifs at noEscapes ⊢ with basic literal longBasic longLiteral lines
  · cases noEscapes
  · simp at literal
    exact ⟨literal.1.1, fun _ => literal.1.2, by simp [Form.quote, literal.2]⟩
  · cases noEscapes
  · simp at longLiteral
    exact ⟨longLiteral.1, by simp [Form.isLong], longLiteral.2⟩
  · cases noEscapes
  · cases noEscapes

theorem spelled_writtenBody (s : List Char) : Spelled (formFor s) 0 s (writtenBody (formFor s) s) := by
  cases escapes : (formFor s).hasEscapes with
  | true =>
    simp only [writtenBody, escapes, if_true]
    exact spelled_writtenEscaped _ escapes 0 s
  | false =>
    obtain ⟨noControl, inLine, runs⟩ := formFor_without_escapes s escapes
    simp only [writtenBody, escapes, Bool.false_eq_true, if_false]
    exact spelled_self _ escapes 0 s noControl inLine runs

/-! ## The quotes around a spelling -/

theorem opening?_long (f : Form) (rest : List Char) (long : f.isLong = true) :
    opening? (f.delimiter ++ rest) = some (f, (newline? rest).getD rest) := by
  cases f with
  | longBasic | longLiteral => rfl
  | basic | literal => cases long

theorem opening?_short (f : Form) (rest : List Char) (short : f.isLong = false)
    (alone : quotesFollow f.quote rest = false) :
    opening? (f.delimiter ++ rest) = some (f, rest) := by
  have notTwo : ∀ others, rest ≠ f.quote :: f.quote :: others := by
    intro others h
    simp [h, quotesFollow] at alone
  rw [delimiter_of_short f short]
  cases f with
  | basic | literal =>
    simp only [Form.quote] at notTwo ⊢
    unfold opening?
    split <;> simp_all
  | longBasic | longLiteral => cases short

/-- A short spelling and its closing quote do not look like the quotes of a long form. -/
theorem quotesFollow_spelled_short (f : Form) (text spelling rest : List Char)
    (short : f.isLong = false) (spelled : Spelled f 0 text spelling)
    (ends : rest.head? ≠ some f.quote) :
    quotesFollow f.quote (spelling ++ (f.delimiter ++ rest)) = false := by
  cases spelled with
  | nil =>
    rw [delimiter_of_short f short]
    cases rest with
    | nil => rfl
    | cons a more =>
      have other : a ≠ f.quote := by simpa using ends
      simp [quotesFollow, other]
  | quote long _ _ => rw [short] at long; cases long
  | plain admits _ => exact quotesFollow_append_of_head f _ _ _ rfl admits.notQuote
  | escape _ front_spells _ =>
    obtain ⟨others, rfl⟩ := escape_head _ _ front_spells
    exact quotesFollow_append_of_head f _ _ '\\' rfl (by cases f <;> decide)

theorem newline?_of_head (c : Char) (rest : List Char) (notLineEnd : c ≠ '\n')
    (notReturn : c ≠ '\r') : newline? (c :: rest) = none := by
  unfold newline?
  split <;> simp_all

theorem newline?_spelled (f : Form) (text spelling rest : List Char)
    (spelled : Spelled f 0 text spelling) (oneLine : '\n' ∉ text) :
    newline? (spelling ++ (f.delimiter ++ rest)) = none := by
  have quoteEnd : ∀ others, newline? (f.quote :: others) = none := fun others =>
    newline?_of_head f.quote others (by cases f <;> decide) (by cases f <;> decide)
  cases spelled with
  | nil =>
    cases long : f.isLong with
    | true => rw [delimiter_of_long f long]; exact quoteEnd _
    | false => rw [delimiter_of_short f long]; exact quoteEnd _
  | quote _ _ _ => exact quoteEnd _
  | @plain _ c _ _ admits _ =>
    have notLineEnd : c ≠ '\n' := fun h => oneLine (by simp [h])
    have notReturn : c ≠ '\r' := by
      intro h
      subst h
      exact absurd admits.notControl (by decide)
    exact newline?_of_head c _ notLineEnd notReturn
  | escape _ front_spells _ =>
    obtain ⟨others, rfl⟩ := escape_head _ _ front_spells
    exact newline?_of_head '\\' _ (by decide) (by decide)

theorem opening?_written (s rest : List Char) (ends : rest.head? ≠ some (formFor s).quote) :
    opening? (written s ++ rest) =
      some (formFor s, writtenBody (formFor s) s ++ ((formFor s).delimiter ++ rest)) := by
  have spelled := spelled_writtenBody s
  simp only [written, List.append_assoc]
  cases long : (formFor s).isLong with
  | true =>
    rw [opening?_long _ _ long]
    by_cases lines : '\n' ∈ s
    · simp [lines, newline?]
    · simp [lines, newline?_spelled _ _ _ rest spelled lines]
  | false =>
    simp only [Bool.false_and, Bool.false_eq_true, if_false, List.nil_append]
    exact opening?_short _ _ long (quotesFollow_spelled_short _ _ _ rest long spelled ends)

/-- What is written for a text reads back as that text, whatever follows, unless that is one more
quote. -/
theorem quoted_written (s rest : List Char) (ends : rest.head? ≠ some (formFor s).quote) :
    quoted (written s ++ rest) = some (String.ofList s, rest) := by
  have body := quotedBody_of_spelled _ 0 s _ rest (spelled_writtenBody s) ends
  simp [quoted, opening?_written s rest ends, body]

end Replug.Toml
