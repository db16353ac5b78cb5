import Replug.Proofs.Toml.Lines
import Replug.Proofs.Toml.Tables
import Replug.Settings.Reading
import Replug.Settings.Writing

/-!
# Settings written and read back

The document that settings are written as is read back as the same settings, whatever characters
their texts are made of.  Only what happens after reading can tell the two apart: the client's path
is made to begin at the home directory, and settings that no run could use are refused.
-/

set_option autoImplicit false

namespace Replug.Settings

open Toml

/-! ## The document -/

def documentOf (logLevel program maxDelay count : List Char) : List Char :=
  '[' :: ("general".toList ++ ']' :: '\n' ::
    ("log_level".toList ++ ' ' :: '=' :: ' ' :: (logLevel ++ '\n' :: '\n' ::
      '[' :: ("usbip".toList ++ ']' :: '\n' ::
        ("program".toList ++ ' ' :: '=' :: ' ' :: (program ++ '\n' ::
          ("max_delay".toList ++ ' ' :: '=' :: ' ' :: (maxDelay ++ '\n' ::
            ("count".toList ++ ' ' :: '=' :: ' ' :: (count ++ '\n' :: []))))))))))

theorem writtenNumber?_fits (n : UInt64) (fits : fitsWord n.toNat = true) :
    writtenNumber? n = .ok (Nat.toDigits 10 n.toNat) := if_pos fits

theorem toToml_eq_documentOf (s : Settings) (text : String) (isText : s.program.text? = some text)
    (delayFits : fitsWord s.maxDelay.toNat = true) (countFits : fitsWord s.count.toNat = true) :
    s.toToml = .ok (documentOf (written s.logLevel.toList) (written text.toList)
      (Nat.toDigits 10 s.maxDelay.toNat) (Nat.toDigits 10 s.count.toNat)) := by
  have generalHeader : "[general]\n".toList = '[' :: ("general".toList ++ [']', '\n']) := by decide
  have usbipHeader : "\n[usbip]\n".toList = '\n' :: '[' :: ("usbip".toList ++ [']', '\n']) := by
    decide
  simp only [toToml, isText, writtenNumber?_fits _ delayFits, writtenNumber?_fits _ countFits,
    writtenText, settingLine, documentOf, generalHeader, usbipHeader]
  simp [bind, Except.bind, pure, Except.pure]

/-! ## The tree of the document -/

theorem bareName_general : BareName "general".toList := ⟨List.all_eq_true.mp (by decide), by simp⟩

theorem bareName_logLevel : BareName "log_level".toList := ⟨List.all_eq_true.mp (by decide), by simp⟩

theorem bareName_usbip : BareName "usbip".toList := ⟨List.all_eq_true.mp (by decide), by simp⟩

theorem bareName_program : BareName "program".toList := ⟨List.all_eq_true.mp (by decide), by simp⟩

theorem bareName_maxDelay : BareName "max_delay".toList := ⟨List.all_eq_true.mp (by decide), by simp⟩

theorem bareName_count : BareName "count".toList := ⟨List.all_eq_true.mp (by decide), by simp⟩

/-- The lines that a document with four values is made of, told apart by their names only. -/
def FourLines (d : Document) (logLevel program maxDelay count : Scalar) : Prop :=
  ∃ (g u l p m n : Key) (gs us ls ps ms ns : Span),
    g.name = "general" ∧ u.name = "usbip" ∧ l.name = "log_level" ∧ p.name = "program" ∧
      m.name = "max_delay" ∧ n.name = "count" ∧
      d = ⟨[], [⟨[g], gs, false, [(l, ls, logLevel)].map Line.entry⟩,
        ⟨[u], us, false, [(p, ps, program), (m, ms, maxDelay), (n, ns, count)].map Line.entry⟩]⟩

theorem document?_documentOf (logLevel program maxDelay count : List Char) (l p m n : Scalar)
    (logLevelSpells : Spells logLevel l) (programSpells : Spells program p)
    (maxDelaySpells : Spells maxDelay m) (countSpells : Spells count n) :
    ∃ d, document? (documentOf logLevel program maxDelay count) = some d ∧ FourLines d l p m n := by
  -- Eight lines are read, the end of the document among them; the fuel is far more than that.
  obtain ⟨fuel, enough⟩ : ∃ fuel,
      (documentOf logLevel program maxDelay count).length + 1 = fuel + 8 :=
    ⟨(documentOf logLevel program maxDelay count).length - 7, by
      simp only [documentOf, List.length_cons, List.length_append]
      omega⟩
  simp only [document?, enough]
  unfold documentOf
  rw [documentLines_header _ _ _ bareName_general,
    documentLines_entry _ _ _ _ _ bareName_logLevel logLevelSpells, documentLines_empty,
    documentLines_header _ _ _ bareName_usbip,
    documentLines_entry _ _ _ _ _ bareName_program programSpells,
    documentLines_entry _ _ _ _ _ bareName_maxDelay maxDelaySpells,
    documentLines_entry _ _ _ _ _ bareName_count countSpells, documentLines_nil]
  exact ⟨_, rfl, _, _, _, _, _, _, _, _, _, _, _, _, String.ofList_toList, String.ofList_toList,
    String.ofList_toList, String.ofList_toList, String.ofList_toList, String.ofList_toList, rfl⟩

theorem tree?_fourLines (d : Document) (l p m n : Scalar) (lines : FourLines d l p m n) :
    ∃ gs us ls ps ms ns, d.tree? = some [
      ("general", .table gs .header [("log_level", .leaf ls l)]),
      ("usbip", .table us .header [("program", .leaf ps p), ("max_delay", .leaf ms m),
        ("count", .leaf ns n)])] := by
  obtain ⟨kg, ku, kl, kp, km, kn, gs, us, ls, ps, ms, ns, hg, hu, hl, hp, hm, hn, rfl⟩ := lines
  have general := addEntries_lines .header (by decide) [(kl, ls, l)] [] (by simp)
  have usbip := addEntries_lines .header (by decide) [(kp, ps, p), (km, ms, m), (kn, ns, n)] []
    (by simp [hp, hm, hn])
  refine ⟨Section.stretch ⟨[kg], gs, false, [(kl, ls, l)].map Line.entry⟩,
    Section.stretch ⟨[ku], us, false, [(kp, ps, p), (km, ms, m), (kn, ns, n)].map Line.entry⟩,
    ls, ps, ms, ns, ?_⟩
  simp only [Document.tree?, addEntries, Option.bind_eq_bind, Option.bind_some, List.foldlM_cons]
  rw [place_fresh kg gs _ [] _ rfl general, Option.bind_some,
    place_fresh ku us _ _ _ (by simp [Entries.find?, Entries.append, hg, hu]) usbip,
    Option.bind_some]
  simp [Entries.append, Line.node, hg, hu, hl, hp, hm, hn]

/-! ## The settings in the document -/

theorem ofString_text (program : Path) (text : String) (isText : program.text? = some text) :
    Path.ofString text = program := by
  simp only [Path.text?, Bytes.text?, String.fromUTF8?] at isText
  split at isText
  · cases isText
    rfl
  · cases isText

theorem text?_ofString (text : String) : (Path.ofString text).text? = some text := by
  simp only [Path.text?, Bytes.text?, Path.ofString, Bytes.ofString, String.fromUTF8?]
  exact dif_pos text.isValidUTF8

theorem word_leaf (span : Span) (n : UInt64) : word (.leaf span (.integer n.toNat)) = .ok n := by
  show Except.ok (UInt64.ofNat n.toNat) = Except.ok n
  rw [UInt64.ofNat_toNat]

theorem text_leaf (span : Span) (t : String) : text (.leaf span (.text t)) = .ok t := rfl

theorem path_leaf (span : Span) (t : String) :
    path (.leaf span (.text t)) = .ok (Path.ofString t) := rfl

/-- A root table with all four values leaves nothing of the default settings. -/
theorem ofTable_full (s : Settings) (text : String) (same : Path.ofString text = s.program)
    (gs us ls ps ms ns : Span) :
    ofTable [("general", .table gs .header [("log_level", .leaf ls (.text s.logLevel))]),
      ("usbip", .table us .header [("program", .leaf ps (.text text)),
        ("max_delay", .leaf ms (.integer s.maxDelay.toNat)),
        ("count", .leaf ns (.integer s.count.toNat))])] = .ok s := by
  simp [ofTable, applyEntries, sections, applySection, generalFields, usbipFields, List.lookup_cons,
    text_leaf, path_leaf, word_leaf, same, bind, Except.bind, pure, Except.pure]

theorem parse?_toToml_tree (s : Settings) (document : List Char) (text : String)
    (isText : s.program.text? = some text) (delayFits : fitsWord s.maxDelay.toNat = true)
    (countFits : fitsWord s.count.toNat = true) (written : s.toToml = .ok document) :
    ∃ gs us ls ps ms ns, Toml.parse? (String.ofList document) = some [
      ("general", .table gs .header [("log_level", .leaf ls (.text s.logLevel))]),
      ("usbip", .table us .header [("program", .leaf ps (.text text)),
        ("max_delay", .leaf ms (.integer s.maxDelay.toNat)),
        ("count", .leaf ns (.integer s.count.toNat))])] := by
  rw [toToml_eq_documentOf s text isText delayFits countFits] at written
  cases written
  obtain ⟨d, read, lines⟩ := document?_documentOf _ _ _ _ _ _ _ _ (spells_written s.logLevel)
    (spells_written text) (spells_decimal _ delayFits) (spells_decimal _ countFits)
  obtain ⟨gs, us, ls, ps, ms, ns, tree⟩ := tree?_fourLines d _ _ _ _ lines
  have unmarked : ∀ l p m n, withoutMark (documentOf l p m n) = documentOf l p m n :=
    fun _ _ _ _ => rfl
  have parsed : Toml.parse? (String.ofList (documentOf (Toml.written s.logLevel.toList)
      (Toml.written text.toList) (Nat.toDigits 10 s.maxDelay.toNat)
      (Nat.toDigits 10 s.count.toNat))) = d.tree? := by
    simp [Toml.parse?, String.toList_ofList, unmarked, read]
  exact ⟨gs, us, ls, ps, ms, ns, parsed.trans tree⟩

/-- The document of settings has a root table, and that table gives the settings back. -/
theorem parse?_toToml (s : Settings) (document : List Char) (text : String)
    (isText : s.program.text? = some text) (delayFits : fitsWord s.maxDelay.toNat = true)
    (countFits : fitsWord s.count.toNat = true) (written : s.toToml = .ok document) :
    ∃ root, Toml.parse? (String.ofList document) = some root ∧ ofTable root = .ok s := by
  obtain ⟨gs, us, ls, ps, ms, ns, parsed⟩ :=
    parse?_toToml_tree s document text isText delayFits countFits written
  exact ⟨_, parsed, ofTable_full s text (ofString_text s.program text isText) gs us ls ps ms ns⟩

/-! ## After reading -/

theorem fitsWord_of_lt (n : Nat) (small : n < 0x8000000000000000) : fitsWord n = true := by
  simp only [fitsWord, Bool.and_eq_true, decide_eq_true_eq]
  omega

/-- Settings whose client is a text and whose numbers are below `2^63` are written as a document,
and the document is read as the same settings.  Nothing but the home directory and the checks comes
on top: an unknown log level is complained about first, then a client of no name. -/
theorem ofToml_toToml (s : Settings) (isText : s.program.text?.isSome = true)
    (delayFits : s.maxDelay.toNat < 0x8000000000000000) (countFits : s.count.toNat < 0x8000000000000000) :
    ∃ document, s.toToml = .ok document ∧
      (∃ root, Toml.parse? (String.ofList document) = some root ∧ ofTable root = .ok s) ∧
      ∀ home, ofToml home (String.ofList document) =
        if s.logLevel ∉ logLevels then .error (.flaw (.logLevel s.logLevel))
        else if s.program.expandHome home = ⟨[]⟩ then .error (.flaw .program)
        else .ok { s with program := s.program.expandHome home } := by
  obtain ⟨text, isText⟩ := Option.isSome_iff_exists.mp isText
  have delayFits := fitsWord_of_lt s.maxDelay.toNat delayFits
  have countFits := fitsWord_of_lt s.count.toNat countFits
  have written := toToml_eq_documentOf s text isText delayFits countFits
  obtain ⟨root, parsed, decoded⟩ := parse?_toToml s _ text isText delayFits countFits written
  refine ⟨_, written, ⟨root, parsed, decoded⟩, fun home => ?_⟩
  simp only [ofToml, parsed, decoded, checked, flaw?, expanded]
  by_cases level : s.logLevel ∈ logLevels
  · by_cases named : s.program.expandHome home = ⟨[]⟩
    · simp [level, named, Path.isEmpty]
    · have nonempty : (s.program.expandHome home).isEmpty = false := by
        cases h : s.program.expandHome home with
        | mk bytes =>
          rw [h] at named
          simpa [Path.isEmpty] using named
      simp [level, named, nonempty]
  · simp [level]

def tangled : Settings where
  logLevel := "\n'''\"\"\"\\"
  program := Path.ofString "~/\r\x00\x7f\t'''' \"\"\""
  maxDelay := 9223372036854775807
  count := 0

theorem ofToml_toToml_tangled : tangled.program.text?.isSome = true ∧
    tangled.maxDelay.toNat < 0x8000000000000000 ∧ tangled.count.toNat < 0x8000000000000000 ∧
    ∃ document, tangled.toToml = .ok document ∧
      (∃ root, Toml.parse? (String.ofList document) = some root ∧ ofTable root = .ok tangled) ∧
      ofToml [] (String.ofList document) = .error (.flaw (.logLevel tangled.logLevel)) := by
  have isText : tangled.program.text?.isSome = true := by
    rw [tangled, text?_ofString]
    rfl
  have delayFits : tangled.maxDelay.toNat < 0x8000000000000000 := by decide
  have countFits : tangled.count.toNat < 0x8000000000000000 := by decide
  obtain ⟨document, written, decoded, read⟩ :=
    ofToml_toToml tangled isText delayFits countFits
  have unknown : tangled.logLevel ∉ logLevels := by decide
  refine ⟨isText, delayFits, countFits, document, written, decoded, ?_⟩
  rw [read [], if_pos unknown]

end Replug.Settings
