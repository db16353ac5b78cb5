import Replug.Proofs.CommandLine.Rendering
import Replug.Proofs.Log.Directives
import Replug.Proofs.Program.Precedence

/-!
# The level of the log, by flag or by file

The level of the log may be given on the command line or in a file.  A file is held to the five
levels.  The command line is not: whatever is a filter is accepted there, and a misspelt level is the
name of a target.  So each of the levels leads to the same filter either way, and all other filters
get through on the command line only.
-/

set_option autoImplicit false

namespace Replug.Program

open Settings

variable {σ : Type}

def Outcome.Logs (o : Outcome σ) : Prop := o.filter.isSome = true

/-- Arguments that name a level for the log and lead to a run. -/
inductive ByFlag (m : Machine σ) (env : Environment) (state : σ) (level : String)
    (argv : List Bytes) : Prop
  | intro {args : CommandLine.Arguments} {l : Layer} {complaint : Option String} {after : σ}
    (accepted : CommandLine.Arguments.parse argv = .ok args) (loops : args.saveConfig = false)
    (flagged : args.logLevel = some level)
    (selected : Selected env (m.files state) args.config l complaint)
    (heard : m.Hears complaint state after)

/-- Arguments that name no level but a file, in which a level is given and all else is in order. -/
inductive ByFile (env : Environment) (files : Files) (level : String) (argv : List Bytes) : Prop
  | intro {args : CommandLine.Arguments} {path : Path} {content : String} {l : Layer}
    (accepted : CommandLine.Arguments.parse argv = .ok args) (loops : args.saveConfig = false)
    (unflagged : args.logLevel = none) (asked : args.config = some path)
    (read : files.readText path = some (.ok content)) (written : l.IsGivenBy content)
    (leveled : l.logLevel = some level)
    (named : ∀ p, l.program = some p → p.expandHome env.homeDirectory ≠ ⟨[]⟩)

variable {patterns : Log.Patterns} {m : Machine σ} {env : Environment} {argv : List Bytes} {state : σ} {level : String}

/-! ## The filter of a run -/

theorem finish_filter (m : Machine σ) (a : Attempt σ) : (finish m a).filter = a.filter := by
  unfold finish
  split
  · rfl
  · rfl
  · rfl
  · split
    · rfl
    · split <;> rfl

theorem setup_unset (patterns : Log.Patterns) (level : String) :
    (Log.setup patterns none level none).2 = (Log.Filter.parse patterns level).toOption := by
  unfold Log.setup Log.chosenFilter
  rcases Log.Filter.parse patterns level with ⟨_ | _ | _ | _⟩ | filter <;> rfl

theorem start_filter (args : CommandLine.Arguments) (l : Layer) (complaint : Option String)
    (s : Station σ) : (start patterns m env args (l.settings env.homeDirectory) complaint s).filter =
      (Log.setup patterns env.logFilter (levelOver args l) none).2 := by
  rcases setup_cases patterns env.logFilter (levelOver args l) with
    breaks | ⟨failure, fails⟩ | ⟨filter, logs⟩
  · rw [start_broken breaks, breaks]
  · rw [start_noLog fails, fails]
  · rw [logs]
    rcases (planOver env args l).lack?_cases with ⟨-, complete⟩ | ⟨lack, -, first⟩
    · rw [start_cycling logs complete]
    · rw [start_lacking logs first]

theorem run_filter {args : CommandLine.Arguments} {l : Layer} {complaint : Option String} {after : σ}
    (unset : env.logFilter = none) (accepted : CommandLine.Arguments.parse argv = .ok args)
    (loops : args.saveConfig = false)
    (selected : Selected env (m.files state) args.config l complaint)
    (heard : m.Hears complaint state after) :
    (run patterns m env argv state).filter =
      (Log.Filter.parse patterns ((args.logLevel.or l.logLevel).getD "info")).toOption := by
  rw [run_attempt patterns m env accepted, finish_filter, attempt_heard loops selected heard,
    start_filter, unset, setup_unset]

theorem ByFlag.filter_eq (flag : ByFlag m env state level argv) (unset : env.logFilter = none) :
    (run patterns m env argv state).filter = (Log.Filter.parse patterns level).toOption := by
  obtain ⟨accepted, loops, flagged, selected, heard⟩ := flag
  rw [run_filter unset accepted loops selected heard, flagged, Option.some_or, Option.getD_some]

theorem logLevel_unique {l l' : Layer} {content : String} (written : l.IsGivenBy content)
    (written' : l'.IsGivenBy content) : l.logLevel = l'.logLevel := by
  obtain ⟨root, parsed, -, reads⟩ := written
  obtain ⟨root', parsed', -, reads'⟩ := written'
  cases parsed.symm.trans parsed'
  rw [reads.logLevel, reads'.logLevel]

theorem ByFile.filter_eq (file : ByFile env (m.files state) level argv)
    (unset : env.logFilter = none) : (run patterns m env argv state).filter =
      if level ∈ logLevels then (Log.Filter.parse patterns level).toOption else none := by
  obtain @⟨args, path, content, l, accepted, loops, unflagged, asked, read, written, leveled,
    named⟩ := file
  by_cases member : level ∈ logLevels
  · have legal : l.Legal env.homeDirectory := by
      refine ⟨fun given isGiven => ?_, named⟩
      cases leveled.symm.trans isGiven
      exact member
    have selected : Selected env (m.files state) args.config l none :=
      asked ▸ .asked ⟨content, read, written, legal⟩
    rw [if_pos member, run_filter unset accepted loops selected (.nothing state), unflagged, leveled]
    rfl
  · have unusable : ¬ ∃ l', Holds env (m.files state) path l' := by
      rintro ⟨l', content', read', written', legal'⟩
      cases read.symm.trans read'
      exact member (legal'.logLevel level ((logLevel_unique written' written).trans leveled))
    have ends : (m.files state).readText path ≠ none := by simp [read]
    obtain ⟨fault, fails⟩ := (loadFile_fails_iff env (m.files state) path).mpr ⟨ends, unusable⟩
    rw [if_neg member, run_attempt patterns m env accepted, finish_filter,
      attempt_unloaded loops asked fails]

/-! ## What passes -/

/-- A level lets records of its own grade and of all graver ones through. -/
theorem parse_level (patterns : Log.Patterns) (member : level ∈ logLevels) : ∃ grade : Log.Level,
    grade.name.toList.map Char.toLower = level.toList ∧
      (Log.Filter.parse patterns level).toOption = some ⟨[⟨none, none, none, .upTo grade⟩]⟩ := by
  have five : level = "trace" ∨ level = "debug" ∨ level = "info" ∨ level = "warn" ∨
      level = "error" := by simpa [logLevels] using member
  rcases five with rfl | rfl | rfl | rfl | rfl
  · exact ⟨.trace, by decide, by cbv⟩
  · exact ⟨.debug, by decide, by cbv⟩
  · exact ⟨.info, by decide, by cbv⟩
  · exact ⟨.warn, by decide, by cbv⟩
  · exact ⟨.error, by decide, by cbv⟩

theorem isFilter_of_level (patterns : Log.Patterns) (member : level ∈ logLevels) :
    Log.IsFilter patterns level := by
  obtain ⟨grade, -, parsed⟩ := parse_level patterns member
  rw [← Log.Filter.parse_isSome_iff, parsed]
  rfl

theorem ByFlag.logs_iff (flag : ByFlag m env state level argv) (unset : env.logFilter = none) :
    (run patterns m env argv state).Logs ↔ Log.IsFilter patterns level := by
  rw [Outcome.Logs, flag.filter_eq unset, Log.Filter.parse_isSome_iff]

theorem ByFile.logs_iff (file : ByFile env (m.files state) level argv)
    (unset : env.logFilter = none) :
    (run patterns m env argv state).Logs ↔ level ∈ logLevels := by
  rw [Outcome.Logs, file.filter_eq unset]
  by_cases member : level ∈ logLevels
  · rw [if_pos member, Log.Filter.parse_isSome_iff]
    exact iff_of_true (isFilter_of_level patterns member) member
  · rw [if_neg member]
    exact iff_of_false Bool.false_ne_true member

/-- Any text can be given as the level, on the command line as well as in a file. -/
theorem exists_leveled (home : Bytes) (level : String) :
    (∃ argv args, CommandLine.Arguments.parse argv = .ok args ∧ args.saveConfig = false ∧
      args.config = none ∧ args.logLevel = some level) ∧
    ∃ (content : String) (l : Layer), l.IsGivenBy content ∧ l.logLevel = some level ∧
      ∀ p, l.program = some p → p.expandHome home ≠ ⟨[]⟩ := by
  constructor
  · let args : CommandLine.Arguments := ⟨"h", "1-1", none, none, none, none, false, some level⟩
    have filled : args.Filled := ⟨by simp [args], by simp [args], by simp [args], by simp [args]⟩
    obtain ⟨argv, spelled⟩ := CommandLine.exists_spelled (.refl args.listed)
    have parsed : CommandLine.Arguments.parse argv = .ok args :=
      (CommandLine.parse_eq_ok_iff spelled).mpr
        ⟨args.draft, CommandLine.takesAll_listed filled (.refl _), args.complete_draft⟩
    exact ⟨argv, args, parsed, rfl, rfl, rfl⟩
  · have isText : default.program.text?.isSome := by decide
    have delayFits : default.maxDelay.toNat < 0x8000000000000000 := by decide
    have countFits : default.count.toNat < 0x8000000000000000 := by decide
    obtain ⟨content, written⟩ :=
      Layer.exists_full { default with logLevel := level } isText delayFits countFits
    refine ⟨content, _, written, rfl, ?_⟩
    rintro p ⟨rfl⟩
    show default.program.expandHome home ≠ ⟨[]⟩
    rw [Layer.expandHome_default]
    decide

/-- Where the environment names no filter, a level from the command line gets past setting up the log
if and only if it is a filter, and one from a file if and only if it is one of the five levels.  These
are filters as well, and each of them leads to the same one either way. -/
theorem run_logs_by_flag_or_file (patterns : Log.Patterns) (m : Machine σ) (env : Environment)
    (unset : env.logFilter = none) (state : σ) (level : String) :
    (∀ argv, ByFlag m env state level argv →
      ((run patterns m env argv state).Logs ↔ Log.IsFilter patterns level)) ∧
    (∀ argv, ByFile env (m.files state) level argv →
      ((run patterns m env argv state).Logs ↔ level ∈ logLevels)) ∧
    (level ∈ logLevels → Log.IsFilter patterns level ∧
      ∃ grade : Log.Level, grade.name.toList.map Char.toLower = level.toList ∧
        ∀ argv, ByFlag m env state level argv ∨ ByFile env (m.files state) level argv →
          (run patterns m env argv state).filter = some ⟨[⟨none, none, none, .upTo grade⟩]⟩) ∧
    (∃ argv args, CommandLine.Arguments.parse argv = .ok args ∧ args.saveConfig = false ∧
      args.config = none ∧ args.logLevel = some level) ∧
    ∃ (content : String) (l : Layer), l.IsGivenBy content ∧ l.logLevel = some level ∧
      ∀ p, l.program = some p → p.expandHome env.homeDirectory ≠ ⟨[]⟩ := by
  refine ⟨fun argv flag => flag.logs_iff unset, fun argv file => file.logs_iff unset, ?_,
    exists_leveled env.homeDirectory level⟩
  intro member
  obtain ⟨grade, named, parsed⟩ := parse_level patterns member
  refine ⟨isFilter_of_level patterns member, grade, named, ?_⟩
  rintro argv (flag | file)
  · rw [flag.filter_eq unset, parsed]
  · rw [file.filter_eq unset, if_pos member, parsed]

/-! ## A misspelt level -/

def loudForm : String := "[general]\nlog_level = 'loud'\n"

def loudRoot : Toml.Entries := [("general", .table ⟨29, 1⟩ .header
  [("log_level", .leaf ⟨7, 1⟩ (.text "loud"))])]

def loudFiles : Files where
  entries := [([Bytes.ofString "loud.toml"], .file (Bytes.ofString loudForm) false)]
  workingDirectory := []

def loudFlag : List Bytes := ["-r", "h", "-b", "1-1", "--log-level", "loud"].map Bytes.ofString

def loudFile : List Bytes := ["-r", "h", "-b", "1-1", "-c", "loud.toml"].map Bytes.ofString

theorem isGivenBy_loudForm : Layer.IsGivenBy ⟨some "loud", none, none, none⟩ loudForm := by
  have parsed : Toml.parse? loudForm = some loudRoot := by cbv
  have shaped := (ofTable_isOk_iff (Toml.parse?_sound _ _ parsed)).mp ⟨_, rfl⟩
  exact ⟨_, parsed, shaped, rfl, rfl, rfl, rfl⟩

theorem byFlag_loud : ByFlag (SmallMachine.machine homely) homely (.ofFiles loudFiles []) "loud"
    loudFlag := by
  have accepted : CommandLine.Arguments.parse loudFlag =
      .ok ⟨"h", "1-1", none, none, none, none, false, some "loud"⟩ := by cbv
  have nowhere : (standardPlaces homely).find? loudFiles.pathExists = none := by cbv
  exact .intro accepted rfl rfl (.absent nowhere) (.nothing _)

theorem byFile_loud : ByFile homely loudFiles "loud" loudFile := by
  have accepted : CommandLine.Arguments.parse loudFile =
      .ok ⟨"h", "1-1", none, none, none, some "loud.toml", false, none⟩ := by cbv
  have read : loudFiles.readText "loud.toml" = some (.ok loudForm) := by cbv
  exact .intro accepted rfl rfl rfl read isGivenBy_loudForm rfl (by simp)

theorem isFilter_loud (patterns : Log.Patterns) : Log.IsFilter patterns "loud" := by
  rw [← Log.Filter.parse_isOk_iff]
  rfl

/-- A misspelt level gets through on the command line, where it is the name of a target, and is
refused in a file. -/
theorem run_logs_by_flag_or_file_loud :
    let m := SmallMachine.machine homely
    let state := SmallMachine.ofFiles loudFiles []
    homely.logFilter = none ∧ ByFlag m homely state "loud" loudFlag ∧
      ByFile homely loudFiles "loud" loudFile ∧
      (run Log.Pattern.refused m homely loudFlag state).Logs ∧
      ¬ (run Log.Pattern.refused m homely loudFile state).Logs := by
  intro m state
  obtain ⟨byFlag, byFile, -⟩ :=
    run_logs_by_flag_or_file Log.Pattern.refused m homely rfl state "loud"
  refine ⟨rfl, byFlag_loud, byFile_loud,
    (byFlag loudFlag byFlag_loud).mpr (isFilter_loud Log.Pattern.refused), ?_⟩
  intro logs
  exact absurd ((byFile loudFile byFile_loud).mp logs) (by decide)

/-- The command line and a file do not accept the same levels. -/
theorem loud_logs_by_flag_only :
    ¬ ∀ (σ : Type) (patterns : Log.Patterns) (m : Machine σ) (env : Environment) (state : σ)
        (level : String) (flagged filed : List Bytes), env.logFilter = none → level ≠ "" →
        ByFlag m env state level flagged → ByFile env (m.files state) level filed →
          ((run patterns m env flagged state).Logs ↔ (run patterns m env filed state).Logs) := by
  intro alike
  have same := alike _ Log.Pattern.refused (SmallMachine.machine homely) homely
    (.ofFiles loudFiles []) "loud" loudFlag loudFile rfl (by decide) byFlag_loud byFile_loud
  have logs := same.mp ((ByFlag.logs_iff byFlag_loud rfl).mpr (isFilter_loud Log.Pattern.refused))
  exact absurd ((ByFile.logs_iff byFile_loud rfl).mp logs) (by decide)

end Replug.Program
