import Replug.Log.Pattern
import Replug.Machine.Small
import Replug.Program
import Replug.Proofs.Failure.Interrupts
import Replug.Proofs.Machine.Stations
import Replug.Proofs.Settings.Layers

/-!
# Which values a run starts from

Three layers lie over each other: the command line, one file, and the default settings.  Each value
is taken from the highest layer that gives it.  The file is the one that is asked for, and then it
must be usable; or else it is the first standard place that exists, and one that is of no use there
counts as if it gave nothing, once that was complained about.
-/

set_option autoImplicit false

namespace Replug.Program

open Settings

variable {σ : Type}

/-! ## The layer of a file -/

/-- A path leads to a document, and its values are those of a layer that a run could use. -/
def Holds (env : Environment) (files : Files) (path : Path) (l : Layer) : Prop :=
  ∃ content, files.readText path = some (.ok content) ∧ l.IsGivenBy content ∧
    l.Legal env.homeDirectory

/-- The layer between the command line and the default settings, and what is complained about. -/
inductive Selected (env : Environment) (files : Files) :
    Option Path → Layer → Option String → Prop
  | asked {path : Path} {l : Layer} (holds : Holds env files path l) :
    Selected env files (some path) l none
  | standard {path : Path} {l : Layer}
    (first : (standardPlaces env).find? files.pathExists = some path)
    (holds : Holds env files path l) : Selected env files none l none
  | spoiled {path : Path} {fault : LoadFault}
    (first : (standardPlaces env).find? files.pathExists = some path)
    (fails : loadFile env files path = some (.error fault)) :
    Selected env files none .blank (some ("Config: " ++ fault.report.message))
  | absent (nowhere : (standardPlaces env).find? files.pathExists = none) :
    Selected env files none .blank none

section Loading

variable {env : Environment} {files : Files} {path : Path} {config : Option Path} {l : Layer}
  {complaint : Option String}

theorem loadFile_eq_none_iff : loadFile env files path = none ↔ files.readText path = none :=
  Option.map_eq_none_iff

theorem loadFile_of_holds (holds : Holds env files path l) :
    ∃ log, loadFile env files path = some (.ok ⟨l.settings env.homeDirectory, log⟩) := by
  obtain ⟨content, read, written, legal⟩ := holds
  have loaded := (Layer.ofToml_eq_ok_iff_layer env.homeDirectory content _).mpr
    ⟨l, written, legal, rfl⟩
  exact ⟨_, by simp only [loadFile, read, Option.map_some, loadText, loaded]; rfl⟩

theorem holds_of_loadFile {loaded : Loaded} (loads : loadFile env files path = some (.ok loaded)) :
    ∃ l, Holds env files path l := by
  obtain ⟨answer, read, gives⟩ := Option.map_eq_some_iff.mp loads
  rcases answer with _ | content
  · cases gives
  · simp only [loadText] at gives
    split at gives
    · cases gives
    · next s isSettings =>
        obtain ⟨l, written, legal, -⟩ :=
          (Layer.ofToml_eq_ok_iff_layer env.homeDirectory content s).mp isSettings
        exact ⟨l, content, read, written, legal⟩

theorem loadFile_fails_iff (env : Environment) (files : Files) (path : Path) :
    (∃ fault, loadFile env files path = some (.error fault)) ↔
      files.readText path ≠ none ∧ ¬ ∃ l, Holds env files path l := by
  rw [ne_eq, ← @loadFile_eq_none_iff env]
  constructor
  · rintro ⟨fault, fails⟩
    refine ⟨by simp [fails], ?_⟩
    rintro ⟨l, holds⟩
    obtain ⟨log, loads⟩ := loadFile_of_holds holds
    rw [fails] at loads
    cases loads
  · rintro ⟨read, noLayer⟩
    rcases loads : loadFile env files path with _ | fault | loaded
    · exact absurd loads read
    · exact ⟨fault, rfl⟩
    · exact absurd (holds_of_loadFile loads) noLayer

theorem settingsFor_of_selected (selected : Selected env files config l complaint) :
    settingsFor env files config = some (.ok (l.settings env.homeDirectory, complaint)) := by
  cases selected with
  | asked holds =>
      obtain ⟨log, loads⟩ := loadFile_of_holds holds
      simp [settingsFor, load, loads]
  | standard first holds =>
      obtain ⟨log, loads⟩ := loadFile_of_holds holds
      simp [settingsFor, loadOrDefault, loadFirst, first, loads, Except.map]
  | spoiled first fails =>
      simp [settingsFor, loadOrDefault, loadFirst, first, fails, Except.map, Layer.settings,
        Layer.blank]
  | absent nowhere =>
      simp [settingsFor, loadOrDefault, loadFirst, nowhere, Layer.settings, Layer.blank]

end Loading

/-! ## The way of a run -/

structure Outcome.Stands (o : Outcome σ) (s : Station σ) : Prop where
  exit : o.exit = none
  station : o.station = s

/-- An outcome in which nothing but a report was left to be made.  There is no exit if it is not
taken. -/
structure Outcome.Reports (o : Outcome σ) (m : Machine σ) (report : Report) (s : Station σ) : Prop where
  station : o.station = (m.print (report.message ++ "\n") s).2
  exit : o.exit = if (m.print (report.message ++ "\n") s).1.isOk then some 0 else none

/-- An outcome of cycles: what they left is reported if something failed. -/
inductive Outcome.Closes (o : Outcome σ) (m : Machine σ)
    (e : Execution (Except Failure Summary) (Station σ)) : Prop
  | done {summary : Summary} (ends : e.ending = .finished (.ok summary)) (exit : o.exit = some 0)
    (station : o.station = e.world)
  | interrupted (ends : e.ending = .interrupted ∨ e.ending = .finished (.error .interrupted))
    (exit : o.exit = some 0) (station : o.station = e.world)
  | failed {failure : Failure} (ends : e.ending = .finished (.error failure))
    (serious : failure ≠ .interrupted) (reports : o.Reports m (.ofFailure failure) e.world)
  | hung (ends : e.ending = .hung) (stands : o.Stands e.world)

/-- How a run goes on with a level for the log, a plan and something to complain about, if anything:
the complaint is not taken, the log cannot be set up or that breaks off, the plan lacks something, or
its cycles are made. -/
inductive Goes (patterns : Log.Patterns) (m : Machine σ) (env : Environment) (level : String)
    (plan : Plan) (complaint : Option String) (state : σ) (o : Outcome σ) : Prop
  | unheard {line : String} {fault : IoFault} (spoken : complaint = some line)
    (refused : (m.complain line state).1 = .error fault)
    (stands : o.Stands (.fresh (m.complain line state).2))
  | broken {after : σ} (heard : m.Hears complaint state after)
    (breaks : Log.setup patterns env.logFilter level none = (none, none))
    (stands : o.Stands (.fresh after))
  | noLog {after : σ} {failure : Failure} (heard : m.Hears complaint state after)
    (fails : Log.setup patterns env.logFilter level none = (some (.error failure), none))
    (reports : o.Reports m ((Report.ofFailure failure).remark "Failed to setup logging")
      (.fresh after))
  | lacking {after : σ} {filter : Log.Filter} {lack : Plan.Lack}
    (heard : m.Hears complaint state after)
    (logs : Log.setup patterns env.logFilter level none = (some (.ok ()), some filter))
    (first : plan.FirstLack lack)
    (reports : o.Reports m (.ofWords lack.message) ((Station.fresh after).note greeting))
  | cycling {after : σ} {filter : Log.Filter} (heard : m.Hears complaint state after)
    (logs : Log.setup patterns env.logFilter level none = (some (.ok ()), some filter))
    (complete : plan.Complete)
    (closes : o.Closes m (Cycle.runUntil plan (m.world plan.program)
      (m.shutdown.within Station.machine) ((Station.fresh after).note greeting)))

/-! ## Attempts -/

section Attempts

variable {patterns : Log.Patterns} {m : Machine σ} {env : Environment}
  {args : CommandLine.Arguments} {s : Station σ} {state after : σ} {l : Layer}
  {complaint : Option String} {level : String}

abbrev levelOver (args : CommandLine.Arguments) (l : Layer) : String :=
  (args.logLevel.or l.logLevel).getD "info"

abbrev planOver (env : Environment) (args : CommandLine.Arguments) (l : Layer) : Plan :=
  l.plan env.homeDirectory args.remote args.busId args.overrides

theorem levelFor_settings (args : CommandLine.Arguments) (home : Bytes) (l : Layer) :
    levelFor args (l.settings home) = levelOver args l := by
  rw [levelFor, levelOver, Option.getD_or]
  rfl

theorem attempt_unloaded (loops : args.saveConfig = false) {path : Path} {fault : LoadFault}
    (asked : args.config = some path)
    (fails : loadFile env (m.files state) path = some (.error fault)) :
    attempt patterns m env args (.fresh state) =
      ⟨.failed (fault.report.remark "Failed to load configuration"), none, none, .fresh state⟩ := by
  have settings : settingsFor env (m.files (Station.fresh state).machine) args.config =
      some (.error (fault.report.remark "Failed to load configuration")) := by
    simp [asked, settingsFor, load, Station.fresh, fails]
  simp only [attempt, loops, settings, Bool.false_eq_true, if_false]

theorem attempt_unheard (loops : args.saveConfig = false) {line : String} {fault : IoFault}
    (selected : Selected env (m.files state) args.config l (some line))
    (refused : (m.complain line state).1 = .error fault) :
    attempt patterns m env args (.fresh state) =
      ⟨.broken, none, none, .fresh (m.complain line state).2⟩ := by
  have settings : settingsFor env (m.files (Station.fresh state).machine) args.config =
      some (.ok (l.settings env.homeDirectory, some line)) := settingsFor_of_selected selected
  have warned : m.warn (some line) (Station.fresh state) =
      (.error fault, .fresh (m.complain line state).2) := by
    rw [Machine.warn]
    simp only [Station.fresh, refused]
  simp only [attempt, loops, settings, warned, Bool.false_eq_true, if_false]

theorem attempt_heard (loops : args.saveConfig = false)
    (selected : Selected env (m.files state) args.config l complaint)
    (heard : m.Hears complaint state after) :
    attempt patterns m env args (.fresh state) =
      start patterns m env args (l.settings env.homeDirectory) complaint (.fresh after) := by
  have settings : settingsFor env (m.files (Station.fresh state).machine) args.config =
      some (.ok (l.settings env.homeDirectory, complaint)) := settingsFor_of_selected selected
  simp only [attempt, loops, settings, heard.warn, Bool.false_eq_true, if_false]

theorem start_broken
    (breaks : Log.setup patterns env.logFilter (levelOver args l) none = (none, none)) :
    start patterns m env args (l.settings env.homeDirectory) complaint s =
      ⟨.broken, complaint, none, s⟩ := by
  simp only [start, levelFor_settings, breaks]

theorem start_noLog {failure : Failure}
    (fails : Log.setup patterns env.logFilter (levelOver args l) none =
      (some (.error failure), none)) :
    start patterns m env args (l.settings env.homeDirectory) complaint s =
      ⟨.failed ((Report.ofFailure failure).remark "Failed to setup logging"), complaint, none, s⟩ := by
  simp only [start, levelFor_settings, fails]

theorem start_lacking {filter : Log.Filter} {lack : Plan.Lack}
    (logs : Log.setup patterns env.logFilter (levelOver args l) none =
      (some (.ok ()), some filter))
    (first : (planOver env args l).FirstLack lack) :
    start patterns m env args (l.settings env.homeDirectory) complaint s =
      ⟨.failed (.ofWords lack.message), complaint, some filter, s.note greeting⟩ := by
  rw [planOver, ← Layer.layered_settings, ← Plan.resolve_eq_error_iff] at first
  simp only [start, levelFor_settings, logs, first]

theorem start_cycling {filter : Log.Filter}
    (logs : Log.setup patterns env.logFilter (levelOver args l) none =
      (some (.ok ()), some filter))
    (complete : (planOver env args l).Complete) :
    start patterns m env args (l.settings env.homeDirectory) complaint s =
      ⟨(cycle m (planOver env args l) (s.note greeting)).1, complaint, some filter,
        (cycle m (planOver env args l) (s.note greeting)).2⟩ := by
  rw [planOver, ← Layer.layered_settings, ← Plan.resolve_eq_ok_iff] at complete
  simp only [start, levelFor_settings, logs, complete]
  rw [planOver, ← Layer.layered_settings]

end Attempts

/-! ## The ends of attempts -/

section Runs

variable {patterns : Log.Patterns} {m : Machine σ} {env : Environment} {argv : List Bytes}
  {args : CommandLine.Arguments} {l : Layer} {complaint : Option String}

theorem setup_cases (patterns : Log.Patterns) (environment : Option Bytes) (level : String) :
    Log.setup patterns environment level none = (none, none) ∨
    (∃ failure, Log.setup patterns environment level none = (some (.error failure), none)) ∨
    ∃ filter, Log.setup patterns environment level none = (some (.ok ()), some filter) := by
  unfold Log.setup
  split
  · exact .inl rfl
  · exact .inr (.inl ⟨_, rfl⟩)
  · exact .inr (.inr ⟨_, rfl⟩)

theorem setup_serious {environment : Option Bytes} {level : String} {before after : Log.State}
    {failure : Failure}
    (fails : Log.setup patterns environment level before = (some (.error failure), after)) :
    failure ≠ .interrupted := by
  unfold Log.setup at fails
  split at fails
  · cases fails
  · cases fails
    simp [Log.unusable]
  · split at fails
    · cases fails
    · cases fails
      simp [Log.alreadySetUp]

theorem finish_reports (m : Machine σ) {report : Report}
    (serious : report.base ≠ .failure .interrupted) (complaint : Option String)
    (filter : Log.State) (s : Station σ) :
    (finish m ⟨.failed report, complaint, filter, s⟩).Reports m report s := by
  have isReported : report.isInterrupt = false :=
    Bool.eq_false_iff.mpr fun interrupt => serious (report.isInterrupt_iff.mp interrupt)
  have failed : report.termination = .failed report.message := by
    simp [Report.termination, isReported]
  cases printed : m.print (report.message ++ "\n") s with
  | mk answer after =>
      cases answer <;>
        exact ⟨by simp [finish, failed, printed],
          by simp [finish, failed, printed, Termination.exitStatus, Except.isOk, Except.toBool]⟩

theorem finish_noLog (m : Machine σ) {environment : Option Bytes} {level : String}
    {before after : Log.State} {failure : Failure}
    (fails : Log.setup patterns environment level before = (some (.error failure), after))
    (complaint : Option String) (filter : Log.State) (s : Station σ) :
    (finish m ⟨.failed ((Report.ofFailure failure).remark "Failed to setup logging"), complaint,
      filter, s⟩).Reports m ((Report.ofFailure failure).remark "Failed to setup logging") s := by
  have serious := setup_serious fails
  exact finish_reports m (by simpa [Report.remark, Report.within, Report.ofFailure] using serious)
    complaint filter s

theorem finish_closes (m : Machine σ) (plan : Plan) (complaint : Option String) (filter : Log.State)
    (s : Station σ) :
    (finish m ⟨(cycle m plan s).1, complaint, filter, (cycle m plan s).2⟩).Closes m
      (Cycle.runUntil plan (m.world plan.program) (m.shutdown.within Station.machine) s) := by
  have silent : (Report.ofFailure .interrupted).termination = .cancelled := by decide
  simp only [cycle]
  generalize Cycle.runUntil plan (m.world plan.program) (m.shutdown.within Station.machine) s = e
  cases ends : e.ending with
  | hung =>
      refine .hung ends ?_
      simp only [Cycle.result]
      exact ⟨rfl, rfl⟩
  | interrupted =>
      refine .interrupted (.inl ends) ?_ ?_ <;> simp [Cycle.result, finish, silent]
      rfl
  | finished result =>
      cases result with
      | ok summary => exact .done ends rfl rfl
      | error failure =>
          by_cases interrupt : failure = .interrupted
          · subst interrupt
            refine .interrupted (.inr ends) ?_ ?_ <;> simp [Cycle.result, finish, silent]
            rfl
          · refine .failed ends interrupt (finish_reports m ?_ complaint filter e.world)
            simpa [Report.ofFailure] using interrupt

theorem run_attempt (patterns : Log.Patterns) (m : Machine σ) (env : Environment)
    (accepted : CommandLine.Arguments.parse argv = .ok args) (state : σ) :
    run patterns m env argv state = finish m (attempt patterns m env args (Station.fresh state)) := by
  simp only [run, accepted]

/-- A run whose layer is selected goes on with the values of the three layers. -/
theorem run_goes (patterns : Log.Patterns) (m : Machine σ) (env : Environment)
    (accepted : CommandLine.Arguments.parse argv = .ok args) (loops : args.saveConfig = false)
    (state : σ) (selected : Selected env (m.files state) args.config l complaint) :
    Goes patterns m env (levelOver args l) (planOver env args l) complaint state
      (run patterns m env argv state) := by
  rw [run_attempt patterns m env accepted]
  rcases m.hears_or_refuses complaint state with ⟨after, heard⟩ | ⟨line, fault, rfl, refused⟩
  · rw [attempt_heard loops selected heard]
    rcases setup_cases patterns env.logFilter (levelOver args l) with
      breaks | ⟨failure, fails⟩ | ⟨filter, logs⟩
    · rw [start_broken breaks]
      exact .broken heard breaks ⟨rfl, rfl⟩
    · rw [start_noLog fails]
      exact .noLog heard fails (finish_noLog m fails complaint none _)
    · rcases (planOver env args l).lack?_cases with ⟨-, complete⟩ | ⟨lack, -, first⟩
      · rw [start_cycling logs complete]
        exact .cycling heard logs complete (finish_closes m _ complaint _ _)
      · rw [start_lacking logs first]
        exact .lacking heard logs first (finish_reports m (by simp [Report.ofWords]) complaint _ _)
  · rw [attempt_unheard loops selected refused]
    exact .unheard rfl refused ⟨rfl, rfl⟩

end Runs

def homely : Environment := ⟨Bytes.ofString "/home/u", none, none, [], [], []⟩

end Replug.Program
