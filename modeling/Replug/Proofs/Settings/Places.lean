import Mathlib
import Replug.Proofs.Files.Contents
import Replug.Proofs.Files.Existence
import Replug.Settings.Store

/-!
# The place that settings are taken from

Of several places the first one that exists is the only one that counts.  What loading gives there is
told by what the place leads to and whether that may be read, and nothing that comes after it is looked
at, also when it cannot be loaded.  Where no place exists there is nothing to load.
-/

set_option autoImplicit false

namespace Replug.Settings

variable {env : Environment} {files files' : Files} {p : Path} {places before after after' : List Path}

/-- The bytes that a path leads to and that may be read: those of a file or from a device. -/
inductive Contains (files : Files) (p : Path) : Bytes → Prop
  | file {place : Location} {content : Bytes} {runnable : Bool}
    (leads : files.find p = .ok (.found place (.file content runnable)))
    (granted : (files.termsAt place).reading = .given) : Contains files p content
  | device {place : Location} {gives : Bytes}
    (leads : files.find p = .ok (.found place (.device gives)))
    (granted : (files.termsAt place).reading = .given) : Contains files p gives

theorem Contains.read {content : Bytes} (contains : Contains files p content) :
    files.read p = some (.ok content) := by
  cases contains with
  | file leads granted => exact Files.read_of_find leads granted
  | device leads granted => exact Files.read_of_find leads granted

/-- What loading gives at a path that exists.  It does not come to an end where reading does not.
Only where the files are no tree can a path end at a link, and then it cannot be read. -/
inductive Verdict (env : Environment) (files : Files) (p : Path) :
    Option (Except LoadFault Loaded) → Prop
  | endless {place : Location} {entry : Entry} (leads : files.find p = .ok (.found place entry))
    (waits : (files.termsAt place).reading = .endless) : Verdict env files p none
  | barred {place : Location} {entry : Entry} {code : SystemCode}
    (leads : files.find p = .ok (.found place entry))
    (refuses : (files.termsAt place).reading = .refused code) :
    Verdict env files p (some (.error (.unreadable p (.system code))))
  | directory {place : Location} (leads : files.find p = .ok (.found place .directory))
    (granted : (files.termsAt place).reading = .given) :
    Verdict env files p (some (.error (.unreadable p (.system .isDirectory))))
  | noText {content : Bytes} (contains : Contains files p content)
    (strange : content.text? = none) :
    Verdict env files p (some (.error (.unreadable p Files.notTextFault)))
  | refused {content : Bytes} {text : String} {why : Unreadable} (contains : Contains files p content)
    (isText : content.text? = some text) (refuses : ofToml env.homeDirectory text = .error why) :
    Verdict env files p (some (.error (.unusable p why)))
  | usable {content : Bytes} {text : String} {s : Settings} (contains : Contains files p content)
    (isText : content.text? = some text) (gives : ofToml env.homeDirectory text = .ok s) :
    Verdict env files p (some (.ok ⟨s, loadedRecords p s⟩))
  | astray {place : Location} {target : Path}
    (leads : files.find p = .ok (.found place (.link target)))
    (granted : (files.termsAt place).reading = .given) :
    Verdict env files p (some (.error (.unreadable p (.system .noEntry))))

/-- A fault of loading names the path, and tells what reading or the document gave, unchanged. -/
inductive Names (p : Path) : LoadFault → Prop
  | unreadable {fault : IoFault}
    (chain : (LoadFault.unreadable p fault).report.chain.map Link.text =
      ["Failed to read config file: " ++ p.display, fault.text]) : Names p (.unreadable p fault)
  | unusable {why : Unreadable}
    (chain : (LoadFault.unusable p why).report.chain.map Link.text =
      ["Failed to parse config file: " ++ p.display, why.message]) : Names p (.unusable p why)

theorem Verdict.names {fault : LoadFault} (verdict : Verdict env files p (some (.error fault))) :
    Names p fault := by
  cases verdict with
  | barred => exact .unreadable rfl
  | directory => exact .unreadable rfl
  | noText => exact .unreadable rfl
  | refused => exact .unusable rfl
  | astray => exact .unreadable rfl

end Replug.Settings
