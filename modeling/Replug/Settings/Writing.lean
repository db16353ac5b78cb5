import Replug.Settings
import Replug.Toml.Number
import Replug.Toml.Quoting

/-!
# Settings as a document

Every setting is written, in two sections and in a fixed order.  A client whose path is no text, or
a number that does not fit into a document, cannot be written.
-/

set_option autoImplicit false

namespace Replug.Settings

inductive Unwritable where
  | path
  | number
  deriving DecidableEq, Repr

def Unwritable.message : Unwritable → String
  | .path => "path contains invalid UTF-8 characters"
  | .number => "out-of-range value for u64 type"

def writtenText (s : String) : List Char := Toml.written s.toList

def writtenNumber? (n : UInt64) : Except Unwritable (List Char) :=
  if Toml.fitsWord n.toNat then .ok (Nat.toDigits 10 n.toNat) else .error .number

def settingLine (key : String) (value : List Char) : List Char :=
  key.toList ++ [' ', '=', ' '] ++ value ++ ['\n']

def toToml (s : Settings) : Except Unwritable (List Char) := do
  let program ← match s.program.text? with
    | some text => .ok (writtenText text)
    | none => .error .path
  let maxDelay ← writtenNumber? s.maxDelay
  let count ← writtenNumber? s.count
  return "[general]\n".toList ++ settingLine "log_level" (writtenText s.logLevel) ++
    "\n[usbip]\n".toList ++ settingLine "program" program ++
    settingLine "max_delay" maxDelay ++ settingLine "count" count

end Replug.Settings
