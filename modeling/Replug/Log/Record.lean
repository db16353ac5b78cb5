/-!
# Log records

What the program notes down about its own work.  A record has a level, the part of the program it
comes from, a message, and numbers by name.  Whether a record is shown, and where, is the business
of `Replug.Log.Filter`.
-/

set_option autoImplicit false

namespace Replug.Log

inductive Level where
  | error
  | warn
  | info
  | debug
  | trace
  deriving DecidableEq, Repr

namespace Level

def all : List Level := [.error, .warn, .info, .debug, .trace]

def name : Level → String
  | .error => "ERROR"
  | .warn => "WARN"
  | .info => "INFO"
  | .debug => "DEBUG"
  | .trace => "TRACE"

/-- The place of a level among all levels; a lower one is graver. -/
def rank : Level → Nat
  | .error => 1
  | .warn => 2
  | .info => 3
  | .debug => 4
  | .trace => 5

end Level

inductive Source where
  | program
  | settings
  | cycle
  | client
  deriving DecidableEq, Repr

def Source.target : Source → String
  | .program => "usbip_attach_loop"
  | .settings => "attach_loop::config"
  | .cycle => "attach_loop::driver"
  | .client => "attach_loop::usbip"

structure Record where
  level : Level
  source : Source
  message : String
  fields : List (String × Nat)
  deriving DecidableEq, Repr

namespace Record

/-- A character as a terminal may safely show it.  Signs that could steer the terminal are spelled
out. -/
def safeChar (c : Char) : List Char :=
  let n := c.toNat
  if n = 0x1B then ['\\', 'x', '1', 'b']
  else if n = 0x07 then ['\\', 'x', '0', '7']
  else if n = 0x08 then ['\\', 'x', '0', '8']
  else if n = 0x0C then ['\\', 'x', '0', 'c']
  else if n = 0x7F then ['\\', 'x', '7', 'f']
  else if 0x80 ≤ n ∧ n ≤ 0x9F then
    ['\\', 'u', '\x7b'] ++ Nat.toDigits 16 n ++ ['\x7d']
  else [c]

def line (r : Record) : String :=
  r.level.name ++ " " ++ String.ofList (r.message.toList.flatMap safeChar) ++
    String.join (r.fields.map fun (name, value) => " " ++ name ++ "=" ++ toString value)

end Record

end Replug.Log
