import Replug.Files.Ground
import Replug.Files.Lookup

/-!
# Programs among files

How the system finds a program and what it makes of its file.  A name without a slash is looked
for in the directories of a search path; what cannot be had in one of them may be had in the next.

A file that may be run is a tool, or a script that names its interpreter in the first line, or
nothing that can be run.  A script comes to whatever its interpreter comes to.
-/

set_option autoImplicit false

namespace Replug.Files

structure Image where
  /-- The tool that is run in the end. -/
  tool : String
  /-- The name by which the tool was called. -/
  name : Bytes
  arguments : List Bytes
  deriving DecidableEq, Repr

/-- The tool that a file is, if it is one.  Other machine code cannot be run here. -/
def toolIn? (content : Bytes) : Option String :=
  tools.find? fun name => toolContent name = content

def isGap (b : UInt8) : Bool := b = 0x20 || b = 0x09

/-- The bytes of a script in which the interpreter must be named, after the sign for it. -/
def longestHeadline : Nat := 254

/-- The interpreter that a script names, and the argument for it if there is one.  A name that is
cut off is no name. -/
def interpreterIn? : Bytes → Option (Path × Option Bytes)
  | 0x23 :: 0x21 :: rest =>
    let headline := rest.take longestHeadline
    let cut := longestHeadline < rest.length && !headline.contains 0x0A
    let line := (headline.takeWhile fun b => b ≠ 0x0A && b ≠ 0).dropWhile isGap
    let line := (line.reverse.dropWhile isGap).reverse
    let name := line.takeWhile fun b => !isGap b
    let argument := (line.drop name.length).dropWhile isGap
    if name.isEmpty || (cut && name.length = line.length) then none
    else some (⟨name⟩, if argument.isEmpty then none else some argument)
  | _ => none

/-- How many programs may be opened one for the other: a program, and the interpreters that lead
from it to a tool. -/
def mostInterpreters : Nat := 6

def image (files : Files) : Nat → Path → Bytes → List Bytes → Except SystemCode Image
  | 0, _, _, _ => .error .tooManyLinks
  | left + 1, p, name, args =>
    match files.lookup p with
    | .error code => .error code
    | .ok (.vacant _ _) => .error .noEntry
    | .ok (.found _ (.file content true)) =>
      match toolIn? content, interpreterIn? content with
      | some tool, _ => .ok ⟨tool, name, args⟩
      | none, some (interpreter, argument) =>
        image files left interpreter interpreter.bytes (argument.toList ++ p.bytes :: args)
      | none, none => .error .notProgram
    | .ok (.found _ _) => .error .accessDenied

/-- The directories of a search path.  An empty one stands for the working directory. -/
def searched : Bytes → List Bytes
  | [] => [[]]
  | b :: rest =>
    if b = 0x3A then [] :: searched rest
    else match searched rest with
      | [] => [[b]]
      | first :: more => (b :: first) :: more

def candidates (searchPath : Bytes) (program : Path) : List Path :=
  if program.bytes.contains Path.slash then [program]
  else (searched searchPath).map fun directory =>
    if directory.isEmpty then program else ⟨directory ++ Path.slash :: program.bytes⟩

def isPassedOver (code : SystemCode) : Bool :=
  [.accessDenied, .noEntry, .stale, .notDirectory, .noDevice, .timedOut].contains code

/-- What the first candidate that can be run comes to.  `fault` is the one to report when none can
be: access that was denied to one of them goes before everything else. -/
def firstImage (files : Files) (name : Bytes) (args : List Bytes) :
    SystemCode → List Path → Except SystemCode Image
  | fault, [] => .error fault
  | fault, p :: rest =>
    match image files mostInterpreters p name args with
    | .ok i => .ok i
    | .error code =>
      if isPassedOver code then
        firstImage files name args (if fault = .accessDenied then fault else code) rest
      else .error code

def start (files : Files) (searchPath : Bytes) (program : Path) (args : List Bytes) :
    Except SystemCode Image :=
  if program.isEmpty then .error .noEntry
  else firstImage files program.bytes args .noEntry (candidates searchPath program)

end Replug.Files
