import Replug.Files

/-!
# A small system

A file system with nothing in it but the usual directories and a few tools, and an empty directory
to work in.

A tool is a file whose content is the mark of machine code followed by the name of the tool.
-/

set_option autoImplicit false

namespace Replug.Files

def machineMark : Bytes := [0x7F, 0x45, 0x4C, 0x46]

def tools : List String := [
  "sh", "dash", "env", "true", "false", "echo", "printf", "cat", "wc", "head", "tail", "tee", "seq",
  "basename", "dirname", "rm", "rmdir", "mkdir", "touch", "chmod", "cp", "mv", "ln", "ls", "tr",
  "sort", "cut", "sleep", "pwd", "printenv"]

def toolContent (name : String) : Bytes := machineMark ++ Bytes.ofString name

def toolFile (name : String) : Entry := .file (toolContent name) true

def location (names : List String) : Location := names.map Bytes.ofString

def groundDirectories : List (List String) := [
  ["bin"], ["boot"], ["dev"], ["etc"], ["home"], ["lib"], ["mnt"], ["opt"], ["proc"], ["root"],
  ["run"], ["sbin"], ["srv"], ["sys"], ["tmp"], ["usr"], ["usr", "bin"], ["usr", "lib"],
  ["usr", "local"], ["usr", "local", "bin"], ["usr", "sbin"], ["usr", "share"], ["var"],
  ["tmp", "rehearsal"]]

def groundFiles : List (List String) := [["etc", "hostname"], ["etc", "hosts"], ["etc", "passwd"]]

def ground : Files where
  entries :=
    groundDirectories.map (fun names => (location names, .directory)) ++
      tools.map (fun name => (location ["usr", "bin", name], toolFile name)) ++
      tools.map (fun name => (location ["bin", name], toolFile name)) ++
      groundFiles.map (fun names => (location names, .file [] false)) ++
      [(location ["dev", "null"], .device [])]
  workingDirectory := location ["tmp", "rehearsal"]

end Replug.Files
