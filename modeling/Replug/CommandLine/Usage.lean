import Replug.CommandLine.Arguments

/-!
# What the command line answers by itself

Help, version, and the complaints about arguments that lead to no run.
-/

set_option autoImplicit false

namespace Replug.CommandLine

def versionNumber : String := "0.1.0"

def versionText : String := "usbip-attach-loop " ++ versionNumber

def usageLine : String :=
  "Usage: usbip-attach-loop [OPTIONS] --remote <HOST> --bus-id <ID> [N]"

def description : List String := [
  "Repeatedly attaches a remote USB device with the usbip client, waits a random",
  "number of seconds and detaches all devices again.",
  "",
  "EXAMPLES:",
  "    # 100 cycles against bus-id 1-1 on 192.168.1.10",
  "    usbip-attach-loop -r 192.168.1.10 -b 1-1 100",
  "",
  "    # No delay, custom usbip location",
  "    usbip-attach-loop -r pi5 -b 3-2 -d 0 -p ~/bin/usbip",
  "",
  "CONFIGURATION:",
  "    Defaults for --program, --max-delay and N are read from the first of:",
  "    1. Path specified with --config",
  "    2. ~/.config/usbip-attach-loop/config.toml",
  "    3. /etc/usbip-attach-loop/config.toml",
  "    4. Built-in defaults (max delay 3, N 65535, platform usbip path)",
  "",
  ""]

def optionTable : List (String × String) := [
  ("-r, --remote <HOST>", "usbip server address"),
  ("-b, --bus-id <ID>", "bus-id of USB device"),
  ("-d, --max-delay <SEC>", "Max delay before detach, seconds [default: 3]"),
  ("-p, --program <PATH>",
    "Path to the usbip executable [default: platform install location]"),
  ("-c, --config <PATH>", "Path to configuration file"),
  ("    --save-config", "Save default configuration to default location and exit"),
  ("-l, --log-level <LEVEL>", "Log level (trace, debug, info, warn, error)")]

def countExplained : String := "Number of loops [default: 65535]"

def padded (width : Nat) (s : String) : String := s.pushn ' ' (width - s.length)

def shortHelp : List String :=
  ["usbip attach/detach loop", "", usageLine, "", "Arguments:", "  [N]  " ++ countExplained, "",
    "Options:"] ++
  (optionTable ++ [("-h, --help", "Print help (see more with '--help')"),
    ("-V, --version", "Print version")]).map
    fun (option, explained) => "  " ++ padded 25 option ++ explained

def longHelp : List String :=
  description ++ [usageLine, "", "Arguments:", "  [N]", "          " ++ countExplained, "",
    "Options:"] ++
  List.intercalate [""] ((optionTable ++ [("-h, --help", "Print help (see a summary with '-h')"),
    ("-V, --version", "Print version")]).map
    fun (option, explained) => ["  " ++ option, "          " ++ explained])

def Refusal.isRequest : Refusal → Bool
  | .help _ | .version => true
  | _ => false

def Refusal.exitStatus (r : Refusal) : Nat := if r.isRequest then 0 else 2

def asTyped (typed : String) : String := "'" ++ Text.forTerminal typed ++ "'"

def Refusal.complaint : Refusal → String
  | .unexpected typed => "unexpected argument " ++ asTyped typed ++ " found"
  | .valueMissing setting =>
    "a value is required for '" ++ setting.usage ++ "' but none was supplied"
  | .badNumber setting given fault =>
    "invalid value " ++ asTyped given ++ " for '" ++ setting.usage ++ "': " ++ fault.message
  | .repeated setting =>
    "the argument '" ++ setting.usage ++ "' cannot be used multiple times"
  | .surplusValue given meaning =>
    "unexpected value " ++ asTyped given ++ " for '" ++ meaning.usage ++
      "' found; no more were expected"
  | .notText => "invalid UTF-8 was detected in one or more arguments"
  | .missing settings =>
    "the following required arguments were not provided:" ++
      String.join (settings.map fun s => "\n  " ++ s.usage)
  | .help _ | .version => ""

def Refusal.text : Refusal → String
  | .help long => "\n".intercalate (if long then longHelp else shortHelp)
  | .version => versionText
  | r => "error: " ++ r.complaint

end Replug.CommandLine
