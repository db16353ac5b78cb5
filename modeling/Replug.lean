import Replug.Client
import Replug.CommandLine.Arguments
import Replug.CommandLine.Usage
import Replug.Course
import Replug.Course.Execution
import Replug.Cycle
import Replug.Cycle.Rehearsal
import Replug.Delay
import Replug.Failure
import Replug.Failure.Report
import Replug.Failure.SystemCode
import Replug.Files
import Replug.Files.Access
import Replug.Files.Ground
import Replug.Files.Image
import Replug.Files.Lookup
import Replug.Log.Filter
import Replug.Log.Pattern
import Replug.Log.Record
import Replug.Log.Setup
import Replug.Machine
import Replug.Machine.Small
import Replug.Main
import Replug.Path
import Replug.Program
import Replug.Proofs.CommandLine.Drafts
import Replug.Proofs.CommandLine.Rendering
import Replug.Proofs.CommandLine.Spelling
import Replug.Proofs.Course.Alike
import Replug.Proofs.Course.Alone
import Replug.Proofs.Course.Deeds
import Replug.Proofs.Course.Lines
import Replug.Proofs.Course.Sequential
import Replug.Proofs.Course.Sink
import Replug.Proofs.Course.Timeline
import Replug.Proofs.Cycle.Entries
import Replug.Proofs.Cycle.Interruption
import Replug.Proofs.Cycle.Itinerary
import Replug.Proofs.Cycle.Launches
import Replug.Proofs.Cycle.Progress
import Replug.Proofs.Cycle.Reception
import Replug.Proofs.Cycle.Rehearsed
import Replug.Proofs.Cycle.Request
import Replug.Proofs.Cycle.Route
import Replug.Proofs.Delay.Evenness
import Replug.Proofs.Delay.Scaling
import Replug.Proofs.Delay.Sharing
import Replug.Proofs.Delay.Shortcut
import Replug.Proofs.Failure.Causes
import Replug.Proofs.Failure.Interrupts
import Replug.Proofs.Files.Contents
import Replug.Proofs.Files.Destinations
import Replug.Proofs.Files.Directories
import Replug.Proofs.Files.Existence
import Replug.Proofs.Files.Ways
import Replug.Proofs.Log.Breaks
import Replug.Proofs.Log.Calls
import Replug.Proofs.Log.Directives
import Replug.Proofs.Log.Layouts
import Replug.Proofs.Log.Thresholds
import Replug.Proofs.Machine.Stations
import Replug.Proofs.Machine.Statuses
import Replug.Proofs.Path.Home
import Replug.Proofs.Path.Parent
import Replug.Proofs.Program.Levels
import Replug.Proofs.Program.Outcome
import Replug.Proofs.Program.Precedence
import Replug.Proofs.Settings.Changes
import Replug.Proofs.Settings.FixedPoint
import Replug.Proofs.Settings.Layers
import Replug.Proofs.Settings.Overlay
import Replug.Proofs.Settings.Places
import Replug.Proofs.Settings.Restatement
import Replug.Proofs.Settings.RoundTrip
import Replug.Proofs.Settings.Saving
import Replug.Proofs.Text.Numbers
import Replug.Proofs.Toml.Lines
import Replug.Proofs.Toml.Quoting
import Replug.Proofs.Toml.Reading
import Replug.Proofs.Toml.Scalar
import Replug.Proofs.Toml.Soundness
import Replug.Proofs.Toml.Tables
import Replug.Settings
import Replug.Settings.Reading
import Replug.Settings.Resolution
import Replug.Settings.Store
import Replug.Settings.Writing
import Replug.Shell.Builtin
import Replug.Shell.Condition
import Replug.Shell.Expansion
import Replug.Shell.Form
import Replug.Shell.Grammar
import Replug.Shell.Printing
import Replug.Shell.Run
import Replug.Shell.Signals
import Replug.Shell.Source
import Replug.Shell.State
import Replug.Shell.Sum
import Replug.Shell.Syntax
import Replug.Shell.Text
import Replug.Shell.Tools
import Replug.Shell.Words
import Replug.Text.Alphanumeric
import Replug.Text.Blank
import Replug.Text.Number
import Replug.Text.Quoted
import Replug.Text.Signless
import Replug.Text.Terminal
import Replug.Text.Utf8
import Replug.Toml.Binary64
import Replug.Toml.Grammar
import Replug.Toml.Moment
import Replug.Toml.Number
import Replug.Toml.Place
import Replug.Toml.Quoting
import Replug.Toml.Text
import Replug.Toml.Tree
