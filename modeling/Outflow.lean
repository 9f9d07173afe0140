import Outflow.Application
import Outflow.Capture
import Outflow.Command
import Outflow.Command.Builder
import Outflow.Config
import Outflow.Config.File
import Outflow.Drain
import Outflow.Duration
import Outflow.Duration.Units
import Outflow.Execution
import Outflow.Help
import Outflow.Host.Amount
import Outflow.Host.Calendar
import Outflow.Host.Difference
import Outflow.Host.Digest
import Outflow.Host.Files
import Outflow.Host.Flags
import Outflow.Host.Flow
import Outflow.Host.Format
import Outflow.Host.Launch
import Outflow.Host.LiveChild
import Outflow.Host.Machine
import Outflow.Host.Mode
import Outflow.Host.Outside
import Outflow.Host.Program
import Outflow.Host.Quoting
import Outflow.Host.Signal
import Outflow.Host.Utility
import Outflow.Host.Utility.Basic
import Outflow.Host.Utility.Checksum
import Outflow.Host.Utility.Condition
import Outflow.Host.Utility.Date
import Outflow.Host.Utility.Diff
import Outflow.Host.Utility.Edit
import Outflow.Host.Utility.EditScript
import Outflow.Host.Utility.Join
import Outflow.Host.Utility.Listing
import Outflow.Host.Utility.Number
import Outflow.Host.Utility.Octets
import Outflow.Host.Utility.Search
import Outflow.Host.Utility.Sort
import Outflow.Host.Utility.Split
import Outflow.Host.Utility.Surroundings
import Outflow.Host.Utility.Test
import Outflow.Host.Utility.Text
import Outflow.Host.Utility.Tree
import Outflow.IoError
import Outflow.Json
import Outflow.Json.Reader
import Outflow.LineBuffer
import Outflow.Log
import Outflow.Log.Filter
import Outflow.Log.Pattern
import Outflow.Main
import Outflow.Options
import Outflow.Outcome
import Outflow.Regex
import Outflow.Regex.Reader
import Outflow.Report
import Outflow.Run
import Outflow.Schedule
import Outflow.Script
import Outflow.Shell.Act
import Outflow.Shell.Arithmetic
import Outflow.Shell.Builtin
import Outflow.Shell.Crowd
import Outflow.Shell.Evaluation
import Outflow.Shell.Fields
import Outflow.Shell.Invocation
import Outflow.Shell.Job
import Outflow.Shell.Limit
import Outflow.Shell.Opening
import Outflow.Shell.Parameter
import Outflow.Shell.Pattern
import Outflow.Shell.Reader
import Outflow.Shell.Session
import Outflow.Shell.Starter
import Outflow.Shell.Syntax
import Outflow.Shell.World
import Outflow.Stream
import Outflow.Supervision
import Outflow.Text.Blank
import Outflow.Text.Bytes
import Outflow.Text.Letter
import Outflow.Text.Numeral
import Outflow.Text.Quoted
import Outflow.Text.ShellQuote
import Outflow.Text.Tail
import Outflow.Text.Unprintable
import Outflow.Toml
import Outflow.Toml.Reader
import Outflow.Toml.Scalar
import Outflow.Trail
import Outflow.WaitStatus
import Outflow.Writer
import Outflow.Proofs.Capture
import Outflow.Proofs.Drain.Event
import Outflow.Proofs.Drain.Step
import Outflow.Proofs.Drain.Product
import Outflow.Proofs.Drain.Chunking
import Outflow.Proofs.Drain.Course
import Outflow.Proofs.Drain.Deadline
import Outflow.Proofs.Drain.Reached
import Outflow.Proofs.Drain.Turns
import Outflow.Proofs.Execution.Chunking
import Outflow.Proofs.Execution.Calls
import Outflow.Proofs.Execution.Cleanup
import Outflow.Proofs.Execution.Outcome
import Outflow.Proofs.Execution.Timeout
import Outflow.Proofs.Execution.Live
import Outflow.Proofs.Execution.Interrupted
import Outflow.Proofs.Execution.Shown
import Outflow.Proofs.Script.Agreement
import Outflow.Proofs.Script.History
import Outflow.Proofs.Config.Layers
import Outflow.Proofs.Config.Overrides
import Outflow.Proofs.Text.Decimal
import Outflow.Proofs.Toml.Lines
import Outflow.Proofs.Config.Keys
import Outflow.Proofs.Duration.Units
import Outflow.Proofs.Config.Rendered
import Outflow.Proofs.Json.Grammar
import Outflow.Proofs.Json.Reader
import Outflow.Proofs.Json.Layout
import Outflow.Proofs.Report.Json
import Outflow.Proofs.Supervision
import Outflow.Proofs.Capture.History
import Outflow.Proofs.Text.Bytes
import Outflow.Proofs.Text.Escape
import Outflow.Proofs.Text.Tail
import Outflow.Proofs.Report.Text
import Outflow.Proofs.Report.Status
import Outflow.Proofs.Command.Builder
import Outflow.Proofs.Options
import Outflow.Proofs.Application
