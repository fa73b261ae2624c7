import CommitStamp.Attribute.Brackets
import CommitStamp.Attribute.Document
import CommitStamp.Attribute.Line
import CommitStamp.Calendar.Date
import CommitStamp.Calendar.Format
import CommitStamp.Calendar.Timestamp
import CommitStamp.CommandLine.Help
import CommitStamp.CommandLine.Options
import CommitStamp.CommandLine.Run
import CommitStamp.Config.Basic
import CommitStamp.Config.Load
import CommitStamp.Config.Reader
import CommitStamp.Config.Validity
import CommitStamp.Config.Writer
import CommitStamp.Encoding.Basic
import CommitStamp.Encoding.Utf8
import CommitStamp.Encoding.Wide
import CommitStamp.Host.Basic
import CommitStamp.Host.Fault
import CommitStamp.Host.FileTree
import CommitStamp.Host.Interpreter
import CommitStamp.Host.Setup
import CommitStamp.Host.Shell
import CommitStamp.Host.Tools
import CommitStamp.Main
import CommitStamp.Path
import CommitStamp.Revision.Basic
import CommitStamp.Revision.Hash
import CommitStamp.Revision.LogLine
import CommitStamp.Stamp.Job
import CommitStamp.StandIn.Basic
import CommitStamp.StandIn.Script
import CommitStamp.Template.Directive
import CommitStamp.Template.Render
import CommitStamp.Text.Blank
import CommitStamp.Text.Cut
import CommitStamp.Text.Letter
import CommitStamp.Text.Lines
import CommitStamp.Text.LowerTable
import CommitStamp.Text.Lowercase
import CommitStamp.Text.Numeral
import CommitStamp.Text.Prefix
import CommitStamp.Text.Quoted
import CommitStamp.Text.Ranges
import CommitStamp.Text.ShellEcho
import CommitStamp.Text.ShellWord
import CommitStamp.Text.Terminal
import CommitStamp.Text.Unprintable
import CommitStamp.Toml.Document
import CommitStamp.Toml.Scalar
import CommitStamp.Toml.Text
import CommitStamp.Toml.Value
import CommitStamp.Vcs.Query
import CommitStamp.Vcs.Resolve
import CommitStamp.Vcs.Search
import CommitStamp.Proofs.Template.Substitution
import CommitStamp.Proofs.Template.Written
import CommitStamp.Proofs.Template.Composition
import CommitStamp.Proofs.Encoding.RoundTrip
import CommitStamp.Proofs.Encoding.Reading
import CommitStamp.Proofs.Attribute.Anatomy
import CommitStamp.Proofs.Attribute.Restamping
import CommitStamp.Proofs.Host.Following
import CommitStamp.Proofs.Host.Writing
import CommitStamp.Proofs.Stamp.Form
import CommitStamp.Proofs.Vcs.Lines
import CommitStamp.Proofs.Vcs.Resolution
import CommitStamp.Proofs.Toml.Strings
import CommitStamp.Proofs.Text.Numeral
import CommitStamp.Proofs.Config.Values
import CommitStamp.Proofs.Config.Sections
import CommitStamp.Proofs.Config.RoundTrip
import CommitStamp.Proofs.CommandLine.Flags
import CommitStamp.Proofs.CommandLine.DirtyTrees
import CommitStamp.Proofs.Vcs.Location
import CommitStamp.Proofs.Revision.Fields
import CommitStamp.Proofs.Revision.LogLine
import CommitStamp.Proofs.Encoding.Detection
import CommitStamp.Proofs.Encoding.Validity
import CommitStamp.Proofs.Host.Frame
import CommitStamp.Proofs.Stamp.Encoding
import CommitStamp.Proofs.CommandLine.Effects
import CommitStamp.Proofs.Template.Consumption
import CommitStamp.Proofs.Template.Minutes
import CommitStamp.Proofs.Attribute.Closing
import CommitStamp.Proofs.CommandLine.Printing
import CommitStamp.Proofs.CommandLine.AddedFlag
import CommitStamp.Proofs.CommandLine.Missing
import CommitStamp.Proofs.Calendar.Chronology
import CommitStamp.Proofs.Template.Sorting
import CommitStamp.Proofs.Attribute.Cuts
import CommitStamp.Proofs.Attribute.OwnValue
import CommitStamp.Proofs.Attribute.Document
import CommitStamp.Proofs.Encoding.Cutting
import CommitStamp.Proofs.Vcs.Listening
import CommitStamp.Proofs.Vcs.Dirtiness
import CommitStamp.Proofs.Host.Agreement
import CommitStamp.Proofs.Vcs.Precedence
import CommitStamp.Proofs.Stamp.Checks
import CommitStamp.Proofs.StandIn.Quoting
