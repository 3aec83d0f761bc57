import RoundTrip.Act
import RoundTrip.Artifact
import RoundTrip.Batch
import RoundTrip.Command
import RoundTrip.CommandLine.Arguments
import RoundTrip.CommandLine.Execution
import RoundTrip.CommandLine.Problem
import RoundTrip.CommandLine.Program
import RoundTrip.CommandLine.Request
import RoundTrip.Corpus
import RoundTrip.Discovery
import RoundTrip.Ending
import RoundTrip.Event
import RoundTrip.Failure
import RoundTrip.Files.Content
import RoundTrip.Files.Node
import RoundTrip.Files.Tree
import RoundTrip.Finding
import RoundTrip.Format.Findings
import RoundTrip.Format.Record
import RoundTrip.Format.Report
import RoundTrip.Format.Settings
import RoundTrip.Generation
import RoundTrip.Host
import RoundTrip.Installed
import RoundTrip.Json.Basic
import RoundTrip.Json.Magnitude
import RoundTrip.Json.Reader
import RoundTrip.Json.Token
import RoundTrip.Json.Writer
import RoundTrip.Launcher
import RoundTrip.Log
import RoundTrip.Log.Filter
import RoundTrip.Machine.Condition
import RoundTrip.Machine.Host
import RoundTrip.Machine.Image
import RoundTrip.Machine.Loader
import RoundTrip.Machine.Numeral
import RoundTrip.Machine.Print
import RoundTrip.Machine.Programs
import RoundTrip.Machine.Programs.Basic
import RoundTrip.Machine.Programs.Files
import RoundTrip.Machine.Programs.Grep
import RoundTrip.Machine.Programs.Test
import RoundTrip.Machine.Programs.Text
import RoundTrip.Machine.Shell.Arithmetic
import RoundTrip.Machine.Shell.Builtin.Basic
import RoundTrip.Machine.Shell.Builtin.Control
import RoundTrip.Machine.Shell.Builtin.Jobs
import RoundTrip.Machine.Shell.Builtin.Surroundings
import RoundTrip.Machine.Shell.Builtin.Variables
import RoundTrip.Machine.Shell.Expansion
import RoundTrip.Machine.Shell.Fields
import RoundTrip.Machine.Shell.Interpreter
import RoundTrip.Machine.Shell.Lookup
import RoundTrip.Machine.Shell.Pattern
import RoundTrip.Machine.Shell.Process
import RoundTrip.Machine.Shell.Redirection
import RoundTrip.Machine.Shell.Script
import RoundTrip.Machine.Shell.Script.Reader
import RoundTrip.Machine.Shell.Script.Word
import RoundTrip.Machine.Shell.Simple
import RoundTrip.Machine.Shell.State
import RoundTrip.Machine.System
import RoundTrip.Machine.Task
import RoundTrip.Main
import RoundTrip.Path
import RoundTrip.Preparation
import RoundTrip.Proofs.Batch.Accounts
import RoundTrip.Proofs.Batch.Cancellation
import RoundTrip.Proofs.Batch.Completion
import RoundTrip.Proofs.Batch.Emptiness
import RoundTrip.Proofs.Batch.Lifecycle
import RoundTrip.Proofs.Batch.Session
import RoundTrip.Proofs.Batch.Stopping
import RoundTrip.Proofs.Batch.Unlaunched
import RoundTrip.Proofs.Discovery.Artifacts
import RoundTrip.Proofs.Discovery.Folders
import RoundTrip.Proofs.Discovery.Order
import RoundTrip.Proofs.Discovery.Texts
import RoundTrip.Proofs.Files.Listing
import RoundTrip.Proofs.Files.Pieces
import RoundTrip.Proofs.Files.Places
import RoundTrip.Proofs.Files.Walking
import RoundTrip.Proofs.CommandLine.Arguments
import RoundTrip.Proofs.CommandLine.Execution
import RoundTrip.Proofs.CommandLine.Installing
import RoundTrip.Proofs.CommandLine.Layers
import RoundTrip.Proofs.CommandLine.Planning
import RoundTrip.Proofs.CommandLine.Reporting
import RoundTrip.Proofs.CommandLine.Status
import RoundTrip.Proofs.Corpus.Filling
import RoundTrip.Proofs.Resolution.Completeness
import RoundTrip.Proofs.Resolution.Procedure
import RoundTrip.Proofs.Run.Agreement
import RoundTrip.Proofs.Run.Heeding
import RoundTrip.Proofs.Run.Streams
import RoundTrip.Proofs.Run.Yields
import RoundTrip.Proofs.Verification.Craft
import RoundTrip.Proofs.Verification.Examination
import RoundTrip.Proofs.Verification.Independence
import RoundTrip.Proofs.Verification.Repetition
import RoundTrip.Proofs.Verification.Survey
import RoundTrip.Proofs.Verification.Walk
import RoundTrip.Proofs.Verification.Written
import RoundTrip.Reason
import RoundTrip.Rehearsal
import RoundTrip.Remark
import RoundTrip.Report
import RoundTrip.Resolution
import RoundTrip.Run
import RoundTrip.Settings
import RoundTrip.Stage
import RoundTrip.Storage
import RoundTrip.Stream
import RoundTrip.Suite
import RoundTrip.Text.Blank
import RoundTrip.Text.Regex
import RoundTrip.Text.Regex.Reader
import RoundTrip.Text.Search
import RoundTrip.Text.Utf8
import RoundTrip.Timestamp
import RoundTrip.Timestamp.Reader
import RoundTrip.Verdict
import RoundTrip.Verification
import RoundTrip.VersionList
import RoundTrip.Proofs.Json.Grammar
import RoundTrip.Proofs.Json.Scanning
import RoundTrip.Proofs.Json.Documents
import RoundTrip.Proofs.Format.Records
import RoundTrip.Proofs.Format.Times
import RoundTrip.Proofs.Format.Findings
import RoundTrip.Proofs.Format.Reports
import RoundTrip.Proofs.Format.Settings
import RoundTrip.Proofs.Format.Given
import RoundTrip.Proofs.Files.Directories
import RoundTrip.Proofs.Files.Writing
import RoundTrip.Proofs.Format.Saving
import RoundTrip.Proofs.Discovery.Naming
import RoundTrip.Proofs.Resolution.Banners
import RoundTrip.Proofs.Corpus.Stages
import RoundTrip.Proofs.Batch.Preparing
import RoundTrip.Proofs.Batch.Truncation
