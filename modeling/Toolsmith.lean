import Toolsmith.Application.Basic
import Toolsmith.Application.Run
import Toolsmith.Application.Session
import Toolsmith.Archive.Checksum
import Toolsmith.Archive.Stored
import Toolsmith.Artifact.Build
import Toolsmith.Artifact.Installer
import Toolsmith.Artifact.Members
import Toolsmith.Artifact.Registrations
import Toolsmith.Artifact.Sources
import Toolsmith.Artifact.Start
import Toolsmith.Base64
import Toolsmith.Builder.Options
import Toolsmith.Builder.Reading
import Toolsmith.Builder.Run
import Toolsmith.Builder.Token
import Toolsmith.Calendar
import Toolsmith.Check
import Toolsmith.Command.Deferred
import Toolsmith.Command.Registry
import Toolsmith.Completion.Bash
import Toolsmith.Completion.Catalogue
import Toolsmith.Completion.Model
import Toolsmith.Completion.Scripts
import Toolsmith.Completion.Zsh
import Toolsmith.Console
import Toolsmith.Decimal.Binary64
import Toolsmith.Decimal.Integer
import Toolsmith.Decimal.Shortest
import Toolsmith.Doctor
import Toolsmith.Failure
import Toolsmith.Files.Changes
import Toolsmith.Files.Path
import Toolsmith.Files.Tree
import Toolsmith.Flag.Basic
import Toolsmith.Flag.Help
import Toolsmith.Flag.Reading
import Toolsmith.Flag.Registry
import Toolsmith.Flag.ValueType
import Toolsmith.Handler
import Toolsmith.Json.Reader
import Toolsmith.Json.StandIns
import Toolsmith.Json.Value
import Toolsmith.Log
import Toolsmith.Main
import Toolsmith.Proofs.Application.Boundary
import Toolsmith.Proofs.Application.Calls
import Toolsmith.Proofs.Application.ExitCodes
import Toolsmith.Proofs.Application.Gating
import Toolsmith.Proofs.Application.Help
import Toolsmith.Proofs.Application.History
import Toolsmith.Proofs.Application.Lived
import Toolsmith.Proofs.Application.Quiet
import Toolsmith.Proofs.Application.Settings
import Toolsmith.Proofs.Artifact.Completion
import Toolsmith.Proofs.Artifact.FirstWord
import Toolsmith.Proofs.Artifact.Installer
import Toolsmith.Proofs.Artifact.Members
import Toolsmith.Proofs.Artifact.Registrations
import Toolsmith.Proofs.Artifact.Scopes
import Toolsmith.Proofs.Artifact.Start
import Toolsmith.Proofs.Artifact.Untouched
import Toolsmith.Proofs.Check
import Toolsmith.Proofs.Command.Entries
import Toolsmith.Proofs.Command.Registry
import Toolsmith.Proofs.Completion.Bash
import Toolsmith.Proofs.Completion.BashArms
import Toolsmith.Proofs.Completion.Catalogue
import Toolsmith.Proofs.Completion.Dialects
import Toolsmith.Proofs.Completion.Model
import Toolsmith.Proofs.Completion.Values
import Toolsmith.Proofs.Completion.Zsh
import Toolsmith.Proofs.Completion.ZshArms
import Toolsmith.Proofs.Decimal.Integer
import Toolsmith.Proofs.Files.Path
import Toolsmith.Proofs.Files.Tree
import Toolsmith.Proofs.Flag.Assigned
import Toolsmith.Proofs.Flag.Demand
import Toolsmith.Proofs.Flag.Help
import Toolsmith.Proofs.Flag.Isolation
import Toolsmith.Proofs.Flag.Reading
import Toolsmith.Proofs.Flag.Registry
import Toolsmith.Proofs.Flag.Runs
import Toolsmith.Proofs.Flag.Spelling
import Toolsmith.Proofs.Flag.Steps
import Toolsmith.Proofs.Flag.Supply
import Toolsmith.Proofs.Flag.ValueType
import Toolsmith.Proofs.Json.Grammar
import Toolsmith.Proofs.Json.Reader
import Toolsmith.Proofs.Json.Tokens
import Toolsmith.Proofs.Schema.Compiler
import Toolsmith.Proofs.Schema.Defaults
import Toolsmith.Proofs.Schema.Discovery
import Toolsmith.Proofs.Schema.Document
import Toolsmith.Proofs.Schema.Flat
import Toolsmith.Proofs.Schema.Project
import Toolsmith.Proofs.Schema.Refusal
import Toolsmith.Proofs.Stepwise
import Toolsmith.Proofs.Text.Lines
import Toolsmith.Proofs.Text.Quoted
import Toolsmith.Proofs.Text.Segments
import Toolsmith.Proofs.Text.ShellCases
import Toolsmith.Proofs.Text.ShellWords
import Toolsmith.Proofs.Text.Utf8
import Toolsmith.Schema.Compiler
import Toolsmith.Schema.Document
import Toolsmith.Schema.Project
import Toolsmith.Shell
import Toolsmith.Surroundings
import Toolsmith.Table
import Toolsmith.Text.Blank
import Toolsmith.Text.Lines
import Toolsmith.Text.Printable
import Toolsmith.Text.Quoted
import Toolsmith.Text.Ranges
import Toolsmith.Text.Segments
import Toolsmith.Text.StandIn
import Toolsmith.Text.Utf8
import Toolsmith.Text.Word
import Toolsmith.Tool
import Toolsmith.World
