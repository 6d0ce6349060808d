import RenderSync.BinaryFloat.Basic
import RenderSync.BinaryFloat.Functions
import RenderSync.BinaryFloat.Shortest
import RenderSync.BinaryFloat.Text
import RenderSync.BinaryFloat.Words
import RenderSync.BuildSpans
import RenderSync.Channel.Basic
import RenderSync.Channel.Framing
import RenderSync.Channel.Handlers
import RenderSync.Channel.Host
import RenderSync.Channel.Network
import RenderSync.CommandLine.Grammar
import RenderSync.CommandLine.Invocation
import RenderSync.CommandLine.Outcome
import RenderSync.CommandLine.Service
import RenderSync.Engine.Basic
import RenderSync.Engine.Bench
import RenderSync.Engine.Handlers
import RenderSync.Failure
import RenderSync.Failure.Written
import RenderSync.Files.Path
import RenderSync.Files.Tree
import RenderSync.Files.Trouble
import RenderSync.Files.Upkeep
import RenderSync.Json.Basic
import RenderSync.Json.Decode
import RenderSync.Json.Printer
import RenderSync.Json.Reader
import RenderSync.Json.Shape
import RenderSync.Library.Basic
import RenderSync.Library.Call
import RenderSync.Library.Journal
import RenderSync.Library.Probe
import RenderSync.Library.Slot
import RenderSync.Main
import RenderSync.Notifications
import RenderSync.Observers
import RenderSync.Process.Program
import RenderSync.Process.Signal
import RenderSync.Process.Supervisor
import RenderSync.Process.System
import RenderSync.Process.Table
import RenderSync.Reconciler.Basic
import RenderSync.Reconciler.Drafting
import RenderSync.Reconciler.Rehearsal
import RenderSync.Server.Bootstrap
import RenderSync.Server.Session
import RenderSync.Settings.Basic
import RenderSync.Settings.Document
import RenderSync.Settings.Store
import RenderSync.Shell.Arithmetic
import RenderSync.Shell.Braces
import RenderSync.Shell.Command
import RenderSync.Shell.Command.Basic
import RenderSync.Shell.Command.Control
import RenderSync.Shell.Command.Declarations
import RenderSync.Shell.Command.Features
import RenderSync.Shell.Command.Input
import RenderSync.Shell.Command.Surroundings
import RenderSync.Shell.Command.Variables
import RenderSync.Shell.Condition
import RenderSync.Shell.Course
import RenderSync.Shell.Duration
import RenderSync.Shell.Expansion
import RenderSync.Shell.Format
import RenderSync.Shell.Format.Escape
import RenderSync.Shell.Launch
import RenderSync.Shell.Machine
import RenderSync.Shell.Marks
import RenderSync.Shell.Octets
import RenderSync.Shell.Parameter
import RenderSync.Shell.Pattern
import RenderSync.Shell.Process
import RenderSync.Shell.Quoting
import RenderSync.Shell.Reader
import RenderSync.Shell.Redirection
import RenderSync.Shell.Regex
import RenderSync.Shell.Running
import RenderSync.Shell.Statement
import RenderSync.Shell.Syntax
import RenderSync.Shell.System
import RenderSync.Shell.Token
import RenderSync.Shell.Utility
import RenderSync.Shell.Utility.Basic
import RenderSync.Shell.Utility.Batches
import RenderSync.Shell.Utility.Columns
import RenderSync.Shell.Utility.Compare
import RenderSync.Shell.Utility.Dates
import RenderSync.Shell.Utility.Digest
import RenderSync.Shell.Utility.Dump
import RenderSync.Shell.Utility.Edit
import RenderSync.Shell.Utility.Edit.Script
import RenderSync.Shell.Utility.Exchange
import RenderSync.Shell.Utility.Files
import RenderSync.Shell.Utility.Find
import RenderSync.Shell.Utility.Lines
import RenderSync.Shell.Utility.Listing
import RenderSync.Shell.Utility.Modes
import RenderSync.Shell.Utility.Options
import RenderSync.Shell.Utility.Order
import RenderSync.Shell.Utility.Records
import RenderSync.Shell.Utility.Records.Cell
import RenderSync.Shell.Utility.Records.Evaluation
import RenderSync.Shell.Utility.Records.Exchange
import RenderSync.Shell.Utility.Records.Matching
import RenderSync.Shell.Utility.Records.Memory
import RenderSync.Shell.Utility.Records.Reader
import RenderSync.Shell.Utility.Records.Syntax
import RenderSync.Shell.Utility.Records.Table
import RenderSync.Shell.Utility.Records.Token
import RenderSync.Shell.Utility.Search
import RenderSync.Shell.Utility.Transfer
import RenderSync.Shell.Utility.Values
import RenderSync.Shell.Variable
import RenderSync.State
import RenderSync.Text.Blank
import RenderSync.Text.Calendar
import RenderSync.Text.Digits
import RenderSync.Text.Substitution
import RenderSync.Text.Terminal
import RenderSync.Text.Utf8
import RenderSync.Uniforms.Basic
import RenderSync.Uniforms.Value
import RenderSync.Uniforms.Written
import RenderSync.Wire.Build
import RenderSync.Wire.Command
import RenderSync.Wire.ControlParameters
import RenderSync.Wire.Event
import RenderSync.Wire.ShaderSet
import RenderSync.WorkingCopy
import RenderSync.WorkingCopy.Witnessed
import RenderSync.Yaml.Core
import RenderSync.Yaml.Cursor
import RenderSync.Yaml.Node
import RenderSync.Yaml.Scalar
import RenderSync.Yaml.Token
import RenderSync.Yaml.Written
import RenderSync.Proofs.Library
import RenderSync.Proofs.Session
import RenderSync.Proofs.Connection
import RenderSync.Proofs.LibraryStep
import RenderSync.Proofs.Passes
import RenderSync.Proofs.Runs
import RenderSync.Proofs.Convergence
import RenderSync.Proofs.Shutdown
import RenderSync.Proofs.Files
import RenderSync.Proofs.HotReload
import RenderSync.Proofs.Quiescence
import RenderSync.Proofs.FailedPasses
import RenderSync.Proofs.BuildIndicator
import RenderSync.Proofs.Lines
import RenderSync.Proofs.Meanwhile
import RenderSync.Proofs.Truth
import RenderSync.Proofs.Arrival
import RenderSync.Proofs.Chronicle
import RenderSync.Proofs.Children
import RenderSync.Proofs.Lifetime
import RenderSync.Proofs.Lingering
import RenderSync.Proofs.EngineChronicle
import RenderSync.Proofs.Announcements
import RenderSync.Proofs.Delivery
import RenderSync.Proofs.Drafts
import RenderSync.Proofs.Reading
import RenderSync.Proofs.Commands
import RenderSync.Proofs.EventFrames
import RenderSync.Proofs.Ways
import RenderSync.Proofs.Rooms
import RenderSync.Proofs.CopyLifecycle
import RenderSync.Proofs.CopyOrigin
import RenderSync.Proofs.LibraryLog
import RenderSync.Proofs.LibraryUpdates
import RenderSync.Proofs.LibraryRuns
import RenderSync.Proofs.SharedRooms
import RenderSync.Proofs.Lodging
import RenderSync.Proofs.CopyPrivacy
import RenderSync.Proofs.YamlCursor
import RenderSync.Proofs.YamlPlain
import RenderSync.Proofs.YamlQuoted
import RenderSync.Proofs.YamlBlocks
import RenderSync.Proofs.YamlLines
import RenderSync.Proofs.YamlOutline
import RenderSync.Proofs.SettingsText
import RenderSync.Proofs.SettingsStore
import RenderSync.Proofs.Interleaving
import RenderSync.Proofs.Reconnection
import RenderSync.Proofs.MessageLifetimes
import RenderSync.Proofs.Siblings
import RenderSync.Proofs.Neighbours
import RenderSync.Proofs.NewDirectories
import RenderSync.Proofs.SettingsSaving
import RenderSync.Proofs.NotificationHistory
import RenderSync.Proofs.BuildStretches
import RenderSync.Proofs.Instances
import RenderSync.Proofs.LettingGo
import RenderSync.Proofs.SettingsHistory
import RenderSync.Proofs.ObserverScripts
import RenderSync.Proofs.UniformPipeline
import RenderSync.Proofs.ParameterGrammar
