import FormatPipeline.Main
import FormatPipeline.Settings.Reentrant
import FormatPipeline.Text.Lines
import FormatPipeline.World.Scripted
import FormatPipeline.Text.Regular.Basic
import FormatPipeline.Text.Regular.Reading
import FormatPipeline.Proofs.Service.Coherence
import FormatPipeline.Proofs.Session.Chains
import FormatPipeline.Proofs.Session.Start
import FormatPipeline.Proofs.Sandbox.CommandLine
import FormatPipeline.Proofs.Service.Lines
import FormatPipeline.Proofs.Session.Tile
import FormatPipeline.Proofs.Service.Selection
import FormatPipeline.Proofs.Service.Commands
import FormatPipeline.Proofs.Service.Saving
import FormatPipeline.Proofs.Service.Envelope
import FormatPipeline.Proofs.Session.Registered
import FormatPipeline.Proofs.Session.CommandNames
import FormatPipeline.Proofs.Session.DefaultSettings
import FormatPipeline.Proofs.Session.Shutdown
import FormatPipeline.Proofs.Session.Notifications
import FormatPipeline.Proofs.Service.Unopened
import FormatPipeline.Proofs.Session.Keys
import FormatPipeline.Proofs.Settings.Reentrant
import FormatPipeline.Proofs.Service.ExitCodes
import FormatPipeline.Proofs.Json.Grammar
import FormatPipeline.Proofs.Json.Reading
import FormatPipeline.Proofs.Json.Writing
import FormatPipeline.Proofs.Message.Framing
import FormatPipeline.Proofs.Message.Presentation
import FormatPipeline.Proofs.Message.Reading
import FormatPipeline.Proofs.Formatter.Choice
import FormatPipeline.Proofs.Lookup.Confinement
import FormatPipeline.Proofs.Workspace.Checking
import FormatPipeline.Proofs.Session.Alone
import FormatPipeline.Proofs.Session.Composing
import FormatPipeline.Proofs.Service.Cursors
import FormatPipeline.Proofs.Json.Leaves
import FormatPipeline.Proofs.Schedule.Reentrant
import FormatPipeline.Proofs.Settings.Loading
import FormatPipeline.Proofs.Workspace.Busy
import FormatPipeline.Proofs.Workspace.Processes
import FormatPipeline.Proofs.Workspace.Repeating
import FormatPipeline.Proofs.Path.Home
import FormatPipeline.Proofs.Formatter.Naming
