import UiScaffold.Clock
import UiScaffold.CommandLine.Run
import UiScaffold.Descriptor.Reader
import UiScaffold.FileSystem.Walk
import UiScaffold.Form.Document
import UiScaffold.Form.Lowering
import UiScaffold.Generate
import UiScaffold.Install.Run
import UiScaffold.Journal.Line
import UiScaffold.Main
import UiScaffold.Proofs.Render.Validation
import UiScaffold.Render.Run
import UiScaffold.Shell.Launcher
import UiScaffold.Template
import UiScaffold.Proofs.Descriptor.Provenance
import UiScaffold.Proofs.Descriptor.Vocabulary
import UiScaffold.Proofs.Descriptor.RoundTrip
import UiScaffold.Proofs.FileSystem.Tree
import UiScaffold.Proofs.FileSystem.Route
import UiScaffold.Proofs.FileSystem.Way
import UiScaffold.Proofs.FileSystem.Site
import UiScaffold.Proofs.FileSystem.Directories
import UiScaffold.Proofs.FileSystem.Below
import UiScaffold.Proofs.FileSystem.Walk
import UiScaffold.Proofs.Render.Overlay
import UiScaffold.Proofs.FileSystem.Growth
import UiScaffold.Proofs.Render.Output
import UiScaffold.Proofs.Render.Substitution
import UiScaffold.Proofs.Descriptor.Refusal
import UiScaffold.Proofs.Form.ReadBack
import UiScaffold.Proofs.FileSystem.Missing
import UiScaffold.Proofs.FileSystem.Tour
import UiScaffold.Proofs.Render.Failure
import UiScaffold.Proofs.Render.Pages
import UiScaffold.Proofs.Render.Workers
import UiScaffold.Proofs.Render.Repetition
import UiScaffold.Proofs.Render.Record
import UiScaffold.Proofs.Render.Naming
import UiScaffold.Proofs.Descriptor.KeyOrder
import UiScaffold.Proofs.Render.Isolation
import UiScaffold.Proofs.Render.Sources
import UiScaffold.Proofs.CommandLine.Launches
import UiScaffold.Proofs.Descriptor.Mixture
import UiScaffold.Proofs.Descriptor.Candidates
import UiScaffold.Proofs.Form.Aliases
import UiScaffold.Proofs.Form.Options
import UiScaffold.Proofs.Descriptor.Entries
import UiScaffold.Proofs.Descriptor.Accepted
import UiScaffold.Proofs.Text.Bytes
import UiScaffold.Proofs.Render.Offence
import UiScaffold.Proofs.Text.ByteOrder
import UiScaffold.Proofs.FileSystem.Listing
import UiScaffold.Proofs.FileSystem.Trailing
import UiScaffold.Proofs.Render.Resolution
import UiScaffold.Proofs.Descriptor.Docs
import UiScaffold.Proofs.Descriptor.Scalar
import UiScaffold.Proofs.Descriptor.Nulls
import UiScaffold.Proofs.Install.Outcome
