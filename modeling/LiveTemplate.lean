import LiveTemplate.Command.Run
import LiveTemplate.Filter.Registry
import LiveTemplate.Main
import LiveTemplate.Proofs.Run.Callbacks
import LiveTemplate.Proofs.Run.Convergence
import LiveTemplate.Proofs.Run.Release
import LiveTemplate.Scene.Reader
import LiveTemplate.Scene.Validation
import LiveTemplate.Template.Basic
import LiveTemplate.Value.Printer
import LiveTemplate.Value.Reader
import LiveTemplate.World.Perform
import LiveTemplate.World.Script
import LiveTemplate.Proofs.Run.Reevaluation
import LiveTemplate.Proofs.Run.Owners
import LiveTemplate.Proofs.Run.Installation
import LiveTemplate.Proofs.Scene.Order
import LiveTemplate.Proofs.Scene.Replay
import LiveTemplate.Proofs.Scene.Stage
import LiveTemplate.Proofs.Scene.Instantiation
import LiveTemplate.Proofs.Scene.Acting
import LiveTemplate.Proofs.Scene.Playing
import LiveTemplate.Proofs.Command.Watch
import LiveTemplate.Proofs.Command.Validate
import LiveTemplate.Proofs.Scene.Cycle
import LiveTemplate.Proofs.Scene.Rendering
import LiveTemplate.Proofs.Template.Grammar
import LiveTemplate.Proofs.Template.Reading
import LiveTemplate.Proofs.Run.Sources
import LiveTemplate.Proofs.Run.Resolution
import LiveTemplate.Proofs.Run.Refusals
import LiveTemplate.Proofs.World.Isolation
import LiveTemplate.Proofs.Run.Isolation
import LiveTemplate.Proofs.Run.Props
import LiveTemplate.Proofs.Scene.Props
import LiveTemplate.Proofs.Template.Printing
import LiveTemplate.Proofs.Run.Meaning
import LiveTemplate.Proofs.Scene.OwnerWalk
import LiveTemplate.Proofs.Run.Snapshot
import LiveTemplate.Proofs.Run.Registration
import LiveTemplate.Proofs.Run.Pipelines
import LiveTemplate.Proofs.Run.Unregistered
import LiveTemplate.Proofs.Scene.Standing
import LiveTemplate.Proofs.Command.Warnings
import LiveTemplate.Proofs.Command.Starter
import LiveTemplate.Proofs.Value.Digits
import LiveTemplate.Proofs.Value.Plain
import LiveTemplate.Proofs.Value.RoundTrip
import LiveTemplate.Proofs.Command.Assignment
import LiveTemplate.Proofs.Scene.Ownership
import LiveTemplate.Proofs.Command.Overlay
import LiveTemplate.Proofs.Filter.Base64
import LiveTemplate.Proofs.Filter.Calendar
import LiveTemplate.Proofs.Filter.Instant
import LiveTemplate.Proofs.Run.Along
import LiveTemplate.Proofs.World.Numbering
import LiveTemplate.Proofs.Run.Numbering
