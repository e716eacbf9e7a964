import Renderflow.Catalog.FamilySpec
import Renderflow.Catalog.Flux
import Renderflow.Catalog.ModeSpec
import Renderflow.Catalog.Qwen
import Renderflow.Catalog.Sdxl
import Renderflow.Catalog.Wan
import Renderflow.CommandLine.Flag
import Renderflow.CommandLine.Invocation
import Renderflow.CommandLine.Reader
import Renderflow.Config
import Renderflow.Config.Variable
import Renderflow.Decimal.Binary
import Renderflow.Decimal.Layout
import Renderflow.Decimal.Reading
import Renderflow.Decimal.Rounding
import Renderflow.Decimal.Shortest
import Renderflow.Engine.Endpoint
import Renderflow.Engine.Status
import Renderflow.Engine.Submission
import Renderflow.Engine.Url
import Renderflow.Engine.Url.Host
import Renderflow.Engine.Url.Percent
import Renderflow.Engine.Url.Punycode
import Renderflow.Engine.Uuid
import Renderflow.Error
import Renderflow.Family
import Renderflow.Files
import Renderflow.Graph.Basic
import Renderflow.Graph.Change
import Renderflow.Graph.Codec
import Renderflow.Graph.Edit
import Renderflow.Graph.Reach
import Renderflow.Graph.Value
import Renderflow.Image.Location
import Renderflow.Image.Spec
import Renderflow.Job.Animation
import Renderflow.Job.Context
import Renderflow.Job.Details
import Renderflow.Job.Edit
import Renderflow.Job.FollowUp
import Renderflow.Job.Generation
import Renderflow.Job.Outcome
import Renderflow.Job.Plan
import Renderflow.Job.Request
import Renderflow.Job.Upscale
import Renderflow.Job.Variation
import Renderflow.Json.Basic
import Renderflow.Json.Decode
import Renderflow.Json.Printer
import Renderflow.Json.Reader
import Renderflow.Main
import Renderflow.Model
import Renderflow.OutputPath
import Renderflow.Run.Perform
import Renderflow.Run.Script
import Renderflow.Settings
import Renderflow.Style
import Renderflow.Table
import Renderflow.Template.Flux
import Renderflow.Template.Qwen
import Renderflow.Template.Sdxl
import Renderflow.Template.Wan
import Renderflow.Text.Basic
import Renderflow.Text.Digit
import Renderflow.Text.Scan
import Renderflow.Text.Split
import Renderflow.Toml.Reader
import Renderflow.Toml.Scalar
import Renderflow.Toml.Tables
import Renderflow.Toml.Text
import Renderflow.Proofs.Decimal.Hundredths
import Renderflow.Proofs.Decimal.Normal
import Renderflow.Proofs.Decimal.Product
import Renderflow.Proofs.Decimal.Whole
import Renderflow.Proofs.Error
import Renderflow.Proofs.Files
import Renderflow.Proofs.Graph.AgreeExcept
import Renderflow.Proofs.Graph.Codec
import Renderflow.Proofs.Graph.Edit
import Renderflow.Proofs.Graph.Footprint
import Renderflow.Proofs.Graph.Layout
import Renderflow.Proofs.Graph.Print
import Renderflow.Proofs.Graph.Values
import Renderflow.Proofs.Image
import Renderflow.Proofs.Job.Acceptance
import Renderflow.Proofs.Job.Animation
import Renderflow.Proofs.Job.Bindings
import Renderflow.Proofs.Job.Captions
import Renderflow.Proofs.Job.Catalog
import Renderflow.Proofs.Job.Compile
import Renderflow.Proofs.Job.Conform
import Renderflow.Proofs.Job.Context
import Renderflow.Proofs.Job.Edit
import Renderflow.Proofs.Job.EditAcceptance
import Renderflow.Proofs.Job.EditTuning
import Renderflow.Proofs.Job.Family
import Renderflow.Proofs.Job.Files
import Renderflow.Proofs.Job.FollowUp
import Renderflow.Proofs.Job.Footprint
import Renderflow.Proofs.Job.Generation
import Renderflow.Proofs.Job.Ids
import Renderflow.Proofs.Job.Isolation
import Renderflow.Proofs.Job.Loaders
import Renderflow.Proofs.Job.Locations
import Renderflow.Proofs.Job.Mosaic
import Renderflow.Proofs.Job.Negatives
import Renderflow.Proofs.Job.Notes
import Renderflow.Proofs.Job.Objects
import Renderflow.Proofs.Job.Ordinary
import Renderflow.Proofs.Job.Plan
import Renderflow.Proofs.Job.Planned
import Renderflow.Proofs.Job.Ratio
import Renderflow.Proofs.Job.Reanimation
import Renderflow.Proofs.Job.Record
import Renderflow.Proofs.Job.Remainder
import Renderflow.Proofs.Job.Replay
import Renderflow.Proofs.Job.Report
import Renderflow.Proofs.Job.Requirements
import Renderflow.Proofs.Job.Samplers
import Renderflow.Proofs.Job.Scene
import Renderflow.Proofs.Job.Slots
import Renderflow.Proofs.Job.Stages
import Renderflow.Proofs.Job.Stitch
import Renderflow.Proofs.Job.Tuning
import Renderflow.Proofs.Job.Twins
import Renderflow.Proofs.Job.Upscale
import Renderflow.Proofs.Job.Variation
import Renderflow.Proofs.Job.Warnings
import Renderflow.Proofs.Job.Window
import Renderflow.Proofs.Json.Record
import Renderflow.Proofs.Json.Token
import Renderflow.Proofs.Lockstep
import Renderflow.Proofs.Model
import Renderflow.Proofs.Model.Canonical
import Renderflow.Proofs.Model.Inference
import Renderflow.Proofs.OutputPath
import Renderflow.Proofs.OutputPath.Components
import Renderflow.Proofs.OutputPath.Normal
import Renderflow.Proofs.Requirement
import Renderflow.Proofs.Run.Delivery
import Renderflow.Proofs.Selection
import Renderflow.Proofs.Style
import Renderflow.Proofs.Table
import Renderflow.Proofs.Text.Blank
import Renderflow.Proofs.Text.Code
import Renderflow.Proofs.Text.Print
import Renderflow.Proofs.Text.Split
import Renderflow.Proofs.Graph.Reach
import Renderflow.Proofs.Graph.Change
import Renderflow.Proofs.Graph.Dangling
import Renderflow.Proofs.Text.Numeral
import Renderflow.Proofs.Text.Pattern
import Renderflow.Proofs.Image.Spec
import Renderflow.Proofs.Job.Proportions
import Renderflow.Proofs.Image.Size
import Renderflow.Proofs.Engine.Submission
