import CorpusForge.Artifact.Catalog
import CorpusForge.Artifact.Render
import CorpusForge.Artifact.Templates
import CorpusForge.Cli.Command
import CorpusForge.Cli.Flag
import CorpusForge.Cli.Program
import CorpusForge.Cli.Report
import CorpusForge.Cli.Styling
import CorpusForge.Cli.Table
import CorpusForge.Config.Basic
import CorpusForge.Config.Corpus
import CorpusForge.Config.File
import CorpusForge.Config.Load
import CorpusForge.Config.Reading
import CorpusForge.Config.Rules
import CorpusForge.Disk
import CorpusForge.Failure
import CorpusForge.History.GitEnv
import CorpusForge.History.Ledger
import CorpusForge.History.Message
import CorpusForge.History.Replay
import CorpusForge.History.Schedule
import CorpusForge.History.Timestamp
import CorpusForge.Machine
import CorpusForge.Main
import CorpusForge.Number.Basic
import CorpusForge.Number.Bits
import CorpusForge.Number.Decimal
import CorpusForge.Number.Format
import CorpusForge.Number.Literal
import CorpusForge.Path
import CorpusForge.Plan
import CorpusForge.Proofs.Artifact.Bundled
import CorpusForge.Proofs.Artifact.Catalog
import CorpusForge.Proofs.Artifact.Filling
import CorpusForge.Proofs.Artifact.Keeping
import CorpusForge.Proofs.Artifact.Language
import CorpusForge.Proofs.Artifact.Migrations
import CorpusForge.Proofs.Artifact.Render
import CorpusForge.Proofs.Config.Acceptance
import CorpusForge.Proofs.Config.Accepted
import CorpusForge.Proofs.Config.Email
import CorpusForge.Proofs.Config.Fields
import CorpusForge.Proofs.Config.Interpolation
import CorpusForge.Proofs.Config.Layering
import CorpusForge.Proofs.Config.Reading
import CorpusForge.Proofs.Config.Tables
import CorpusForge.Proofs.Config.Validity
import CorpusForge.Proofs.Config.Variables
import CorpusForge.Proofs.Config.Writing
import CorpusForge.Proofs.Disk
import CorpusForge.Proofs.History.Message
import CorpusForge.Proofs.History.Replay
import CorpusForge.Proofs.History.Schedule
import CorpusForge.Proofs.History.Shape
import CorpusForge.Proofs.History.Span
import CorpusForge.Proofs.History.Timeline
import CorpusForge.Proofs.History.Timestamp
import CorpusForge.Proofs.Naming
import CorpusForge.Proofs.Number.Decimal
import CorpusForge.Proofs.Number.Digits
import CorpusForge.Proofs.Number.Grid
import CorpusForge.Proofs.Number.Literal
import CorpusForge.Proofs.Number.Reading
import CorpusForge.Proofs.Number.Rounding
import CorpusForge.Proofs.Number.Text
import CorpusForge.Proofs.Number.Whole
import CorpusForge.Proofs.Path
import CorpusForge.Proofs.Path.Descent
import CorpusForge.Proofs.Pieces
import CorpusForge.Proofs.Plan
import CorpusForge.Proofs.Quota
import CorpusForge.Proofs.Random.Choices
import CorpusForge.Proofs.Random.Drawing
import CorpusForge.Proofs.Random.Sampling
import CorpusForge.Proofs.Random.Seeding
import CorpusForge.Proofs.Random.Stream
import CorpusForge.Proofs.Random.Uniformity
import CorpusForge.Proofs.Random.Weighing
import CorpusForge.Proofs.Repository.Agreement
import CorpusForge.Proofs.Repository.Faults
import CorpusForge.Proofs.Repository.Files
import CorpusForge.Proofs.Repository.Isolation
import CorpusForge.Proofs.Repository.Making
import CorpusForge.Proofs.Repository.Outcome
import CorpusForge.Proofs.Repository.Success
import CorpusForge.Proofs.Run.Account
import CorpusForge.Proofs.Run.Conservation
import CorpusForge.Proofs.Run.Course
import CorpusForge.Proofs.Run.Diary
import CorpusForge.Proofs.Run.Drawable
import CorpusForge.Proofs.Run.Fate
import CorpusForge.Proofs.Run.Files
import CorpusForge.Proofs.Run.Foretold
import CorpusForge.Proofs.Run.Isolation
import CorpusForge.Proofs.Run.Journal
import CorpusForge.Proofs.Run.Lasting
import CorpusForge.Proofs.Run.Leftover
import CorpusForge.Proofs.Run.Loss
import CorpusForge.Proofs.Run.Protocol
import CorpusForge.Proofs.Run.Resume
import CorpusForge.Proofs.Run.Sequential
import CorpusForge.Proofs.Run.Steady
import CorpusForge.Proofs.Run.Step
import CorpusForge.Proofs.Run.Success
import CorpusForge.Proofs.Run.Telling
import CorpusForge.Proofs.Run.Termination
import CorpusForge.Proofs.Run.Walk
import CorpusForge.Proofs.Selection
import CorpusForge.Proofs.Selection.Limits
import CorpusForge.Proofs.Site
import CorpusForge.Proofs.Source.Counts
import CorpusForge.Proofs.Source.Lines
import CorpusForge.Proofs.Source.Styles
import CorpusForge.Proofs.Source.Synthesis
import CorpusForge.Proofs.Spec
import CorpusForge.Proofs.Status
import CorpusForge.Proofs.Structure.Descent
import CorpusForge.Proofs.Structure.Expansion
import CorpusForge.Proofs.Structure.Files
import CorpusForge.Proofs.Structure.Layout
import CorpusForge.Proofs.Structure.LetterCase
import CorpusForge.Proofs.Structure.Plan
import CorpusForge.Proofs.Structure.WellFormed
import CorpusForge.Proofs.Text
import CorpusForge.Proofs.Text.Order
import CorpusForge.Proofs.Text.Reference
import CorpusForge.Proofs.Version
import CorpusForge.Proofs.Work
import CorpusForge.Quota
import CorpusForge.Random.Drawing
import CorpusForge.Random.Generator
import CorpusForge.Repository
import CorpusForge.Run.Basic
import CorpusForge.Run.Interleaving
import CorpusForge.Run.Tally
import CorpusForge.Run.Walk
import CorpusForge.Selection
import CorpusForge.Site
import CorpusForge.Source.CSharp
import CorpusForge.Source.Go
import CorpusForge.Source.Java
import CorpusForge.Source.JavaScript
import CorpusForge.Source.Kotlin
import CorpusForge.Source.Python
import CorpusForge.Source.Registry
import CorpusForge.Source.Rust
import CorpusForge.Source.Style
import CorpusForge.Source.Swift
import CorpusForge.Source.Synthesis
import CorpusForge.Source.TypeScript
import CorpusForge.Spec
import CorpusForge.Status
import CorpusForge.Structure.Archetype
import CorpusForge.Structure.Layout
import CorpusForge.Structure.Plan
import CorpusForge.Text.Blank
import CorpusForge.Text.Case
import CorpusForge.Text.CaseTable
import CorpusForge.Text.CharSet
import CorpusForge.Text.Escape
import CorpusForge.Text.Identifier
import CorpusForge.Text.Pictograph
import CorpusForge.Text.Reference
import CorpusForge.Text.Search
import CorpusForge.Text.Similar
import CorpusForge.Text.Units
import CorpusForge.Text.Width
import CorpusForge.Value.Basic
import CorpusForge.Value.Json
import CorpusForge.Version
import CorpusForge.Work
