import DirSchema.CommandLine.Run
import DirSchema.Config.Selection
import DirSchema.Decoder.Files
import DirSchema.Diagnostic.Report
import DirSchema.Main
import DirSchema.Output.Compile
import DirSchema.Proofs.Decoder.Canonical
import DirSchema.Proofs.Decoder.Entries
import DirSchema.Proofs.Source.Placement
import DirSchema.Schema.Resolve
import DirSchema.Proofs.Decoder.RoundTrip
import DirSchema.Proofs.Schema.Resolution
import DirSchema.Proofs.Decoder.Relocation
import DirSchema.Proofs.Decoder.Significance
import DirSchema.Proofs.Decoder.Blocks
import DirSchema.Proofs.Decoder.Settlement
import DirSchema.Proofs.Source.Standing
import DirSchema.Proofs.Source.Registry
import DirSchema.Proofs.Decoder.Provenance
import DirSchema.Proofs.Decoder.Marking
import DirSchema.Proofs.Decoder.Traces
import DirSchema.Proofs.FileTree.Places
import DirSchema.Proofs.FileTree.Directories
import DirSchema.Proofs.Text.Casing
import DirSchema.Proofs.FileTree.Contents
import DirSchema.Proofs.Output.Artifacts
import DirSchema.Proofs.Output.Writing
import DirSchema.Proofs.Output.Generation
import DirSchema.Proofs.Output.Isolation
import DirSchema.Proofs.Output.Containment
import DirSchema.Proofs.CommandLine.Effects
import DirSchema.Proofs.Output.Repetition
import DirSchema.Proofs.Output.Code
import DirSchema.Proofs.Template.Lookup
import DirSchema.Proofs.Template.Pattern
import DirSchema.Proofs.Model.Distinct
import DirSchema.Proofs.Output.Builtin
import DirSchema.Proofs.Output.Printed
import DirSchema.Proofs.Output.Fit
import DirSchema.Proofs.Model.Identifier
import DirSchema.Proofs.Decoder.Interleaving
import DirSchema.Proofs.Schema.Recasing
import DirSchema.Proofs.Model.Recasing
import DirSchema.Proofs.Schema.Session
import DirSchema.Proofs.Source.History
import DirSchema.Proofs.Model.Numbering
import DirSchema.Proofs.Model.NamingField
import DirSchema.Proofs.Decoder.Recovery
import DirSchema.Proofs.Decoder.NameLists
import DirSchema.Proofs.Decoder.Terminators
import DirSchema.Proofs.Decoder.Skipping
import DirSchema.Proofs.Schema.Reference
import DirSchema.Proofs.Model.Children
import DirSchema.Proofs.Output.Parent
import DirSchema.Proofs.Config.Validation
import DirSchema.Proofs.Source.Location
import DirSchema.Proofs.Path.Components
import DirSchema.Proofs.Output.Separation
import DirSchema.Proofs.Path.Order
import DirSchema.Proofs.Config.Selection
import DirSchema.Proofs.Decoder.Clean
import DirSchema.Proofs.Decoder.Assertion
