import Casebook.Batch
import Casebook.CommandLine.Arguments
import Casebook.CommandLine.Run
import Casebook.Document.Basic
import Casebook.Document.Fault
import Casebook.Document.Reading
import Casebook.Files.Expansion
import Casebook.Files.Path
import Casebook.Files.Pattern
import Casebook.Files.System
import Casebook.Files.Volume
import Casebook.Journal
import Casebook.Json.Basic
import Casebook.Json.Pointer
import Casebook.Json.Reading
import Casebook.Json.Resolution
import Casebook.Json.Token
import Casebook.Json.Writing
import Casebook.Location
import Casebook.Main
import Casebook.Model.Basic
import Casebook.Model.Binding
import Casebook.Model.Build
import Casebook.Model.Encoding
import Casebook.Naming
import Casebook.Number.Double
import Casebook.Number.Numeral
import Casebook.Number.Shortest
import Casebook.Signature.Basic
import Casebook.Signature.Conflict
import Casebook.Signature.Inference
import Casebook.Table
import Casebook.Text.CaseData
import Casebook.Text.CodeRange
import Casebook.Text.Hex
import Casebook.Text.Letter
import Casebook.Text.LetterCase
import Casebook.Text.Numeric
import Casebook.Text.Pieces
import Casebook.Text.Plain
import Casebook.Text.Quoted
import Casebook.Text.Visible
import Casebook.Value.Basic
import Casebook.Value.Classify
import Casebook.Proofs.Signature.Comparison
import Casebook.Proofs.Signature.Survey
import Casebook.Proofs.Signature.Record
import Casebook.Proofs.Value.Classification
import Casebook.Proofs.Document.Parts
import Casebook.Proofs.Document.Items
import Casebook.Proofs.Document.Grammar
import Casebook.Proofs.Document.Addresses
import Casebook.Proofs.Document.LeafObjects
import Casebook.Proofs.Model.Building
import Casebook.Proofs.Model.Typing
import Casebook.Proofs.Model.Warnings
import Casebook.Proofs.Model.Conservation
import Casebook.Proofs.Json.DistinctKeys
import Casebook.Proofs.Json.Places
import Casebook.Proofs.Json.WrittenOrder
import Casebook.Proofs.Value.Mirroring
import Casebook.Proofs.Document.Faults
import Casebook.Proofs.Document.DueFaults
import Casebook.Proofs.Document.Culprits
import Casebook.Proofs.Document.FirstFault
import Casebook.Proofs.Model.Failures
import Casebook.Proofs.Signature.Agreement
import Casebook.Proofs.Model.Binding
import Casebook.Proofs.Signature.Summary
import Casebook.Model.Equality
import Casebook.Proofs.Reordering
import Casebook.Proofs.Json.KeyOrder
import Casebook.Proofs.Value.CanonicalForm
import Casebook.Proofs.Document.KeyOrder
import Casebook.Proofs.Signature.Congruence
import Casebook.Proofs.Model.KeyOrder
import Casebook.Proofs.Model.Tests
import Casebook.Proofs.Model.Lookup
import Casebook.Proofs.Signature.Disagreement
import Casebook.Proofs.Model.Disagreement
import Casebook.Proofs.Number.Numeral
import Casebook.Proofs.Number.Denotation
import Casebook.Proofs.Number.Rounding
import Casebook.Proofs.Number.Nearest
import Casebook.Proofs.Number.FiniteRange
import Casebook.Proofs.Number.Shortest
import Casebook.Proofs.Json.Lexing
import Casebook.Proofs.Text.Quoted
import Casebook.Proofs.WrittenLocation
import Casebook.Proofs.Json.NumberText
import Casebook.Proofs.Value.Literals
import Casebook.Proofs.Json.UniqueReading
import Casebook.Proofs.Value.Encoding
import Casebook.Proofs.Model.Encoding
import Casebook.Proofs.Signature.ConflictLog
import Casebook.Proofs.Signature.Repetition
import Casebook.Proofs.Signature.Widening
import Casebook.Proofs.Files.Tree
import Casebook.Proofs.Files.Volume
import Casebook.Proofs.Files.Joining
import Casebook.Proofs.CommandLine.Writing
import Casebook.Proofs.Model.RepeatedNames
import Casebook.Proofs.Journal
import Casebook.Proofs.Naming.WordByWord
import Casebook.Proofs.Naming.Capitals
import Casebook.Proofs.Text.SettledCase
import Casebook.Proofs.Naming.SettledNames
