import Enforcement.Text.Digit
import Enforcement.Text.WordCharacter
import Enforcement.Text.Hidden
import Enforcement.Text.Blank
import Enforcement.Text.LetterCase
import Enforcement.Text.Line
import Enforcement.Text.Quoted
import Enforcement.Text.Utf8
import Enforcement.Json.Number
import Enforcement.Json.Printer
import Enforcement.Json.Reader
import Enforcement.Error
import Enforcement.Template.Evaluation
import Enforcement.Policy.SpecFile
import Enforcement.Policy.Injection
import Enforcement.Policy.Encoding
import Enforcement.Policy.Decoding
import Enforcement.Digest.Base64
import Enforcement.Policy.Rego
import Enforcement.Trust.Algorithm
import Enforcement.Trust.Gate
import Enforcement.Image.Digest
import Enforcement.Image.Reference
import Enforcement.Files.Store
import Enforcement.Imports.File
import Enforcement.Imports.Resolver
import Enforcement.Policy.Authoring
import Enforcement.Template.Loading
import Enforcement.Toml.Value
import Enforcement.Toml.Scalar
import Enforcement.Toml.Quotation
import Enforcement.Toml.Reader
import Enforcement.Settings
import Enforcement.Tool.Host
import Enforcement.CommandLine.Run
import Enforcement.Main
import Enforcement.Proofs.Json.Structure
import Enforcement.Proofs.Json.Resemblance
import Enforcement.Proofs.Json.Shape
import Enforcement.Proofs.Policy.Placement
import Enforcement.Proofs.Policy.Document
import Enforcement.Proofs.Imports.Resolution
import Enforcement.Proofs.Policy.Header
import Enforcement.Proofs.Trust.VerifierOutput
import Enforcement.Proofs.Imports.Publication
import Enforcement.Proofs.Policy.Writing
import Enforcement.Proofs.Template.DraftReading
import Enforcement.Proofs.Template.Outcome
import Enforcement.Proofs.Trust.Payload
import Enforcement.Proofs.Policy.Comparison
import Enforcement.Proofs.Policy.Compilation
import Enforcement.Proofs.Policy.Wildcards
import Enforcement.Proofs.Template.Nulls
import Enforcement.Proofs.Policy.Volumes
import Enforcement.Proofs.Files.Traversal
import Enforcement.Proofs.Files.Making
import Enforcement.Proofs.Imports.Scratch
import Enforcement.Proofs.Policy.Respelling
import Enforcement.Proofs.Image.Normalization
import Enforcement.Proofs.Policy.Injectable
import Enforcement.Proofs.Imports.File
import Enforcement.Proofs.Policy.Rendering
import Enforcement.Proofs.Digest.Base64
import Enforcement.Proofs.Files.Writing
import Enforcement.Proofs.CommandLine.Work
import Enforcement.Proofs.CommandLine.Injection
import Enforcement.Proofs.Imports.Observation
import Enforcement.Proofs.Imports.Sparing
import Enforcement.Proofs.CommandLine.Importing
import Enforcement.Proofs.Trust.VersionNumber
import Enforcement.Proofs.Policy.Producers
import Enforcement.Proofs.Files.Child
import Enforcement.Proofs.Imports.Fetching
import Enforcement.Proofs.Policy.Authoring
import Enforcement.Proofs.Policy.Output
import Enforcement.Proofs.Image.Stripping
import Enforcement.Proofs.Policy.FrontEnds
import Enforcement.Proofs.Policy.FragmentList
import Enforcement.Proofs.Policy.KnownVariables
import Enforcement.Proofs.Template.Slicing
import Enforcement.Proofs.Policy.Options
