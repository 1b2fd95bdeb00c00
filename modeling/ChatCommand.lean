import ChatCommand.Argument
import ChatCommand.Binding
import ChatCommand.Check.Basic
import ChatCommand.Check.Compound
import ChatCommand.Check.Erasure
import ChatCommand.Check.Failure
import ChatCommand.Check.Format
import ChatCommand.Check.Primitive
import ChatCommand.Check.Refinement
import ChatCommand.Check.Union
import ChatCommand.Check.Unsigned
import ChatCommand.Command.Constraint
import ChatCommand.Command.Definition
import ChatCommand.Command.Dispatch
import ChatCommand.Command.Registry
import ChatCommand.CommandLine.Answer
import ChatCommand.CommandLine.Given
import ChatCommand.CommandLine.Request
import ChatCommand.CommandLine.Usage
import ChatCommand.Compilation
import ChatCommand.Content
import ChatCommand.Directory
import ChatCommand.Extraction
import ChatCommand.Json.Basic
import ChatCommand.Json.Mismatch
import ChatCommand.Json.Printer
import ChatCommand.Json.Reader
import ChatCommand.Main
import ChatCommand.Manifest.Basic
import ChatCommand.Manifest.ConstraintForm
import ChatCommand.Manifest.Json
import ChatCommand.Manifest.Load
import ChatCommand.Manifest.Yaml
import ChatCommand.Number.Binary64
import ChatCommand.Number.Layout
import ChatCommand.Number.Shortest
import ChatCommand.Pattern.Basic
import ChatCommand.Pattern.Builder
import ChatCommand.Pattern.Limits
import ChatCommand.Pattern.Matching
import ChatCommand.Template.Basic
import ChatCommand.Template.Parser
import ChatCommand.Template.Token
import ChatCommand.Text.Ascii
import ChatCommand.Text.Blank
import ChatCommand.Text.CodeRange
import ChatCommand.Text.DecimalDigit
import ChatCommand.Text.Folding
import ChatCommand.Text.Lowercase
import ChatCommand.Text.Printable
import ChatCommand.Text.Quoted
import ChatCommand.Yaml.Character
import ChatCommand.Yaml.Document
import ChatCommand.Yaml.Meaning
import ChatCommand.Yaml.Printer
import ChatCommand.Yaml.Scalar
import ChatCommand.Yaml.Token.Basic
import ChatCommand.Yaml.Token.Name
import ChatCommand.Yaml.Token.Scan
import ChatCommand.Proofs.Check.CatchAll
import ChatCommand.Proofs.Check.Chain
import ChatCommand.Proofs.Check.Composed
import ChatCommand.Proofs.Check.FixedLength
import ChatCommand.Proofs.Check.Forms
import ChatCommand.Proofs.Check.Intersection
import ChatCommand.Proofs.Check.Leaf
import ChatCommand.Proofs.Check.Object
import ChatCommand.Proofs.Check.Parts
import ChatCommand.Proofs.Check.PathText
import ChatCommand.Proofs.Check.PostLink
import ChatCommand.Proofs.Check.Regular
import ChatCommand.Proofs.Check.Telling
import ChatCommand.Proofs.Check.Trail
import ChatCommand.Proofs.Check.Transparent
import ChatCommand.Proofs.Check.Union
import ChatCommand.Proofs.Check.Unsigned
import ChatCommand.Proofs.Check.Whole
import ChatCommand.Proofs.Command.Admission
import ChatCommand.Proofs.Command.AdmittedTexts
import ChatCommand.Proofs.Command.Built
import ChatCommand.Proofs.Command.Invocable
import ChatCommand.Proofs.Command.Invocation
import ChatCommand.Proofs.Command.Registration
import ChatCommand.Proofs.Command.Routing
import ChatCommand.Proofs.Command.Session
import ChatCommand.Proofs.Command.Store
import ChatCommand.Proofs.Command.Warnings
import ChatCommand.Proofs.Compiled.Binding
import ChatCommand.Proofs.Compiled.CacheRun
import ChatCommand.Proofs.Compiled.Compilation
import ChatCommand.Proofs.Compiled.Correspondence
import ChatCommand.Proofs.Compiled.Extraction
import ChatCommand.Proofs.Compiled.Findings
import ChatCommand.Proofs.Compiled.LetterCase
import ChatCommand.Proofs.Compiled.Matching
import ChatCommand.Proofs.Compiled.OptionalFlags
import ChatCommand.Proofs.Compiled.Outcome
import ChatCommand.Proofs.Compiled.PartlySupplied
import ChatCommand.Proofs.Compiled.SigilChange
import ChatCommand.Proofs.Compiled.Substitution
import ChatCommand.Proofs.Json.Fields
import ChatCommand.Proofs.Json.Reading
import ChatCommand.Proofs.Json.Scanning
import ChatCommand.Proofs.Json.Sorted
import ChatCommand.Proofs.Json.Spelling
import ChatCommand.Proofs.Manifest.JsonForm
import ChatCommand.Proofs.Manifest.Loading
import ChatCommand.Proofs.Manifest.Survival
import ChatCommand.Proofs.Manifest.YamlForm
import ChatCommand.Proofs.Pattern.Captures
import ChatCommand.Proofs.Pattern.Delimited
import ChatCommand.Proofs.Pattern.Filling
import ChatCommand.Proofs.Pattern.FirstSplit
import ChatCommand.Proofs.Pattern.Foremost
import ChatCommand.Proofs.Pattern.GroupNames
import ChatCommand.Proofs.Pattern.Numbering
import ChatCommand.Proofs.Pattern.Places
import ChatCommand.Proofs.Pattern.Split
import ChatCommand.Proofs.Pattern.WrittenForm
import ChatCommand.Proofs.Template.Adjacency
import ChatCommand.Proofs.Template.ErrorPlace
import ChatCommand.Proofs.Template.Flattening
import ChatCommand.Proofs.Template.Progress
import ChatCommand.Proofs.Template.Reading
import ChatCommand.Proofs.Template.RoundTrip
import ChatCommand.Proofs.Template.Scoping
import ChatCommand.Proofs.Template.Spelling
import ChatCommand.Proofs.Template.TokenSpelling
import ChatCommand.Proofs.Template.Uses
import ChatCommand.Proofs.Template.Walk
import ChatCommand.Proofs.Template.WalkAnswer
import ChatCommand.Proofs.Template.Walker
import ChatCommand.Proofs.Text.Form
import ChatCommand.Proofs.Text.Run
import ChatCommand.Proofs.Text.Words
import ChatCommand.Proofs.Yaml.Reading
