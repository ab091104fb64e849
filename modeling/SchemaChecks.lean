import SchemaChecks.Text.Blank
import SchemaChecks.Text.Identifier
import SchemaChecks.Text.DecimalDigit
import SchemaChecks.Text.LetterCase
import SchemaChecks.Text.Quoted
import SchemaChecks.Number.Reading
import SchemaChecks.Number.Shortest
import SchemaChecks.Tree
import SchemaChecks.Json.Reader
import SchemaChecks.Yaml.TokenStream
import SchemaChecks.Yaml.Graph
import SchemaChecks.Yaml.Heap
import SchemaChecks.Pattern.Matching
import SchemaChecks.Pattern.Parser
import SchemaChecks.Document
import SchemaChecks.Extraction
import SchemaChecks.Validator
import SchemaChecks.Module.Rendering
import SchemaChecks.Files.Host
import SchemaChecks.Scaffold
import SchemaChecks.CompileRun
import SchemaChecks.CommandLine.Arguments
import SchemaChecks.CommandLine.Help
import SchemaChecks.CommandLine.Execution
import SchemaChecks.Main
import SchemaChecks.Proofs.WellFormed
import SchemaChecks.Proofs.Reading
import SchemaChecks.Proofs.Files
import SchemaChecks.Proofs.CompileRun
import SchemaChecks.Proofs.Source.Layout
import SchemaChecks.Proofs.Source.Script
import SchemaChecks.Proofs.Source.Reader
import SchemaChecks.Proofs.Source.Tokens
import SchemaChecks.Proofs.FunctionName
import SchemaChecks.Proofs.Rendering
import SchemaChecks.Proofs.Module
import SchemaChecks.Proofs.ModuleText
import SchemaChecks.Proofs.Evaluation
import SchemaChecks.Proofs.Agreement
import SchemaChecks.Proofs.WrittenModule
import SchemaChecks.Proofs.ExtractionFailure
import SchemaChecks.Proofs.PatternFaults
import SchemaChecks.Proofs.YamlFaults
import SchemaChecks.Proofs.JsonReading
import SchemaChecks.Proofs.Taxonomy
import SchemaChecks.Proofs.Depth
import SchemaChecks.Proofs.InstanceCheck
import SchemaChecks.Proofs.Portable.Json
import SchemaChecks.Proofs.Portable.Lexeme
import SchemaChecks.Proofs.Portable.Scanner
import SchemaChecks.Proofs.Portable.Tokens
import SchemaChecks.Proofs.Portable.Nodes
import SchemaChecks.Proofs.Binary64
import SchemaChecks.Proofs.Portable.Filling
import SchemaChecks.Proofs.Portable.Words
import SchemaChecks.Proofs.Tightening
import SchemaChecks.Proofs.Independence
import SchemaChecks.Proofs.Lossless
import SchemaChecks.Proofs.Footprint
import SchemaChecks.Proofs.CommandEffects
import SchemaChecks.Proofs.CheckReports
import SchemaChecks.Proofs.InterruptedRun
import SchemaChecks.Proofs.Writable
import SchemaChecks.Proofs.Repetition
import SchemaChecks.Proofs.EntryPoints
import SchemaChecks.Proofs.Rewording
import SchemaChecks.Proofs.Reference
import SchemaChecks.Proofs.Required
import SchemaChecks.Proofs.NormalForm
import SchemaChecks.Proofs.Routing
import SchemaChecks.Proofs.Growth
import SchemaChecks.Proofs.Conversion
import SchemaChecks.Proofs.SchemaNames
import SchemaChecks.Proofs.SnakeCase
import SchemaChecks.Proofs.Bindings
import SchemaChecks.Proofs.Enclosure
import SchemaChecks.Proofs.Violations
import SchemaChecks.Proofs.DottedPath
import SchemaChecks.Proofs.ExactBounds
import SchemaChecks.Proofs.PatternConstants
