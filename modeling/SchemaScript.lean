import SchemaScript.Json.Reader
import SchemaScript.Main
import SchemaScript.Proofs.Conversion.File
import SchemaScript.Proofs.Markup.Parsing
import SchemaScript.Proofs.Schema.Survey
import SchemaScript.Proofs.Conversion.Prefix
import SchemaScript.Proofs.Json.Printing
import SchemaScript.Proofs.Script.Outline
import SchemaScript.Proofs.Script.Listing
import SchemaScript.Proofs.Encoding.Bytewise
import SchemaScript.Proofs.Encoding.Declaration
import SchemaScript.Proofs.Encoding.Presentation
import SchemaScript.Proofs.Files.Likeness
import SchemaScript.Proofs.Conversion.Encodings
import SchemaScript.Proofs.Stages
import SchemaScript.Proofs.Markup.Growth
import SchemaScript.Proofs.Markup.Verdict
import SchemaScript.Proofs.Markup.Delimiting
import SchemaScript.Proofs.Markup.Aside
import SchemaScript.Proofs.Markup.Comparison
import SchemaScript.Proofs.Schema.Relevance
import SchemaScript.Proofs.Markup.Relabelling
import SchemaScript.Proofs.Markup.Correspondence
import SchemaScript.Proofs.Schema.Labels
import SchemaScript.Proofs.CommandLine.Execution
import SchemaScript.Proofs.CommandLine.Insertion
import SchemaScript.Proofs.Script.Sink
import SchemaScript.Proofs.Markup.Attributes
import SchemaScript.Proofs.Schema.Extension
import SchemaScript.Proofs.Encoding.Malformed
import SchemaScript.Proofs.Encoding.Surrogates
import SchemaScript.Proofs.Encoding.Exactness
import SchemaScript.Proofs.Schema.Steps
import SchemaScript.Proofs.Schema.TableJson
import SchemaScript.Proofs.Script.TrailingComma
import SchemaScript.Proofs.Schema.PassedOver
import SchemaScript.Proofs.Schema.InlineTypes
import SchemaScript.Proofs.Encoding.PlainBytes
import SchemaScript.Proofs.Conversion.DefaultPrefix
import SchemaScript.Proofs.CommandLine.Interleaving
import SchemaScript.Proofs.Log.Account
import SchemaScript.Proofs.Markup.Traversal
import SchemaScript.Proofs.Schema.Resolution
