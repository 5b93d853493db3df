import ActionHandler.Action
import ActionHandler.CommandLine.Flag
import ActionHandler.CommandLine.Request
import ActionHandler.CommandLine.Run
import ActionHandler.CommandLine.Usage
import ActionHandler.CommandLine.Word
import ActionHandler.DeriveOperation
import ActionHandler.Failure
import ActionHandler.Files.Artifact
import ActionHandler.Files.FileSystem
import ActionHandler.Files.FileTree
import ActionHandler.Files.OsError
import ActionHandler.Files.Path
import ActionHandler.Generation
import ActionHandler.Given
import ActionHandler.Graphql.BlockString
import ActionHandler.Graphql.Document
import ActionHandler.Graphql.Grammar.Document
import ActionHandler.Graphql.Grammar.Operation
import ActionHandler.Graphql.Grammar.Reader
import ActionHandler.Graphql.Grammar.TypeSystem
import ActionHandler.Graphql.Grammar.Value
import ActionHandler.Graphql.LexicalError
import ActionHandler.Graphql.Lookup
import ActionHandler.Graphql.Name
import ActionHandler.Graphql.Number
import ActionHandler.Graphql.StringLiteral
import ActionHandler.Graphql.SyntaxError
import ActionHandler.Graphql.Token
import ActionHandler.Graphql.TokenStream
import ActionHandler.Handler.Context
import ActionHandler.Handler.Fragment
import ActionHandler.Handler.Literal
import ActionHandler.Handler.Naming
import ActionHandler.Handler.Template
import ActionHandler.Interruption
import ActionHandler.Log
import ActionHandler.Main
import ActionHandler.Proofs.CommandLine.Atomicity
import ActionHandler.Proofs.CommandLine.Stages
import ActionHandler.Proofs.Files.Actions
import ActionHandler.Proofs.Files.Artifacts
import ActionHandler.Proofs.Files.Directories
import ActionHandler.Proofs.Files.Paths
import ActionHandler.Proofs.Files.Tree
import ActionHandler.Proofs.Files.Walk
import ActionHandler.Proofs.Generation.Names
import ActionHandler.Proofs.Generation.Precedence
import ActionHandler.Proofs.Generation.Stages
import ActionHandler.Proofs.Handler.Escaping
import ActionHandler.Proofs.Handler.Literals
import ActionHandler.Proofs.Handler.OperationText
import ActionHandler.Proofs.Handler.Rendering
import ActionHandler.Proofs.Handler.UniqueReading
import ActionHandler.Proofs.Javascript.TemplateLiteral
import ActionHandler.Proofs.Text.Delimited
import ActionHandler.Settings
import ActionHandler.Text.Casing
import ActionHandler.Text.CodePoint
import ActionHandler.Text.Digit
import ActionHandler.Text.LineEnding
import ActionHandler.Text.Printable
import ActionHandler.Text.Quoted
import ActionHandler.Text.Replace
import ActionHandler.Text.Utf8
import ActionHandler.Proofs.Files.Growth
import ActionHandler.Proofs.Files.Writing
import ActionHandler.Proofs.Files.Overwriting
import ActionHandler.Proofs.CommandLine.Delivery
import ActionHandler.Proofs.CommandLine.Confinement
import ActionHandler.Proofs.CommandLine.Printing
import ActionHandler.Proofs.CommandLine.Respelling
import ActionHandler.Proofs.CommandLine.Verbosity
import ActionHandler.Proofs.CommandLine.Independence
import ActionHandler.Proofs.Handler.Naming
import ActionHandler.Proofs.Handler.TemplateLines
import ActionHandler.Proofs.Javascript.NameList
import ActionHandler.Proofs.Handler.RelayReading
import ActionHandler.Proofs.Generation.Binding
import ActionHandler.Proofs.Graphql.Spelling
import ActionHandler.Proofs.Graphql.Reading
import ActionHandler.Proofs.Graphql.ObjectTypes
import ActionHandler.Proofs.Generation.PlainHandler
import ActionHandler.Proofs.Javascript.Symbols
import ActionHandler.Proofs.Javascript.Declarations
import ActionHandler.Proofs.Handler.TemplateDeclarations
import ActionHandler.Proofs.Handler.Scope
import ActionHandler.Proofs.Generation.HandlerScope
import ActionHandler.Proofs.Generation.SharedModule
import ActionHandler.Proofs.CommandLine.Faults
import ActionHandler.Proofs.FirstMatch
import ActionHandler.Proofs.Graphql.Lookup
import ActionHandler.Proofs.Action.Findings
import ActionHandler.Proofs.Action.Edits
import ActionHandler.Proofs.Action.Kinds
import ActionHandler.Proofs.DeriveOperation.Findings
import ActionHandler.Proofs.Text.Casing
import ActionHandler.Proofs.Handler.DerivedNames
import ActionHandler.Proofs.Text.Utf8
import ActionHandler.Proofs.Text.LineSpelling
import ActionHandler.Proofs.Files.Respelling
import ActionHandler.Proofs.Handler.Substitution
import ActionHandler.Proofs.Text.Quoted
import ActionHandler.Proofs.CommandLine.LookupReports
import ActionHandler.Proofs.Javascript.ObjectLiteral
