import RecordForge.Arity
import RecordForge.ClassModel
import RecordForge.ColumnSpec
import RecordForge.CommandLine.Import
import RecordForge.CommandLine.Options
import RecordForge.CommandLine.Program
import RecordForge.Config
import RecordForge.Declaration
import RecordForge.Diagnostic
import RecordForge.Entries
import RecordForge.Files.Path
import RecordForge.Files.Tree
import RecordForge.Files.Writer
import RecordForge.Generation
import RecordForge.Main
import RecordForge.Message
import RecordForge.ModuleName
import RecordForge.Naming
import RecordForge.Number.Arithmetic
import RecordForge.Number.Binary64
import RecordForge.Number.Numeral
import RecordForge.Number.Shortest
import RecordForge.Proofs.AccessorRuns
import RecordForge.Proofs.AccessorSwitch
import RecordForge.Proofs.Accounts
import RecordForge.Proofs.AnnotationHash
import RecordForge.Proofs.Annotations
import RecordForge.Proofs.Assignments
import RecordForge.Proofs.Batches
import RecordForge.Proofs.ClassBody
import RecordForge.Proofs.ClassModel
import RecordForge.Proofs.ColumnConstants
import RecordForge.Proofs.ColumnNames
import RecordForge.Proofs.Construction
import RecordForge.Proofs.Conversion
import RecordForge.Proofs.EmittedLiterals
import RecordForge.Proofs.EmittedNames
import RecordForge.Proofs.Entries
import RecordForge.Proofs.Evolution
import RecordForge.Proofs.FileOutput
import RecordForge.Proofs.FileTrees
import RecordForge.Proofs.FloatRange
import RecordForge.Proofs.Grouping
import RecordForge.Proofs.Keeping
import RecordForge.Proofs.LatestVersion
import RecordForge.Proofs.LetterCase
import RecordForge.Proofs.Literals
import RecordForge.Proofs.Loading
import RecordForge.Proofs.MemberNames
import RecordForge.Proofs.Messages
import RecordForge.Proofs.ModuleNames
import RecordForge.Proofs.Naming
import RecordForge.Proofs.NormalForm
import RecordForge.Proofs.NumberTexts
import RecordForge.Proofs.PlainNames
import RecordForge.Proofs.ProgramRuns
import RecordForge.Proofs.Readability
import RecordForge.Proofs.Reading
import RecordForge.Proofs.Reports
import RecordForge.Proofs.Selection
import RecordForge.Proofs.Sorting
import RecordForge.Proofs.SourceHeader
import RecordForge.Proofs.Specification
import RecordForge.Proofs.Spelling
import RecordForge.Proofs.StoredValues
import RecordForge.Proofs.Storing
import RecordForge.Proofs.ValueTexts
import RecordForge.Proofs.Versions
import RecordForge.Proofs.Wording
import RecordForge.Proofs.Words
import RecordForge.Record.Basic
import RecordForge.Record.Column
import RecordForge.Record.Template
import RecordForge.Running.Attribute
import RecordForge.Running.Call
import RecordForge.Running.Calling
import RecordForge.Running.Compare
import RecordForge.Running.Constructor
import RecordForge.Running.Datum
import RecordForge.Running.Expression
import RecordForge.Running.Function
import RecordForge.Running.Items
import RecordForge.Running.Kind
import RecordForge.Running.Layout
import RecordForge.Running.ModuleTable
import RecordForge.Running.Operation
import RecordForge.Running.Operator
import RecordForge.Running.Program
import RecordForge.Running.Shown
import RecordForge.Running.Site
import RecordForge.Running.Statement
import RecordForge.Running.TypeTable
import RecordForge.Schema.Class
import RecordForge.Schema.Deferred
import RecordForge.Schema.Describe
import RecordForge.Schema.Hint
import RecordForge.Schema.HintForming
import RecordForge.Schema.HintText
import RecordForge.Schema.SchemaText
import RecordForge.Selection
import RecordForge.Sorting
import RecordForge.Source.Check
import RecordForge.Source.Fault
import RecordForge.Source.Grammar
import RecordForge.Source.Grammar.Argument
import RecordForge.Source.Grammar.Block
import RecordForge.Source.Grammar.Expression
import RecordForge.Source.Grammar.Name
import RecordForge.Source.Grammar.Naming
import RecordForge.Source.Grammar.Parameter
import RecordForge.Source.Grammar.Pattern
import RecordForge.Source.Grammar.Statement
import RecordForge.Source.Grammar.Target
import RecordForge.Source.Grammar.Text
import RecordForge.Source.Load
import RecordForge.Source.NameReading
import RecordForge.Source.NumberToken
import RecordForge.Source.Parts
import RecordForge.Source.Placement
import RecordForge.Source.Plain
import RecordForge.Source.Reader
import RecordForge.Source.Rule
import RecordForge.Source.Run
import RecordForge.Source.RunError
import RecordForge.Source.Scope
import RecordForge.Source.Spelling
import RecordForge.Source.Syntax
import RecordForge.Source.Text
import RecordForge.Source.Token
import RecordForge.Source.Tree
import RecordForge.Storage
import RecordForge.Text.Blank
import RecordForge.Text.Case
import RecordForge.Text.CaseTables
import RecordForge.Text.CharacterName
import RecordForge.Text.CodeSet
import RecordForge.Text.Cut
import RecordForge.Text.DecimalDigit
import RecordForge.Text.DocString
import RecordForge.Text.Identifier
import RecordForge.Text.IdentifierTables
import RecordForge.Text.Literal
import RecordForge.Text.NormalForm
import RecordForge.Text.NormalFormTables
import RecordForge.Text.Printable
import RecordForge.Text.Quoted
import RecordForge.Text.Styling
import RecordForge.Text.Word
import RecordForge.Value.Basic
import RecordForge.Value.Equality
import RecordForge.Value.Order
import RecordForge.Value.Text
import RecordForge.Versions
import RecordForge.Versions.Valued
import RecordForge.Proofs.Registration
import RecordForge.Proofs.ModulePaths
import RecordForge.Proofs.CollectedFields
import RecordForge.Proofs.ColumnListing
import RecordForge.Proofs.Discovery
import RecordForge.Proofs.HintForming
import RecordForge.Proofs.InnermostTypes
import RecordForge.Proofs.Items
import RecordForge.Proofs.Rendering
