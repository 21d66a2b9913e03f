import SchemaAtlas.Attempt
import SchemaAtlas.Compilation.Basic
import SchemaAtlas.Compilation.Files
import SchemaAtlas.Compilation.Records
import SchemaAtlas.Compilation.Session
import SchemaAtlas.Compilation.Text
import SchemaAtlas.Decimal.DigitLimit
import SchemaAtlas.Decimal.Notation
import SchemaAtlas.Decimal.Real64
import SchemaAtlas.Decimal.Shortest
import SchemaAtlas.Diagram.EntityRelation
import SchemaAtlas.Diagram.Token
import SchemaAtlas.Dialect.Basic
import SchemaAtlas.Dialect.MongoDB
import SchemaAtlas.Dialect.MySQL
import SchemaAtlas.Dialect.Postgres
import SchemaAtlas.Dialect.Script
import SchemaAtlas.Dialect.Snowflake
import SchemaAtlas.Document.Calendar
import SchemaAtlas.Document.Literal
import SchemaAtlas.Document.Value
import SchemaAtlas.FileName
import SchemaAtlas.FilePath
import SchemaAtlas.Json.Reader
import SchemaAtlas.Json.Text
import SchemaAtlas.Json.Writer
import SchemaAtlas.Keyed
import SchemaAtlas.Lineage.Graph
import SchemaAtlas.Lineage.Node
import SchemaAtlas.Lineage.NodeId
import SchemaAtlas.Lineage.RuleLabel
import SchemaAtlas.Loading.Directory
import SchemaAtlas.Loading.Document
import SchemaAtlas.Loading.Format
import SchemaAtlas.Loading.Merge
import SchemaAtlas.Loading.Suggestion
import SchemaAtlas.Matrix.Mapping
import SchemaAtlas.Matrix.Record
import SchemaAtlas.Proofs.Attempt
import SchemaAtlas.Proofs.Compilation.Valid
import SchemaAtlas.Proofs.Dialect.MongoDB
import SchemaAtlas.Proofs.Dialect.Order
import SchemaAtlas.Proofs.Dialect.Reference
import SchemaAtlas.Proofs.Document.Display
import SchemaAtlas.Proofs.Document.Entries
import SchemaAtlas.Proofs.Document.Legible
import SchemaAtlas.Proofs.FileName
import SchemaAtlas.Proofs.FilePath
import SchemaAtlas.Proofs.Json.String
import SchemaAtlas.Proofs.Json.Written
import SchemaAtlas.Proofs.Keyed
import SchemaAtlas.Proofs.Lineage.Agreement
import SchemaAtlas.Proofs.Lineage.NodeId
import SchemaAtlas.Proofs.Lineage.Nodes
import SchemaAtlas.Proofs.Lineage.Permutation
import SchemaAtlas.Proofs.Lineage.Registration
import SchemaAtlas.Proofs.Lineage.TableEdges
import SchemaAtlas.Proofs.Loading.Detection
import SchemaAtlas.Proofs.Loading.Legible
import SchemaAtlas.Proofs.Matrix.Reading
import SchemaAtlas.Proofs.Report.Referential
import SchemaAtlas.Proofs.Schema.Claims
import SchemaAtlas.Proofs.Schema.Declared
import SchemaAtlas.Proofs.Schema.Folds
import SchemaAtlas.Proofs.Schema.Index
import SchemaAtlas.Proofs.Schema.Keys
import SchemaAtlas.Proofs.Schema.Linkable
import SchemaAtlas.Proofs.Schema.Matching
import SchemaAtlas.Proofs.Schema.Readable
import SchemaAtlas.Proofs.Schema.Reading
import SchemaAtlas.Proofs.Schema.Reference
import SchemaAtlas.Proofs.Schema.Tidied
import SchemaAtlas.Proofs.Settings.Dialects
import SchemaAtlas.Proofs.Sorting
import SchemaAtlas.Proofs.Site.Layout
import SchemaAtlas.Proofs.Site.Markup
import SchemaAtlas.Proofs.Site.Pages
import SchemaAtlas.Proofs.Site.Provenance
import SchemaAtlas.Proofs.Text.Split
import SchemaAtlas.Proofs.Structure.Examination
import SchemaAtlas.Proofs.Structure.Rule
import SchemaAtlas.Report.Basic
import SchemaAtlas.Report.Referential
import SchemaAtlas.Schema.Declaration
import SchemaAtlas.Schema.Graph
import SchemaAtlas.Schema.Mapping
import SchemaAtlas.Schema.Reference
import SchemaAtlas.Schema.Source
import SchemaAtlas.Schema.Table
import SchemaAtlas.Settings.Basic
import SchemaAtlas.Settings.Logging
import SchemaAtlas.Site.Documentation
import SchemaAtlas.Site.Markup
import SchemaAtlas.Site.Page
import SchemaAtlas.Structure.Defeat
import SchemaAtlas.Structure.Examination
import SchemaAtlas.Structure.Outline
import SchemaAtlas.Structure.Rule
import SchemaAtlas.Text.Base64
import SchemaAtlas.Text.Blank
import SchemaAtlas.Text.Case
import SchemaAtlas.Text.Digit
import SchemaAtlas.Text.Printable
import SchemaAtlas.Text.Range
import SchemaAtlas.Text.Split
import SchemaAtlas.Text.Word
import SchemaAtlas.Transform.Argument
import SchemaAtlas.Transform.Contract
import SchemaAtlas.Yaml.Character
import SchemaAtlas.Yaml.Cursor
import SchemaAtlas.Yaml.Directive
import SchemaAtlas.Yaml.Fault
import SchemaAtlas.Yaml.Layout
import SchemaAtlas.Yaml.Node
import SchemaAtlas.Yaml.Node.Reading
import SchemaAtlas.Yaml.Node.Value
import SchemaAtlas.Yaml.Property
import SchemaAtlas.Yaml.Reader
import SchemaAtlas.Yaml.Scalar.Block
import SchemaAtlas.Yaml.Scalar.Moment
import SchemaAtlas.Yaml.Scalar.Number
import SchemaAtlas.Yaml.Scalar.Plain
import SchemaAtlas.Yaml.Scalar.Quoted
import SchemaAtlas.Yaml.Tag
import SchemaAtlas.Yaml.Token
import SchemaAtlas.Proofs.Site.Links
import SchemaAtlas.Proofs.Compilation.Files
import SchemaAtlas.Proofs.Structure.Examinable
import SchemaAtlas.Proofs.Compilation.Text
import SchemaAtlas.Proofs.Loading.Merge
import SchemaAtlas.Proofs.Schema.Merged
import SchemaAtlas.Proofs.Report.Pass
import SchemaAtlas.Proofs.Lineage.Unknown
import SchemaAtlas.Proofs.Site.SourceUse
import SchemaAtlas.Proofs.Structure.Merged
import SchemaAtlas.Proofs.Schema.Target
import SchemaAtlas.Proofs.Dialect.Spelling
import SchemaAtlas.Proofs.Report.Naming
import SchemaAtlas.Proofs.Dialect.PrimaryKey
import SchemaAtlas.Proofs.Dialect.TableName
import SchemaAtlas.Proofs.Dialect.ListType
import SchemaAtlas.Proofs.Transform.Argument
import SchemaAtlas.Proofs.Transform.Call
import SchemaAtlas.Proofs.Transform.Enclosed
import SchemaAtlas.Proofs.Schema.Resolution
import SchemaAtlas.Proofs.Diagram.Groups
import SchemaAtlas.Proofs.Diagram.Text
import SchemaAtlas.Proofs.Loading.Directory
import SchemaAtlas.Proofs.Lineage.RuleLabel
import SchemaAtlas.Proofs.Transform.Pieces
import SchemaAtlas.Proofs.Lineage.FirstRegistration
import SchemaAtlas.Proofs.Diagram.TypeName

/-! # Schema atlas

A document declares database tables, the sources that data comes from, and the mappings between
them. This library reads such documents, checks them, traces where every column comes from, and
writes tables of mappings, diagrams, scripts for four database engines and a documentation site.
-/
