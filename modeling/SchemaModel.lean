import SchemaModel.Catalog.Offline
import SchemaModel.Catalog.Record
import SchemaModel.Model.DomainSnapshot
import SchemaModel.Inspection.Inspector
import SchemaModel.Connection.SslMode
import SchemaModel.Digest.Sha256
import SchemaModel.Yaml.Scalar
import SchemaModel.Yaml.Token
import SchemaModel.Yaml.Reader
import SchemaModel.Yaml.Writer
import SchemaModel.Configuration
import SchemaModel.Connection.PostgresTarget
import SchemaModel.Connection.SqlServerTarget
import SchemaModel.Catalog.Postgres
import SchemaModel.Catalog.SqlServer
import SchemaModel.Catalog.Script
import SchemaModel.Model.Facts
import SchemaModel.Catalog.Opening
import SchemaModel.CommandLine.Disk
import SchemaModel.Main
import SchemaModel.Proofs.Inspection.Build
import SchemaModel.Proofs.Inspection.Offline
import SchemaModel.Proofs.Domain.LookUp
import SchemaModel.Proofs.Domain.Widening
import SchemaModel.Proofs.Domain.Shapes
import SchemaModel.Proofs.Inspection.Closure
import SchemaModel.Proofs.Inspection.Registry
import SchemaModel.Proofs.Inspection.Changes
import SchemaModel.Proofs.Inspection.Types
import SchemaModel.Proofs.Naming.Words
import SchemaModel.Proofs.Portable.Schema
import SchemaModel.Proofs.Portable.Outline
import SchemaModel.Proofs.Portable.Tables
import SchemaModel.Proofs.Naming.Roles
import SchemaModel.Proofs.Portable.Twins
import SchemaModel.Proofs.Portable.Routines
import SchemaModel.Proofs.Portable.Shapes
import SchemaModel.Proofs.Portable.Returns
import SchemaModel.Proofs.Portable.Agreement
import SchemaModel.Proofs.Catalog.Answers
import SchemaModel.Proofs.Inspection.FirstUse
import SchemaModel.Proofs.Inspection.SharedShapes
import SchemaModel.Proofs.Identifier.Quoting
import SchemaModel.Proofs.Text.Pieces
import SchemaModel.Proofs.Catalog.TableSignature
import SchemaModel.Proofs.Identifier.Reading
import SchemaModel.Proofs.Identifier.Splitting
import SchemaModel.Proofs.Inspection.Lockstep
import SchemaModel.Proofs.Inspection.Alike
import SchemaModel.Proofs.Inspection.TypeStage
import SchemaModel.Proofs.Inspection.Exclusion
import SchemaModel.Proofs.Inspection.Steady
import SchemaModel.Proofs.Inspection.Reordering
import SchemaModel.Proofs.Inspection.Growth
import SchemaModel.Proofs.Inspection.TableFields
import SchemaModel.Proofs.Inspection.BrokenKeys
import SchemaModel.Proofs.Inspection.Resolution
import SchemaModel.Proofs.Inspection.Parameters
import SchemaModel.Proofs.Inspection.Spelling
import SchemaModel.Proofs.Inspection.Projections
import SchemaModel.Proofs.Catalog.KeyGroups
import SchemaModel.Proofs.Catalog.Cells
import SchemaModel.Proofs.Catalog.Served
import SchemaModel.Proofs.Text.LetterCase
import SchemaModel.Proofs.Inspection.Recasing
import SchemaModel.Proofs.DropPlan.Execution
import SchemaModel.Proofs.CommandLine.Disk
import SchemaModel.Proofs.DropPlan.Difference
import SchemaModel.Proofs.Sql.Lexemes
import SchemaModel.Proofs.Sql.Identifiers
import SchemaModel.Proofs.DropPlan.ReadBack
import SchemaModel.Proofs.Decimal.Numerals
import SchemaModel.Proofs.Json.Lexemes
import SchemaModel.Proofs.Json.Documents
import SchemaModel.Proofs.Json.Values
import SchemaModel.Proofs.Time.Rfc3339
import SchemaModel.Proofs.Document.Decode
import SchemaModel.Proofs.Model.Record
import SchemaModel.Proofs.Model.DomainSnapshot
import SchemaModel.Proofs.CommandLine.Keeping
import SchemaModel.Proofs.Naming.Recomposing
import SchemaModel.Proofs.Naming.BothStyles
import SchemaModel.Proofs.Inspection.Matching
import SchemaModel.Proofs.Inspection.DefaultNamespace
import SchemaModel.Proofs.Inspection.OwnSchema
import SchemaModel.Proofs.Domain.SelectById
import SchemaModel.Proofs.Naming.OneRole
import SchemaModel.Proofs.Attributes.Precedence
import SchemaModel.Proofs.Inspection.Backfill
import SchemaModel.Proofs.NativeType.Spellings
import SchemaModel.Proofs.Domain.TypeFilter
import SchemaModel.Proofs.Catalog.KeyConstraints
