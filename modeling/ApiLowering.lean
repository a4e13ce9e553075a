import ApiLowering.Calendar.Basic
import ApiLowering.Calendar.Reader
import ApiLowering.Canonical.Document
import ApiLowering.Canonical.Schema
import ApiLowering.Decimal.Binary64
import ApiLowering.Decimal.Shortest
import ApiLowering.Dialect.Basic
import ApiLowering.Dialect.Java
import ApiLowering.Dialect.Kotlin
import ApiLowering.Distinct
import ApiLowering.Document.Basic
import ApiLowering.Document.Content
import ApiLowering.Document.Fields
import ApiLowering.Document.Lookup
import ApiLowering.Document.Parameter
import ApiLowering.Document.Reader
import ApiLowering.Document.Reference
import ApiLowering.Document.Response
import ApiLowering.Document.Scalars
import ApiLowering.Document.Schema.Basic
import ApiLowering.Document.Schema.Reader
import ApiLowering.Document.Schema.Writer
import ApiLowering.Document.Security
import ApiLowering.Document.Writer
import ApiLowering.Endpoints.Arguments
import ApiLowering.Endpoints.Body
import ApiLowering.Endpoints.Finished
import ApiLowering.Endpoints.Groups
import ApiLowering.Endpoints.Mapped
import ApiLowering.Endpoints.Naming
import ApiLowering.Endpoints.Normalized
import ApiLowering.Endpoints.Outcomes
import ApiLowering.Endpoints.Raw
import ApiLowering.Endpoints.Security
import ApiLowering.Endpoints.Unique
import ApiLowering.Fault
import ApiLowering.Hoisting
import ApiLowering.Json.Basic
import ApiLowering.Json.Number
import ApiLowering.Json.Reader
import ApiLowering.Json.Writer
import ApiLowering.Lowered
import ApiLowering.Models.Discriminator
import ApiLowering.Models.Draft
import ApiLowering.Models.Finished
import ApiLowering.Models.Inheritance
import ApiLowering.Models.Interfaces
import ApiLowering.Models.Property
import ApiLowering.Models.Shape
import ApiLowering.NameSet
import ApiLowering.Names
import ApiLowering.Options.Basic
import ApiLowering.Options.Choice
import ApiLowering.Options.File
import ApiLowering.Options.Mapping
import ApiLowering.Options.Setting
import ApiLowering.Pattern.Basic
import ApiLowering.Pattern.CharSet
import ApiLowering.Pattern.Expression
import ApiLowering.Pattern.Meaning
import ApiLowering.Pattern.Property
import ApiLowering.Pattern.Reader
import ApiLowering.Program.Annotations
import ApiLowering.Program.Argument
import ApiLowering.Program.Basic
import ApiLowering.Program.Endpoint
import ApiLowering.Program.Examples
import ApiLowering.Program.Facets
import ApiLowering.Program.Model
import ApiLowering.Program.Property
import ApiLowering.Proofs.Lists
import ApiLowering.Proofs.Json.Merging
import ApiLowering.Proofs.Json.Objects
import ApiLowering.Run.ExtraAnnotations
import ApiLowering.Run.Session
import ApiLowering.Run.Settings
import ApiLowering.Run.Setup
import ApiLowering.Table
import ApiLowering.Text.Basic
import ApiLowering.Text.Folding
import ApiLowering.Text.LetterCase
import ApiLowering.Text.Letters
import ApiLowering.Text.Property.Basic
import ApiLowering.Text.Property.Category
import ApiLowering.Text.Property.Script
import ApiLowering.Text.Property.Usage
import ApiLowering.Text.Ranges
import ApiLowering.Text.Words
import ApiLowering.Tree
import ApiLowering.Types.Basic
import ApiLowering.Types.Defaults
import ApiLowering.Types.Models
import ApiLowering.Types.Resolution
import ApiLowering.Yaml.Cursor
import ApiLowering.Yaml.Node
import ApiLowering.Yaml.Reader
import ApiLowering.Yaml.Scalar
import ApiLowering.Yaml.Text
import ApiLowering.Yaml.Token
import ApiLowering.Proofs.Canonical.Content
import ApiLowering.Proofs.Canonical.Document
import ApiLowering.Proofs.Canonical.Fixpoints
import ApiLowering.Proofs.Canonical.Idempotence
import ApiLowering.Proofs.Hoisting.Effects
import ApiLowering.Proofs.Hoisting.Restoration
import ApiLowering.Proofs.Hoisting.Rest
import ApiLowering.Proofs.Hoisting.Conservation
import ApiLowering.Proofs.Hoisting.Visits
import ApiLowering.Proofs.Hoisting.Completeness
import ApiLowering.Proofs.Models.Overriding
import ApiLowering.Proofs.Run.Steps
import ApiLowering.Proofs.Models.Lineage
import ApiLowering.Proofs.Models.Folding
import ApiLowering.Proofs.Models.Drafting
import ApiLowering.Proofs.Models.Built
import ApiLowering.Proofs.Models.Inheritance
import ApiLowering.Proofs.Models.Discriminators
import ApiLowering.Proofs.Models.Implementors
import ApiLowering.Proofs.Models.Gathering
import ApiLowering.Proofs.Models.Properties
import ApiLowering.Proofs.Endpoints.Stages
import ApiLowering.Proofs.Endpoints.Arguments
import ApiLowering.Proofs.Document.Parameters
import ApiLowering.Proofs.Endpoints.Inputs
import ApiLowering.Proofs.Endpoints.UniqueNames
import ApiLowering.Proofs.Endpoints.Naming
import ApiLowering.Proofs.Endpoints.Views
import ApiLowering.Proofs.Models.ClassNames
import ApiLowering.Proofs.Models.Descendants
import ApiLowering.Proofs.Models.MappedModels
import ApiLowering.Proofs.Types.Spelling
import ApiLowering.Proofs.Models.Imports
import ApiLowering.Proofs.Models.PropertyLists
import ApiLowering.Proofs.Endpoints.Groups
import ApiLowering.Proofs.Document.Schemas
import ApiLowering.Proofs.Document.SchemaReferences
import ApiLowering.Proofs.Document.Reordering
import ApiLowering.Proofs.Canonical.Outside
import ApiLowering.Proofs.Canonical.Aliases
import ApiLowering.Proofs.Json.Trees
import ApiLowering.Proofs.Codec.Basic
import ApiLowering.Proofs.Codec.Fields
import ApiLowering.Proofs.Codec.Records
import ApiLowering.Proofs.Codec.Schemas
import ApiLowering.Proofs.Codec.Parts
import ApiLowering.Proofs.Codec.Documents
import ApiLowering.Proofs.Codec.Passes
import ApiLowering.Proofs.Codec.RoundTrip
import ApiLowering.Proofs.Models.Constants
import ApiLowering.Proofs.Models.Sources
import ApiLowering.Proofs.Types.Resolution
import ApiLowering.Proofs.Types.Declared
import ApiLowering.Proofs.Endpoints.Parts
import ApiLowering.Proofs.Endpoints.Declarations
import ApiLowering.Proofs.Run.Passes
import ApiLowering.Proofs.Models.Enumerations
import ApiLowering.Proofs.Models.Defaults
import ApiLowering.Proofs.Types.Packages
import ApiLowering.Proofs.Run.Packages
import ApiLowering.Proofs.Names.CamelCase
import ApiLowering.Proofs.Names.Identifiers
import ApiLowering.Proofs.Endpoints.Forms
import ApiLowering.Proofs.Endpoints.FormFields
import ApiLowering.Proofs.Models.Documented
import ApiLowering.Proofs.Json.Literals
import ApiLowering.Proofs.Models.Bounds
import ApiLowering.Proofs.Endpoints.Mappings
import ApiLowering.Proofs.Endpoints.Envelopes
import ApiLowering.Proofs.Endpoints.Nicknames
import ApiLowering.Proofs.Endpoints.Authentication
import ApiLowering.Proofs.Endpoints.Variants
import ApiLowering.Proofs.Endpoints.MethodNames
import ApiLowering.Proofs.Decimal.Rounding
import ApiLowering.Proofs.Decimal.Reading
import ApiLowering.Proofs.Decimal.Literals
import ApiLowering.Proofs.Types.Literals
import ApiLowering.Proofs.Endpoints.ExampleCalls
import ApiLowering.Proofs.Canonical.LastWins
import ApiLowering.Proofs.Canonical.Alternatives
