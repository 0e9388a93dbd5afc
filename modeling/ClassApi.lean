import ClassApi.Access.Failure
import ClassApi.Access.Listing
import ClassApi.Access.Mutation
import ClassApi.Access.Record
import ClassApi.Calendar
import ClassApi.Catalog.Definition
import ClassApi.Catalog.Failure
import ClassApi.Catalog.Field
import ClassApi.Catalog.Registry
import ClassApi.Codec.Base64
import ClassApi.Codec.Bytes
import ClassApi.Codec.Hex
import ClassApi.Codec.Sha256
import ClassApi.Command.Arguments
import ClassApi.Command.Form
import ClassApi.Command.Outcome
import ClassApi.Command.Run
import ClassApi.Datum
import ClassApi.Directory.Access
import ClassApi.Directory.FilePath
import ClassApi.Directory.Folder
import ClassApi.Document.Compare
import ClassApi.Document.Extended
import ClassApi.Document.Path
import ClassApi.Document.Query
import ClassApi.Document.Sort
import ClassApi.Document.Update
import ClassApi.Document.Value
import ClassApi.Execution.Completion
import ClassApi.Execution.Resolution
import ClassApi.Execution.Response
import ClassApi.Execution.Run
import ClassApi.Execution.Source
import ClassApi.Fields
import ClassApi.Ident
import ClassApi.Json.Basic
import ClassApi.Json.Reader
import ClassApi.Json.Writer
import ClassApi.Language.Expansion
import ClassApi.Language.Input
import ClassApi.Language.Reader
import ClassApi.Language.Tree
import ClassApi.Language.Validation
import ClassApi.Main
import ClassApi.Naming
import ClassApi.Number.Numeral
import ClassApi.Number.Reading
import ClassApi.Number.Shortest
import ClassApi.Paging
import ClassApi.Pattern.Basic
import ClassApi.Pattern.CharClass
import ClassApi.Pattern.Syntax
import ClassApi.Project
import ClassApi.Proofs.Calls
import ClassApi.Proofs.Failure
import ClassApi.Proofs.Fields
import ClassApi.Proofs.Input
import ClassApi.Proofs.Intent
import ClassApi.Proofs.Naming
import ClassApi.Proofs.Parse
import ClassApi.Proofs.Matching
import ClassApi.Proofs.Path
import ClassApi.Proofs.Results
import ClassApi.Proofs.Selection
import ClassApi.Proofs.View
import ClassApi.Schema.Assembly
import ClassApi.Schema.Classes
import ClassApi.Schema.Compiled
import ClassApi.Schema.Definition
import ClassApi.Schema.Domain
import ClassApi.Schema.Resolver
import ClassApi.Schema.Text
import ClassApi.Schema.TypeRef
import ClassApi.Service.Basic
import ClassApi.Service.Cache
import ClassApi.Settings.Basic
import ClassApi.Settings.Failure
import ClassApi.Settings.Layer
import ClassApi.Settings.Loading
import ClassApi.Store.Basic
import ClassApi.Store.Failure
import ClassApi.Store.Fixture
import ClassApi.Store.Record
import ClassApi.Text.CaseTables
import ClassApi.Text.CharSet
import ClassApi.Text.Letter
import ClassApi.Text.UnicodeSets
import ClassApi.Timestamp
import ClassApi.Toml.Basic
import ClassApi.Toml.Reader
import ClassApi.Toml.Text
import ClassApi.Proofs.References
import ClassApi.Proofs.Ids
import ClassApi.Proofs.RecordMap
import ClassApi.Proofs.Provenance
import ClassApi.Proofs.Removal
import ClassApi.Proofs.Sessions
import ClassApi.Proofs.Sorting
import ClassApi.Proofs.Cursor
import ClassApi.Proofs.Listing
import ClassApi.Proofs.Compilation
import ClassApi.Proofs.Completion
import ClassApi.Proofs.Permission
import ClassApi.Proofs.Cache
import ClassApi.Proofs.GivenId
import ClassApi.Proofs.Lookup
import ClassApi.Proofs.Filters
import ClassApi.Proofs.RecordShape
import ClassApi.Proofs.Rereading
import ClassApi.Proofs.Canonical
import ClassApi.Proofs.RoundTrip
import ClassApi.Proofs.PageWalk
import ClassApi.Proofs.Registration
import ClassApi.Proofs.DeclarationOrder
import ClassApi.Proofs.Unmarked
import ClassApi.Proofs.Merging
import ClassApi.Proofs.Updates
import ClassApi.Proofs.Commuting
import ClassApi.Proofs.Entries
import ClassApi.Proofs.NameShapes
import ClassApi.Proofs.DeclaredFields
import ClassApi.Proofs.MemberNames
import ClassApi.Proofs.TypeNames
import ClassApi.Proofs.QueryNames
import ClassApi.Proofs.TypeReferences
import ClassApi.Proofs.LookupAgreement
import ClassApi.Proofs.NameGrammar
import ClassApi.Proofs.SortMembers
import ClassApi.Proofs.PageWindow
import ClassApi.Proofs.SingleValues
import ClassApi.Proofs.IdForms
import ClassApi.Proofs.PageFlags
import ClassApi.Proofs.FloatOrder
import ClassApi.Proofs.Rounding
import ClassApi.Proofs.FloatIntegers
import ClassApi.Proofs.SortOrder
import ClassApi.Proofs.SortKeys
import ClassApi.Proofs.IntegerOrder
import ClassApi.Proofs.Comparison
import ClassApi.Proofs.Rearrangement
import ClassApi.Proofs.PartialWrites
import ClassApi.Proofs.StoredForms
import ClassApi.Proofs.RegexLiterals
import ClassApi.Proofs.StructuredTexts
import ClassApi.Proofs.CacheSlots
import ClassApi.Proofs.MutationNames
import ClassApi.Proofs.FirstMatch
import ClassApi.Proofs.PathWrites
import ClassApi.Proofs.WordCuts
import ClassApi.Proofs.StableNames
import ClassApi.Proofs.Projection
