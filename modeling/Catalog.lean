import Catalog.Annotated.Expansion
import Catalog.CommandLine.Folder
import Catalog.Main
import Catalog.Proofs.Annotated.Attributes
import Catalog.Proofs.Annotated.Declarations
import Catalog.Proofs.Annotated.Elements
import Catalog.Proofs.Annotated.IndexEntry
import Catalog.Proofs.Annotated.IndexWords
import Catalog.Proofs.Annotated.ManifestEntry
import Catalog.Proofs.Annotated.Settings
import Catalog.Proofs.Annotated.WrittenStruct
import Catalog.Proofs.Compilation.Blocks
import Catalog.Proofs.Compilation.Faults
import Catalog.Proofs.Compilation.Recovery
import Catalog.Proofs.Compilation.Renaming
import Catalog.Proofs.Compilation.Validation
import Catalog.Proofs.Database.PassTrace
import Catalog.Proofs.Database.SourceOrder
import Catalog.Proofs.Declaration.Acceptance
import Catalog.Proofs.Declaration.AcceptedName
import Catalog.Proofs.Declaration.DerivedName
import Catalog.Proofs.Declaration.FieldInsertion
import Catalog.Proofs.Declaration.FlatGrammar
import Catalog.Proofs.Declaration.FlatValues
import Catalog.Proofs.Declaration.Lookup
import Catalog.Proofs.EntryOrder
import Catalog.Proofs.Expr.CallFree
import Catalog.Proofs.Expr.CanonicalWire
import Catalog.Proofs.Expr.DataCorrespondence
import Catalog.Proofs.Expr.LiteralData
import Catalog.Proofs.Json.KeyOrder
import Catalog.Proofs.Manifest.EntryDeclaration
import Catalog.Proofs.Manifest.Expressible
import Catalog.Proofs.MemoryStore.Admission
import Catalog.Proofs.MemoryStore.Execution
import Catalog.Proofs.MemoryStore.History
import Catalog.Proofs.MemoryStore.PassOutcome
import Catalog.Proofs.MemoryStore.Reordering
import Catalog.Proofs.MemoryStore.RepeatedPass
import Catalog.Proofs.Operation.Grammar
import Catalog.Proofs.Operation.Parameters
import Catalog.Proofs.Operation.RoundTrip
import Catalog.Proofs.Scope.Compilation
import Catalog.Proofs.Scope.IndexListing
import Catalog.Proofs.Scope.Registration
import Catalog.Proofs.Scope.Subtypes
import Catalog.Proofs.Serialized.Declarations
import Catalog.Proofs.Serialized.Records
import Catalog.Proofs.Source.Remainder
import Catalog.Proofs.Source.WellFormedWords
import Catalog.Serialized.Declaration
import Catalog.Serialized.Expr
import Catalog.Proofs.Manifest.EntryConditions
import Catalog.Proofs.Manifest.Acceptance
import Catalog.Proofs.Expr.MalformedWire
import Catalog.Proofs.Annotated.Entries
import Catalog.Proofs.Manifest.MarkerMembers
import Catalog.Proofs.Annotated.KeyOrder
