import Relata.Event
import Relata.Main
import Relata.Model.Json
import Relata.Proofs.Category
import Relata.Proofs.Collision
import Relata.Proofs.Command
import Relata.Proofs.Content
import Relata.Proofs.Distinct
import Relata.Proofs.Identifier.Stem
import Relata.Proofs.Language.Accepted
import Relata.Proofs.Language.Block
import Relata.Proofs.Language.Failure
import Relata.Proofs.Language.RoundTrip
import Relata.Proofs.Model.RoundTrip
import Relata.Proofs.Module.Entries
import Relata.Proofs.Module.Lossless
import Relata.Proofs.Module.References
import Relata.Proofs.Module.Skeleton
import Relata.Proofs.Module.Timestamp
import Relata.Proofs.Ownership
import Relata.Proofs.Payload.Order
import Relata.Proofs.Payload.RoundTrip
import Relata.Proofs.Payload.Wrapping
import Relata.Proofs.Reference
import Relata.Proofs.Settings.Layers
import Relata.Proofs.Settings.Validation
import Relata.Proofs.Source.Quotation
import Relata.Proofs.SymbolTable.RelationNames
import Relata.Proofs.TupleKey
import Relata.Proofs.TupleKey.RoundTrip
import Relata.Reference
