import ApiBlueprint.Main
import ApiBlueprint.Proofs.Store
import ApiBlueprint.Proofs.Validation
import ApiBlueprint.Proofs.Reconfiguration
import ApiBlueprint.Proofs.Conversation
import ApiBlueprint.Proofs.Interleaving
import ApiBlueprint.Proofs.Lines
import ApiBlueprint.Proofs.Placement
import ApiBlueprint.Proofs.Occurrence
import ApiBlueprint.Proofs.Outline
import ApiBlueprint.Proofs.Settlement
import ApiBlueprint.Proofs.Chronicle
import ApiBlueprint.Proofs.Value
import ApiBlueprint.Proofs.Serialization
import ApiBlueprint.Proofs.Utf8
import ApiBlueprint.Proofs.Failure
import ApiBlueprint.Proofs.Bytes
import ApiBlueprint.Proofs.Decomposition
import ApiBlueprint.Proofs.Resolution
import ApiBlueprint.Proofs.Guarded
import ApiBlueprint.Proofs.Navigation
import ApiBlueprint.Proofs.Agreement
import ApiBlueprint.Proofs.Reports
import ApiBlueprint.Proofs.Literals
import ApiBlueprint.Proofs.Printing
import ApiBlueprint.Proofs.History
import ApiBlueprint.Proofs.DocumentOrder
import ApiBlueprint.Proofs.Locality
import ApiBlueprint.Proofs.Endings
import ApiBlueprint.Proofs.Tolerance
import ApiBlueprint.Proofs.Naming
import ApiBlueprint.Proofs.Reading
import ApiBlueprint.Proofs.Configuration
import ApiBlueprint.Proofs.RoundTrip
