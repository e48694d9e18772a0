import SchemaRecovery.Main
import SchemaRecovery.Session
import SchemaRecovery.Text.WordCharacter
import SchemaRecovery.Proofs.Absorption
import SchemaRecovery.Proofs.CompactionHistory
import SchemaRecovery.Proofs.Condensation
import SchemaRecovery.Proofs.Connection
import SchemaRecovery.Proofs.Declarations
import SchemaRecovery.Proofs.Failures
import SchemaRecovery.Proofs.FileNames
import SchemaRecovery.Proofs.Gathering
import SchemaRecovery.Proofs.Imports
import SchemaRecovery.Proofs.Linking
import SchemaRecovery.Proofs.MappingOutcomes
import SchemaRecovery.Proofs.NameClashes
import SchemaRecovery.Proofs.NumberClashes
import SchemaRecovery.Proofs.OrderIndependence
import SchemaRecovery.Proofs.PresenceLabels
import SchemaRecovery.Proofs.Pruning
import SchemaRecovery.Proofs.Regrouping
import SchemaRecovery.Proofs.RenderedNames
import SchemaRecovery.Proofs.WrittenFiles
