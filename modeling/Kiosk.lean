import Kiosk.Bench
import Kiosk.Bench.Audit
import Kiosk.Main
import Kiosk.Proofs.Clients
import Kiosk.Proofs.Covering
import Kiosk.Proofs.Focus
import Kiosk.Proofs.Forest
import Kiosk.Proofs.Ledger
import Kiosk.Proofs.Listeners
import Kiosk.Proofs.Mirror
import Kiosk.Proofs.Policy
import Kiosk.Proofs.Absorbed
import Kiosk.Proofs.Siblings
import Kiosk.Proofs.Removal
import Kiosk.Proofs.Bindings
import Kiosk.Proofs.Handover
import Kiosk.Proofs.Deactivation
import Kiosk.Proofs.Registry
import Kiosk.Proofs.Seniority
import Kiosk.Proofs.Affinity
import Kiosk.Proofs.Choice
import Kiosk.Proofs.Playback
import Kiosk.Proofs.Refusal
import Kiosk.Proofs.Since
import Kiosk.Proofs.Idle
import Kiosk.Proofs.Drags
import Kiosk.Proofs.Seating
import Kiosk.Proofs.Attention
import Kiosk.Proofs.Keyless
import Kiosk.Proofs.Agreement
import Kiosk.Proofs.Reports
import Kiosk.Proofs.Arrival
import Kiosk.Proofs.Naming
import Kiosk.Proofs.Renaming
import Kiosk.Proofs.Overflow
import Kiosk.Proofs.Commits
import Kiosk.Proofs.Retelling
import Kiosk.Proofs.ReadBack
import Kiosk.Proofs.Following
import Kiosk.Proofs.Idempotence
import Kiosk.Proofs.Walks
import Kiosk.Proofs.SideBySide
import Kiosk.Proofs.Usage
import Kiosk.Proofs.Shapes
import Kiosk.Proofs.StepTables
import Kiosk.Proofs.Enrolment
