import ShelterLine.Catalogue
import ShelterLine.Chat.Adapter
import ShelterLine.Desk.Reply
import ShelterLine.Main
import ShelterLine.Service
import ShelterLine.Startup
import ShelterLine.Store.Columns
import ShelterLine.Web.Route
import ShelterLine.Proofs.Aggregate
import ShelterLine.Proofs.Anonymity
import ShelterLine.Proofs.Authorization
import ShelterLine.Proofs.Bindings
import ShelterLine.Proofs.BlockHistory
import ShelterLine.Proofs.BlockedWrites
import ShelterLine.Proofs.Bridge
import ShelterLine.Proofs.Convergence
import ShelterLine.Proofs.Correlation
import ShelterLine.Proofs.Dashboard
import ShelterLine.Proofs.Dilution
import ShelterLine.Proofs.Fence
import ShelterLine.Proofs.FormText
import ShelterLine.Proofs.SpeechBlocks
import ShelterLine.Proofs.Document
import ShelterLine.Proofs.EscalationHistory
import ShelterLine.Proofs.Independence
import ShelterLine.Proofs.Lifecycle
import ShelterLine.Proofs.Lossless
import ShelterLine.Proofs.Migration
import ShelterLine.Proofs.NoRoom
import ShelterLine.Proofs.Outcome
import ShelterLine.Proofs.Redaction
import ShelterLine.Proofs.Rehearsal
import ShelterLine.Proofs.Rejection
import ShelterLine.Proofs.Reset
import ShelterLine.Proofs.Restart
import ShelterLine.Proofs.RestoreTwice
import ShelterLine.Proofs.RoundTrip
import ShelterLine.Proofs.Sanitized
import ShelterLine.Proofs.Snapshot
import ShelterLine.Proofs.SpokenScript
import ShelterLine.Proofs.Unanswered
import ShelterLine.Proofs.GatherAddress
import ShelterLine.Proofs.Shown
import ShelterLine.Proofs.ModelOutput
import ShelterLine.Proofs.TimeOrder
