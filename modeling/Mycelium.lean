import Mycelium.Journal
import Mycelium.Json.Order
import Mycelium.Main
import Mycelium.Proofs.Accounts
import Mycelium.Proofs.Envelope
import Mycelium.Proofs.Heredity
import Mycelium.Proofs.Interactions
import Mycelium.Proofs.Retries
import Mycelium.Proofs.RoundTrip
import Mycelium.Proofs.Exclusion
import Mycelium.Proofs.Posts
import Mycelium.Proofs.Deferral
import Mycelium.Proofs.Observations
import Mycelium.Proofs.Refusals
import Mycelium.Proofs.Scores
import Mycelium.Proofs.Fitting
import Mycelium.Proofs.Backoff
import Mycelium.Proofs.Announcements
import Mycelium.Proofs.Commentary
import Mycelium.Proofs.Provenance
import Mycelium.Proofs.Crossings
import Mycelium.Proofs.Descent
import Mycelium.Proofs.Tries
import Mycelium.Proofs.Budget
import Mycelium.Proofs.References
import Mycelium.Proofs.Seeding
import Mycelium.Proofs.Visits
import Mycelium.Proofs.LastMatch
import Mycelium.Proofs.Sigmas
import Mycelium.Proofs.Marks
import Mycelium.Proofs.Flags
import Mycelium.Proofs.Pacing
import Mycelium.Proofs.Fallbacks
import Mycelium.Proofs.Watchdog
import Mycelium.Proofs.Stripping
import Mycelium.Proofs.Keys
import Mycelium.Proofs.Objects
import Mycelium.Proofs.Sources
