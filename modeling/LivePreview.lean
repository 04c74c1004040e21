import LivePreview.Controller
import LivePreview.Session
import LivePreview.Project.Strict
import LivePreview.Project.Node
import LivePreview.Script.Transpile
import LivePreview.Command
import LivePreview.Main
import LivePreview.Proofs.Accounting
import LivePreview.Proofs.Coherence
import LivePreview.Proofs.Supersession
import LivePreview.Proofs.Isolation
import LivePreview.Proofs.Delivery
import LivePreview.Proofs.Staleness
import LivePreview.Proofs.Loading
import LivePreview.Proofs.Atomicity
import LivePreview.Proofs.Importing
import LivePreview.Proofs.Ledger
import LivePreview.Proofs.Agreement
import LivePreview.Proofs.Precedence
import LivePreview.Proofs.Collision
import LivePreview.Proofs.Failing
import LivePreview.Proofs.Placement
import LivePreview.Proofs.Sequence
import LivePreview.Proofs.Deadline
import LivePreview.Proofs.Embedding
import LivePreview.Proofs.Splicing
import LivePreview.Proofs.Output
import LivePreview.Proofs.Relative
import LivePreview.Proofs.Recognition
import LivePreview.Proofs.Normal
import LivePreview.Proofs.Deduplication
import LivePreview.Proofs.Listing
import LivePreview.Proofs.Damage
import LivePreview.Proofs.History
import LivePreview.Proofs.Overrun
import LivePreview.Proofs.Loader
import LivePreview.Proofs.Validity
import LivePreview.Proofs.Decomposition
