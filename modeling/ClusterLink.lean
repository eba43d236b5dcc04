import ClusterLink.Envelope.Desk
import ClusterLink.Session
import ClusterLink.Proofs.Verdict
import ClusterLink.Proofs.SendLog
import ClusterLink.Proofs.Delivery
import ClusterLink.Proofs.Bookkeeping
import ClusterLink.Proofs.RoundTrip
import ClusterLink.Proofs.Packing
import ClusterLink.Proofs.Ending
import ClusterLink.Proofs.Mirror
import ClusterLink.Proofs.Lifetime
import ClusterLink.Proofs.Acknowledgement
import ClusterLink.Proofs.Fields
import ClusterLink.Proofs.Malformed
import ClusterLink.Proofs.Ruling
import ClusterLink.Proofs.Farewell
import ClusterLink.Proofs.Truncation
import ClusterLink.Proofs.Overflow
import ClusterLink.Proofs.Health
import ClusterLink.Proofs.Calm
import ClusterLink.Proofs.Idle
import ClusterLink.Proofs.Identity
import ClusterLink.Proofs.Lineage
import ClusterLink.Proofs.Intact
import ClusterLink.Proofs.Pacing
import ClusterLink.Proofs.Longest
import ClusterLink.Proofs.Queue
import ClusterLink.Proofs.Release
import ClusterLink.Proofs.Running
import ClusterLink.Proofs.Screening
import ClusterLink.Proofs.NormalForm
import ClusterLink.Proofs.Resending
import ClusterLink.Proofs.Construction
import ClusterLink.Proofs.Surfacing
