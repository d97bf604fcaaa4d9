import MeshSnapshot.Sidecar.AppDelivery
import MeshSnapshot.Sidecar.SpoofCache
import MeshSnapshot.Sidecar.Draining
import MeshSnapshot.Snapshot.Identity
import MeshSnapshot.Snapshot.Consistency
import MeshSnapshot.Snapshot.Closure
import MeshSnapshot.Snapshot.Episodes
import MeshSnapshot.Snapshot.Finalization
import MeshSnapshot.Snapshot.Payloads
import MeshSnapshot.Snapshot.Images
import MeshSnapshot.Snapshot.Rounds
import MeshSnapshot.Recovery.FailedDelivery
import MeshSnapshot.Recovery.ArtifactStore
import MeshSnapshot.Failures.Retransmission
import MeshSnapshot.Counter.Conservation
import MeshSnapshot.Transport.Framing
import MeshSnapshot.Transport.Sizes
import MeshSnapshot.Recovery.Relaunch
import MeshSnapshot.Recovery.Alignment
import MeshSnapshot.Recovery.Seeding
import MeshSnapshot.Recovery.Isolation
import MeshSnapshot.Recovery.Passage
import MeshSnapshot.Counter.Restored
import MeshSnapshot.Counter.Polling
import MeshSnapshot.Counter.Agreement
import MeshSnapshot.Snapshot.Refinement
