import MeshSnapshot.Model.Receiver
import MeshSnapshot.Recovery.ArtifactStore
import MeshSnapshot.Snapshot.Lifecycle

/-! The two halves of a node's snapshot: the image of its app, and the artifact with its channels.
Both are asked of the receiver in one episode, by requests that may fail independently.
-/

namespace MeshSnapshot

open Procedure

variable {cfg : Config} {s : Sidecar} {selfIps : List (Option Ip)}

-----------------------------------------------------------------------------------------
-- A receiver that serves a controller
-----------------------------------------------------------------------------------------

inductive RequestBody where
  | checkpoint (targetId exportPath : String)
  | state (artifact : Artifact)
deriving DecidableEq

instance : JsonObject RequestBody where
  keys
    | .checkpoint .. => ["target_id", "export_path"]
    | .state artifact => JsonObject.keys artifact
  text?
    | .checkpoint targetId exportPath, key =>
        if key = "target_id" then some targetId
        else if key = "export_path" then some exportPath
        else none
    | .state artifact, key => JsonObject.text? artifact key

namespace HostRequest

def path : HostRequest → String
  | .checkpoint .. => "/checkpoint"
  | .post .. => "/snapshot_state"

def body : HostRequest → RequestBody
  | .checkpoint targetId exportPath _ => .checkpoint targetId exportPath
  | .post artifact _ => .state artifact

def succeeded : HostRequest → Bool
  | .checkpoint _ _ ok => ok
  | .post _ stored => stored

end HostRequest

/-- A receiver comes from one state to another while the requests of one controller are made. A
request that the controller takes for successful has been answered so; one that fails may have been
served or not. Other clients are served in between.
-/
inductive Receiver.Serves (settings : ReceiverSettings)
    : Receiver RequestBody → List HostRequest → Receiver RequestBody → Prop where
  | nil (receiver : Receiver RequestBody) : Serves settings receiver [] receiver
  | served {receiver last : Receiver RequestBody} {requests : List HostRequest}
    (request : HostRequest) (outcome : Outcome)
    (answered
      : request.succeeded = true
        → (receiver.doPost settings request.path (.object request.body) outcome).1 = some .ok)
    (rest
      : Serves settings
          (receiver.doPost settings request.path (.object request.body) outcome).2 requests last)
    : Serves settings receiver (request :: requests) last
  | lost {receiver last : Receiver RequestBody} {requests : List HostRequest}
    (request : HostRequest) (failed : request.succeeded = false)
    (rest : Serves settings receiver requests last)
    : Serves settings receiver (request :: requests) last
  | other {receiver last : Receiver RequestBody} {requests : List HostRequest} (path : String)
    (doc : JsonDoc RequestBody) (outcome : Outcome)
    (rest : Serves settings (receiver.doPost settings path doc outcome).2 requests last)
    : Serves settings receiver requests last

namespace Receiver

variable {settings : ReceiverSettings} {receiver last : Receiver RequestBody}
  {requests : List HostRequest}

end Receiver

-----------------------------------------------------------------------------------------
-- Artifacts and images
-----------------------------------------------------------------------------------------

/-- Every episode has asked for its image and perhaps posted its artifact. -/
theorem Journal.Lives.episode {j : Journal} (lives : j.Lives cfg selfIps) {episode : EpisodeLog}
    (listed : episode ∈ episodesOf j.control)
    : episode.Requested cfg ∨ ∃ selfIp, episode.Ended cfg selfIp := by
  have finished {selfIps : List (Option Ip)} {past : List EpisodeLog}
      (ended : List.Forall₂ (EpisodeLog.Ended cfg) selfIps past) (member : episode ∈ past)
      : ∃ selfIp, episode.Ended cfg selfIp := by
    obtain ⟨selfIp, -, holds⟩ := exists_of_forall₂ ended.flip member
    exact ⟨selfIp, holds⟩
  cases lives with
  | rests _ _ ended => exact .inr (finished ended listed)
  | records watches =>
      obtain ⟨current, past, logged, -, requested, ended⟩ := watches.episodes
      rw [logged] at listed
      rcases List.mem_cons.mp listed with rfl | listed
      · exact .inl requested
      · exact .inr (finished ended listed)

end MeshSnapshot
