import MeshSnapshot.Sidecar.Journal

/-! What procedures leave alone. The core of a sidecar is all that the rest of the mesh or a
snapshot can depend on; system calls, timestamps and spoof sockets lie outside it.
-/

namespace MeshSnapshot

open Procedure

/-- A sidecar without its spoof sockets and its host. -/
@[ext]
structure Core where
  peer : Ip → PeerState
  wire : List (Bytes × Ip)
  /-- What the app queues at its next opportunities. -/
  app : List (List Datagram)
  journal : Journal

def Sidecar.core (s : Sidecar) : Core where
  peer := s.peer
  wire := s.trace.wire
  app := s.host.app
  journal := s.journal

/-- Two sidecars that differ in their spoof sockets and their host only. -/
def SameCore (s s' : Sidecar) : Prop := s'.core = s.core

namespace SameCore

theorem refl (s : Sidecar) : SameCore s s := rfl

theorem trans {a b c : Sidecar} (first : SameCore a b) (second : SameCore b c)
    : SameCore a c :=
  Eq.trans second first

variable {s s' : Sidecar} (same : SameCore s s')

include same

theorem peer (ip : Ip) : s'.peer ip = s.peer ip := congrFun (congrArg Core.peer same) ip

theorem wire : s'.trace.wire = s.trace.wire := congrArg Core.wire same

theorem app : s'.host.app = s.host.app := congrArg Core.app same

theorem journal : s'.journal = s.journal := congrArg Core.journal same

theorem ctrl : s'.ctrl = s.ctrl := congrArg Journal.ctrl same.journal

theorem localSock : s'.localSock = s.localSock := congrArg Journal.queue same.journal

theorem isServer : s'.isServer = s.isServer := congrArg Journal.isServer same.journal

end SameCore

/-- A procedure that leaves the core alone, however it ends. -/
abbrev Framed {α : Type} (body : Py α) : Prop := Within SameCore body

namespace Framed

variable {α β : Type}

theorem pure (a : α) : Framed (Pure.pure a : Py α) := Within.pure SameCore.refl a

theorem read : Framed Procedure.read := Within.read SameCore.refl

theorem raise (error : PyErr) : Framed (Procedure.raise error : Py α) :=
  Within.raise SameCore.refl error

theorem bind {x : Py α} {f : α → Py β} (first : Framed x) (second : ∀ a, Framed (f a))
    : Framed (x >>= f) :=
  Within.bind SameCore.trans first second

theorem attempt {body : Py α} {handler : PyErr → Py α} (tried : Framed body)
    (handled : ∀ e, Framed (handler e)) : Framed (Procedure.attempt body handler) :=
  Within.attempt SameCore.trans tried handled

end Framed

-----------------------------------------------------------------------------------------
-- Calls that leave the process
-----------------------------------------------------------------------------------------

theorem framed_outsideCall : Framed outsideCall := by
  refine .bind .read (fun s => ?_)
  split
  · exact .pure ()
  · refine .bind (Within.update fun _ => rfl) (fun _ => ?_)
    split
    · exact .raise _
    · exact .pure ()

theorem framed_outsideAnswer : Framed outsideAnswer :=
  .attempt (.bind framed_outsideCall fun _ => .pure true) (fun _ => .pure false)

theorem framed_time : Framed time := by
  refine .bind .read (fun s => ?_)
  split
  · exact .pure 0
  · exact .bind (Within.update fun _ => rfl) (fun _ => .pure _)

theorem framed_uuid4 : Framed uuid4 := by
  refine .bind .read (fun s => ?_)
  split
  · exact .pure []
  · exact .bind (Within.update fun _ => rfl) (fun _ => .pure _)

-----------------------------------------------------------------------------------------
-- Peers and spoof sockets
-----------------------------------------------------------------------------------------

/-- Changing the state of one peer changes the peer function there. -/
theorem Sidecar.peer_setPeer (s : Sidecar) (ip : Ip) (peer : PeerState)
    : (s.setPeer ip peer).peer = Function.update s.peer ip peer := by
  funext other
  simp only [Sidecar.peer, Sidecar.setPeer, Dict.get?_set, Function.update_apply]
  split <;> rfl

/-- `get_peer` only makes the default state of an unknown peer explicit. -/
theorem framed_getPeer (ip : Ip) : Framed (getPeer ip) := by
  intro s
  simp only [getPeer, bind_run, read_run]
  cases found : s.peers.get? ip with
  | some peer => exact SameCore.refl s
  | none =>
      have unknown : s.peer ip = {} := by simp [Sidecar.peer, found]
      have same : (s.setPeer ip {}).peer = s.peer := by
        rw [Sidecar.peer_setPeer, ← unknown, Function.update_eq_self]
      simp only [SameCore, update_run, final, Sidecar.core, Sidecar.journal, same]
      rfl

theorem framed_evictSpoofSock : Framed evictSpoofSock := by
  refine .bind .read (fun s => ?_)
  split
  · split
    · exact .pure ()
    · exact Within.update fun _ => rfl
  · exact .pure ()

theorem framed_newSock : Framed newSock :=
  .bind framed_outsideCall fun _ => .bind .read fun _ =>
    .bind (Within.update fun _ => rfl) fun _ => .pure _

theorem framed_bindOrFallback (key : Ip × Nat) (id : Nat) : Framed (bindOrFallback key id) := by
  refine .bind framed_outsideAnswer fun bound => ?_
  split
  · exact .pure _
  · exact .bind framed_newSock fun _ => .bind framed_outsideCall fun _ => .pure _

theorem framed_getSpoofSock (key : Ip × Nat) : Framed (getSpoofSock key) := by
  refine .bind .read (fun s => ?_)
  split
  · exact .bind (Within.update fun _ => rfl) (fun _ => .pure _)
  · exact .bind framed_evictSpoofSock fun _ => .bind framed_newSock fun id =>
      .bind framed_outsideCall fun _ => .bind (framed_bindOrFallback key id) fun _ =>
        .bind (Within.update fun _ => rfl) fun _ => .pure _

theorem framed_spoofSendto (sock : SpoofSock) (payload : Bytes) (dst : Ip × Nat)
    : Framed (spoofSendto sock payload dst) :=
  .bind framed_outsideCall fun _ => Within.update fun _ => rfl

theorem framed_plainReceived (remoteIp : Ip) (held : Held)
    : Framed (plainReceived remoteIp held) :=
  .bind (framed_getSpoofSock _) fun _ => framed_spoofSendto _ _ _

-----------------------------------------------------------------------------------------
-- Pure computations that may raise
-----------------------------------------------------------------------------------------

theorem framed_orStructError (packet : Option Bytes) : Framed (orStructError packet) := by
  cases packet with
  | some bytes => exact .pure bytes
  | none => exact .raise _

theorem framed_originalDst (ancdata : List Cmsg) : Framed (originalDst ancdata) := by
  unfold originalDst
  split
  · exact .pure none
  · dsimp only
    split
    · exact .raise _
    · split
      · exact .raise _
      · exact .pure _

theorem framed_decode (bytes : Bytes) : Framed (decode bytes) := by
  unfold decode
  split
  · exact .pure _
  · exact .raise _

theorem framed_firstMember (cfg : Config) : Framed (firstMember cfg) := by
  unfold firstMember
  split
  · exact .raise _
  · exact .pure _

theorem framed_startId (data : Bytes) : Framed (startId data) := by
  unfold startId
  split
  · exact .pure _
  · exact framed_uuid4

theorem framed_artifactId (id : Option Bytes) : Framed (artifactId id) := by
  unfold artifactId
  split
  · exact .pure _
  · exact .pure _
  · exact .bind (framed_decode _) fun _ => .pure _

theorem framed_buildArtifact (cfg : Config) (status : Status)
    : Framed (buildArtifact cfg status) :=
  .bind .read fun _ => .bind (framed_artifactId _) fun _ => .pure _

-----------------------------------------------------------------------------------------
-- Sending
-----------------------------------------------------------------------------------------

def Core.putWire (core : Core) (packet : Bytes) (dst : Ip) : Core :=
  { core with wire := core.wire ++ [(packet, dst)] }

def Core.setPeer (core : Core) (ip : Ip) (peer : PeerState) : Core :=
  { core with
    peer := Function.update core.peer ip peer
    journal := { core.journal with
      sendSeq := Function.update core.journal.sendSeq ip peer.sendSeq
      recvSeq := Function.update core.journal.recvSeq ip peer.recvSeq } }

/-- Changing one peer shows in both sequence counters of the journal. -/
theorem core_setPeer (s : Sidecar) (ip : Ip) (peer : PeerState)
    : (s.setPeer ip peer).core = s.core.setPeer ip peer := by
  refine Core.ext (Sidecar.peer_setPeer s ip peer) rfl rfl (Journal.eq_of_seqs rfl ?_ ?_)
  · funext other
    simp only [Sidecar.core, Sidecar.journal, Sidecar.peer_setPeer, Core.setPeer,
      Function.update_apply]
    split <;> rfl
  · funext other
    simp only [Sidecar.core, Sidecar.journal, Sidecar.peer_setPeer, Core.setPeer,
      Function.update_apply]
    split <;> rfl

theorem tunnelSendto_ok {packet : Bytes} {dst : Ip} {s s' : Sidecar} {u : Unit}
    (returned : tunnelSendto packet dst s = .ok u s') : s' = s.putWire packet dst := by
  obtain ⟨_, _, read, returned⟩ := bind_ok.mp returned
  obtain ⟨rfl, rfl⟩ := read_ok.mp read
  split at returned
  · exact (update_ok.mp returned).symm
  · exact (raise_ok.mp returned).elim

theorem modifyPeer_ok {ip : Ip} {change : PeerState → PeerState} {s s' : Sidecar} {u : Unit}
    : modifyPeer ip change s = .ok u s' ↔ s.setPeer ip (change (s.peer ip)) = s' :=
  update_ok

/-- The clock never raises. -/
theorem time_outcome (s : Sidecar)
    : match time s with
      | .ok _ s' => SameCore s s'
      | .error _ _ => False := by
  simp only [time, bind_run, read_run]
  cases s.host.clock with
  | nil => exact .refl s
  | cons now rest => exact rfl

/-- What a successful `send_data` does to the core. -/
def Core.sendData (core : Core) (dst : Ip) (message : Message) (origin : SendOrigin)
    (packet : Bytes) (now : Int) : Core where
  peer := Function.update core.peer dst { core.peer dst with
    unacked := (core.peer dst).unacked.set (core.peer dst).sendSeq (now, packet)
    sendSeq := (core.peer dst).sendSeq + 1 }
  wire := core.wire ++ [(packet, dst)]
  app := core.app
  journal := core.journal.send dst message origin

/-- `send_data` either raises before it has done anything, or sends. -/
theorem sendData_outcome (dst : Ip) (message : Message) (origin : SendOrigin) (s : Sidecar)
    : match sendData dst message origin s with
      | .ok _ s' =>
          ∃ packet now,
            dataPacket (s.peer dst).sendSeq message = some packet
            ∧ s'.core = s.core.sendData dst message origin packet now
      | .error _ s' => SameCore s s' := by
  simp only [sendData, bind_run, read_run]
  cases built : dataPacket (s.peer dst).sendSeq message with
  | none => exact .refl s
  | some packet =>
      simp only [orStructError, pure_run, tunnelSendto, bind_run, read_run]
      cases transport : s.tunnelTransport with
      | false => exact .refl s
      | true =>
          simp only [if_true, update_run]
          generalize sentOut : s.putWire packet dst = s₁
          have ticked := time_outcome s₁
          revert ticked
          cases time s₁ with
          | error error s₂ => exact False.elim
          | ok now s₂ =>
              intro same
              subst sentOut
              refine ⟨packet, now, rfl, ?_⟩
              have peer : s₂.peer = s.peer := congrArg Core.peer same
              simp only [peer]
              generalize counted : ({ s.peer dst with
                unacked := (s.peer dst).unacked.set (s.peer dst).sendSeq (now, packet)
                sendSeq := (s.peer dst).sendSeq + 1 } : PeerState) = peer'
              have moved : (s₂.setPeer dst peer').core
                  = (s.core.putWire packet dst).setPeer dst peer' := by
                rw [core_setPeer, same]
                rfl
              have logged := congrArg (fun core : Core => { core with
                journal := { core.journal with
                  sent := core.journal.sent ++ [(⟨dst, message, origin, core.journal.reads⟩ : SendCall)] } })
                moved
              refine logged.trans ?_
              subst counted
              exact Core.ext rfl rfl rfl (Journal.eq_of_seqs rfl rfl (Function.update_eq_self _ _))

end MeshSnapshot
