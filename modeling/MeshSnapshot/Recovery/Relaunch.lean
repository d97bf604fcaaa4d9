import MeshSnapshot.Model.Launch
import MeshSnapshot.Model.Mesh

/-! Whether a restore keeps the membership of a node. The first deployment forwards the list that
it was given, and the restore-mode sidecar is launched without one.
-/

namespace MeshSnapshot

-----------------------------------------------------------------------------------------
-- The environment of a launched sidecar
-----------------------------------------------------------------------------------------

theorem environ_meshMembers_runSidecar (settings : ReceiverSettings) (node snapshotId : String)
    : environ (runSidecar settings node snapshotId) "MESH_MEMBERS" = none := by
  simp [environ, runSidecar, settingValue?, PyStr.ext_iff, PyStr.ofChar_inj]

theorem environ_meshSelf_runSidecar (settings : ReceiverSettings) (node snapshotId : String)
    : environ (runSidecar settings node snapshotId) "MESH_SELF" = none := by
  simp [environ, runSidecar, settingValue?, PyStr.ext_iff, PyStr.ofChar_inj]

/-- A first deployment passes a list that is not empty on to the sidecar. -/
theorem environ_meshMembers_buildSidecar (suffix : String) (meshMembers : Option String)
    : environ (buildSidecar suffix meshMembers) "MESH_MEMBERS"
      = (meshMembers.filter (· ≠ "")).map PyStr.ofString := by
  unfold buildSidecar forwardedMembers
  cases meshMembers.filter (· ≠ "") <;>
    simp [environ, settingValue?, PyStr.ext_iff, PyStr.ofChar_inj]

theorem environ_meshSelf_buildSidecar (suffix : String) (meshMembers : Option String)
    : environ (buildSidecar suffix meshMembers) "MESH_SELF" = none := by
  unfold buildSidecar forwardedMembers
  cases meshMembers.filter (· ≠ "") <;>
    simp [environ, settingValue?, PyStr.ext_iff, PyStr.ofChar_inj]

-----------------------------------------------------------------------------------------
-- Membership
-----------------------------------------------------------------------------------------

/-- The same members, and so the same answer wherever the code asks for them: whether the sidecar
starts as a server, which peers it reaches over reliable channels, and whom a cut covers.
-/
structure SameMembership (original restored : Config) : Prop where
  members : restored.meshMembers = original.meshMembers
  starts : ∀ s : Sidecar, s.Starts restored ↔ s.Starts original
  useRudp : ∀ s peerIp, useRudp restored s peerIp = useRudp original s peerIp
  cut : ∀ selfIp, cutMembers restored selfIp = cutMembers original selfIp

/-- What is decided at the start depends on the members, the override and the address only. -/
theorem Sidecar.Starts.congr {cfg other : Config} (members : other.meshMembers = cfg.meshMembers)
    (self : other.meshSelf = cfg.meshSelf) (address : other.address = cfg.address) {s : Sidecar}
    (starts : s.Starts cfg)
    : s.Starts other := by
  cases starts with
  | override set => exact members ▸ .override (self ▸ set)
  | route unset => exact members ▸ address ▸ .route (self ▸ unset)
  | failed unset => exact .failed (self ▸ unset)

/-- The restore-mode sidecar of a node has the membership of the original one exactly when that
was launched without a list, or with one that names the three default members in their order.
-/
theorem sameMembership_iff (settings : ReceiverSettings) (node snapshotId : String)
    (meshMembers : Option String) (address : Ip) (hostname newHostname : String)
    : SameMembership (launched (buildSidecar node meshMembers) address hostname)
        (launched (runSidecar settings node snapshotId) address newHostname)
      ↔ ∀ list, meshMembers = some list → list = ""
          ∨ meshMembersOf (some list) = ["10.24.24.10", "10.24.24.11", "10.24.24.12"] := by
  have restored : (launched (runSidecar settings node snapshotId) address newHostname).meshMembers
      = ["10.24.24.10", "10.24.24.11", "10.24.24.12"] := by
    have unset : (launched (runSidecar settings node snapshotId) address newHostname).meshMembers
        = meshMembersOf none := by
      rw [launched, environ_meshMembers_runSidecar]
      rfl
    rw [unset]
    decide +kernel
  have original : (launched (buildSidecar node meshMembers) address hostname).meshMembers
      = meshMembersOf (meshMembers.filter (· ≠ "")) := by
    rw [launched, environ_meshMembers_buildSidecar]
    cases meshMembers.filter (· ≠ "") with
    | none => rfl
    | some list =>
        rw [Option.map_some, Option.bind_some, PyStr.string?_ofString]
  have self : (launched (runSidecar settings node snapshotId) address newHostname).meshSelf
      = (launched (buildSidecar node meshMembers) address hostname).meshSelf := by
    rw [launched, launched, environ_meshSelf_runSidecar, environ_meshSelf_buildSidecar]
  constructor
  · rintro same list rfl
    by_cases empty : list = ""
    · exact .inl empty
    · right
      have members := same.members
      rw [restored, original, Option.filter_some_pos (by simpa using empty)] at members
      exact members.symm
  · intro default
    have members : (launched (runSidecar settings node snapshotId) address newHostname).meshMembers
        = (launched (buildSidecar node meshMembers) address hostname).meshMembers := by
      rw [restored, original]
      cases meshMembers with
      | none => decide +kernel
      | some list =>
          rcases default list rfl with rfl | named
          · decide +kernel
          · by_cases empty : list = ""
            · subst empty
              decide +kernel
            · rw [Option.filter_some_pos (by simpa using empty), named]
    constructor
    case members => exact members
    case starts =>
      exact fun s => ⟨.congr members.symm self.symm rfl, .congr members self rfl⟩
    case useRudp =>
      intro s peerIp
      rw [useRudp, useRudp, members]
    case cut =>
      intro selfIp
      rw [cutMembers, cutMembers, members]

/-- The six-member list of `test/deploy6.sh`. -/
def sixMembers : String :=
  "10.24.24.10,10.24.24.11,10.24.24.12,10.24.24.13,10.24.24.14,10.24.24.15"

/-- A restored node d is no server any more, and its cut covers three of the six members. -/
theorem membership_lost
    : (launched (buildSidecar "d" (some sixMembers)) "10.24.24.13" "d").meshMembers.contains
        "10.24.24.13" = true
      ∧ (launched (runSidecar {} "d" "snap1") "10.24.24.13" "d").meshMembers.contains
        "10.24.24.13" = false
      ∧ (cutMembers (launched (buildSidecar "d" (some sixMembers)) "10.24.24.13" "d")
        (some "10.24.24.13")).length = 5
      ∧ cutMembers (launched (runSidecar {} "d" "snap1") "10.24.24.13" "d")
        (some "10.24.24.13") = [nodeA, nodeB, nodeC]
      ∧ ¬ SameMembership (launched (buildSidecar "d" (some sixMembers)) "10.24.24.13" "d")
        (launched (runSidecar {} "d" "snap1") "10.24.24.13" "d") := by
  have original : (launched (buildSidecar "d" (some sixMembers)) "10.24.24.13" "d").meshMembers
      = ["10.24.24.10", "10.24.24.11", "10.24.24.12", "10.24.24.13", "10.24.24.14",
        "10.24.24.15"] := by decide +kernel
  have restored : (launched (runSidecar {} "d" "snap1") "10.24.24.13" "d").meshMembers
      = [nodeA, nodeB, nodeC] := by decide +kernel
  refine ⟨by rw [original]; decide, by rw [restored]; decide, by rw [cutMembers, original]; decide,
    by rw [cutMembers, restored]; decide, fun same => ?_⟩
  have members := same.members
  rw [original, restored] at members
  exact absurd members (by decide)

end MeshSnapshot
