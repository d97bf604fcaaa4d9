import MeshSnapshot.Library.Text
import MeshSnapshot.Model.Receiver
import Mathlib.Data.List.DropRight

/-! How a sidecar is launched, by `build.sh` for a first deployment and by `run_sidecar` for a
restore, and what `config.py` reads from the environment that it is launched with.
-/

namespace MeshSnapshot

/-- `${MESH_MEMBERS:+-e MESH_MEMBERS="$MESH_MEMBERS"}`: nothing for an unset or empty variable. -/
def forwardedMembers (meshMembers : Option String) : List PyStr :=
  match meshMembers.filter (· ≠ "") with
  | none => []
  | some list => ["-e", "MESH_MEMBERS=" ++ list]

/-- The sidecar launch of `build.sh`, for a container suffix and the value of `MESH_MEMBERS`. -/
def buildSidecar (suffix : String) (meshMembers : Option String) : List PyStr :=
  (["sudo", "podman", "run", "-d", "--replace",
    "--name", "sidecar-" ++ suffix,
    "--network", "container:counter-" ++ suffix,
    "--cap-add", "NET_ADMIN",
    "--sysctl", "net.ipv4.ip_nonlocal_bind=1",
    "-e", "MESH_SUBNET=10.24.24.0/24",
    "-e", "BREAKOUT_URL=http://10.99.0.1:8989",
    "-e", "CHECKPOINT_TARGET=counter-" ++ suffix] : List PyStr)
    ++ forwardedMembers meshMembers ++ (["sidecar"] : List PyStr)

/-- The value of `NAME=value`, for this name. -/
def settingValue? (name : String) (setting : PyStr) : Option PyStr :=
  let label := PyStr.ofString (name ++ "=")
  if label.points.isPrefixOf setting.points then
    some ⟨setting.points.drop label.points.length⟩
  else
    none

/-- `os.environ.get(name)` in a container that podman was told to run with these arguments. The
image sets none of the variables that are read here.
-/
def environ (argv : List PyStr) (name : String) : Option PyStr :=
  match argv with
  | [] => none
  | option :: rest =>
      (environ rest name).or (if option = "-e" then rest.head?.bind (settingValue? name) else none)

/-- `text.strip()` -/
def strip (text : List Char) : List Char :=
  (text.dropWhile Text.isSpace).rdropWhile Text.isSpace

/-- `MESH_MEMBERS`, for the value of the environment variable. -/
def meshMembersOf (value : Option String) : List Ip :=
  (((value.getD "10.24.24.10,10.24.24.11,10.24.24.12").toList.splitOn ',').filter
    (fun ip => strip ip ≠ [])).map (fun ip => String.ofList (strip ip))

/-- The configuration of a sidecar that is launched with `argv` on a host where the kernel routes
from `address` toward the mesh. No launch sets a variable to a value with surrogates.
-/
def launched (argv : List PyStr) (address : Ip) (hostname : String) : Config where
  meshMembers := meshMembersOf ((environ argv "MESH_MEMBERS").bind PyStr.string?)
  meshSelf := (environ argv "MESH_SELF").bind PyStr.string?
  address
  checkpointTarget := (environ argv "CHECKPOINT_TARGET").bind PyStr.string?
  hostname

example : meshMembersOf (some " 10.24.24.10, ,10.24.24.15,") = ["10.24.24.10", "10.24.24.15"] := by
  decide +kernel

end MeshSnapshot
