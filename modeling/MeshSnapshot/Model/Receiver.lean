import MeshSnapshot.Library.Dict
import MeshSnapshot.Library.PyStr
import MeshSnapshot.Model.State
import Mathlib.Data.List.Sort

/-! `breakout_receiver.py`: the HTTP API of the host. Requests are served one at a time. The JSON
files under `/tmp` are a map from path to contents, and podman turns out as the caller says.
-/

namespace MeshSnapshot

-----------------------------------------------------------------------------------------
-- Requests and replies
-----------------------------------------------------------------------------------------

/-- What the receiver sees of a JSON object. -/
class JsonObject (β : Type) where
  keys : β → List String
  /-- The value under a key, if it is a string. -/
  text? : β → String → Option PyStr

/-- The value under a key, if it is a string without surrogates. -/
def JsonObject.string? {β : Type} [JsonObject β] (body : β) (key : String) : Option String :=
  (JsonObject.text? body key).bind PyStr.string?

/-- The body of a request, as `json.loads` returns it. -/
inductive JsonDoc (β : Type) where
  | invalid
  | other
  | object (body : β)

/-- How a podman command ends: normally, with an exit status, after the timeout, or by any other
exception. Or the system does not start it, because there are no resources for another process, for
example.
-/
inductive Outcome where
  | done
  | failed (exit : Int) (stderr : String)
  | timedOut
  | crashed
  | unstarted
deriving DecidableEq

inductive Reply (β : Type) where
  | ok
  | snapshot (snapshotId : String) (nodes : List β)
  | exited (status : Int) (stderr : String)
  | error (status : Nat) (text : String)
deriving DecidableEq

structure Receiver (β : Type) where
  /-- The files that `/snapshot_state` has written, by path. -/
  files : Dict String β := ∅
  /-- The commands that were run. -/
  ran : List (List PyStr × Outcome) := []

/-- `MESH_SUBNET`, `MESH_BASE` and `BREAKOUT_URL`. -/
structure ReceiverSettings where
  meshSubnet : String := "10.24.24.0/24"
  meshBase : String := "10.24.24"
  breakoutUrl : String := "http://10.99.0.1:8989"

def commandTimeoutS : Nat := 120

/-- `MAX_ARG_STRLEN`: what `execve` admits of one argument, with the zero byte behind it. -/
def maxArgSize : Nat := 131072

-----------------------------------------------------------------------------------------
-- Commands
-----------------------------------------------------------------------------------------

def checkpoint (targetId exportPath : PyStr) : List PyStr :=
  ["sudo", "podman", "container", "checkpoint", targetId, "-e", exportPath, "--tcp-established",
    "--leave-running"]

def restore (targetPath : PyStr) : List PyStr :=
  ["sudo", "podman", "container", "restore", "-i", targetPath, "--tcp-established"]

def stop (containerId : PyStr) : List PyStr := ["sudo", "podman", "rm", "-f", containerId]

def snapshotTrigger (settings : ReceiverSettings) (node snapshotId : PyStr) : List PyStr :=
  ["sudo", "podman", "exec", "counter-" ++ node, "python3", "-c",
    "import socket\n"
    ++ "s = socket.socket(socket.AF_INET, socket.SOCK_DGRAM)\n"
    ++ "s.sendto(b'__START_SNAPSHOT__:" ++ snapshotId ++ "', ('" ++ settings.meshBase
    ++ ".250', 9999))\n"
    ++ "s.close()\n"]

def runSidecar (settings : ReceiverSettings) (node snapshotId : PyStr) : List PyStr :=
  ["sudo", "podman", "run", "-d", "--replace",
    "--name", "sidecar-" ++ node,
    "--network", "container:counter-" ++ node,
    "--cap-add", "NET_ADMIN",
    "--sysctl", "net.ipv4.ip_nonlocal_bind=1",
    "-e", "MESH_SUBNET=" ++ settings.meshSubnet,
    "-e", "BREAKOUT_URL=" ++ settings.breakoutUrl,
    "-e", "CHECKPOINT_TARGET=counter-" ++ node,
    "-e", "RESTORE_SNAPSHOT_ID=" ++ snapshotId,
    "sidecar"]

structure Route where
  path : String
  fields : List String
  /-- The command for the values of the fields, in their order. -/
  command : ReceiverSettings → List PyStr → Option (List PyStr)

def routes : List Route := [
  {
    path := "/checkpoint"
    fields := ["target_id", "export_path"]
    command := fun
      | _, [targetId, exportPath] => some (checkpoint targetId exportPath)
      | _, _ => none
  },
  {
    path := "/restore"
    fields := ["target_path"]
    command := fun
      | _, [targetPath] => some (restore targetPath)
      | _, _ => none
  },
  {
    path := "/stop"
    fields := ["container_id"]
    command := fun
      | _, [containerId] => some (stop containerId)
      | _, _ => none
  },
  {
    path := "/snapshot_trigger"
    fields := ["node", "snapshot_id"]
    command := fun
      | settings, [node, snapshotId] => some (snapshotTrigger settings node snapshotId)
      | _, _ => none
  },
  {
    path := "/run_sidecar"
    fields := ["node", "snapshot_id"]
    command := fun
      | settings, [node, snapshotId] => some (runSidecar settings node snapshotId)
      | _, _ => none
  }
]

-----------------------------------------------------------------------------------------
-- Validation
-----------------------------------------------------------------------------------------

/-- `[a-zA-Z0-9_.-]` -/
def isIdChar (c : Char) : Bool := c.isAlphanum || c == '_' || c == '.' || c == '-'

/-- `CONTAINER_ID_RE.fullmatch` -/
def containerIdRe (text : String) : Bool :=
  match text.toList with
  | [] => false
  | first :: rest => first.isAlphanum && rest.all isIdChar

/-- `field_ok`, for the value of a field that is a string. `CONTAINER_ID_RE` matches no surrogate. -/
def fieldOk (field : String) (value : Option PyStr) : Bool :=
  match value with
  | none => false
  | some text =>
      if "_path".toList.isSuffixOf field.toList then
        (PyStr.ofString "/").points.isPrefixOf text.points
      else
        text.string?.any containerIdRe

/-- `str` of a list of names. -/
def listRepr (names : List String) : String :=
  "[" ++ ", ".intercalate (names.map fun name => "'" ++ name ++ "'") ++ "]"

-----------------------------------------------------------------------------------------
-- The handlers
-----------------------------------------------------------------------------------------

section Handlers

variable {β : Type} [JsonObject β]

/-- The name of the file that holds what a node has posted for a snapshot. -/
def snapshotPath (snapshotId node : String) : String :=
  "/tmp/snapshot-" ++ snapshotId ++ "-" ++ node ++ ".json"

/-- The snapshot id and the node of a body that `/snapshot_state` accepts. -/
def stateKey? (body : β) : Option (String × String) :=
  match JsonObject.string? body "snapshot_id", JsonObject.string? body "node" with
  | some snapshotId, some node =>
      if containerIdRe snapshotId && containerIdRe node then some (snapshotId, node) else none
  | _, _ => none

/-- `/snapshot_state` -/
def Receiver.postState (receiver : Receiver β) : JsonDoc β → Reply β × Receiver β
  | .invalid => (.error 400 "body must be valid JSON", receiver)
  | .other => (.error 400 "snapshot_id and node must be filename-safe strings", receiver)
  | .object body =>
      match stateKey? body with
      | none => (.error 400 "snapshot_id and node must be filename-safe strings", receiver)
      | some (snapshotId, node) =>
          (.ok, { receiver with files := receiver.files.set (snapshotPath snapshotId node) body })

/-- `stderr[-2000:]` -/
def stderrTail (stderr : String) : String :=
  String.ofList (stderr.toList.drop (stderr.toList.length - 2000))

/-- The reply to a command, if the handler gets as far as to send one. The argument of `.failed` is
the stripped `stderr`.
-/
def Outcome.reply : Outcome → Option (Reply β)
  | .done => some .ok
  | .failed exit stderr => some (.exited exit (stderrTail stderr))
  | .timedOut =>
      some (.error 504 ("command timed out after " ++ toString commandTimeoutS ++ "s"))
  | .crashed | .unstarted => none

/-- An argument that can be passed to a program: `subprocess` raises if it holds a null character or
cannot be encoded, and if `execve` refuses it.
-/
def PyStr.isArgument (text : PyStr) : Bool :=
  text.fsencode.any fun bytes => !bytes.contains 0 && bytes.length < maxArgSize

/-- `run`, whose exceptions `do_POST` handles if they come from a process that was started. -/
def Receiver.run (receiver : Receiver β) (argv : List PyStr) (outcome : Outcome)
    : Option (Reply β) × Receiver β :=
  if argv.all PyStr.isArgument && outcome != .unstarted then
    (outcome.reply, { receiver with ran := receiver.ran ++ [(argv, outcome)] })
  else
    (none, receiver)

/-- The routes that run a command; `outcome` is how podman will turn out. -/
def Receiver.postRoute (settings : ReceiverSettings) (receiver : Receiver β) (route : Route)
    (outcome : Outcome) : JsonDoc β → Option (Reply β) × Receiver β
  | .invalid => (some (.error 400 "body must be valid JSON"), receiver)
  | .other =>
      (some (.error 400 ("expected exactly fields "
        ++ listRepr (route.fields.insertionSort (· ≤ ·)))), receiver)
  | .object body =>
      if (JsonObject.keys body).all route.fields.contains
          && route.fields.all (JsonObject.keys body).contains then
        let bad := route.fields.filter fun field => !fieldOk field (JsonObject.text? body field)
        match bad, route.command settings (route.fields.filterMap (JsonObject.text? body)) with
        | [], some argv => receiver.run argv outcome
        | bad, _ =>
            (some (.error 400 ("invalid value for " ++ listRepr bad
              ++ ": ids must be alphanumeric, paths absolute")), receiver)
      else
        (some (.error 400 ("expected exactly fields "
          ++ listRepr (route.fields.insertionSort (· ≤ ·)))), receiver)

/-- `do_POST` -/
def Receiver.doPost (settings : ReceiverSettings) (receiver : Receiver β) (path : String)
    (doc : JsonDoc β) (outcome : Outcome) : Option (Reply β) × Receiver β :=
  if path = "/snapshot_state" then
    (receiver.postState doc).map some id
  else
    match routes.find? (fun route => route.path = path) with
    | none =>
        (some (.error 404 ("unknown endpoint; expected " ++ "|".intercalate (routes.map Route.path))),
          receiver)
    | some route => receiver.postRoute settings route outcome doc

/-- A path matches the pattern of `glob` that is `before`, then `*`, then `after`. -/
def globMatches (before after path : String) : Bool :=
  before.toList.isPrefixOf path.toList
    && after.toList.isSuffixOf (path.toList.drop before.toList.length)
    && !((path.toList.drop before.toList.length).take
        (path.toList.length - before.toList.length - after.toList.length)).contains '/'

/-- The sorted paths that `glob.glob` finds for a snapshot. -/
def Receiver.globSnapshot (receiver : Receiver β) (snapshotId : String) : List String :=
  (receiver.files.keys.filter
    (globMatches ("/tmp/snapshot-" ++ snapshotId ++ "-") ".json")).insertionSort (· ≤ ·)

/-- `do_GET` -/
def Receiver.doGet (receiver : Receiver β) (path : String) : Reply β :=
  if path = "/health" then
    .ok
  else if "/snapshot/".toList.isPrefixOf path.toList then
    let snapshotId := String.ofList (path.toList.drop "/snapshot/".toList.length)
    if containerIdRe snapshotId then
      let nodes := (receiver.globSnapshot snapshotId).filterMap receiver.files.get?
      if nodes.isEmpty then .error 404 "unknown snapshot" else .snapshot snapshotId nodes
    else
      .error 400 "invalid snapshot id"
  else
    .error 404 "unknown endpoint"

end Handlers

end MeshSnapshot
