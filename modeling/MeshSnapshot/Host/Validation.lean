import MeshSnapshot.Model.Controller
import MeshSnapshot.Model.Receiver
import Mathlib.Data.List.Forall2

/-! Which requests reach podman, and what of them. A field that passes its check can be no flag,
and neither ends a Python bytes literal nor escapes from it.
-/

namespace MeshSnapshot

-----------------------------------------------------------------------------------------
-- Accepted requests
-----------------------------------------------------------------------------------------

section Acceptance

variable {β : Type} [JsonObject β]

/-- A value that passes the check of its field. -/
def ValidFor (field : String) (text : PyStr) : Prop :=
  if "_path".toList.isSuffixOf field.toList then
    (PyStr.ofString "/").points.isPrefixOf text.points = true
  else
    text.string?.any containerIdRe = true

/-- An object has exactly the fields of a route, and every value is valid. -/
structure Route.Accepts (route : Route) (body : β) : Prop where
  fields : ∀ key, key ∈ JsonObject.keys body ↔ key ∈ route.fields
  values
    : ∀ field ∈ route.fields, ∃ text, JsonObject.text? body field = some text ∧ ValidFor field text

/-- A request for one of the routes, with a body that the route accepts. -/
def Accepted (path : String) (doc : JsonDoc β) : Prop :=
  ∃ route ∈ routes, route.path = path ∧ ∃ body, doc = .object body ∧ route.Accepts body

/-- `route` serves the path and accepts the body, of which it makes the command `argv`. -/
structure Asks (settings : ReceiverSettings) (path : String) (doc : JsonDoc β) (route : Route)
    (argv : List PyStr) : Prop where
  known : route ∈ routes
  path : route.path = path
  command
    : ∃ body,
        doc = .object body
        ∧ route.Accepts body
        ∧ route.command settings (route.fields.filterMap (JsonObject.text? body)) = some argv

theorem Asks.accepted {settings : ReceiverSettings} {path : String} {doc : JsonDoc β}
    {route : Route} {argv : List PyStr} (asks : Asks settings path doc route argv)
    : Accepted path doc := by
  obtain ⟨body, isObject, accepts, -⟩ := asks.command
  exact ⟨route, asks.known, asks.path, body, isObject, accepts⟩

/-- The paths of the routes are different. -/
theorem find?_routes {path : String} {route : Route}
    : routes.find? (fun route => route.path = path) = some route
      ↔ route ∈ routes ∧ route.path = path := by
  constructor
  · intro found
    exact ⟨List.mem_of_find?_eq_some found, by simpa using List.find?_some found⟩
  · rintro ⟨member, rfl⟩
    simp only [routes, List.mem_cons, List.not_mem_nil, or_false] at member
    rcases member with rfl | rfl | rfl | rfl | rfl <;> rfl

/-- Reading all fields of an accepted body gives as many values. -/
theorem Route.Accepts.length {route : Route} {body : β} (accepts : route.Accepts body)
    : (route.fields.filterMap (JsonObject.text? body)).length = route.fields.length := by
  refine List.filterMap_length_eq_length.mpr fun field member => ?_
  obtain ⟨text, found, -⟩ := accepts.values field member
  rw [found]
  rfl

/-- Two routes that serve one request are one, and make one command of it. -/
theorem Asks.unique {settings : ReceiverSettings} {path : String} {doc : JsonDoc β}
    {route other : Route} {argv more : List PyStr} (asks : Asks settings path doc route argv)
    (also : Asks settings path doc other more)
    : argv = more := by
  obtain ⟨body, rfl, -, built⟩ := asks.command
  obtain ⟨_, same, -, again⟩ := also.command
  obtain rfl := JsonDoc.object.inj same
  have found := find?_routes.mpr ⟨asks.known, asks.path⟩
  obtain rfl := Option.some.inj (found.symm.trans (find?_routes.mpr ⟨also.known, also.path⟩))
  exact Option.some.inj (built.symm.trans again)

/-- The argument at this position depends on what the caller supplies. -/
def Route.Supplied (settings : ReceiverSettings) (route : Route) (position : Nat) : Prop :=
  ∃ values others argv other,
    route.command settings values = some argv ∧ route.command settings others = some other
    ∧ argv[position]? ≠ other[position]?

/-- `-` -/
def dash : Fin 0x110000 := PyStr.ofChar '-'

/-- A valid value does not begin as a flag does. -/
theorem ValidFor.no_dash {field : String} {text : PyStr} (valid : ValidFor field text)
    : text.points.head? ≠ some dash := by
  unfold ValidFor at valid
  intro begins
  obtain ⟨rest, shown⟩ := List.head?_eq_some_iff.mp begins
  split at valid
  · rw [shown] at valid
    have differ : PyStr.ofChar '/' ≠ dash := by decide
    simp [differ] at valid
  · obtain ⟨id, read, valid⟩ := (Option.any_eq_true _ _).mp valid
    rw [PyStr.ofString_of_string? read] at shown
    obtain ⟨first, chars, letters, isDash, -⟩ := List.map_eq_cons_iff.mp shown
    obtain rfl := PyStr.ofChar_inj.mp isDash
    have neither : '-'.isAlphanum = false := rfl
    simp [containerIdRe, letters, neither] at valid

/-- An argument that begins with a dash is the same whatever the caller supplies. -/
theorem Route.Accepts.constant {settings : ReceiverSettings} {route : Route} {body : β}
    (accepts : route.Accepts body) (member : route ∈ routes) {argv : List PyStr}
    (built
      : route.command settings (route.fields.filterMap (JsonObject.text? body)) = some argv)
    {others other : List PyStr} (elsewhere : route.command settings others = some other)
    : List.Forall₂ (fun arg arg' => arg.points.head? = some dash → arg' = arg) argv other := by
  have values := accepts.values
  simp only [routes, List.mem_cons, List.not_mem_nil, or_false] at member
  rcases member with rfl | rfl | rfl | rfl | rfl
  case inl =>
    obtain ⟨targetId, targetFound, targetValid⟩ := values "target_id" (by simp)
    obtain ⟨exportPath, pathFound, pathValid⟩ := values "export_path" (by simp)
    have target := targetValid.no_dash
    have path := pathValid.no_dash
    rcases others with _ | ⟨first, _ | ⟨second, _ | ⟨third, rest⟩⟩⟩ <;>
      simp [targetFound, pathFound, checkpoint] at built elsewhere
    subst built elsewhere
    simp [target, path]
  case inr.inl =>
    obtain ⟨targetPath, pathFound, pathValid⟩ := values "target_path" (by simp)
    have path := pathValid.no_dash
    rcases others with _ | ⟨first, _ | ⟨second, rest⟩⟩ <;>
      simp [pathFound, restore] at built elsewhere
    subst built elsewhere
    simp [path]
  case inr.inr.inl =>
    obtain ⟨containerId, idFound, idValid⟩ := values "container_id" (by simp)
    have id := idValid.no_dash
    rcases others with _ | ⟨first, _ | ⟨second, rest⟩⟩ <;>
      simp [idFound, stop] at built elsewhere
    subst built elsewhere
    simp [id]
  case inr.inr.inr.inl =>
    obtain ⟨node, nodeFound, -⟩ := values "node" (by simp)
    obtain ⟨snapshotId, idFound, -⟩ := values "snapshot_id" (by simp)
    rcases others with _ | ⟨first, _ | ⟨second, _ | ⟨third, rest⟩⟩⟩ <;>
      simp [nodeFound, idFound, snapshotTrigger] at built elsewhere
    subst built elsewhere
    simp [dash, PyStr.ofChar_inj]
  case inr.inr.inr.inr =>
    obtain ⟨node, nodeFound, -⟩ := values "node" (by simp)
    obtain ⟨snapshotId, idFound, -⟩ := values "snapshot_id" (by simp)
    rcases others with _ | ⟨first, _ | ⟨second, _ | ⟨third, rest⟩⟩⟩ <;>
      simp [nodeFound, idFound, runSidecar] at built elsewhere
    subst built elsewhere
    simp [dash, PyStr.ofChar_inj]

/-- What a caller supplies begins no argument with a dash. -/
theorem Route.Accepts.supplied {settings : ReceiverSettings} {route : Route} {body : β}
    (accepts : route.Accepts body) (member : route ∈ routes) {argv : List PyStr}
    (built
      : route.command settings (route.fields.filterMap (JsonObject.text? body)) = some argv)
    {position : Nat} {arg : PyStr} (found : argv[position]? = some arg)
    (supplied : route.Supplied settings position)
    : arg.points.head? ≠ some dash := by
  intro begins
  obtain ⟨values, others, first, second, firstBuilt, secondBuilt, differ⟩ := supplied
  have same {other : List PyStr}
      (constant : List.Forall₂ (fun arg arg' => arg.points.head? = some dash → arg' = arg) argv other)
      : other[position]? = some arg := by
    obtain ⟨inArgv, rfl⟩ := List.getElem?_eq_some_iff.mp found
    have inOther : position < other.length := constant.length_eq ▸ inArgv
    exact (List.getElem?_eq_getElem inOther).trans
      (congrArg some (constant.get inArgv inOther begins))
  exact differ ((same (accepts.constant member built firstBuilt)).trans
    (same (accepts.constant member built secondBuilt)).symm)

/-- No argument that the caller supplies is a flag. -/
theorem Asks.supplied {settings : ReceiverSettings} {path : String} {doc : JsonDoc β} {route : Route}
    {argv : List PyStr} (asks : Asks settings path doc route argv) {position : Nat} {arg : PyStr}
    (found : argv[position]? = some arg) (supplied : route.Supplied settings position)
    : arg.points.head? ≠ some dash := by
  obtain ⟨body, -, accepts, built⟩ := asks.command
  exact accepts.supplied asks.known built found supplied

end Acceptance

-----------------------------------------------------------------------------------------
-- The snippet of a snapshot trigger
-----------------------------------------------------------------------------------------

/-- Decoding the bytes of ASCII characters gives these characters. -/
theorem decode?_ascii {text : List Char} (plain : ∀ c ∈ text, c.toNat < 128)
    : decode? (ascii text) = some (String.ofList text) := by
  have bytes : ByteArray.mk (ascii text).toArray = (String.ofList text).toByteArray := by
    have single (c : Char) (member : c ∈ text)
        : String.utf8EncodeChar c = [UInt8.ofNat c.toNat] := by
      have small : c.val ≤ 127 :=
        UInt32.le_iff_toNat_le.mpr (Nat.lt_succ_iff.mp (plain c member))
      rw [String.utf8EncodeChar_eq_singleton (Char.utf8Size_eq_one_iff.mpr small)]
      rfl
    have encoded : text.flatMap String.utf8EncodeChar = ascii text := by
      rw [List.flatMap_congr single]
      exact List.map_eq_flatMap.symm
    rw [String.toByteArray_ofList, List.utf8Encode, encoded]
    exact ByteArray.ext (List.data_toByteArray ..).symm
  unfold decode? String.fromUTF8?
  rw [bytes]
  exact dif_pos (String.ofList text).isValidUTF8

end MeshSnapshot
