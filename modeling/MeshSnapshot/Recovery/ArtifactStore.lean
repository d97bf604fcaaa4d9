import MeshSnapshot.Library.FlatStore
import MeshSnapshot.Model.Receiver
import MeshSnapshot.Model.Restore
import Mathlib.Data.List.Induction

/-! The receiver as a map from snapshots and nodes to artifacts. Id and node share one file name,
and a snapshot is looked up by the beginning of that name.
-/

namespace MeshSnapshot

open FlatStore

variable {β : Type} [JsonObject β]

-----------------------------------------------------------------------------------------
-- What has been posted
-----------------------------------------------------------------------------------------

structure PostRequest (β : Type) where
  path : String
  doc : JsonDoc β
  outcome : Outcome

def Receiver.serve (settings : ReceiverSettings) (receiver : Receiver β)
    (request : PostRequest β) : Receiver β :=
  (receiver.doPost settings request.path request.doc request.outcome).2

/-- A receiver that starts with an empty `/tmp` and serves the requests one after another. -/
def Receiver.serveAll (settings : ReceiverSettings) (requests : List (PostRequest β))
    : Receiver β :=
  requests.foldl (Receiver.serve settings) {}

/-- The body that a request stores, under its snapshot id and node. -/
def statePost? (request : PostRequest β) : Option ((String × String) × β) :=
  if request.path = "/snapshot_state" then
    match request.doc with
    | .object body => (stateKey? body).map fun key => (key, body)
    | _ => none
  else
    none

def statePosts (requests : List (PostRequest β)) : List ((String × String) × β) :=
  requests.filterMap statePost?

def statePath (key : String × String) : String := snapshotPath key.1 key.2

theorem mem_statePosts {requests : List (PostRequest β)} {post : (String × String) × β}
    (member : post ∈ statePosts requests) : stateKey? post.2 = some post.1 := by
  obtain ⟨⟨path, doc, outcome⟩, -, shown⟩ := List.mem_filterMap.mp member
  unfold statePost? at shown
  split at shown
  · cases doc with
    | object body =>
        obtain ⟨key, found, rfl⟩ := Option.map_eq_some_iff.mp shown
        exact found
    | invalid | other => cases shown
  · cases shown

theorem stateKey?_eq_some {body : β} {key : String × String} (found : stateKey? body = some key)
    : JsonObject.string? body "snapshot_id" = some key.1
      ∧ JsonObject.string? body "node" = some key.2
      ∧ containerIdRe key.1 = true ∧ containerIdRe key.2 = true := by
  unfold stateKey? at found
  split at found
  case h_1 snapshotId node first second =>
    split at found
    case isTrue valid =>
      obtain rfl := Option.some.inj found
      exact ⟨first, second, by simpa using valid⟩
    case isFalse => cases found
  case h_2 => cases found

omit [JsonObject β] in
theorem files_run (receiver : Receiver β) (argv : List PyStr) (outcome : Outcome)
    : (receiver.run argv outcome).2.files = receiver.files := by
  unfold Receiver.run
  split <;> rfl

theorem files_postRoute (settings : ReceiverSettings) (receiver : Receiver β) (route : Route)
    (outcome : Outcome) (doc : JsonDoc β)
    : (receiver.postRoute settings route outcome doc).2.files = receiver.files := by
  cases doc with
  | invalid | other => rfl
  | object body =>
      simp only [Receiver.postRoute]
      split
      · split
        · exact files_run receiver _ outcome
        · rfl
      · rfl

/-- Only an accepted `/snapshot_state` request changes the files. -/
theorem files_serve (settings : ReceiverSettings) (receiver : Receiver β)
    (request : PostRequest β)
    : (receiver.serve settings request).files
      = match statePost? request with
        | some (key, body) => receiver.files.set (statePath key) body
        | none => receiver.files := by
  obtain ⟨path, doc, outcome⟩ := request
  unfold Receiver.serve Receiver.doPost statePost?
  by_cases state : path = "/snapshot_state"
  · simp only [if_pos state, Prod.map_snd, id_eq]
    cases doc with
    | object body =>
        simp only [Receiver.postState]
        cases stateKey? body <;> rfl
    | invalid | other => rfl
  · simp only [if_neg state]
    split
    · rfl
    · exact files_postRoute settings receiver _ outcome doc

/-- A file holds what was last written under its name. -/
theorem files_serveAll (settings : ReceiverSettings) (requests : List (PostRequest β))
    (path : String)
    : (Receiver.serveAll settings requests).files.get? path
      = (lastWrite (fun key => statePath key = path) (statePosts requests)).map Prod.snd := by
  induction requests using List.reverseRecOn with
  | nil => rfl
  | append_singleton earlier request ih =>
      have split : Receiver.serveAll settings (earlier ++ [request])
          = (Receiver.serveAll settings earlier).serve settings request := List.foldl_concat ..
      have posts : statePosts (earlier ++ [request])
          = statePosts earlier ++ (statePost? request).toList := by
        rw [statePosts, List.filterMap_append]
        cases stored : statePost? request <;> simp [statePosts, stored]
      rw [split, files_serve, posts]
      cases stored : statePost? request with
      | none => simpa using ih
      | some post =>
          obtain ⟨key, body⟩ := post
          simp only [Option.toList_some, Dict.get?_set, lastWrite_concat, decide_eq_true_eq]
          by_cases here : statePath key = path
          · simp [here]
          · simpa [here, Ne.symm here] using ih

-----------------------------------------------------------------------------------------
-- File names
-----------------------------------------------------------------------------------------

/-- Id and node, as they stand in a file name. -/
def fileStem (key : String × String) : List Char := key.1.toList ++ '-' :: key.2.toList

theorem statePath_toList (key : String × String)
    : (statePath key).toList = "/tmp/snapshot-".toList ++ fileStem key ++ ".json".toList := by
  change ("/tmp/snapshot-" ++ key.1 ++ "-" ++ key.2 ++ ".json").toList = _
  simp [fileStem]

theorem statePath_inj {key other : String × String}
    : statePath key = statePath other ↔ fileStem key = fileStem other := by
  rw [← String.toList_inj, statePath_toList, statePath_toList, List.append_left_inj,
    List.append_right_inj]

/-- One snapshot has one file for each node. -/
theorem fileStem_inj {snapshotId node other : String}
    (same : fileStem (snapshotId, node) = fileStem (snapshotId, other)) : node = other := by
  simpa [fileStem, String.toList_inj] using same

theorem not_slash_of_idChar {c : Char} (idChar : isIdChar c = true) : c ≠ '/' := by
  rintro rfl
  simp [isIdChar] at idChar

theorem no_slash {text : String} (valid : containerIdRe text = true) : '/' ∉ text.toList := by
  unfold containerIdRe at valid
  split at valid
  · cases valid
  case h_2 first rest shown =>
    rw [shown]
    obtain ⟨head, tail⟩ := Bool.and_eq_true_iff.mp valid
    rw [List.mem_cons]
    rintro (here | inRest)
    · rw [← here] at head
      revert head
      decide
    · exact not_slash_of_idChar (List.all_eq_true.mp tail _ inRest) rfl

/-- The lookup of a snapshot finds every file whose stem begins with its id and a hyphen. -/
theorem globMatches_statePath {snapshotId : String} {key : String × String}
    (validId : containerIdRe key.1 = true) (validNode : containerIdRe key.2 = true)
    : globMatches ("/tmp/snapshot-" ++ snapshotId ++ "-") ".json" (statePath key) = true
      ↔ snapshotId.toList ++ ['-'] <+: fileStem key := by
  have before : ("/tmp/snapshot-" ++ snapshotId ++ "-").toList
      = "/tmp/snapshot-".toList ++ (snapshotId.toList ++ ['-']) := by
    simp
  have slashless : '/' ∉ fileStem key := by
    simp [fileStem, no_slash validId, no_slash validNode]
  unfold globMatches
  rw [before, statePath_toList, List.append_assoc]
  generalize "/tmp/snapshot-".toList = folder
  generalize snapshotId.toList ++ ['-'] = start
  generalize fileStem key = stem at slashless ⊢
  have dropped : (folder ++ (stem ++ ".json".toList)).drop (folder ++ start).length
      = (stem ++ ".json".toList).drop start.length := by
    rw [List.length_append, ← List.drop_drop, List.drop_left]
  rw [dropped]
  simp only [Bool.and_eq_true, List.isPrefixOf_iff_prefix, List.isSuffixOf_iff_suffix,
    List.prefix_append_right_inj]
  constructor
  · rintro ⟨⟨begins, ends⟩, -⟩
    have fits := ends.length_le
    rw [List.length_drop, List.length_append] at fits
    have positive : 0 < ".json".toList.length := by decide
    exact List.prefix_of_prefix_length_le begins (List.prefix_append _ _) (by omega)
  · rintro ⟨rest, rfl⟩
    have left : (start ++ rest ++ ".json".toList).drop start.length = rest ++ ".json".toList := by
      rw [List.append_assoc, List.drop_left]
    rw [left]
    refine ⟨⟨?_, List.suffix_append _ _⟩, ?_⟩
    · rw [List.append_assoc]
      exact List.prefix_append _ _
    · have middle : (folder ++ (start ++ rest ++ ".json".toList)).length - (folder ++ start).length
          - ".json".toList.length = rest.length := by
        simp only [List.length_append]
        omega
      rw [middle, List.take_left]
      simpa using fun inRest => slashless (List.mem_append_right _ inRest)

-----------------------------------------------------------------------------------------
-- Looking a snapshot up
-----------------------------------------------------------------------------------------

/-- The body last posted under an id and a node. -/
def lastState (posts : List ((String × String) × β)) (key : String × String) : Option β :=
  (lastWrite (fun other => other = key) posts).map Prod.snd

/-- The reply has one entry for each node that was posted under the snapshot id, the last one, and
no other; it is an error if there are none.
-/
structure AnswersFor (snapshotId : String) (posts : List ((String × String) × β))
    (reply : Reply β) : Prop where
  missing
    : reply = .error 404 "unknown snapshot" ↔ ∀ post ∈ posts, post.1.1 ≠ snapshotId
  listed
    : (∃ post ∈ posts, post.1.1 = snapshotId)
      → ∃ nodes,
          reply = .snapshot snapshotId nodes
          ∧ (nodes.map fun body => JsonObject.string? body "node").Nodup
          ∧ ∀ body, body ∈ nodes ↔ ∃ node, lastState posts (snapshotId, node) = some body

/-- Whatever was posted under another id, for a node with which its file name begins like those of
the snapshot, has been overwritten by a later post under the snapshot id.
-/
def CollisionsOverwritten (snapshotId : String) (posts : List ((String × String) × β)) : Prop :=
  ∀ before stray after,
    posts = before ++ stray :: after → stray.1.1 ≠ snapshotId
    → snapshotId.toList ++ ['-'] <+: fileStem stray.1
    → ∃ later ∈ after, later.1.1 = snapshotId ∧ fileStem later.1 = fileStem stray.1

/-- What a restore reads: an error reply raises. -/
def Reply.nodes? : Reply β → Option (List β)
  | .snapshot _ nodes => some nodes
  | _ => none

/-- The entry that the restore of a node takes from a reply. -/
def Reply.selected? (reply : Reply β) (cfg : Config) : Option β :=
  reply.nodes?.bind (ownEntryBy (fun entry => JsonObject.string? entry "node") cfg)

section Lookup

variable {snapshotId : String} {posts : List ((String × String) × β)}

/-- The keys of one snapshot, and the files that its lookup finds. -/
abbrev NoStrayFiles (snapshotId : String) (posts : List ((String × String) × β)) : Prop :=
  NoStrays statePath (fun key => key.1 = snapshotId)
    (fun path => globMatches ("/tmp/snapshot-" ++ snapshotId ++ "-") ".json" path = true) posts

theorem noStrayFiles_iff (valid : ∀ post ∈ posts, stateKey? post.2 = some post.1)
    : NoStrayFiles snapshotId posts ↔ CollisionsOverwritten snapshotId posts := by
  rw [NoStrayFiles, noStrays_iff]
  refine forall_congr' fun before => forall_congr' fun stray => forall_congr' fun after => ?_
  refine imp_congr_right fun split => imp_congr_right fun _ => ?_
  obtain ⟨-, -, validId, validNode⟩ := stateKey?_eq_some (valid stray (by simp [split]))
  simp only [globMatches_statePath validId validNode, statePath_inj]

omit [JsonObject β] in
theorem NoStrayFiles.holds (noStrays : NoStrayFiles snapshotId posts) {node : String}
    (validId : containerIdRe snapshotId = true) (validNode : containerIdRe node = true)
    : (lastWrite (fun key => statePath key = statePath (snapshotId, node)) posts).map Prod.snd
      = lastState posts (snapshotId, node) := by
  have finds : globMatches ("/tmp/snapshot-" ++ snapshotId ++ "-") ".json"
      (statePath (snapshotId, node)) = true :=
    (globMatches_statePath validId validNode).mpr ⟨node.toList, by simp [fileStem]⟩
  refine congrArg (Option.map Prod.snd) (noStrays.lastWrite_name finds fun {other} asked same => ?_)
  obtain ⟨otherId, otherNode⟩ := other
  obtain rfl : otherId = snapshotId := asked
  exact congrArg (Prod.mk _) (fileStem_inj (statePath_inj.mp same))

/-- What the lookup of a snapshot reads from its files, in the order of their names. -/
theorem mem_globbed (settings : ReceiverSettings) (requests : List (PostRequest β)) {body : β}
    : body ∈ ((Receiver.serveAll settings requests).globSnapshot snapshotId).filterMap
          (Receiver.serveAll settings requests).files.get?
      ↔ ∃ path write,
          globMatches ("/tmp/snapshot-" ++ snapshotId ++ "-") ".json" path = true
          ∧ lastWrite (fun key => statePath key = path) (statePosts requests) = some write
          ∧ write.2 = body := by
  simp only [List.mem_filterMap, Receiver.globSnapshot, List.mem_insertionSort, List.mem_filter,
    files_serveAll]
  constructor
  · rintro ⟨path, ⟨-, matched⟩, found⟩
    obtain ⟨write, last, same⟩ := Option.map_eq_some_iff.mp found
    exact ⟨path, write, matched, last, same⟩
  · rintro ⟨path, write, matched, last, rfl⟩
    refine ⟨path, ⟨Dict.mem_keys_iff.mpr ⟨write.2, ?_⟩, matched⟩, by rw [last]; rfl⟩
    rw [files_serveAll, last]
    rfl

/-- Without strays, the lookup reads the last body of every node, and nothing else. -/
theorem NoStrayFiles.mem_globbed_iff {settings : ReceiverSettings} {requests : List (PostRequest β)}
    (noStrays : NoStrayFiles snapshotId (statePosts requests))
    (validId : containerIdRe snapshotId = true) {body : β}
    : body ∈ ((Receiver.serveAll settings requests).globSnapshot snapshotId).filterMap
          (Receiver.serveAll settings requests).files.get?
      ↔ ∃ node, lastState (statePosts requests) (snapshotId, node) = some body := by
  rw [mem_globbed]
  constructor
  · rintro ⟨path, ⟨⟨otherId, node⟩, _⟩, matched, last, rfl⟩
    obtain rfl : otherId = snapshotId := noStrays path matched _ last
    obtain rfl : statePath (otherId, node) = path := by simpa using (lastWrite_eq_some.mp last).1
    obtain ⟨-, -, -, validNode⟩ := stateKey?_eq_some (mem_statePosts (mem_of_lastWrite last))
    refine ⟨node, ?_⟩
    rw [← noStrays.holds validId validNode, last]
    rfl
  · rintro ⟨node, found⟩
    obtain ⟨⟨key, _⟩, last, rfl⟩ := Option.map_eq_some_iff.mp found
    obtain rfl : key = (snapshotId, node) := by simpa using (lastWrite_eq_some.mp last).1
    obtain ⟨-, -, -, validNode⟩ := stateKey?_eq_some (mem_statePosts (mem_of_lastWrite last))
    rw [← noStrays.holds validId validNode] at found
    obtain ⟨write, last, same⟩ := Option.map_eq_some_iff.mp found
    exact ⟨_, write, (globMatches_statePath validId validNode).mpr
      ⟨node.toList, by simp [fileStem]⟩, last, same⟩

/-- The name of a file tells the node of the body in it, so no node is listed twice. -/
theorem NoStrayFiles.nodup {settings : ReceiverSettings} {requests : List (PostRequest β)}
    (noStrays : NoStrayFiles snapshotId (statePosts requests))
    : ((((Receiver.serveAll settings requests).globSnapshot snapshotId).filterMap
        (Receiver.serveAll settings requests).files.get?).map
          fun body => JsonObject.string? body "node").Nodup := by
  generalize named : (Receiver.serveAll settings requests).globSnapshot snapshotId = paths
  let pathOf (node : Option String) : String := statePath (snapshotId, node.getD "")
  have back : (paths.filterMap (Receiver.serveAll settings requests).files.get?).map
      (fun body => pathOf (JsonObject.string? body "node")) = paths := by
    rw [List.map_filterMap, ← List.filterMap_some (l := paths), List.filterMap_filterMap]
    refine List.filterMap_congr fun path listed => ?_
    rw [← named, Receiver.globSnapshot, List.mem_insertionSort, List.mem_filter] at listed
    obtain ⟨present, matched⟩ := listed
    obtain ⟨body, found⟩ := Dict.mem_keys_iff.mp present
    rw [Option.bind_some, found]
    rw [files_serveAll] at found
    obtain ⟨⟨⟨otherId, node⟩, _⟩, last, rfl⟩ := Option.map_eq_some_iff.mp found
    obtain rfl : otherId = snapshotId := noStrays path matched _ last
    obtain ⟨-, text, -, -⟩ := stateKey?_eq_some (mem_statePosts (mem_of_lastWrite last))
    have here : statePath (otherId, node) = path := by simpa using (lastWrite_eq_some.mp last).1
    simpa [pathOf, text] using here
  have unique : paths.Nodup := by
    rw [← named]
    exact (List.perm_insertionSort _ _).nodup_iff.mpr
      ((Receiver.serveAll settings requests).files.nodupKeys.filter _)
  refine List.Nodup.of_map pathOf ?_
  rw [List.map_map]
  exact back.symm ▸ unique

end Lookup

omit [JsonObject β] in
theorem doGet_snapshot (receiver : Receiver β) {snapshotId : String}
    (validId : containerIdRe snapshotId = true)
    : receiver.doGet ("/snapshot/" ++ snapshotId)
      = if ((receiver.globSnapshot snapshotId).filterMap receiver.files.get?).isEmpty then
          .error 404 "unknown snapshot"
        else
          .snapshot snapshotId ((receiver.globSnapshot snapshotId).filterMap receiver.files.get?) := by
  have other : "/snapshot/" ++ snapshotId ≠ "/health" := by
    intro same
    have lists := congrArg String.toList same
    simp at lists
  have dropped : ("/snapshot/" ++ snapshotId).toList.drop "/snapshot/".toList.length
      = snapshotId.toList := by
    rw [String.toList_append, List.drop_left]
  have begins : "/snapshot/".toList.isPrefixOf ("/snapshot/" ++ snapshotId).toList = true := by
    rw [List.isPrefixOf_iff_prefix, String.toList_append]
    exact List.prefix_append _ _
  unfold Receiver.doGet
  rw [if_neg other, if_pos begins, dropped]
  simp only [String.ofList_toList, if_pos validId]

theorem stateKey?_of_lastState {requests : List (PostRequest β)} {key : String × String} {body : β}
    (found : lastState (statePosts requests) key = some body) : stateKey? body = some key := by
  obtain ⟨write, last, rfl⟩ := Option.map_eq_some_iff.mp found
  obtain rfl : write.1 = key := by simpa using (lastWrite_eq_some.mp last).1
  exact mem_statePosts (mem_of_lastWrite last)

omit [JsonObject β] in
theorem lastState_ne_none {posts : List ((String × String) × β)} {key : String × String} {body : β}
    (member : (key, body) ∈ posts) : lastState posts key ≠ none := by
  intro none
  have unselected := lastWrite_eq_none.mp (Option.map_eq_none_iff.mp none) _ member
  simp at unselected

/-- From a reply that is right, a restore takes the last artifact of its node. -/
theorem AnswersFor.selected? {snapshotId node : String} {requests : List (PostRequest β)}
    {reply : Reply β} {cfg : Config}
    (answers : AnswersFor snapshotId (statePosts requests) reply)
    (target : cfg.checkpointTarget = some node)
    : reply.selected? cfg = lastState (statePosts requests) (snapshotId, node) := by
  by_cases posted : ∃ post ∈ statePosts requests, post.1.1 = snapshotId
  case neg =>
    have missing := answers.missing.mpr fun post listed here => posted ⟨post, listed, here⟩
    rw [missing]
    cases found : lastState (statePosts requests) (snapshotId, node) with
    | none => rfl
    | some body =>
        obtain ⟨write, last, -⟩ := Option.map_eq_some_iff.mp found
        have here : write.1 = (snapshotId, node) := by simpa using (lastWrite_eq_some.mp last).1
        exact absurd ⟨write, mem_of_lastWrite last, congrArg Prod.fst here⟩ posted
  case pos =>
    obtain ⟨nodes, rfl, -, entries⟩ := answers.listed posted
    have node_of {other : String} {body : β}
        (found : lastState (statePosts requests) (snapshotId, other) = some body)
        : JsonObject.string? body "node" = some other :=
      (stateKey?_eq_some (stateKey?_of_lastState found)).2.1
    change nodes.find? (fun entry => JsonObject.string? entry "node" = cfg.checkpointTarget) = _
    rw [target]
    cases first : nodes.find? (fun entry => JsonObject.string? entry "node" = some node) with
    | some body =>
        have here : JsonObject.string? body "node" = some node := by
          simpa using List.find?_some first
        obtain ⟨other, found⟩ := (entries body).mp (List.mem_of_find?_eq_some first)
        obtain rfl := Option.some.inj ((node_of found).symm.trans here)
        exact found.symm
    | none =>
        refine (Option.eq_none_iff_forall_ne_some.mpr fun body found => ?_).symm
        have elsewhere := List.find?_eq_none.mp first body ((entries body).mpr ⟨node, found⟩)
        simp [node_of found] at elsewhere

/-- After any requests, a snapshot is answered for exactly if no other snapshot's file collides with
its own; then a restore takes the last artifact of its node.
-/
theorem Receiver.get_snapshot_iff (settings : ReceiverSettings)
    (requests : List (PostRequest β)) {snapshotId : String}
    (validId : containerIdRe snapshotId = true)
    : (AnswersFor snapshotId (statePosts requests)
          ((serveAll settings requests).doGet ("/snapshot/" ++ snapshotId))
        ↔ CollisionsOverwritten snapshotId (statePosts requests))
      ∧ (AnswersFor snapshotId (statePosts requests)
            ((serveAll settings requests).doGet ("/snapshot/" ++ snapshotId))
          → ∀ cfg node,
              cfg.checkpointTarget = some node
              → ((serveAll settings requests).doGet ("/snapshot/" ++ snapshotId)).selected? cfg
                = lastState (statePosts requests) (snapshotId, node)) := by
  rw [← noStrayFiles_iff fun post member => mem_statePosts member, doGet_snapshot _ validId]
  generalize read : ((serveAll settings requests).globSnapshot snapshotId).filterMap
    (serveAll settings requests).files.get? = nodes
  set reply := if nodes.isEmpty then Reply.error 404 "unknown snapshot"
    else .snapshot snapshotId nodes with replied
  refine ⟨⟨fun answers path matched write last => ?_, fun noStrays => ?_⟩,
    fun answers cfg node target => answers.selected? target⟩
  · have member : write.2 ∈ nodes :=
      read ▸ (mem_globbed settings requests).mpr ⟨path, write, matched, last, rfl⟩
    have nonempty : ¬ nodes.isEmpty := by
      rw [List.isEmpty_iff]
      exact List.ne_nil_of_mem member
    rw [if_neg nonempty] at replied
    have posted : ∃ post ∈ statePosts requests, post.1.1 = snapshotId := by
      by_contra none
      have missing := answers.missing.mpr fun post listed here => none ⟨post, listed, here⟩
      rw [replied] at missing
      cases missing
    obtain ⟨_, same, -, entries⟩ := answers.listed posted
    obtain ⟨-, rfl⟩ := Reply.snapshot.inj (replied.symm.trans same)
    obtain ⟨node, found⟩ := (entries _).mp member
    have key := stateKey?_of_lastState found
    rw [mem_statePosts (mem_of_lastWrite last)] at key
    exact congrArg Prod.fst (Option.some.inj key)
  · have entries (body : β) : body ∈ nodes
        ↔ ∃ node, lastState (statePosts requests) (snapshotId, node) = some body :=
      read ▸ noStrays.mem_globbed_iff validId
    have posted : nodes ≠ [] ↔ ∃ post ∈ statePosts requests, post.1.1 = snapshotId := by
      constructor
      · intro nonempty
        obtain ⟨body, member⟩ := List.exists_mem_of_ne_nil nodes nonempty
        obtain ⟨node, found⟩ := (entries body).mp member
        obtain ⟨write, last, -⟩ := Option.map_eq_some_iff.mp found
        have here : write.1 = (snapshotId, node) := by simpa using (lastWrite_eq_some.mp last).1
        exact ⟨write, mem_of_lastWrite last, congrArg Prod.fst here⟩
      · rintro ⟨⟨⟨_, node⟩, body⟩, member, rfl⟩
        obtain ⟨last, found⟩ := Option.ne_none_iff_exists'.mp fun none =>
          lastState_ne_none member none
        exact List.ne_nil_of_mem ((entries last).mpr ⟨node, found⟩)
    refine ⟨?_, fun some => ⟨nodes, ?_, read ▸ noStrays.nodup, entries⟩⟩
    · rw [← not_iff_not, not_forall]
      simp only [not_forall, exists_prop, not_not, ← posted, replied]
      by_cases empty : nodes = [] <;> simp [empty]
    · rw [replied, if_neg]
      simpa using posted.mpr some

-----------------------------------------------------------------------------------------
-- Artifacts
-----------------------------------------------------------------------------------------

def Status.text : Status → String
  | .complete => "complete"
  | .aborted => "aborted"

/-- `json.dumps` of an artifact, as far as the receiver looks into it. -/
instance : JsonObject Artifact where
  keys _ := ["snapshot_id", "node", "status", "peers"]
  text? artifact
    | "snapshot_id" => artifact.snapshotId.map PyStr.ofString
    | "node" => some artifact.node
    | "status" => some artifact.status.text
    | _ => none

/-- For artifacts, it is the entry that `restore_from_artifact` takes. -/
theorem selected?_eq (reply : Reply Artifact) (cfg : Config)
    : reply.selected? cfg = reply.nodes?.bind (ownEntry cfg) := by
  have nodeOf : (fun entry : Artifact => JsonObject.string? entry "node")
      = fun entry => some entry.node :=
    funext fun entry => PyStr.string?_ofString entry.node
  rw [Reply.selected?, nodeOf]
  rfl

/-- A sidecar that is restored for a node. -/
def restoring (node : String) : Config where
  meshMembers := []
  address := ""
  checkpointTarget := some node

/-- Node `counter-a` posts the cut of a snapshot without channels. -/
def cutPost (snapshotId : String) : PostRequest Artifact where
  path := "/snapshot_state"
  doc := .object ⟨some snapshotId, "counter-a", .complete, []⟩
  outcome := .done

theorem Receiver.get_snapshot_twoSnapshots
    : ((serveAll {} [cutPost "snap6", cutPost "snap7"]).doGet ("/snapshot/" ++ "snap6")).nodes?.bind
          (ownEntry (restoring "counter-a"))
        = some ⟨some "snap6", "counter-a", .complete, []⟩ := by
  have posts : statePosts [cutPost "snap6", cutPost "snap7"]
      = [(("snap6", "counter-a"), ⟨some "snap6", "counter-a", .complete, []⟩),
        (("snap7", "counter-a"), ⟨some "snap7", "counter-a", .complete, []⟩)] := by
    decide +kernel
  have overwritten : CollisionsOverwritten "snap6"
      (statePosts [cutPost "snap6", cutPost "snap7"]) := by
    intro before stray after split other begins
    have listed : stray ∈ statePosts [cutPost "snap6", cutPost "snap7"] := by simp [split]
    rw [posts, List.mem_cons, List.mem_singleton] at listed
    rcases listed with rfl | rfl
    · exact absurd rfl other
    · exact absurd begins (by decide +kernel)
  obtain ⟨exact_iff, taken⟩ := Receiver.get_snapshot_iff {}
    [cutPost "snap6", cutPost "snap7"] (show containerIdRe "snap6" = true by decide +kernel)
  rw [← selected?_eq, taken (exact_iff.mpr overwritten) (restoring "counter-a") "counter-a" rfl,
    posts]
  decide +kernel

/-- A later snapshot's file sorts before that of `snap6`, and is what a restore of `snap6` takes. -/
theorem Receiver.get_snapshot_misfiled
    : containerIdRe "snap6" = true
      ∧ ((serveAll {} [cutPost "snap6", cutPost "snap6-2"]).doGet
            ("/snapshot/" ++ "snap6")).nodes?.bind (ownEntry (restoring "counter-a"))
          = some ⟨some "snap6-2", "counter-a", .complete, []⟩
      ∧ ¬ AnswersFor "snap6" (statePosts [cutPost "snap6", cutPost "snap6-2"])
          ((serveAll {} [cutPost "snap6", cutPost "snap6-2"]).doGet ("/snapshot/" ++ "snap6")) := by
  have taken : ((serveAll {} [cutPost "snap6", cutPost "snap6-2"]).doGet
      ("/snapshot/" ++ "snap6")).nodes?.bind (ownEntry (restoring "counter-a"))
      = some ⟨some "snap6-2", "counter-a", .complete, []⟩ := by
    decide +kernel
  refine ⟨by decide +kernel, taken, fun answers => ?_⟩
  have target : (restoring "counter-a").checkpointTarget = some "counter-a" := rfl
  rw [← selected?_eq, answers.selected? target] at taken
  revert taken
  decide +kernel

end MeshSnapshot
