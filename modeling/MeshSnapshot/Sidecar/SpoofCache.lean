import MeshSnapshot.Library.Lru
import MeshSnapshot.Model.Proxy

/-! The cache of spoof sockets over any sequence of requests, of any capacity. A request that
finds no socket evicts before it inserts, and a failed bind swaps the socket in between.
-/

namespace MeshSnapshot

open Procedure

/-- A procedure that leaves the cache and the closed sockets alone, and at most opens sockets. -/
abbrev OpensOnly {α : Type} (body : Py α) : Prop :=
  Within (fun s s' : Sidecar =>
    s'.spoofSockets = s.spoofSockets ∧ s'.trace.closed = s.trace.closed
      ∧ s.nextSock ≤ s'.nextSock) body

theorem OpensOnly.bind {α β : Type} {x : Py α} {f : α → Py β} (first : OpensOnly x)
    (second : ∀ a, OpensOnly (f a))
    : OpensOnly (x >>= f) :=
  Within.bind (fun before after => ⟨after.1.trans before.1, after.2.1.trans before.2.1,
    before.2.2.trans after.2.2⟩) first second

theorem opensOnly_outsideCall : OpensOnly outsideCall := by
  intro s
  unfold outsideCall
  cases faults : s.host.faults with
  | nil => simp [bind_run, faults, final]
  | cons fails rest => cases fails <;> simp [bind_run, faults, final]

theorem opensOnly_outsideAnswer : OpensOnly outsideAnswer :=
  Within.attempt (fun before after => ⟨after.1.trans before.1, after.2.1.trans before.2.1,
      before.2.2.trans after.2.2⟩)
    (opensOnly_outsideCall.bind fun _ _ => ⟨rfl, rfl, le_rfl⟩) fun _ _ => ⟨rfl, rfl, le_rfl⟩

variable {capacity : Nat} {key : Ip × Nat} {sock : SpoofSock} {s s' : Sidecar}

/-- A socket that is opened has a number that none had before. -/
theorem newSock_ok {id : Nat} (returned : newSock s = .ok id s')
    : s'.spoofSockets = s.spoofSockets ∧ s'.trace.closed = s.trace.closed
      ∧ s.nextSock ≤ id ∧ id < s'.nextSock := by
  obtain ⟨_, t, called, returned⟩ := bind_ok.mp returned
  obtain ⟨_, _, reads, returned⟩ := bind_ok.mp returned
  obtain ⟨rfl, rfl⟩ := read_ok.mp reads
  obtain ⟨_, _, counts, returned⟩ := bind_ok.mp returned
  obtain rfl := update_ok.mp counts
  obtain ⟨rfl, rfl⟩ := pure_ok.mp returned
  obtain ⟨sockets, closed, older⟩ := opensOnly_outsideCall.ok called
  exact ⟨sockets, closed, older, Nat.lt_succ_self _⟩

/-- The socket that serves a key is the one just opened, or one opened since. -/
theorem bindOrFallback_ok {id : Nat} (returned : bindOrFallback key id s = .ok sock s')
    : s'.spoofSockets = s.spoofSockets ∧ s'.trace.closed = s.trace.closed
      ∧ s.nextSock ≤ s'.nextSock
      ∧ (sock.id = id ∨ s.nextSock ≤ sock.id ∧ sock.id < s'.nextSock) := by
  obtain ⟨bound, t, answered, returned⟩ := bind_ok.mp returned
  obtain ⟨sockets, closed, older⟩ := opensOnly_outsideAnswer.ok answered
  cases bound with
  | true =>
      obtain ⟨rfl, rfl⟩ := pure_ok.mp returned
      exact ⟨sockets, closed, older, .inl rfl⟩
  | false =>
      obtain ⟨other, u, opened, returned⟩ := bind_ok.mp returned
      obtain ⟨_, v, marked, returned⟩ := bind_ok.mp returned
      obtain ⟨rfl, rfl⟩ := pure_ok.mp returned
      obtain ⟨openedSockets, openedClosed, least, most⟩ := newSock_ok opened
      obtain ⟨markedSockets, markedClosed, later⟩ := opensOnly_outsideCall.ok marked
      exact ⟨markedSockets.trans (openedSockets.trans sockets),
        markedClosed.trans (openedClosed.trans closed),
        by omega, .inr ⟨older.trans least, most.trans_le later⟩⟩

/-- The eviction drops the entry that a cache of this capacity drops, and closes its socket. -/
theorem evictSpoofSock_ok (returned : evictSpoofSock capacity s = .ok () s')
    : s'.spoofSockets = Lru.makeRoom capacity s.spoofSockets
      ∧ s'.trace.closed
        = s.trace.closed ++ (Lru.evicted capacity s.spoofSockets).toList.map Prod.snd
      ∧ s'.nextSock = s.nextSock := by
  obtain ⟨_, _, reads, returned⟩ := bind_ok.mp returned
  obtain ⟨rfl, rfl⟩ := read_ok.mp reads
  unfold Lru.makeRoom Lru.evicted
  split at returned
  case isTrue full =>
    rw [if_pos full]
    cases entries : s.spoofSockets.entries with
    | nil =>
        rw [entries] at returned
        obtain ⟨-, rfl⟩ := pure_ok.mp returned
        simp
    | cons oldest rest =>
        rw [entries] at returned
        obtain rfl := update_ok.mp returned
        simp
  case isFalse roomy =>
    obtain ⟨-, rfl⟩ := pure_ok.mp returned
    simp [roomy]

/-- A hit moves its key to the end; a miss caches a new socket after the eviction. -/
theorem getSpoofSock_ok (returned : getSpoofSock key capacity s = .ok sock s')
    : (s.spoofSockets.get? key = some sock
        ∧ s'.spoofSockets = s.spoofSockets.moveToEnd key
        ∧ s'.trace.closed = s.trace.closed ∧ s'.nextSock = s.nextSock)
      ∨ (s.spoofSockets.get? key = none
        ∧ s'.spoofSockets = (Lru.makeRoom capacity s.spoofSockets).set key sock
        ∧ s'.trace.closed
          = s.trace.closed ++ (Lru.evicted capacity s.spoofSockets).toList.map Prod.snd
        ∧ s.nextSock ≤ sock.id ∧ sock.id < s'.nextSock) := by
  obtain ⟨_, _, reads, returned⟩ := bind_ok.mp returned
  obtain ⟨rfl, rfl⟩ := read_ok.mp reads
  cases found : s.spoofSockets.get? key with
  | some kept =>
      rw [found] at returned
      obtain ⟨_, _, moved, returned⟩ := bind_ok.mp returned
      obtain rfl := update_ok.mp moved
      obtain ⟨rfl, rfl⟩ := pure_ok.mp returned
      exact .inl ⟨rfl, rfl, rfl, rfl⟩
  | none =>
      rw [found] at returned
      obtain ⟨_, t, evicts, returned⟩ := bind_ok.mp returned
      obtain ⟨id, u, opened, returned⟩ := bind_ok.mp returned
      obtain ⟨_, v, configured, returned⟩ := bind_ok.mp returned
      obtain ⟨answer, w, bound, returned⟩ := bind_ok.mp returned
      obtain ⟨_, _, cached, returned⟩ := bind_ok.mp returned
      obtain rfl := update_ok.mp cached
      obtain ⟨rfl, rfl⟩ := pure_ok.mp returned
      obtain ⟨roomSockets, roomClosed, roomNext⟩ := evictSpoofSock_ok evicts
      obtain ⟨openedSockets, openedClosed, least, most⟩ := newSock_ok opened
      obtain ⟨setSockets, setClosed, later⟩ := opensOnly_outsideCall.ok configured
      obtain ⟨boundSockets, boundClosed, last, number⟩ := bindOrFallback_ok bound
      have below : answer.id < w.nextSock := by omega
      refine .inr ⟨rfl, ?_, ?_, by omega, below⟩
      · rw [← roomSockets, ← openedSockets, ← setSockets, ← boundSockets]
      · rw [← roomClosed, ← openedClosed, ← setClosed, ← boundClosed]

-----------------------------------------------------------------------------------------
-- Sequences of requests
-----------------------------------------------------------------------------------------

/-- The states after `get_spoof_sock` has answered the logged requests, one after another. The
rest of the sidecar and its host may change in between.
-/
inductive Sidecar.Requests (capacity : Nat) : List ((Ip × Nat) × SpoofSock) → Sidecar → Prop where
  | start {s : Sidecar} (empty : s.spoofSockets = ∅) (unclosed : s.trace.closed = [])
    : Requests capacity [] s
  | elsewhere {log : List ((Ip × Nat) × SpoofSock)} {s s' : Sidecar}
    (before : Requests capacity log s) (sockets : s'.spoofSockets = s.spoofSockets)
    (closed : s'.trace.closed = s.trace.closed) (numbers : s'.nextSock = s.nextSock)
    : Requests capacity log s'
  | request {log : List ((Ip × Nat) × SpoofSock)} {s s' : Sidecar} {key : Ip × Nat}
    {sock : SpoofSock} (before : Requests capacity log s)
    (returned : getSpoofSock key capacity s = .ok sock s')
    : Requests capacity (log ++ [(key, sock)]) s'

variable {log : List ((Ip × Nat) × SpoofSock)}

/-- The sockets are cached as in a least-recently-used cache, all under different numbers. -/
theorem Sidecar.Requests.run (positive : 0 < capacity) (requests : s.Requests capacity log)
    : Lru.Run capacity log s.spoofSockets s.trace.closed
      ∧ ∀ entry ∈ log, entry.2.id < s.nextSock := by
  induction requests with
  | start empty unclosed =>
      rw [empty, unclosed]
      exact ⟨.empty, fun _ member => by cases member⟩
  | elsewhere _ sockets closed numbers ih =>
      rw [sockets, closed, numbers]
      exact ih
  | @request log s s' key sock _ returned ih =>
      obtain ⟨run, numbered⟩ := ih
      rcases getSpoofSock_ok returned with
        ⟨found, sockets, closed, next⟩ | ⟨absent, sockets, closed, least, most⟩
      · rw [sockets, closed, next]
        refine ⟨run.hit found, fun entry member => ?_⟩
        rcases List.mem_append.mp member with earlier | last
        · exact numbered entry earlier
        · rw [List.mem_singleton.mp last]
          exact numbered _ ((run.facts positive).logged found)
      · rw [sockets, closed]
        have fresh : ∀ entry ∈ log, entry.2 ≠ sock := fun entry member same =>
          absurd (numbered entry member) (by rw [same]; omega)
        refine ⟨run.miss absent fresh, fun entry member => ?_⟩
        rcases List.mem_append.mp member with earlier | last
        · have before := numbered entry earlier
          omega
        · rw [List.mem_singleton.mp last]
          exact most

/-- After any sequence of requests, for any keys and any pattern of failing binds, the cache is
that of an exact least-recently-used cache: it holds the most recently requested keys in the order
of their last request, the last answer is cached and open, an answer is repeated until its key
is evicted, and the closed sockets are those of the evicted entries.
-/
theorem Sidecar.Requests.exact_lru (positive : 0 < capacity) (requests : s.Requests capacity log)
    : s.spoofSockets.keys = Lru.recent capacity (log.map Prod.fst)
      ∧ s.spoofSockets.size = min capacity (log.map Prod.fst).dedup.length
      ∧ s.spoofSockets.keys.Nodup
      ∧ (∀ key sock, log.getLast? = some (key, sock) →
          s.spoofSockets.get? key = some sock ∧ sock ∉ s.trace.closed)
      ∧ (∀ earlier between later key sock answer,
          log = (earlier ++ (key, sock) :: between) ++ (key, answer) :: later →
          Lru.Stays capacity key (earlier ++ [(key, sock)]) between → answer = sock)
      ∧ (∀ sock, sock ∈ s.trace.closed
          ↔ ∃ key, (key, sock) ∈ log ∧ s.spoofSockets.get? key ≠ some sock)
      ∧ s.trace.closed.Nodup := by
  have facts := (requests.run positive).1.facts positive
  refine ⟨facts.keys, ?_, s.spoofSockets.nodupKeys, ?_, ?_, facts.gone, facts.once⟩
  · calc s.spoofSockets.size = s.spoofSockets.keys.length := (List.length_map _).symm
      _ = min capacity (log.map Prod.fst).dedup.length := by
        rw [facts.keys, Lru.recent_length]
  · intro key sock last
    have found := facts.latest positive last
    refine ⟨found, fun closed => ?_⟩
    obtain ⟨other, logged, missing⟩ := (facts.gone sock).mp closed
    rw [facts.owner logged (facts.logged found)] at missing
    exact missing found
  · intro earlier between later key sock answer split stays
    exact facts.again split stays

/-- Answer requests one after another, with the host as given for each, and log the answers. -/
def Sidecar.requestAll (capacity : Nat) (s : Sidecar)
    : List ((Ip × Nat) × Host) → List ((Ip × Nat) × SpoofSock)
      → Option (List ((Ip × Nat) × SpoofSock) × Sidecar)
  | [], log => some (log, s)
  | (key, host) :: rest, log =>
      match getSpoofSock key capacity { s with host } with
      | .ok sock next => next.requestAll capacity rest (log ++ [(key, sock)])
      | .error _ _ => none

theorem Sidecar.Requests.requestAll {final : Sidecar}
    {calls : List ((Ip × Nat) × Host)} {all : List ((Ip × Nat) × SpoofSock)}
    (requests : s.Requests capacity log)
    (answered : s.requestAll capacity calls log = some (all, final))
    : final.Requests capacity all := by
  induction calls generalizing s log with
  | nil =>
      obtain ⟨rfl, rfl⟩ := Prod.mk.inj (Option.some.inj answered)
      exact requests
  | cons call rest ih =>
      obtain ⟨key, host⟩ := call
      unfold Sidecar.requestAll at answered
      split at answered
      case h_1 sock next returned =>
        have before : Sidecar.Requests capacity log { s with host } :=
          requests.elsewhere rfl rfl rfl
        exact ih (before.request returned) answered
      case h_2 => cases answered

/-- Three senders share two sockets. The bind for the third fails, and the second, which was
not asked for again, makes room.
-/
theorem Sidecar.Requests.exact_lru_threeSenders
    : ∃ log s,
        Sidecar.Requests 2 log s
        ∧ log.map (fun entry => entry.2.bound.isSome) = [true, true, true, false]
        ∧ s.spoofSockets.keys = Lru.recent 2 (log.map Prod.fst)
        ∧ s.spoofSockets.keys = [("10.24.24.10", 5000), ("10.24.24.12", 5000)]
        ∧ s.trace.closed.length = 1 := by
  have ran : (({} : Sidecar).requestAll 2
      [(("10.24.24.10", 5000), {}), (("10.24.24.11", 5000), {}), (("10.24.24.10", 5000), {}),
        (("10.24.24.12", 5000), { faults := [false, false, true] })] []).any
      (fun (log, s) =>
        log.map (fun entry => entry.2.bound.isSome) == [true, true, true, false]
          && s.spoofSockets.keys == [("10.24.24.10", 5000), ("10.24.24.12", 5000)]
          && s.trace.closed.length == 1) = true := by
    decide +kernel
  obtain ⟨⟨log, s⟩, answered, shown⟩ := (Option.any_eq_true _ _).mp ran
  simp only [Bool.and_eq_true, beq_iff_eq] at shown
  obtain ⟨⟨bound, keys⟩, closed⟩ := shown
  have requests : Sidecar.Requests 2 log s :=
    (Sidecar.Requests.start rfl rfl).requestAll answered
  exact ⟨log, s, requests, bound, (Sidecar.Requests.exact_lru (by decide) requests).1, keys, closed⟩

end MeshSnapshot
