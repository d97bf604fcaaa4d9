import Mathlib.Logic.Relation

/-! Imperative procedures over a mutable state, whose exceptions keep what was written.
An exception does not roll the state back: both outcomes carry the state reached.
-/

namespace MeshSnapshot

/-- A procedure that reads and writes a `σ`, returns an `α` or raises an `ε`. -/
abbrev Procedure (ε σ α : Type) := EStateM ε σ α

namespace Procedure

variable {ε σ α β : Type}

-----------------------------------------------------------------------------------------
-- Primitives
-----------------------------------------------------------------------------------------

def read : Procedure ε σ σ := fun s => .ok s s

def update (change : σ → σ) : Procedure ε σ Unit := fun s => .ok () (change s)

def raise (error : ε) : Procedure ε σ α := fun s => .error error s

/-- `try: body` with one `except` clause. The handler starts from the state in which the
exception was raised.
-/
def attempt (body : Procedure ε σ α) (handler : ε → Procedure ε σ α) : Procedure ε σ α :=
  fun s =>
    match body s with
    | .ok value next => .ok value next
    | .error error next => handler error next

/-- `for item in items: body(item)`. -/
def forEach (body : α → Procedure ε σ Unit) : List α → Procedure ε σ Unit
  | [] => pure ()
  | item :: rest => do
      body item
      forEach body rest

/-- The state in which a procedure stopped, normally or by an exception. -/
def final : EStateM.Result ε σ α → σ
  | .ok _ s => s
  | .error _ s => s

def returned? : EStateM.Result ε σ α → Option (α × σ)
  | .ok a s => some (a, s)
  | .error _ _ => none

theorem returned?_eq_some {result : EStateM.Result ε σ α} {a : α} {s : σ}
    : returned? result = some (a, s) ↔ result = .ok a s := by
  cases result <;> simp [returned?]

-----------------------------------------------------------------------------------------
-- Running a procedure
-----------------------------------------------------------------------------------------

theorem bind_run (x : Procedure ε σ α) (f : α → Procedure ε σ β) (s : σ)
    : (x >>= f) s
      = match x s with
        | .ok a next => f a next
        | .error e next => .error e next :=
  rfl

@[simp] theorem pure_run (a : α) (s : σ) : (pure a : Procedure ε σ α) s = .ok a s := rfl

@[simp] theorem read_run (s : σ) : (read : Procedure ε σ σ) s = .ok s s := rfl

@[simp] theorem update_run (change : σ → σ) (s : σ)
    : (update change : Procedure ε σ Unit) s = .ok () (change s) :=
  rfl

@[simp] theorem raise_run (error : ε) (s : σ)
    : (raise error : Procedure ε σ α) s = .error error s :=
  rfl

theorem attempt_run (body : Procedure ε σ α) (handler : ε → Procedure ε σ α) (s : σ)
    : attempt body handler s
      = match body s with
        | .ok value next => .ok value next
        | .error error next => handler error next :=
  rfl

-----------------------------------------------------------------------------------------
-- Inversion of a normal return
-----------------------------------------------------------------------------------------

theorem bind_ok {x : Procedure ε σ α} {f : α → Procedure ε σ β} {s s'' : σ} {b : β}
    : (x >>= f) s = .ok b s'' ↔ ∃ a s', x s = .ok a s' ∧ f a s' = .ok b s'' := by
  change EStateM.bind x f s = .ok b s'' ↔ _
  cases h : x s with
  | ok a s' => simp [EStateM.bind, h, and_assoc]
  | error e s' => simp [EStateM.bind, h]

theorem pure_ok {s s' : σ} {a b : α}
    : (pure a : Procedure ε σ α) s = .ok b s' ↔ a = b ∧ s = s' := by
  change EStateM.Result.ok a s = .ok b s' ↔ _
  simp

theorem read_ok {s s' a : σ}
    : (read : Procedure ε σ σ) s = .ok a s' ↔ s = a ∧ s = s' := by
  simp [read]

theorem update_ok {change : σ → σ} {s s' : σ} {u : Unit}
    : (update change : Procedure ε σ Unit) s = .ok u s' ↔ change s = s' := by
  simp [update]

theorem raise_ok {error : ε} {s s' : σ} {a : α}
    : (raise error : Procedure ε σ α) s = .ok a s' ↔ False := by
  simp [raise]

theorem attempt_ok {body : Procedure ε σ α} {handler : ε → Procedure ε σ α} {s s' : σ} {a : α}
    : attempt body handler s = .ok a s'
      ↔ body s = .ok a s' ∨ ∃ e s₁, body s = .error e s₁ ∧ handler e s₁ = .ok a s' := by
  cases h : body s with
  | ok value next => simp [attempt, h]
  | error error next => simp [attempt, h, and_assoc]

@[simp] theorem forEach_nil (body : α → Procedure ε σ Unit) : forEach body [] = pure () := rfl

@[simp] theorem forEach_cons (body : α → Procedure ε σ Unit) (item : α) (rest : List α)
    : forEach body (item :: rest) = (body item >>= fun _ => forEach body rest) :=
  rfl

theorem forEach_append (body : α → Procedure ε σ Unit) (items more : List α)
    : forEach body (items ++ more) = (forEach body items >>= fun _ => forEach body more) := by
  induction items with
  | nil => rfl
  | cons item rest ih =>
      rw [List.cons_append, forEach_cons, forEach_cons, ih]
      funext s
      simp only [bind_run]
      cases body item s <;> rfl

theorem forEach_map (body : β → Procedure ε σ Unit) (f : α → β) (items : List α)
    : forEach body (items.map f) = forEach (fun item => body (f item)) items := by
  induction items with
  | nil => rfl
  | cons item rest ih => rw [List.map_cons, forEach_cons, forEach_cons, ih]

/-- Nested loops run through the concatenation of their inner lists. -/
theorem forEach_flatMap (body : β → Procedure ε σ Unit) (f : α → List β) (items : List α)
    : forEach body (items.flatMap f) = forEach (fun item => forEach body (f item)) items := by
  induction items with
  | nil => rfl
  | cons item rest ih => rw [List.flatMap_cons, forEach_append, forEach_cons, ih]

/-- A loop that goes on when the body raises. -/
def attemptEach (body : α → Procedure ε σ Unit) (items : List α) : Procedure ε σ Unit :=
  forEach (fun item => attempt (body item) (fun _ => pure ())) items

/-- As long as nothing is raised, it makes no difference whether a loop would go on. -/
theorem attemptEach_of_ok {body : α → Procedure ε σ Unit} {items : List α} {s s' : σ} {u : Unit}
    (returned : forEach body items s = .ok u s') : attemptEach body items s = .ok u s' := by
  induction items generalizing s with
  | nil => exact returned
  | cons item rest ih =>
      rw [forEach_cons, bind_run] at returned
      rw [attemptEach, forEach_cons, bind_run, attempt_run]
      cases first : body item s with
      | ok _ t =>
          rw [first] at returned
          exact ih returned
      | error e t =>
          rw [first] at returned
          cases returned

/-- Where a loop stops, one that goes on has the items behind the failing one left. -/
theorem attemptEach_of_error {body : α → Procedure ε σ Unit} {items : List α} {s s' : σ} {e : ε}
    (stopped : forEach body items s = .error e s')
    : ∃ rest, ∀ more, attemptEach body (items ++ more) s = attemptEach body (rest ++ more) s' := by
  induction items generalizing s with
  | nil => cases stopped
  | cons item rest ih =>
      rw [forEach_cons, bind_run] at stopped
      have next (more : List α) : attemptEach body (item :: rest ++ more) s
          = attemptEach body (rest ++ more) (final (body item s)) := by
        rw [attemptEach, List.cons_append, forEach_cons, bind_run, attempt_run]
        cases body item s <;> rfl
      cases first : body item s with
      | ok _ t =>
          rw [first] at stopped next
          obtain ⟨left, goesOn⟩ := ih stopped
          exact ⟨left, fun more => (next more).trans (goesOn more)⟩
      | error e t =>
          rw [first] at stopped next
          cases stopped
          exact ⟨rest, next⟩

/-- A loop invariant: every iteration that returns keeps what held before it. -/
theorem forEach_ok (invariant : σ → Prop) {body : α → Procedure ε σ Unit} {items : List α}
    {s s' : σ} {u : Unit} (returned : forEach body items s = .ok u s') (start : invariant s)
    (keeps
      : ∀ item ∈ items,
          ∀ {t t' : σ}, invariant t → body item t = .ok () t' → invariant t')
    : invariant s' := by
  induction items generalizing s with
  | nil =>
      obtain ⟨-, rfl⟩ := pure_ok.mp returned
      exact start
  | cons item rest ih =>
      obtain ⟨_, t, first, returned⟩ := bind_ok.mp returned
      exact ih returned (keeps item (by simp) start first)
        (fun next member => keeps next (List.mem_cons_of_mem _ member))

-----------------------------------------------------------------------------------------
-- Relations that hold between the entry state and whatever state a procedure stops in
-----------------------------------------------------------------------------------------

/-- Every outcome of `body`, normal or exceptional, stays within `relation`. -/
def Within (relation : σ → σ → Prop) (body : Procedure ε σ α) : Prop :=
  ∀ s, relation s (final (body s))

/-- A normal return of a bounded procedure is bounded. -/
theorem Within.ok {relation : σ → σ → Prop} {body : Procedure ε σ α} {s s' : σ} {a : α}
    (within : Within relation body) (returned : body s = .ok a s') : relation s s' := by
  simpa [final, returned] using within s

theorem Within.error {relation : σ → σ → Prop} {body : Procedure ε σ α} {s s' : σ} {e : ε}
    (within : Within relation body) (stopped : body s = .error e s') : relation s s' := by
  simpa [final, stopped] using within s

theorem Within.pure {relation : σ → σ → Prop} (refl : ∀ s, relation s s) (a : α)
    : Within relation (Pure.pure a : Procedure ε σ α) :=
  fun s => refl s

theorem Within.read {relation : σ → σ → Prop} (refl : ∀ s, relation s s)
    : Within relation (read : Procedure ε σ σ) :=
  fun s => refl s

theorem Within.raise {relation : σ → σ → Prop} (refl : ∀ s, relation s s) (error : ε)
    : Within relation (raise error : Procedure ε σ α) :=
  fun s => refl s

theorem Within.update {relation : σ → σ → Prop} {change : σ → σ}
    (changed : ∀ s, relation s (change s))
    : Within relation (update change : Procedure ε σ Unit) :=
  fun s => changed s

/-- Sequencing stays within a transitive relation, whether or not the first part returns. -/
theorem Within.bind {relation : σ → σ → Prop} {x : Procedure ε σ α} {f : α → Procedure ε σ β}
    (trans : ∀ {a b c}, relation a b → relation b c → relation a c)
    (first : Within relation x) (second : ∀ a, Within relation (f a))
    : Within relation (x >>= f) := by
  intro s
  have start := first s
  change relation s (final (EStateM.bind x f s))
  cases h : x s with
  | ok a s' =>
      simp only [h, final] at start
      simp only [EStateM.bind, h]
      exact trans start (second a s')
  | error e s' =>
      simp only [h, final] at start
      simpa only [EStateM.bind, h, final] using start

theorem Within.attempt {relation : σ → σ → Prop} {body : Procedure ε σ α}
    {handler : ε → Procedure ε σ α}
    (trans : ∀ {a b c}, relation a b → relation b c → relation a c)
    (tried : Within relation body) (handled : ∀ e, Within relation (handler e))
    : Within relation (attempt body handler) := by
  intro s
  have start := tried s
  cases h : body s with
  | ok a s' => simpa only [Procedure.attempt, h, final] using start
  | error e s' =>
      simp only [h, final] at start
      simp only [Procedure.attempt, h]
      exact trans start (handled e s')

theorem Within.forEach {relation : σ → σ → Prop} {body : α → Procedure ε σ Unit}
    (refl : ∀ s, relation s s)
    (trans : ∀ {a b c}, relation a b → relation b c → relation a c)
    (items : List α) (each : ∀ item ∈ items, Within relation (body item))
    : Within relation (forEach body items) := by
  induction items with
  | nil => exact Within.pure refl ()
  | cons item rest ih =>
      exact Within.bind trans (each item (by simp))
        (fun _ => ih (fun next member => each next (List.mem_cons_of_mem _ member)))

/-- A loop that returns has run its body on every item. -/
theorem forEach_reaches {relation : σ → σ → Prop} {body : α → Procedure ε σ Unit}
    (refl : ∀ s, relation s s)
    (trans : ∀ {a b c}, relation a b → relation b c → relation a c)
    (each : ∀ item, Within relation (body item)) {items : List α} {item : α} {s s' : σ} {u : Unit}
    (returned : forEach body items s = .ok u s') (member : item ∈ items)
    : ∃ t t', relation s t ∧ body item t = .ok () t' ∧ relation t' s' := by
  induction items generalizing s with
  | nil => cases member
  | cons first rest ih =>
      obtain ⟨_, next, ran, ranRest⟩ := bind_ok.mp returned
      rcases List.mem_cons.mp member with rfl | later
      · have after := Within.forEach refl trans rest fun item _ => each item
        exact ⟨s, next, refl s, ran, after.ok ranRest⟩
      · obtain ⟨t, t', before, body, after⟩ := ih ranRest later
        exact ⟨t, t', trans ((each first).ok ran) before, body, after⟩

-----------------------------------------------------------------------------------------
-- Triples with two postconditions
-----------------------------------------------------------------------------------------

/-- From every state in `pre`, `body` returns a value in `post`, or raises in `raised`. -/
def Triple (pre : σ → Prop) (body : Procedure ε σ α) (post : α → σ → Prop) (raised : σ → Prop)
    : Prop :=
  ∀ s, pre s →
    match body s with
    | .ok a s' => post a s'
    | .error _ s' => raised s'

/-- A procedure that keeps `inv`, and leaves `raised` when it raises. -/
abbrev Keeps (inv : σ → Prop) (body : Procedure ε σ α) (raised : σ → Prop) : Prop :=
  Triple inv body (fun _ => inv) raised

namespace Triple

variable {pre : σ → Prop} {body : Procedure ε σ α} {post : α → σ → Prop} {raised : σ → Prop}

theorem ok (triple : Triple pre body post raised) {s s' : σ} {a : α} (before : pre s)
    (returned : body s = .ok a s') : post a s' := by
  simpa [returned] using triple s before

theorem error (triple : Triple pre body post raised) {s s' : σ} {e : ε} (before : pre s)
    (stopped : body s = .error e s') : raised s' := by
  simpa [stopped] using triple s before

theorem of_outcomes (returns : ∀ {s a s'}, pre s → body s = .ok a s' → post a s')
    (raises : ∀ {s e s'}, pre s → body s = .error e s' → raised s')
    : Triple pre body post raised := by
  intro s before
  cases outcome : body s with
  | ok a s' => exact returns before outcome
  | error e s' => exact raises before outcome

theorem weaken (triple : Triple pre body post raised) {pre' : σ → Prop} {post' : α → σ → Prop}
    {raised' : σ → Prop} (stronger : ∀ s, pre' s → pre s) (weaker : ∀ a s, post a s → post' a s)
    (weakerRaised : ∀ s, raised s → raised' s) : Triple pre' body post' raised' := by
  intro s before
  have outcome := triple s (stronger s before)
  cases stopped : body s with
  | ok a s' =>
      rw [stopped] at outcome
      exact weaker a s' outcome
  | error e s' =>
      rw [stopped] at outcome
      exact weakerRaised s' outcome

theorem pure {a : α} (holds : ∀ s, pre s → post a s)
    : Triple pre (Pure.pure a : Procedure ε σ α) post raised :=
  holds

theorem raise {error : ε} (holds : ∀ s, pre s → raised s)
    : Triple pre (Procedure.raise error : Procedure ε σ α) post raised :=
  holds

theorem update {change : σ → σ} {post : Unit → σ → Prop}
    (holds : ∀ s, pre s → post () (change s))
    : Triple pre (Procedure.update change : Procedure ε σ Unit) post raised :=
  holds

theorem bind {f : α → Procedure ε σ β} {last : β → σ → Prop} (first : Triple pre body post raised)
    (second : ∀ a, Triple (post a) (f a) last raised) : Triple pre (body >>= f) last raised := by
  intro s before
  have start := first s before
  rw [bind_run]
  cases stopped : body s with
  | ok a s' =>
      rw [stopped] at start
      exact second a s' start
  | error e s' =>
      rw [stopped] at start
      exact start

/-- What is read is the state in which the procedure goes on. -/
theorem readBind {f : σ → Procedure ε σ β} {last : β → σ → Prop}
    (second : ∀ s, pre s → Triple (fun t => t = s) (f s) last raised)
    : Triple pre (Procedure.read >>= f) last raised :=
  fun s before => second s before s rfl

/-- What is read need not be known to be the state in which the procedure goes on. -/
theorem readThen {f : σ → Procedure ε σ β} {last : β → σ → Prop}
    (second : ∀ s, pre s → Triple pre (f s) last raised)
    : Triple pre (Procedure.read >>= f) last raised :=
  fun s before => second s before s before

theorem attempt {handler : ε → Procedure ε σ α} {failed : σ → Prop}
    (tried : Triple pre body post failed) (handled : ∀ e, Triple failed (handler e) post raised)
    : Triple pre (attempt body handler) post raised := by
  intro s before
  have start := tried s before
  cases stopped : body s with
  | ok a s' =>
      rw [stopped] at start
      simpa only [Procedure.attempt, stopped] using start
  | error e s' =>
      rw [stopped] at start
      simpa only [Procedure.attempt, stopped] using handled e s' start

theorem forEach {inv : σ → Prop} {body : α → Procedure ε σ Unit} {items : List α}
    (each : ∀ item ∈ items, Keeps inv (body item) raised)
    : Keeps inv (forEach body items) raised := by
  induction items with
  | nil => exact pure fun _ holds => holds
  | cons item rest ih =>
      exact bind (each item (by simp)) fun _ =>
        ih fun next member => each next (List.mem_cons_of_mem _ member)

/-- A procedure that stays within a relation keeps what the relation keeps. -/
theorem of_within {relation : σ → σ → Prop} {inv : σ → Prop} (within : Within relation body)
    (keeps : ∀ {s s' : σ}, pre s → relation s s' → inv s')
    : Triple pre body (fun _ => inv) inv := by
  intro s before
  have outcome := keeps before (within s)
  cases stopped : body s <;> simpa [stopped, final] using outcome

/-- A triple holds alongside a relation to a state of the past. -/
theorem alongside {relation : σ → σ → Prop} (triple : Triple pre body post raised)
    (within : Within relation body)
    (trans : ∀ {a b c}, relation a b → relation b c → relation a c) (past : σ)
    : Triple (fun s => pre s ∧ relation past s) body (fun a s => post a s ∧ relation past s)
        (fun s => raised s ∧ relation past s) := by
  refine .of_outcomes (fun {s a s'} before returned => ?_) fun {s e s'} before stopped => ?_
  · exact ⟨triple.ok before.1 returned, trans before.2 (within.ok returned)⟩
  · exact ⟨triple.error before.1 stopped, trans before.2 (within.error stopped)⟩

end Triple

-----------------------------------------------------------------------------------------
-- Procedures that do not see a change of the state
-----------------------------------------------------------------------------------------

/-- The same outcome in a changed state. -/
def mapState (change : σ → σ) : EStateM.Result ε σ α → EStateM.Result ε σ α
  | .ok a s => .ok a (change s)
  | .error e s => .error e (change s)

/-- `body` neither sees nor undoes `change`. -/
def Blind (change : σ → σ) (body : Procedure ε σ α) : Prop :=
  ∀ s, body (change s) = mapState change (body s)

namespace Blind

variable {change : σ → σ}

theorem pure (a : α) : Blind change (Pure.pure a : Procedure ε σ α) := fun _ => rfl

theorem raise (error : ε) : Blind change (Procedure.raise error : Procedure ε σ α) := fun _ => rfl

theorem update {other : σ → σ} (commutes : ∀ s, other (change s) = change (other s))
    : Blind change (Procedure.update other : Procedure ε σ Unit) :=
  fun s => congrArg (EStateM.Result.ok ()) (commutes s)

theorem bind {x : Procedure ε σ α} {f : α → Procedure ε σ β} (first : Blind change x)
    (second : ∀ a, Blind change (f a)) : Blind change (x >>= f) := by
  intro s
  rw [bind_run, bind_run, first s]
  cases x s with
  | ok a s' => exact second a s'
  | error e s' => rfl

theorem readBind {f : σ → Procedure ε σ β} (unseen : ∀ s, f (change s) = f s)
    (second : ∀ s, Blind change (f s)) : Blind change (read >>= f) := by
  intro s
  rw [bind_run, bind_run, read_run, read_run]
  dsimp only
  rw [unseen]
  exact second s s

theorem attempt {body : Procedure ε σ α} {handler : ε → Procedure ε σ α}
    (tried : Blind change body) (handled : ∀ e, Blind change (handler e))
    : Blind change (attempt body handler) := by
  intro s
  rw [attempt_run, attempt_run, tried s]
  cases body s with
  | ok a s' => rfl
  | error e s' => exact handled e s'

theorem forEach {body : α → Procedure ε σ Unit} (items : List α)
    (each : ∀ item, Blind change (body item)) : Blind change (forEach body items) := by
  induction items with
  | nil => exact pure ()
  | cons item rest ih => exact bind (each item) fun _ => ih

end Blind

end Procedure

end MeshSnapshot
