import RecDtn.Basic

/-!
# The intake loops

Every role that serves bundles runs the same loop (`Broker._handle_bundle_messages`,
`Datastore._handle_bundles`, `Executor._handle_bundles`): every ten seconds it fetches the bundles
queued at the agent and hands them to `_handle_bundle` one after another. The whole `for` stands
inside one `try`, whose `except` logs the exception and ends the iteration.

`forEach` is that loop, and also every other loop of the handlers that runs until a call raises
(`Executor._handle_data` over the names of a bundle). The state it returns is the state the
handler left when it raised: Python mutates the node in place, so the effects made before the
exception stay.

* `forEach_append_cons_of_raises` — an item that raises in every state, changing nothing, hides
  every item after it;
* `forEach_eq_handleEach` — a loop whose items never raise handles each of them: it is
  `handleEach`, the loop that would run if the `try` stood inside the `for`.
-/

namespace RecDtn

/-- A serving node: its state, and the bundles it has handed to the agent, oldest first. -/
structure Served (σ : Type) where
  state : σ
  sent : List BundleData

/-- `_send_bundles(to_send)`, `_send_bundle(reply)`: the bundles go to the agent. A failure of the
agent is logged by the caller and changes nothing else. -/
def Served.send {σ : Type} (n : Served σ) (bs : List BundleData) : Served σ :=
  { n with sent := n.sent ++ bs }

@[simp] theorem Served.send_state {σ : Type} (n : Served σ) (bs : List BundleData) :
    (n.send bs).state = n.state := rfl

@[simp] theorem Served.send_sent {σ : Type} (n : Served σ) (bs : List BundleData) :
    (n.send bs).sent = n.sent ++ bs := rfl

/-- A handler's outcome, the bundles it returned and its state: the bundles are sent; an exception
propagates and nothing is sent. -/
def Served.ofResult {σ : Type} (sent : List BundleData) :
    Except RecError (List BundleData) × σ → Except RecError Unit × Served σ
  | (.ok toSend, s) => (.ok (), ⟨s, sent ++ toSend⟩)
  | (.error e, s) => (.error e, ⟨s, sent⟩)

theorem Served.ofResult_fst_of_ok {σ : Type} {sent : List BundleData}
    {r : Except RecError (List BundleData) × σ} {out : List BundleData} (h : r.1 = .ok out) :
    (Served.ofResult sent r).1 = .ok () := by
  rcases r with ⟨_ | _, _⟩ <;> cases h; rfl

theorem Served.ofResult_of_ok {σ : Type} {sent : List BundleData}
    {r : Except RecError (List BundleData) × σ} {out : List BundleData} (h : r.1 = .ok out) :
    Served.ofResult sent r = (.ok (), ⟨r.2, sent ++ out⟩) := by
  rcases r with ⟨_ | _, _⟩ <;> cases h; rfl

@[simp] theorem Served.ofResult_state {σ : Type} (sent : List BundleData)
    (r : Except RecError (List BundleData) × σ) : (Served.ofResult sent r).2.state = r.2 := by
  rcases r with ⟨_ | _, _⟩ <;> rfl

section
variable {α σ : Type} (f : σ → α → Except RecError Unit × σ)

/-- `for a in items: f(a)` where a raising `f` ends the loop: the exception, if one was raised,
and the state the loop left. -/
def forEach : σ → List α → Except RecError Unit × σ
  | s, [] => (.ok (), s)
  | s, a :: as =>
    match f s a with
    | (.ok (), s') => forEach s' as
    | (.error e, s') => (.error e, s')

/-- Every item handled in turn, an item whose handler raises contributing the effects it made
before raising. -/
def handleEach : σ → List α → σ
  | s, [] => s
  | s, a :: as => handleEach (f s a).2 as

variable {f}

theorem forEach_cons_of_ok {s s' : σ} {a : α} (as : List α) (h : f s a = (.ok (), s')) :
    forEach f s (a :: as) = forEach f s' as := by
  simp [forEach, h]

theorem forEach_cons_of_error {s s' : σ} {a : α} {e : RecError} (as : List α)
    (h : f s a = (.error e, s')) : forEach f s (a :: as) = (.error e, s') := by
  simp [forEach, h]

/-- The loop over `xs ++ ys` runs over `ys` from where the loop over `xs` ended, unless that one
raised. -/
theorem forEach_append (s : σ) (xs ys : List α) :
    forEach f s (xs ++ ys) =
      match forEach f s xs with
      | (.ok (), s') => forEach f s' ys
      | (.error e, s') => (.error e, s') := by
  induction xs generalizing s with
  | nil => rfl
  | cons a xs ih =>
    rcases h : f s a with ⟨e | _, s'⟩
    · simp [forEach_cons_of_error _ h]
    · simp only [List.cons_append, forEach_cons_of_ok _ h, ih]

theorem handleEach_append (s : σ) (xs ys : List α) :
    handleEach f s (xs ++ ys) = handleEach f (handleEach f s xs) ys := by
  induction xs generalizing s with
  | nil => rfl
  | cons a xs ih => exact ih _

/-- An item that raises in every state, changing nothing, hides every item after it. -/
theorem forEach_append_cons_of_raises {a : α} (ha : ∀ s, ∃ e, f s a = (.error e, s))
    (s : σ) (pre post : List α) :
    (forEach f s (pre ++ a :: post)).2 = (forEach f s pre).2 := by
  rw [forEach_append]
  rcases h : forEach f s pre with ⟨e | _, s'⟩
  · rfl
  · obtain ⟨e, he⟩ := ha s'
    simp [forEach_cons_of_error _ he]

/-- **A loop that never raises handles every item.** -/
theorem forEach_eq_handleEach (hf : ∀ s a, (f s a).1 = .ok ()) :
    ∀ (s : σ) (as : List α), forEach f s as = (.ok (), handleEach f s as)
  | s, [] => rfl
  | s, a :: as => by
    have h : f s a = (.ok (), (f s a).2) := Prod.ext (hf s a) rfl
    rw [forEach_cons_of_ok _ h, forEach_eq_handleEach hf]
    rfl

end

end RecDtn
