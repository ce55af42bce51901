import RecDtn.Basic

/-!
# Broker discovery at a non-broker node

`Node._handle_discovery` (`src/rec/dtn/node.py:118`) is the association state machine that every
Executor, Datastore and Client runs on the slots `_broker_pending` and `_broker`. Its three
phases are *unassociated* (both slots empty), *pending* on the broker of the first announcement,
and *associated*; a node moves only forward through them, and only the move out of the first
phase emits a bundle, the `BROKER_REQUEST` to the announcing broker.

`Node.discover_invariants` collects what holds over every sequence of discovery bundles: the
slots are never both set, an association never changes, at most one request is emitted, and an
association made by the sequence is with the source of its first announcement, which is where
the request went.
-/

namespace RecDtn

/-- The fields of a `Node` that discovery reads and writes. Reference: `node.py:13`. -/
structure Node where
  nodeId : EID
  nodeType : NodeType
  brokerPending : Option EID := none
  broker : Option EID := none
deriving DecidableEq, Repr

namespace Node

/-- The `BROKER_REQUEST` a node sends to `broker`. Reference: `node.py:133`. -/
def brokerRequest (n : Node) (broker : EID) : BundleData :=
  { type := BundleType.brokerRequest.toInt, source := n.nodeId, destination := broker,
    nodeType := n.nodeType.toInt }

/-- `Node._handle_discovery`: the node's next state and the bundles it returns.
Reference: `node.py:118`. -/
def handleDiscovery (n : Node) (b : BundleData) : Node × List BundleData :=
  if b.isType .brokerAnnounce then
    if n.brokerPending = none ∧ n.broker = none then
      ({ n with brokerPending := some b.source }, [n.brokerRequest b.source])
    else (n, [])
  else if b.isType .brokerAck then
    if n.brokerPending = some b.source then
      ({ n with broker := some b.source, brokerPending := none }, [])
    else (n, [])
  else (n, [])

/-- A sequence of discovery bundles handled one after another, with all bundles returned. -/
def discover (n : Node) : List BundleData → Node × List BundleData
  | [] => (n, [])
  | b :: bs =>
    let step := n.handleDiscovery b
    let rest := step.1.discover bs
    (rest.1, step.2 ++ rest.2)

theorem discover_append (n : Node) (bs₁ bs₂ : List BundleData) :
    n.discover (bs₁ ++ bs₂) =
      ((n.discover bs₁).1.discover bs₂ |>.1,
        (n.discover bs₁).2 ++ ((n.discover bs₁).1.discover bs₂).2) := by
  induction bs₁ generalizing n with
  | nil => rfl
  | cons b bs ih => simp [discover, ih]

/-- The two slots are never both set. -/
def NotBoth (n : Node) : Prop := n.brokerPending = none ∨ n.broker = none

/-! ## One step -/

variable {n : Node} {b : BundleData} {X Y : EID}

theorem handleDiscovery_notBoth (h : n.NotBoth) : (n.handleDiscovery b).1.NotBoth := by
  unfold handleDiscovery NotBoth at *
  split_ifs <;> simp_all

/-- An associated node ignores every discovery bundle. -/
theorem handleDiscovery_of_broker (h : n.NotBoth) (hb : n.broker = some X) :
    n.handleDiscovery b = (n, []) := by
  have hp : n.brokerPending = none := by simpa [NotBoth, hb] using h
  unfold handleDiscovery
  split_ifs <;> simp_all

/-- A pending node emits nothing; it stays as it is or becomes associated with its pending
broker. -/
theorem handleDiscovery_of_pending (hp : n.brokerPending = some Y) :
    (n.handleDiscovery b).2 = [] ∧
      ((n.handleDiscovery b).1 = n ∨
        (n.handleDiscovery b).1 = { n with broker := some Y, brokerPending := none }) := by
  unfold handleDiscovery
  split_ifs <;> simp_all

/-- An unassociated node changes only on an announcement, to pending on its source, and then
returns the request to it. -/
theorem handleDiscovery_of_unassociated (hp : n.brokerPending = none) (hb : n.broker = none) :
    n.handleDiscovery b =
      if b.isType .brokerAnnounce then
        ({ n with brokerPending := some b.source }, [n.brokerRequest b.source])
      else (n, []) := by
  unfold handleDiscovery
  split_ifs <;> simp_all

/-- Everything one discovery bundle can do to a node. -/
theorem handleDiscovery_cases (n : Node) (b : BundleData) :
    n.handleDiscovery b = (n, []) ∨
      (b.isType .brokerAnnounce ∧ n.brokerPending = none ∧ n.broker = none ∧
        n.handleDiscovery b = ({ n with brokerPending := some b.source }, [n.brokerRequest b.source])) ∨
      (b.isType .brokerAck ∧ n.brokerPending = some b.source ∧
        n.handleDiscovery b = ({ n with broker := some b.source, brokerPending := none }, [])) := by
  unfold handleDiscovery
  split_ifs <;> simp_all

/-! ## Whole sequences -/

theorem discover_notBoth (h : n.NotBoth) (bs : List BundleData) : (n.discover bs).1.NotBoth := by
  induction bs generalizing n with
  | nil => exact h
  | cons b bs ih => exact ih (handleDiscovery_notBoth h)

theorem discover_of_broker (h : n.NotBoth) (hb : n.broker = some X) (bs : List BundleData) :
    n.discover bs = (n, []) := by
  induction bs with
  | nil => rfl
  | cons b bs ih => simp [discover, handleDiscovery_of_broker h hb, ih]

theorem discover_of_pending (hp : n.brokerPending = some Y) (hb : n.broker = none)
    (bs : List BundleData) :
    (n.discover bs).2 = [] ∧ ((n.discover bs).1.broker = none ∨ (n.discover bs).1.broker = some Y) := by
  induction bs with
  | nil => simp [discover, hb]
  | cons b bs ih =>
    obtain ⟨hout, hstep | hstep⟩ := handleDiscovery_of_pending (b := b) hp
    · simpa [discover, hout, hstep] using ih
    · have := discover_of_broker (n := { n with broker := some Y, brokerPending := none })
        (X := Y) (Or.inl rfl) rfl bs
      simp [discover, hout, hstep, this]

/-- From the unassociated phase at most the request to the first announcement's source is
returned, and an association made is with that source. -/
theorem discover_of_unassociated (hp : n.brokerPending = none) (hb : n.broker = none)
    (bs : List BundleData) :
    (n.discover bs).2.length ≤ 1 ∧
      ∀ X, (n.discover bs).1.broker = some X →
        (n.discover bs).2 = [n.brokerRequest X] ∧
          (bs.find? (·.isType .brokerAnnounce)).map (·.source) = some X := by
  induction bs with
  | nil => simp [discover, hb]
  | cons b bs ih =>
    by_cases ha : b.isType .brokerAnnounce
    · obtain ⟨hout, hbr⟩ := discover_of_pending (n := { n with brokerPending := some b.source })
        rfl hb bs
      simp only [discover, handleDiscovery_of_unassociated hp hb, ha, if_true, hout]
      refine ⟨by simp, fun X hX => ?_⟩
      rcases hbr with h | h <;> rw [h] at hX
      · cases hX
      · cases hX; simp [ha]
    · simpa [discover, handleDiscovery_of_unassociated hp hb, ha] using ih

/-- **Discovery safety.** For a node starting with no pending broker (a Client whose context file
names a broker starts associated): in every state the two slots are not both set; an
association, once made, survives every further bundle; the whole sequence returns at most one
bundle; and an association made by the sequence is with the source of its first
`BROKER_ANNOUNCE`, and the one bundle returned is the `BROKER_REQUEST` from the node to that
source, carrying the node's own type. -/
theorem discover_invariants (n : Node) (hn : n.brokerPending = none) :
    (∀ bs, (n.discover bs).1.brokerPending = none ∨ (n.discover bs).1.broker = none) ∧
      (∀ bs₁ bs₂ X, (n.discover bs₁).1.broker = some X →
        (n.discover (bs₁ ++ bs₂)).1.broker = some X) ∧
      (∀ bs, (n.discover bs).2.length ≤ 1) ∧
      (∀ bs X, n.broker = none → (n.discover bs).1.broker = some X →
        (n.discover bs).2 =
          [{ type := BundleType.brokerRequest.toInt, source := n.nodeId, destination := X,
             nodeType := n.nodeType.toInt }] ∧
          (bs.find? (·.isType .brokerAnnounce)).map (·.source) = some X) := by
  have h0 : n.NotBoth := Or.inl hn
  refine ⟨discover_notBoth h0, fun bs₁ bs₂ X hX => ?_, fun bs => ?_,
    fun bs X hb => (discover_of_unassociated hn hb bs).2 X⟩
  · rw [discover_append, discover_of_broker (discover_notBoth h0 bs₁) hX]
    exact hX
  · cases hb : n.broker with
    | none => exact (discover_of_unassociated hn hb bs).1
    | some X => simp [discover_of_broker h0 hb]

/-- `discover_invariants` for an executor that starts unassociated. -/
theorem discover_invariants_executor :
    let n : Node := { nodeId := ⟨"dtn://exec/"⟩, nodeType := .executor }
    n.brokerPending = none ∧
      (∀ bs, (n.discover bs).1.brokerPending = none ∨ (n.discover bs).1.broker = none) ∧
      (∀ bs₁ bs₂ X, (n.discover bs₁).1.broker = some X →
        (n.discover (bs₁ ++ bs₂)).1.broker = some X) ∧
      (∀ bs, (n.discover bs).2.length ≤ 1) ∧
      (∀ bs X, n.broker = none → (n.discover bs).1.broker = some X →
        (n.discover bs).2 =
          [{ type := BundleType.brokerRequest.toInt, source := n.nodeId, destination := X,
             nodeType := n.nodeType.toInt }] ∧
          (bs.find? (·.isType .brokerAnnounce)).map (·.source) = some X) :=
  ⟨rfl, discover_invariants _ rfl⟩

end Node

end RecDtn
