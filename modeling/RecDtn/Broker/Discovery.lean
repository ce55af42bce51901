import RecDtn.Node.Discovery

/-!
# Broker discovery

A broker (`src/rec/dtn/broker.py`) announces itself to the broadcast group and records, per node
type, every node whose `BROKER_REQUEST` reaches it, answering with a `BROKER_ACK`. Its
`discovered_nodes` is a dict with one key per `NodeType`, so a request whose `node_type` is no
member raises `KeyError`.
-/

namespace RecDtn

/-- The member of `NodeType` an integer stands for: the keys of `discovered_nodes`. -/
def NodeType.ofInt? (i : Int) : Option NodeType :=
  [NodeType.broker, .executor, .datastore, .client].find? (·.toInt == i)

@[simp] theorem NodeType.ofInt?_toInt (t : NodeType) : NodeType.ofInt? t.toInt = some t := by
  cases t <;> rfl

/-- The fields of a `Broker` that discovery reads and writes. Reference: `broker.py:11`. -/
structure Broker where
  nodeId : EID
  discoveredNodes : NodeType → Finset EID := fun _ => ∅

namespace Broker

/-- The announcement a broker broadcasts every ten seconds. Reference: `broker.py:51`. -/
def announcement (br : Broker) : BundleData :=
  { type := BundleType.brokerAnnounce.toInt, source := br.nodeId,
    destination := broadcastAddress, nodeType := NodeType.broker.toInt }

/-- The `BROKER_ACK` a broker answers a request from `node` with. Reference: `broker.py:143`. -/
def brokerAck (br : Broker) (node : EID) : BundleData :=
  { type := BundleType.brokerAck.toInt, source := br.nodeId, destination := node }

/-- `self.discovered_nodes[t].add(node)`. -/
def record (br : Broker) (t : NodeType) (node : EID) : Broker :=
  { br with discoveredNodes := Function.update br.discoveredNodes t (insert node (br.discoveredNodes t)) }

/-- `Broker._handle_discovery`: the broker's next state and the bundle it returns, or the
exception it raises. Reference: `broker.py:124`. -/
def handleDiscovery (br : Broker) (b : BundleData) :
    Broker × Except RecError (Option BundleData) :=
  if b.isType .brokerAnnounce then (br, .ok none)
  else if b.isType .brokerRequest then
    match NodeType.ofInt? b.nodeType with
    | some t => (br.record t b.source, .ok (some (br.brokerAck b.source)))
    | none => (br, .error (.keyError b.nodeType))
  else (br, .ok none)

/-- The bundles a handler's result sends. -/
def sends : Except RecError (Option BundleData) → List BundleData
  | .ok (some r) => [r]
  | _ => []

/-- A broker changes only on a request of a node type, by recording its source under that type
and acknowledging it. -/
theorem handleDiscovery_cases (br : Broker) (b : BundleData) :
    (br.handleDiscovery b).1 = br ∧ sends (br.handleDiscovery b).2 = [] ∨
      ∃ t, b.isType .brokerRequest ∧ NodeType.ofInt? b.nodeType = some t ∧
        (br.handleDiscovery b).1 = br.record t b.source ∧
        sends (br.handleDiscovery b).2 = [br.brokerAck b.source] := by
  unfold handleDiscovery
  split_ifs with ha hr
  · simp [sends]
  · cases ht : NodeType.ofInt? b.nodeType with
    | none => simp [sends]
    | some t => exact .inr ⟨t, hr, rfl, rfl, rfl⟩
  · simp [sends]

end Broker

end RecDtn
