import RecDtn.Broker.Discovery
import RecDtn.Intake
import RecDtn.Msgpack.Codec

/-!
# The broker's bundle handler

`Broker._handle_bundle_messages` (`src/rec/dtn/broker.py:66`) is the broker's intake loop. A
`JOB_QUERY` is answered by a `JOB_LIST` carrying the packed lists of completed and queued jobs,
a discovery bundle goes to `Broker._handle_discovery`, anything else is logged and dropped.

* `Broker.handleBundle_ok` — the one bundle that makes the handler raise is a `BROKER_REQUEST`
  whose `node_type` is no `NodeType`: `discovered_nodes[bundle.node_type]` raises `KeyError`;
* `Broker.handleBundleMessages_eq_handleEach` — a batch without such a request is handled whole;
* `Broker.handleBundleMessages_unknownNodeType` — with one, the iteration ends there: no bundle
  after it in the batch is handled, and none is answered.
-/

namespace RecDtn

open Msgpack

namespace Broker

/-- `{"completed": list(self.completed_jobs), "queued": list(self.queued_jobs.queue)}`. Both
collections are empty in every state of a broker: no code of the repository adds to them
(`_schedule_jobs` does nothing after taking its lock). Reference: `broker.py:108`. -/
def jobsReport : Value := .map [(.str "completed", .arr []), (.str "queued", .arr [])]

/-- `Broker._handle_job_query`: the `JOB_LIST` answer. Reference: `broker.py:105`. -/
def handleJobQuery (br : Broker) (b : BundleData) : Except RecError BundleData := do
  let jobsBytes ← packb jobsReport
  pure { type := BundleType.jobList.toInt, source := br.nodeId, destination := b.source,
         submitter := b.submitter, payload := jobsBytes }

/-- `Broker._handle_bundle`: dispatch on the type, then send the reply, if there is one.
Reference: `broker.py:85`. -/
def handleBundle (n : Served Broker) (b : BundleData) : Except RecError Unit × Served Broker :=
  if b.isType .jobQuery then Served.ofResult n.sent ((handleJobQuery n.state b).map ([·]), n.state)
  else if b.isDiscovery then
    let r := n.state.handleDiscovery b
    Served.ofResult n.sent (r.2.map Option.toList, r.1)
  else (.ok (), n)

/-- One iteration of `Broker._handle_bundle_messages` on a fetched batch.
Reference: `broker.py:66`. -/
def handleBundleMessages (n : Served Broker) (bundles : List BundleData) :
    Except RecError Unit × Served Broker :=
  forEach handleBundle n bundles

/-- A `BROKER_REQUEST` whose node type is no member of `NodeType`. -/
def UnknownNodeType (b : BundleData) : Prop :=
  b.isType .brokerRequest ∧ NodeType.ofInt? b.nodeType = none

theorem handleJobQuery_ok (br : Broker) (b : BundleData) : ∃ r, handleJobQuery br b = .ok r :=
  ⟨_, rfl⟩

/-- **The broker raises only on a request of an unknown node type.** -/
theorem handleBundle_ok (n : Served Broker) {b : BundleData} (hb : ¬ UnknownNodeType b) :
    (handleBundle n b).1 = .ok () := by
  unfold handleBundle
  split_ifs with hq hd
  · obtain ⟨r, h⟩ := handleJobQuery_ok n.state b
    exact Served.ofResult_fst_of_ok
      (show ((handleJobQuery n.state b).map ([·]), n.state).1 = .ok [r] by simp [h, Except.map])
  · unfold handleDiscovery
    split_ifs with ha hr
    · rfl
    · cases ht : NodeType.ofInt? b.nodeType
      · exact absurd ⟨hr, ht⟩ hb
      · rfl
    · rfl
  · rfl

/-- **A batch without requests of unknown node types is handled whole**, bundle after bundle. -/
theorem handleBundleMessages_eq_handleEach (n : Served Broker) {bundles : List BundleData}
    (hb : ∀ b ∈ bundles, ¬ UnknownNodeType b) :
    handleBundleMessages n bundles = (.ok (), handleEach handleBundle n bundles) := by
  induction bundles generalizing n with
  | nil => rfl
  | cons b bs ih =>
    have h : handleBundle n b = (.ok (), (handleBundle n b).2) :=
      Prod.ext (handleBundle_ok n (hb b (.head _))) rfl
    rw [handleBundleMessages, forEach_cons_of_ok _ h]
    exact ih _ fun c hc => hb c (.tail _ hc)

/-- A request of an unknown node type raises `KeyError` in every state and changes nothing. -/
theorem handleBundle_unknownNodeType {b : BundleData} (hb : UnknownNodeType b) (n : Served Broker) :
    handleBundle n b = (.error (.keyError b.nodeType), n) := by
  have hq : b.isType .jobQuery = false := BundleData.isType_eq_false hb.1 (by decide)
  have hd : b.isDiscovery = true := by rw [BundleData.isDiscovery_of_isType hb.1]; rfl
  have ha : b.isType .brokerAnnounce = false := BundleData.isType_eq_false hb.1 (by decide)
  simp [handleBundle, hq, hd, handleDiscovery, ha, hb.1, hb.2, Served.ofResult, Except.map]

/-- **A request of an unknown node type ends the iteration**: the broker is left as the bundles
before it left it, and nothing after it in the batch is handled, whatever it is. -/
theorem handleBundleMessages_unknownNodeType (n : Served Broker) (pre post : List BundleData)
    {b : BundleData} (hb : UnknownNodeType b) :
    (handleBundleMessages n (pre ++ b :: post)).2 = (handleBundleMessages n pre).2 :=
  forEach_append_cons_of_raises (fun s => ⟨_, handleBundle_unknownNodeType hb s⟩) n pre post

end Broker

/-- A batch of a client's job query, another broker's announcement, an executor's and a
datastore's requests, and a named-data bundle is handled whole. -/
theorem Broker.handleBundleMessages_eq_handleEach_request :
    let n : Served Broker := ⟨{ nodeId := ⟨"dtn://broker/"⟩ }, []⟩
    let batch : List BundleData :=
      [{ type := 13, source := ⟨"dtn://client/"⟩, destination := ⟨"dtn://broker/"⟩,
         submitter := some ⟨"dtn://client/"⟩ },
       { type := 1, source := ⟨"dtn://other/"⟩, destination := broadcastAddress, nodeType := 1 },
       { type := 2, source := ⟨"dtn://exec/"⟩, destination := ⟨"dtn://broker/"⟩, nodeType := 2 },
       { type := 2, source := ⟨"dtn://store/"⟩, destination := ⟨"dtn://broker/"⟩, nodeType := 3 },
       { type := 21, source := ⟨"dtn://client/"⟩, destination := ⟨"dtn://broker/"⟩,
         payload := [1], namedData := some (.name "a") }]
    (∀ b ∈ batch, ¬ Broker.UnknownNodeType b) ∧
      Broker.handleBundleMessages n batch = (.ok (), handleEach Broker.handleBundle n batch) := by
  intro n batch
  have hb : ∀ b ∈ batch, ¬ Broker.UnknownNodeType b := by
    unfold Broker.UnknownNodeType
    decide
  exact ⟨hb, Broker.handleBundleMessages_eq_handleEach n hb⟩

/-- A request with the default `node_type` 0 ahead of an executor's request: the executor is not
recorded and not acknowledged, where handling each bundle acknowledges it. -/
theorem Broker.handleBundleMessages_unknownNodeType_first :
    let n : Served Broker := ⟨{ nodeId := ⟨"dtn://broker/"⟩ }, []⟩
    let bad : BundleData := { type := 2, source := ⟨"dtn://x/"⟩, destination := ⟨"dtn://broker/"⟩ }
    let good : BundleData :=
      { type := 2, source := ⟨"dtn://exec/"⟩, destination := ⟨"dtn://broker/"⟩, nodeType := 2 }
    Broker.UnknownNodeType bad ∧
      (Broker.handleBundleMessages n ([] ++ bad :: [good])).2 = (Broker.handleBundleMessages n []).2 ∧
      (handleEach Broker.handleBundle n [bad, good]).sent = [n.state.brokerAck good.source] := by
  intro n bad good
  have hb : Broker.UnknownNodeType bad := ⟨rfl, rfl⟩
  exact ⟨hb, Broker.handleBundleMessages_unknownNodeType n [] [good] hb, rfl⟩

end RecDtn
