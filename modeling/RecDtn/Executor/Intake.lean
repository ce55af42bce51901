import RecDtn.Datastore
import RecDtn.Msgpack.Codec

/-!
# The executor's bundle handlers

An `Executor` (`src/rec/dtn/executor.py`) takes jobs in `JOB_SUBMIT` bundles and named data in
`NDATA_GET` bundles. Both handlers write to its `Storage`, and neither catches what `store_data`
raises.

* `Executor.handleJob_raises` — `_handle_job` raises on every bundle: `msgpack.unpackb` returns a
  dict, never a `Job`, and the dict has no attribute `data`. So no job is queued and no request for
  missing data is ever sent;
* `Executor.handleBundle_packedJob` — for a packed job the exception is `AttributeError('data')`,
  and the executor is left as it was.
-/

namespace RecDtn

open Msgpack

/-- The fields of an `Executor` its bundle handlers read and write. Reference: `executor.py:36`. -/
structure Executor where
  node : Node
  storage : Storage

namespace Executor

section
variable (sha1 : Bytes → String)

/-- `Executor._handle_job`: `job: Job = msgpack.unpackb(bundle.payload)` decodes the payload into
plain Python values (a dict for a packed job), and `job.data` raises `AttributeError` on every one
of them: the lines after it, which store the job's data, queue the job and request what is
missing, are never reached. Reference: `executor.py:107`. -/
def handleJob (b : BundleData) : Except RecError (List BundleData) := do
  let _job ← unpackb b.payload
  throw (.attributeError "data")

/-- `for name in bundle.named_data: await self._storage.store_data(name=name, data=...)`, which a
`NameTakenError` leaves. -/
def storeNames (payload : Bytes) : Storage → List String → Except RecError Unit × Storage :=
  forEach (fun s name => s.storeData sha1 name payload)

/-- `Executor._handle_data`: store the payload under each of the bundle's names. A bundle without
names raises `TypeError` at the `for`. Reference: `executor.py:139`. -/
def handleData (e : Executor) (b : BundleData) : Except RecError Unit × Executor :=
  match b.namedData with
  | none => (.error (.typeError "object is not iterable"), e)
  | some nd =>
    let r := storeNames sha1 b.payload e.storage nd.toList
    (r.1, { e with storage := r.2 })

/-- `Executor._handle_bundle`: dispatch on the type, then send what the handler returned.
Reference: `executor.py:87`. -/
def handleBundle (n : Served Executor) (b : BundleData) : Except RecError Unit × Served Executor :=
  let disc := if b.isDiscovery then n.state.node.handleDiscovery b else (n.state.node, [])
  let e : Executor := { n.state with node := disc.1 }
  if b.isType .jobSubmit then Served.ofResult n.sent (handleJob b, e)
  else if b.isType .ndataGet then
    let r := handleData sha1 e b
    Served.ofResult n.sent (r.1.map fun _ => disc.2, r.2)
  else Served.ofResult n.sent (.ok disc.2, e)

/-- One iteration of `Executor._handle_bundles` on a fetched batch. Reference: `executor.py:68`. -/
def handleBundles (n : Served Executor) (bundles : List BundleData) :
    Except RecError Unit × Served Executor :=
  forEach (handleBundle sha1) n bundles

/-! ## Jobs -/

/-- **`_handle_job` raises on every bundle**, whatever its payload: `unpackb` raises, or returns a
value that has no attribute `data`. -/
theorem handleJob_raises (b : BundleData) : ∃ err, handleJob b = .error err := by
  unfold handleJob
  cases unpackb b.payload
  · exact ⟨_, rfl⟩
  · exact ⟨_, rfl⟩

/-- **A packed job is never admitted.** A `JOB_SUBMIT` bundle whose payload is a packed value with
`str` or `bytes` map keys, as a job packed as the map of its fields is, makes `_handle_job` raise
`AttributeError('data')` in every state: no data is stored, no job queued, no request sent, and
the executor is left as it was. -/
theorem handleBundle_packedJob (n : Served Executor) {b : BundleData} (hb : b.isType .jobSubmit)
    {v : Value} (hk : v.keysOk = true) (hv : packb v = .ok b.payload) :
    handleBundle sha1 n b = (.error (.attributeError "data"), n) := by
  have hd : b.isDiscovery = false := by rw [BundleData.isDiscovery_of_isType hb]; rfl
  have hj : handleJob b = .error (.attributeError "data") := by
    simp only [handleJob, unpackb_packb hk hv, bind, Except.bind]
    rfl
  simp [handleBundle, hd, hb, hj, Served.ofResult]

end

end Executor

/-- `Job(JobInfo("m", Capabilities()), {"m": b"\x00"})` submitted as the packed map of its fields. -/
theorem Executor.handleBundle_packedJob_submit :
    let job : Value :=
      .map [(.str "metadata", .map [(.str "wasm_module", .str "m"), (.str "capabilities",
        .map [(.str "cpu_cores", .int 1), (.str "free_cpu_capacity", .int 0),
          (.str "free_memory", .int 0), (.str "free_disk_space", .int 0)])]),
        (.str "data", .map [(.str "m", .bin [0])])]
    let b : BundleData :=
      { type := 11, source := ⟨"dtn://client/"⟩, destination := ⟨"dtn://exec/"⟩,
        payload := match packb job with | .ok bs => bs | .error _ => [] }
    let n : Served Executor := ⟨⟨⟨⟨"dtn://exec/"⟩, .executor, none, none⟩, Storage.empty⟩, []⟩
    b.isType .jobSubmit ∧ job.keysOk = true ∧ packb job = .ok b.payload ∧
      Executor.handleBundle (fun _ => "") n b = (.error (.attributeError "data"), n) := by
  intro job b n
  have hk : job.keysOk = true := rfl
  have hv : packb job = .ok b.payload := rfl
  exact ⟨rfl, hk, hv, Executor.handleBundle_packedJob _ n rfl hk hv⟩

end RecDtn
