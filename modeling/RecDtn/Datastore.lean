import RecDtn.Intake
import RecDtn.Storage.Basic
import RecDtn.Node.Discovery

/-!
# The datastore's handlers

A `Datastore` (`src/rec/dtn/datastore.py`) serves named data out of its `Storage`. A
`NDATA_PUT` bundle stores its payload under each of its names and is answered, per name, by a
`NDATA_PUT` bundle whose `success` says whether the name was free; a `NDATA_GET` bundle is
answered by one `NDATA_GET` bundle per `(name, bytes)` that `load_data` returns for each of its
names, a prefix lookup. Discovery bundles go to `Node._handle_discovery`.

* `Datastore.handleBundle_ok` — no bundle makes `Datastore._handle_bundle` raise: the one
  exception its storage calls raise, `NameTakenError`, is caught per name;
* `Datastore.handleBundles_eq_handleEach` — so an intake iteration handles every bundle of its
  batch, one after another;
* `Datastore.handleData_get` — the answers to a `NDATA_GET` for one name, when every blob can be
  read: one bundle per index entry whose name starts with it, in insertion order, carrying that
  entry's name and blob.
-/

namespace RecDtn

/-- The fields of a `Datastore` its handlers read and write. Reference: `datastore.py:10`. -/
structure Datastore where
  node : Node
  storage : Storage

/-- `str(NameTakenError(name))`. Reference: `storage.py:21`. -/
def nameTakenText (name : String) : String := "name " ++ name ++ " already taken"

namespace Datastore

section
variable (sha1 : Bytes → String)

/-- The answer to a `NDATA_PUT` for `name`, before the store is tried.
Reference: `datastore.py:90`. -/
def putResponse (d : Datastore) (b : BundleData) (name : String) : BundleData :=
  { type := BundleType.ndataPut.toInt, source := d.node.nodeId, destination := b.source,
    payload := [], namedData := some (.name name) }

/-- The answer to a `NDATA_GET` for one `(l_name, l_data)` that `load_data` returned.
Reference: `datastore.py:114`. -/
def getResponse (d : Datastore) (b : BundleData) (lName : String) (lData : Bytes) : BundleData :=
  { type := BundleType.ndataGet.toInt, source := d.node.nodeId, destination := b.source,
    payload := lData, namedData := some (.name lName) }

/-- The `for name in bundle.named_data` loop of a `NDATA_PUT`: store the payload under each name,
turning a `NameTakenError` into a failed answer; any other exception leaves the loop. -/
def putNames (b : BundleData) :
    Datastore → List String → Except RecError (List BundleData) × Datastore
  | d, [] => (.ok [], d)
  | d, name :: names =>
    let response := d.putResponse b name
    let stored := d.storage.storeData sha1 name b.payload
    let d' := { d with storage := stored.2 }
    let answer : Except RecError BundleData :=
      match stored.1 with
      | .ok () => .ok response
      | .error (.nameTaken n) => .ok { response with success := false, error := nameTakenText n }
      | .error e => .error e
    match answer with
    | .ok r =>
      let rest := putNames b d' names
      (rest.1.map (r :: ·), rest.2)
    | .error e => (.error e, d')

/-- The `for name in bundle.named_data` loop of a `NDATA_GET`: one answer per `(l_name, l_data)`
that `load_data(name)` returns, name after name. -/
def getNames (b : BundleData) : Datastore → List String → List BundleData × Datastore
  | d, [] => ([], d)
  | d, name :: names =>
    let loaded := d.storage.loadData name
    let rest := getNames b { d with storage := loaded.2 } names
    (loaded.1.map (fun l => d.getResponse b l.1 l.2) ++ rest.1, rest.2)

/-- `Datastore._handle_data`: the answers to a data bundle. A bundle without names is answered by
nothing. Reference: `datastore.py:78`. -/
def handleData (d : Datastore) (b : BundleData) : Except RecError (List BundleData) × Datastore :=
  if b.isType .ndataPut then
    match b.namedData with
    | none => (.ok [], d)
    | some nd => putNames sha1 b d nd.toList
  else if b.isType .ndataGet then
    match b.namedData with
    | none => (.ok [], d)
    | some nd => ((.ok (getNames b d nd.toList).1), (getNames b d nd.toList).2)
  else (.ok [], d)

/-- `BundleType.NDATA_PUT <= bundle.type <= BundleType.NDATA_DEL`. -/
def isData (b : BundleData) : Bool :=
  BundleType.ndataPut.toInt ≤ b.type && b.type ≤ BundleType.ndataDel.toInt

/-- `Datastore._handle_bundle`: dispatch to discovery or to the data handler, then send what it
returned. Reference: `datastore.py:57`. -/
def handleBundle (n : Served Datastore) (b : BundleData) :
    Except RecError Unit × Served Datastore :=
  let disc := if b.isDiscovery then n.state.node.handleDiscovery b else (n.state.node, [])
  let d : Datastore := { n.state with node := disc.1 }
  Served.ofResult n.sent (if isData b then handleData sha1 d b else (.ok disc.2, d))

/-- One iteration of `Datastore._handle_bundles` on a fetched batch.
Reference: `datastore.py:38`. -/
def handleBundles (n : Served Datastore) (bundles : List BundleData) :
    Except RecError Unit × Served Datastore :=
  forEach (handleBundle sha1) n bundles

/-- `Datastore._handle_bundles`: its `while True` loop, one iteration per fetched batch; an
exception ends the iteration and the loop goes on with the next batch.
Reference: `datastore.py:38`. -/
def serve (n : Served Datastore) (batches : List (List BundleData)) : Served Datastore :=
  batches.foldl (fun n bundles => (handleBundles sha1 n bundles).2) n

/-! ## No bundle raises -/

theorem putNames_ok (b : BundleData) :
    ∀ (d : Datastore) (names : List String), ∃ out, (putNames sha1 b d names).1 = .ok out
  | d, [] => ⟨_, rfl⟩
  | d, name :: names => by
    obtain ⟨out, ih⟩ :=
      putNames_ok b { d with storage := (d.storage.storeData sha1 name b.payload).2 } names
    simp only [putNames, Storage.storeData_eq] at ih ⊢
    split_ifs at ih ⊢ <;> simp [ih, Except.map]

theorem handleData_ok (d : Datastore) (b : BundleData) :
    ∃ out, (handleData sha1 d b).1 = .ok out := by
  unfold handleData
  split_ifs
  · cases b.namedData
    · exact ⟨_, rfl⟩
    · exact putNames_ok sha1 b d _
  · cases b.namedData <;> exact ⟨_, rfl⟩
  · exact ⟨_, rfl⟩

/-- **A datastore never raises on a bundle.** -/
theorem handleBundle_ok (n : Served Datastore) (b : BundleData) :
    (handleBundle sha1 n b).1 = .ok () := by
  by_cases h : isData b
  · simp only [handleBundle, h, if_true]
    exact Served.ofResult_fst_of_ok (handleData_ok sha1 _ b).choose_spec
  · simp only [handleBundle, h]
    rfl

/-- **Every bundle of a batch is handled**, one after another: the `try` around the datastore's
whole `for` never fires on a handler's exception, since there is none. -/
theorem handleBundles_eq_handleEach (n : Served Datastore) (bundles : List BundleData) :
    handleBundles sha1 n bundles = (.ok (), handleEach (handleBundle sha1) n bundles) :=
  forEach_eq_handleEach (handleBundle_ok sha1) n bundles

/-- The `_handle_bundles` loop over its batches handles every bundle of the stream they make up,
one after another. -/
theorem serve_eq_handleEach :
    ∀ (n : Served Datastore) (batches : List (List BundleData)),
      serve sha1 n batches = handleEach (handleBundle sha1) n batches.flatten
  | _, [] => rfl
  | n, bs :: bss => by
    show serve sha1 (forEach (handleBundle sha1) n bs).2 bss = _
    rw [forEach_eq_handleEach (handleBundle_ok sha1), serve_eq_handleEach, List.flatten_cons,
      handleEach_append]

/-! ## What a `NDATA_GET` is answered with -/

/-- The answers to a `NDATA_GET` for the names `names`, as `load_data` finds them. -/
theorem handleData_get {d : Datastore} {b : BundleData} (hb : b.isType .ndataGet)
    {names : NamedData} (hn : b.namedData = some names) :
    handleData sha1 d b = (.ok (getNames b d names.toList).1, (getNames b d names.toList).2) := by
  have hp : b.isType .ndataPut = false := BundleData.isType_eq_false hb (by decide)
  simp [handleData, hp, hb, hn]

/-- When every blob can be read, `load_data(name)` returns the entries whose name starts with
`name`, in insertion order, with their blobs. -/
theorem loadData_fst_of_present {s : Storage} (h : s.BlobsPresent) (name : String) :
    (s.loadData name).1 =
      (s.db.filter (fun e => startswith e.name name)).map
        (fun e => (e.name, (s.blobs e.filename).getD [])) := by
  have : ∀ es : List Entry, (∀ e ∈ es, (s.blobs e.filename).isSome) →
      (Storage.readEntries s.blobs es).1 =
        es.map (fun e => (e.name, (s.blobs e.filename).getD [])) := by
    intro es hes
    induction es with
    | nil => rfl
    | cons e es ih =>
      obtain ⟨x, hx⟩ := Option.isSome_iff_exists.1 (hes e (.head _))
      simp [Storage.readEntries, hx, ih fun e he => hes e (.tail _ he)]
  exact this _ fun e he => h e (List.mem_of_mem_filter he)

/-- **The answers to a `NDATA_GET` for one name**: one per indexed entry whose name starts with
it, in insertion order, each carrying the entry's name and blob. -/
theorem getNames_single {d : Datastore} (h : d.storage.BlobsPresent) (b : BundleData)
    (name : String) :
    (getNames b d [name]).1 =
      (d.storage.db.filter (fun e => startswith e.name name)).map
        (fun e => d.getResponse b e.name ((d.storage.blobs e.filename).getD [])) := by
  simp [getNames, loadData_fst_of_present h]

/-- Each answer to a `NDATA_GET` for one name carries the name of an indexed entry that starts
with it, and that entry's blob. -/
theorem mem_getNames_single {d : Datastore} {b r : BundleData} {name : String}
    (hr : r ∈ (getNames b d [name]).1) :
    ∃ e ∈ d.storage.db, startswith e.name name ∧ ∃ data, d.storage.blobs e.filename = some data ∧
      r = d.getResponse b e.name data := by
  simp only [getNames, List.append_nil, List.mem_map] at hr
  obtain ⟨p, hp, rfl⟩ := hr
  obtain ⟨e, he, hname, hblob⟩ := Storage.mem_readEntries hp
  obtain ⟨he, hpre⟩ := List.mem_filter.1 he
  exact ⟨e, he, hpre, p.2, hblob, hname ▸ rfl⟩

end

end Datastore

end RecDtn
