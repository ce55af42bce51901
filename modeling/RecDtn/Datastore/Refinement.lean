import RecDtn.Datastore
import RecDtn.Storage.Refinement

/-!
# The datastore serves an insertion-ordered map

`NamedServer` is what a datastore is for: a node, and the `(name, bytes)` pairs stored so far, in
the order stored. A `NDATA_PUT` stores its payload under each of its names that is free and
answers each name with whether it was; a `NDATA_GET` answers each of its names with every stored
pair whose name starts with it, oldest first. Discovery bundles go to the node.

`Datastore.Simulates` relates a serving datastore to the server: the same bundles sent, the same
node, and a storage that represents the stored pairs (`Storage.Represents`). Each handler keeps
the relation (`Datastore.putNames_refines`, `Datastore.getNames_refines`,
`Datastore.handleBundle_refines`), so the datastore's `_handle_bundles` loop, over every sequence
of fetched batches, sends exactly what the server sends on the same bundles, provided `sha1` is
injective on the stored bytes (`Datastore.serve_refines`).

What the server is for then holds of the datastore. `NamedServer.Sound` says that every stored pair
was put by a bundle of the stream and every `NDATA_GET` answer sent serves a stored pair; each
bundle keeps it. With the index's names unique, `Datastore.serve_getAnswers` follows: every
`NDATA_GET` answer the datastore sends serves what a `NDATA_PUT` put, and one name is never served
two byte strings.
-/

namespace RecDtn

/-- A datastore as its clients see it: its node and the pairs stored, oldest first. -/
structure NamedServer where
  node : Node
  store : NamedStore

namespace NamedServer

/-- The answer to a `NDATA_PUT` of `name`: whether the name was free, and the text of
`NameTakenError` when it was not. -/
def putAnswer (a : NamedServer) (b : BundleData) (name : String) (free : Bool) : BundleData :=
  { type := BundleType.ndataPut.toInt, source := a.node.nodeId, destination := b.source,
    payload := [], success := free, error := if free then "" else nameTakenText name,
    namedData := some (.name name) }

/-- The answer to a `NDATA_GET` that carries the stored pair `q`. -/
def getAnswer (a : NamedServer) (b : BundleData) (q : String × Bytes) : BundleData :=
  { type := BundleType.ndataGet.toInt, source := a.node.nodeId, destination := b.source,
    payload := q.2, namedData := some (.name q.1) }

/-- A `NDATA_PUT` of `names`: the payload is stored under each free name, and each name is
answered. -/
def put (b : BundleData) : NamedServer → List String → List BundleData × NamedServer
  | a, [] => ([], a)
  | a, name :: names =>
    let free := decide (name ∉ a.store.names)
    let rest := put b (if free then { a with store := a.store ++ [(name, b.payload)] } else a) names
    (a.putAnswer b name free :: rest.1, rest.2)

/-- A `NDATA_GET` of `names`: each name is answered with every stored pair it is a prefix of. -/
def get (a : NamedServer) (b : BundleData) (names : List String) : List BundleData :=
  names.flatMap fun name => (a.store.filter fun q => startswith q.1 name).map (a.getAnswer b)

/-- The answers to a data bundle, and the server after it. -/
def handleData (a : NamedServer) (b : BundleData) : List BundleData × NamedServer :=
  match b.namedData with
  | none => ([], a)
  | some nd =>
    if b.isType .ndataPut then put b a nd.toList
    else if b.isType .ndataGet then (a.get b nd.toList, a)
    else ([], a)

/-- One bundle: discovery goes to the node, data to the store, and the answers are sent. -/
def handleBundle (a : Served NamedServer) (b : BundleData) : Served NamedServer :=
  let disc := if b.isDiscovery then a.state.node.handleDiscovery b else (a.state.node, [])
  let a' : NamedServer := { a.state with node := disc.1 }
  let r := if Datastore.isData b then a'.handleData b else (disc.2, a')
  ⟨r.2, a.sent ++ r.1⟩

/-- The server over a stream of bundles. -/
def serve (a : Served NamedServer) (bundles : List BundleData) : Served NamedServer :=
  bundles.foldl handleBundle a

/-! ## The store only grows -/

theorem put_store_grows (b : BundleData) :
    ∀ (a : NamedServer) (names : List String), a.store <+: (put b a names).2.store
  | a, [] => List.prefix_refl _
  | a, name :: names => by
    by_cases hn : name ∈ a.store.names
    · simpa [put, hn] using put_store_grows b a names
    · simpa [put, hn] using (List.prefix_append _ _).trans
        (put_store_grows b { a with store := a.store ++ [(name, b.payload)] } names)

theorem handleData_store_grows (a : NamedServer) (b : BundleData) :
    a.store <+: (a.handleData b).2.store := by
  unfold handleData
  split
  · exact List.prefix_refl _
  · split_ifs
    · exact put_store_grows b a _
    all_goals exact List.prefix_refl _

theorem handleBundle_store_grows (a : Served NamedServer) (b : BundleData) :
    a.state.store <+: (handleBundle a b).state.store := by
  unfold handleBundle
  generalize (if b.isDiscovery then a.state.node.handleDiscovery b else (a.state.node, [])) = disc
  dsimp only
  split_ifs
  · exact handleData_store_grows ⟨disc.1, a.state.store⟩ b
  · exact List.prefix_refl _

theorem serve_store_grows :
    ∀ (a : Served NamedServer) (bundles : List BundleData),
      a.state.store <+: (serve a bundles).state.store
  | _, [] => List.prefix_refl _
  | a, b :: bs => (handleBundle_store_grows a b).trans (serve_store_grows _ bs)

end NamedServer

namespace Datastore

section
variable (sha1 : Bytes → String)

/-- The datastore's state stands for the server's: the same node, and a storage that represents
the stored pairs. -/
structure Represents (d : Datastore) (a : NamedServer) : Prop where
  node : d.node = a.node
  storage : d.storage.Represents sha1 a.store

/-- A serving datastore simulates the server: the same bundles sent, and states that stand for
one another. -/
structure Simulates (n : Served Datastore) (a : Served NamedServer) : Prop where
  sent : n.sent = a.sent
  state : Represents sha1 n.state a.state

variable {sha1} {d : Datastore} {a : NamedServer} {b : BundleData}

theorem putResponse_eq (h : Represents sha1 d a) (name : String) :
    d.putResponse b name = a.putAnswer b name true := by
  simp [putResponse, NamedServer.putAnswer, h.node]

theorem putResponse_taken (h : Represents sha1 d a) (name : String) :
    { d.putResponse b name with success := false, error := nameTakenText name } =
      a.putAnswer b name false := by
  simp [putResponse, NamedServer.putAnswer, h.node]

theorem getResponse_eq (h : Represents sha1 d a) (q : String × Bytes) :
    d.getResponse b q.1 q.2 = a.getAnswer b q := by
  simp [getResponse, NamedServer.getAnswer, h.node]

/-- **`PUT` refines the server's.** The loop over the names of a `NDATA_PUT` returns the server's
answers and stores what the server stores. -/
theorem putNames_refines (b : BundleData) :
    ∀ {d : Datastore} {a : NamedServer} (names : List String), Represents sha1 d a →
      (putNames sha1 b d names).1 = .ok (NamedServer.put b a names).1 ∧
        Represents sha1 (putNames sha1 b d names).2 (NamedServer.put b a names).2
  | _, _, [], h => ⟨rfl, h⟩
  | d, a, name :: names, h => by
    have hdb := h.storage.db_names
    by_cases hn : name ∈ a.store.names
    · have hs : d.storage.storeData sha1 name b.payload = (.error (.nameTaken name), d.storage) := by
        simp [Storage.storeData_eq, hdb, hn]
      obtain ⟨h1, h2⟩ := putNames_refines b names h
      simp only [putNames, hs, NamedServer.put, hn, not_true_eq_false, decide_False,
        Bool.false_eq_true, if_false, putResponse_taken h]
      exact ⟨by simp [h1, Except.map], h2⟩
    · have hs : (d.storage.storeData sha1 name b.payload).1 = .ok () := by
        simp [Storage.storeData_eq, hdb, hn]
      obtain ⟨h1, h2⟩ := putNames_refines b
        (d := { d with storage := (d.storage.storeData sha1 name b.payload).2 })
        (a := { a with store := a.store ++ [(name, b.payload)] }) names
        ⟨h.node, by simpa [Storage.storeData_eq, hdb, hn] using h.storage.storeData hn⟩
      simp only [putNames, hs, NamedServer.put, hn, not_false_eq_true, decide_True, if_true,
        putResponse_eq h]
      exact ⟨by simp [h1, Except.map], h2⟩

/-- **`GET` refines the server's.** On an exact store, the loop over the names of a `NDATA_GET`
returns the server's answers and changes nothing. -/
theorem getNames_refines (b : BundleData) (h : Represents sha1 d a)
    (hx : d.storage.Exact sha1 a.store) :
    ∀ names : List String, getNames b d names = (a.get b names, d)
  | [] => rfl
  | name :: names => by
    have hd : { d with storage := (d.storage.loadData name).2 } = d := by
      rw [Storage.loadData_snd h.storage.blobsPresent]
    simp only [getNames, hd, getNames_refines b h hx names, NamedServer.get, List.flatMap_cons,
      Storage.loadData_fst h.storage hx, List.map_map]
    congr 2
    exact List.map_congr_left fun q _ => getResponse_eq h q

theorem handleData_refines (h : Represents sha1 d a) (hx : d.storage.Exact sha1 a.store)
    (b : BundleData) :
    (handleData sha1 d b).1 = .ok (a.handleData b).1 ∧
      Represents sha1 (handleData sha1 d b).2 (a.handleData b).2 := by
  unfold handleData NamedServer.handleData
  by_cases hp : b.isType .ndataPut
  · cases b.namedData
    · simpa [hp] using h
    · simpa [hp] using putNames_refines b _ h
  · by_cases hg : b.isType .ndataGet
    · cases b.namedData
      · simpa [hp, hg] using h
      · simpa [hp, hg, getNames_refines b h hx] using h
    · cases b.namedData <;> simpa [hp, hg] using h

/-- **One bundle.** On an exact store, `Datastore._handle_bundle` returns and keeps the
simulation. -/
theorem handleBundle_refines {n : Served Datastore} {a : Served NamedServer}
    (h : Simulates sha1 n a) (hx : n.state.storage.Exact sha1 a.state.store) (b : BundleData) :
    Simulates sha1 (handleBundle sha1 n b).2 (NamedServer.handleBundle a b) := by
  have hnode : n.state.node = a.state.node := h.state.node
  set disc := if b.isDiscovery then a.state.node.handleDiscovery b else (a.state.node, [])
  have hd : Represents sha1 { n.state with node := disc.1 } { a.state with node := disc.1 } :=
    ⟨rfl, h.state.storage⟩
  unfold handleBundle NamedServer.handleBundle
  rw [hnode]
  by_cases hb : isData b
  · obtain ⟨hr, hs⟩ := handleData_refines hd hx b
    simp only [hb, if_true, Served.ofResult_of_ok hr]
    exact ⟨by rw [h.sent], hs⟩
  · simp only [hb]
    exact ⟨by simp [Served.ofResult, h.sent], hd⟩

/-- **A stream of bundles.** With `sha1` injective on the bytes the server ends up storing, every
bundle keeps the simulation. -/
theorem handleEach_refines :
    ∀ {n : Served Datastore} {a : Served NamedServer} (bundles : List BundleData),
      Simulates sha1 n a →
      Set.InjOn sha1 {d | ∃ k, (k, d) ∈ (NamedServer.serve a bundles).state.store} →
      Simulates sha1 (handleEach (handleBundle sha1) n bundles) (NamedServer.serve a bundles)
  | _, _, [], h, _ => h
  | n, a, b :: bs, h, hinj => by
    have hx : n.state.storage.Exact sha1 a.state.store :=
      h.state.storage.exact <| hinj.mono <| by
        rintro _ ⟨k, hk⟩
        exact ⟨k, (NamedServer.serve_store_grows a (b :: bs)).subset hk⟩
    exact handleEach_refines bs (handleBundle_refines h hx b) hinj

end

/-- **The datastore refines the named-data server.** From a fresh storage, over every sequence of
batches that `_handle_bundles` fetches, with `sha1` injective on the bytes stored, the datastore
hands the agent exactly the bundles the server sends on the same bundles in the same order, keeps
the server's node, and its storage represents the server's stored pairs. -/
theorem serve_refines (sha1 : Bytes → String) (node : Node) (batches : List (List BundleData))
    (hinj : Set.InjOn sha1
      {d | ∃ k, (k, d) ∈ (NamedServer.serve ⟨⟨node, []⟩, []⟩ batches.flatten).state.store}) :
    Simulates sha1 (serve sha1 ⟨⟨node, Storage.empty⟩, []⟩ batches)
      (NamedServer.serve ⟨⟨node, []⟩, []⟩ batches.flatten) := by
  rw [serve_eq_handleEach]
  refine handleEach_refines _ ?_ hinj
  exact ⟨rfl, rfl, Storage.Represents.empty⟩

/-- A datastore's node at `dtn://store/`, not yet associated with a broker. -/
def storeNode : Node := ⟨⟨"dtn://store/"⟩, .datastore, none, none⟩

/-- A client's `NDATA_PUT` of the byte `1` under the name `a`. -/
def putA : BundleData :=
  { type := BundleType.ndataPut.toInt, source := ⟨"dtn://c/"⟩, destination := ⟨"dtn://store/"⟩,
    payload := [1], namedData := some (.name "a") }

/-- The client's `NDATA_GET` of the name `a`. -/
def getA : BundleData :=
  { type := BundleType.ndataGet.toInt, source := ⟨"dtn://c/"⟩, destination := ⟨"dtn://store/"⟩,
    namedData := some (.name "a") }

/-- With every digest the same, `putA` then `getA` stores one pair, so the digest is injective on
what is stored. -/
theorem putGet_injOn : Set.InjOn (fun _ : Bytes => "d")
    {d | ∃ k, (k, d) ∈ (NamedServer.serve ⟨⟨storeNode, []⟩, []⟩ [putA, getA]).state.store} := by
  rintro x ⟨_, hx⟩ y ⟨_, hy⟩ _
  have hs : (NamedServer.serve ⟨⟨storeNode, []⟩, []⟩ [putA, getA]).state.store = [("a", [1])] := by
    decide
  rw [hs, List.mem_singleton, Prod.mk.injEq] at hx hy
  rw [hx.2, hy.2]

/-- `putA`, then `getA` in the next batch, with every digest the same. -/
theorem serve_refines_putGet :
    Set.InjOn (fun _ : Bytes => "d")
      {d | ∃ k, (k, d) ∈ (NamedServer.serve ⟨⟨storeNode, []⟩, []⟩ [putA, getA]).state.store} ∧
    Simulates (fun _ => "d") (serve (fun _ => "d") ⟨⟨storeNode, Storage.empty⟩, []⟩ [[putA], [getA]])
      (NamedServer.serve ⟨⟨storeNode, []⟩, []⟩ [putA, getA]) :=
  ⟨putGet_injOn, serve_refines _ _ [[putA], [getA]] putGet_injOn⟩

end Datastore

/-! ## What the datastore serves -/

namespace NamedServer

/-- `p` is a `NDATA_PUT` that puts the pair `q`: its payload under one of its names. -/
def Puts (p : BundleData) (q : String × Bytes) : Prop :=
  p.isType .ndataPut ∧ (∃ nd, p.namedData = some nd ∧ q.1 ∈ nd.toList) ∧ p.payload = q.2

/-- `r` is a `NDATA_GET` answer that serves the pair `q`. -/
def Serves (r : BundleData) (q : String × Bytes) : Prop :=
  r.isType .ndataGet ∧ r.namedData = some (.name q.1) ∧ r.payload = q.2

/-- What a server that has handled `stream` holds and has sent: each stored pair was put by a
bundle of the stream, and each `NDATA_GET` answer sent serves a stored pair. -/
structure Sound (stream : List BundleData) (a : Served NamedServer) : Prop where
  stored : ∀ q ∈ a.state.store, ∃ p ∈ stream, Puts p q
  served : ∀ r ∈ a.sent, r.isType .ndataGet → ∃ q ∈ a.state.store, Serves r q

theorem mem_put_store (b : BundleData) :
    ∀ (a : NamedServer) (names : List String) {q : String × Bytes},
      q ∈ (put b a names).2.store → q ∈ a.store ∨ q.1 ∈ names ∧ q.2 = b.payload
  | _, [], _, hq => .inl hq
  | a, name :: names, q, hq => by
    by_cases hn : name ∈ a.store.names
    · simp only [put, hn, not_true_eq_false, decide_False, Bool.false_eq_true, if_false] at hq
      exact (mem_put_store b a names hq).imp_right fun h => ⟨.tail _ h.1, h.2⟩
    · simp only [put, hn, not_false_eq_true, decide_True, if_true] at hq
      rcases mem_put_store b _ names hq with h | h
      · rcases List.mem_append.1 h with h | h
        · exact .inl h
        · obtain rfl := List.mem_singleton.1 h
          exact .inr ⟨.head _, rfl⟩
      · exact .inr ⟨.tail _ h.1, h.2⟩

theorem not_ndataGet_of_mem_put {b r : BundleData} :
    ∀ {a : NamedServer} {names : List String}, r ∈ (put b a names).1 → r.isType .ndataGet = false
  | _, [], hr => nomatch hr
  | _, _ :: _, hr => by
    rcases List.mem_cons.1 hr with rfl | hr
    · rfl
    · exact not_ndataGet_of_mem_put hr

theorem serves_of_mem_get {a : NamedServer} {b r : BundleData} {names : List String}
    (hr : r ∈ a.get b names) : ∃ q ∈ a.store, Serves r q := by
  simp only [get, List.mem_flatMap, List.mem_map, List.mem_filter] at hr
  obtain ⟨_, _, q, ⟨hq, _⟩, rfl⟩ := hr
  exact ⟨q, hq, rfl, rfl, rfl⟩

/-- A data bundle stores only what it puts, and answers `NDATA_GET` only with stored pairs. -/
theorem handleData_sound (a : NamedServer) (b : BundleData) :
    (∀ q ∈ (a.handleData b).2.store, q ∈ a.store ∨ Puts b q) ∧
      ∀ r ∈ (a.handleData b).1, r.isType .ndataGet → ∃ q ∈ a.store, Serves r q := by
  unfold handleData
  rcases hnd : b.namedData with _ | nd
  · exact ⟨fun q hq => .inl hq, fun _ hr => nomatch hr⟩
  by_cases hp : b.isType .ndataPut
  · simp only [hp, if_true]
    refine ⟨fun q hq => (mem_put_store b a _ hq).imp_right fun h => ⟨hp, ⟨nd, hnd, h.1⟩, h.2.symm⟩,
      fun r hr hg => ?_⟩
    rw [not_ndataGet_of_mem_put hr] at hg
    cases hg
  · by_cases hg : b.isType .ndataGet
    · simp only [hp, hg, if_true, Bool.false_eq_true, if_false]
      exact ⟨fun q hq => .inl hq, fun _ hr _ => serves_of_mem_get hr⟩
    · simp only [hp, hg, Bool.false_eq_true, if_false]
      exact ⟨fun q hq => .inl hq, fun _ hr => nomatch hr⟩

theorem not_ndataGet_of_mem_handleDiscovery {n : Node} {b r : BundleData}
    (hr : r ∈ (n.handleDiscovery b).2) : r.isType .ndataGet = false := by
  rcases Node.handleDiscovery_cases n b with h | ⟨-, -, -, h⟩ | ⟨-, -, h⟩ <;> rw [h] at hr
  · cases hr
  · rw [List.mem_singleton.1 hr]
    rfl
  · cases hr

/-- A fresh server has stored and sent nothing. -/
theorem Sound.init (node : Node) : Sound [] ⟨⟨node, []⟩, []⟩ where
  stored _ h := by cases h
  served _ h := by cases h

/-- A step that grows the store by pairs `b` puts, and sends `NDATA_GET` answers only for pairs
stored before it, keeps the server sound. -/
theorem Sound.step {pre : List BundleData} {a : Served NamedServer} {b : BundleData}
    (h : Sound pre a) {a' : NamedServer} {out : List BundleData}
    (hgrow : a.state.store <+: a'.store) (hst : ∀ q ∈ a'.store, q ∈ a.state.store ∨ Puts b q)
    (hout : ∀ r ∈ out, r.isType .ndataGet → ∃ q ∈ a.state.store, Serves r q) :
    Sound (pre ++ [b]) ⟨a', a.sent ++ out⟩ where
  stored q hq := (hst q hq).elim
    (fun hq => let ⟨p, hp, hpq⟩ := h.stored q hq; ⟨p, List.mem_append_left _ hp, hpq⟩)
    fun hb => ⟨b, List.mem_append_right _ (.head _), hb⟩
  served r hr hg := by
    obtain ⟨q, hq, hs⟩ := (List.mem_append.1 hr).elim (h.served r · hg) (hout r · hg)
    exact ⟨q, hgrow.subset hq, hs⟩

/-- **One bundle keeps the server sound.** -/
theorem Sound.handleBundle {pre : List BundleData} {a : Served NamedServer} (h : Sound pre a)
    (b : BundleData) : Sound (pre ++ [b]) (NamedServer.handleBundle a b) := by
  have hdisc : ∀ r ∈ (if b.isDiscovery then a.state.node.handleDiscovery b
      else (a.state.node, [])).2, r.isType .ndataGet = false := by
    split_ifs
    · exact fun _ hr => not_ndataGet_of_mem_handleDiscovery hr
    · exact fun _ hr => nomatch hr
  have hgrow := handleBundle_store_grows a b
  revert hdisc hgrow
  unfold NamedServer.handleBundle
  generalize (if b.isDiscovery then a.state.node.handleDiscovery b else (a.state.node, [])) = disc
  intro hdisc hgrow
  dsimp only at hgrow ⊢
  split_ifs at hgrow ⊢
  · obtain ⟨hst, hout⟩ := handleData_sound ⟨disc.1, a.state.store⟩ b
    exact h.step hgrow hst hout
  · refine h.step hgrow (fun q hq => .inl hq) fun r hr hg => ?_
    rw [hdisc r hr] at hg
    cases hg

/-- **A whole stream keeps the server sound.** -/
theorem Sound.serve :
    ∀ {pre : List BundleData} {a : Served NamedServer} (bundles : List BundleData), Sound pre a →
      Sound (pre ++ bundles) (NamedServer.serve a bundles)
  | _, _, [], h => by simpa using h
  | _, a, b :: bs, h => by simpa using Sound.serve bs (h.handleBundle b)

end NamedServer

namespace Datastore

/-- **The datastore serves what was put, and one byte string per name.** From a fresh storage,
over every sequence of batches `_handle_bundles` fetches, with `sha1` injective on the bytes
stored: every `NDATA_GET` answer the datastore hands the agent serves a pair that a `NDATA_PUT`
of the stream put, and any two `NDATA_GET` answers it sends for one name carry the same bytes. -/
theorem serve_getAnswers (sha1 : Bytes → String) (node : Node) (batches : List (List BundleData))
    (hinj : Set.InjOn sha1
      {d | ∃ k, (k, d) ∈ (NamedServer.serve ⟨⟨node, []⟩, []⟩ batches.flatten).state.store}) :
    ∀ r ∈ (serve sha1 ⟨⟨node, Storage.empty⟩, []⟩ batches).sent, r.isType .ndataGet →
      ∃ q, NamedServer.Serves r q ∧ (∃ p ∈ batches.flatten, NamedServer.Puts p q) ∧
        ∀ r' ∈ (serve sha1 ⟨⟨node, Storage.empty⟩, []⟩ batches).sent, r'.isType .ndataGet →
          r'.namedData = r.namedData → r'.payload = r.payload := by
  have hsim := handleEach_refines (n := ⟨⟨node, Storage.empty⟩, []⟩) batches.flatten
    ⟨rfl, rfl, Storage.Represents.empty⟩ hinj
  rw [← serve_eq_handleEach] at hsim
  have hsound := NamedServer.Sound.serve batches.flatten (NamedServer.Sound.init node)
  have hnodup := hsim.state.storage.db_names ▸ hsim.state.storage.names_nodup
  intro r hr hg
  rw [hsim.sent] at hr
  obtain ⟨q, hq, hs⟩ := hsound.served r hr hg
  refine ⟨q, hs, hsound.stored q hq, fun r' hr' hg' hn => ?_⟩
  rw [hsim.sent] at hr'
  obtain ⟨q', hq', hs'⟩ := hsound.served r' hr' hg'
  have hname : q'.1 = q.1 := by
    have := hs'.2.1.symm.trans (hn.trans hs.2.1)
    simpa using this
  rw [hs'.2.2, hs.2.2, List.inj_on_of_nodup_map hnodup hq' hq hname]

/-- `putA`, then `getA` in the next batch, with every digest the same: the answer to `getA`
serves the pair `putA` put. -/
theorem serve_getAnswers_putGet :
    Set.InjOn (fun _ : Bytes => "d")
      {d | ∃ k, (k, d) ∈ (NamedServer.serve ⟨⟨storeNode, []⟩, []⟩ [putA, getA]).state.store} ∧
    ∀ r ∈ (serve (fun _ => "d") ⟨⟨storeNode, Storage.empty⟩, []⟩ [[putA], [getA]]).sent,
      r.isType .ndataGet →
        ∃ q, NamedServer.Serves r q ∧ (∃ p ∈ [putA, getA], NamedServer.Puts p q) ∧
          ∀ r' ∈ (serve (fun _ => "d") ⟨⟨storeNode, Storage.empty⟩, []⟩ [[putA], [getA]]).sent,
            r'.isType .ndataGet → r'.namedData = r.namedData → r'.payload = r.payload :=
  ⟨putGet_injOn, serve_getAnswers _ _ [[putA], [getA]] putGet_injOn⟩

end Datastore

end RecDtn
