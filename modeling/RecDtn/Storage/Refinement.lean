import RecDtn.Storage.Basic
import Mathlib.Data.Fintype.BigOperators

/-!
# The storage refines an insertion-ordered map

`NamedStore` is what the storage is for: the `(name, bytes)` pairs of the successful
`store_data` calls, in call order, with the spec's four operations on it. `Storage.Represents`
relates a concrete state to the history it stores: the index is that history with each byte
string replaced by its digest, names are unique, the blob files are exactly the indexed
digests, and each blob holds bytes that were stored under some name and hash to its filename.

Every call preserves `Represents` (`Storage.exec_represents`), so it holds after every history
(`Storage.run_representation_invariant`). It does not say that a name's blob holds the bytes
stored under that name: under a digest collision the dedup branch indexes the second name
against the first blob, and `Storage.blob_content_collides` shows that some history does so
for *every* 160-bit digest function, SHA-1 included. With `sha1` injective on the stored byte
strings each blob holds its name's bytes (`Storage.Represents.exact`), and then every call
returns what the map returns (`Storage.run_refines_namedStore`).
-/

namespace RecDtn

section
variable (sha1 : Bytes → String)

/-- The index entry of a stored pair: the name, and the digest of the bytes. -/
def entryOf (p : String × Bytes) : Entry := ⟨p.1, sha1 p.2⟩

end

/-- The store as the spec describes it: the successfully stored pairs, in call order. -/
abbrev NamedStore := List (String × Bytes)

namespace NamedStore

/-- The stored names. -/
def names (m : NamedStore) : List String := m.map Prod.fst

/-- One call on the map: `store_data` appends a fresh name and refuses a taken one; `load_data`
is the prefix filter; `find_missing` the set difference; `copy_to_file` the lookup. -/
def exec (m : NamedStore) : Storage.Call → Storage.Outcome × NamedStore
  | .storeData n d => if n ∈ m.names then (.raised (.nameTaken n), m) else (.stored, m ++ [(n, d)])
  | .loadData p => (.loaded (m.filter (fun q => startswith q.1 p)), m)
  | .findMissing ns => (.missing (ns.filter (· ∉ m.names)), m)
  | .copyToFile n =>
    (match m.lookup n with | some d => .copied d | none => .raised (.noSuchName n), m)

/-- A history of calls on the map. -/
def run (m : NamedStore) : List Storage.Call → List Storage.Outcome × NamedStore
  | [] => ([], m)
  | c :: cs =>
    let step := m.exec c
    let rest := run step.2 cs
    (step.1 :: rest.1, rest.2)

theorem exec_grows (m : NamedStore) (c : Storage.Call) : m <+: (m.exec c).2 := by
  cases c with
  | storeData n d => by_cases hn : n ∈ m.names <;> simp [exec, hn]
  | _ => exact List.prefix_refl m

/-- The map only grows along a history. -/
theorem run_grows (m : NamedStore) (cs : List Storage.Call) : m <+: (m.run cs).2 := by
  induction cs generalizing m with
  | nil => exact List.prefix_refl m
  | cons c cs ih => exact (exec_grows m c).trans (ih _)

/-- `List.lookup` returns the first pair of the name. -/
theorem lookup_eq_head (m : NamedStore) (n : String) :
    m.lookup n = ((m.filter (·.1 == n)).head?).map Prod.snd := by
  induction m with
  | nil => rfl
  | cons q m ih =>
    obtain ⟨k, b⟩ := q
    by_cases hk : k = n
    · subst hk; simp [List.lookup_cons, List.lookup_nil]
    · have hb : (n == k) = false := by simpa using Ne.symm hk
      simp [List.lookup_cons, List.lookup_nil, hb, hk, ih]

end NamedStore

/-! ## The representation invariant -/

section
variable (sha1 : Bytes → String)

/-- The representation invariant of a store whose successful `store_data` calls were `m`. -/
structure Storage.Represents (s : Storage) (m : NamedStore) : Prop where
  /-- No two index entries have the same name. -/
  names_nodup : (s.db.map Entry.name).Nodup
  /-- The index is the history, each byte string replaced by its digest. -/
  db_eq : s.db = m.map (entryOf sha1)
  /-- The blob files are exactly the indexed filenames. -/
  files : ∀ f, (s.blobs f).isSome ↔ f ∈ s.db.map Entry.filename
  /-- Each blob hashes to its filename and holds bytes stored under some name. -/
  content : ∀ f d, s.blobs f = some d → sha1 d = f ∧ ∃ n, (n, d) ∈ m

/-- Each stored name's blob holds exactly the bytes stored under it. -/
def Storage.Exact (s : Storage) (m : NamedStore) : Prop := ∀ p ∈ m, s.blobs (sha1 p.2) = some p.2

variable {sha1} {s : Storage} {m : NamedStore} {n : String} {d : Bytes}

namespace Storage.Represents

theorem empty : Storage.Represents sha1 Storage.empty [] :=
  ⟨List.nodup_nil, rfl, fun _ => by simp [Storage.empty], fun _ _ h => by cases h⟩

theorem db_names (h : s.Represents sha1 m) : s.db.map Entry.name = m.names := by
  simp [h.db_eq, NamedStore.names, entryOf, Function.comp_def]

theorem blobsPresent (h : s.Represents sha1 m) : s.BlobsPresent :=
  fun _ he => (h.files _).2 (List.mem_map_of_mem _ he)

/-- With `sha1` injective on the stored byte strings, a blob that hashes to a name's digest
holds that name's bytes. -/
theorem exact (h : s.Represents sha1 m) (hinj : Set.InjOn sha1 {d | ∃ n, (n, d) ∈ m}) :
    s.Exact sha1 m := by
  intro p hp
  have hf : (s.blobs (sha1 p.2)).isSome := (h.files _).2 <| by
    rw [h.db_eq]; exact List.mem_map_of_mem _ (List.mem_map_of_mem _ hp)
  obtain ⟨d', hd'⟩ := Option.isSome_iff_exists.1 hf
  obtain ⟨hsha, n', hn'⟩ := h.content _ _ hd'
  rw [hd', hinj ⟨n', hn'⟩ ⟨p.1, hp⟩ hsha]

/-- A `store_data` of a fresh name, in the form of `Storage.storeData_eq`, keeps the invariant. -/
theorem storeData (h : s.Represents sha1 m) (hn : n ∉ m.names) :
    Storage.Represents sha1 ⟨s.db ++ [⟨n, sha1 d⟩],
      Function.update s.blobs (sha1 d) (some ((s.blobs (sha1 d)).getD d))⟩ (m ++ [(n, d)]) where
  names_nodup := by
    rw [List.map_append, List.nodup_append]
    exact ⟨h.names_nodup, List.nodup_singleton _, by simpa [h.db_names] using hn⟩
  db_eq := by simp [h.db_eq, entryOf]
  files f := by
    by_cases hf : f = sha1 d
    · subst hf; simp
    · simp [Function.update_noteq hf, h.files, hf]
  content f d' hd' := by
    by_cases hf : f = sha1 d
    · subst hf
      cases hb : s.blobs (sha1 d) with
      | none => simp [hb] at hd'; subst hd'; exact ⟨rfl, n, by simp⟩
      | some x =>
        simp [hb] at hd'; subst hd'
        obtain ⟨h1, n', h2⟩ := h.content _ _ hb
        exact ⟨h1, n', List.mem_append_left _ h2⟩
    · simp only [Function.update_noteq hf] at hd'
      obtain ⟨h1, n', h2⟩ := h.content _ _ hd'
      exact ⟨h1, n', List.mem_append_left _ h2⟩

end Storage.Represents

/-! ## Each call simulates the map -/

namespace Storage

/-- Reading the blobs of a history's entries gives back the history, when each blob is exact. -/
theorem readEntries_map {blobs : String → Option Bytes} :
    ∀ {m' : NamedStore}, (∀ p ∈ m', blobs (sha1 p.2) = some p.2) →
      readEntries blobs (m'.map (entryOf sha1)) = (m', [])
  | [], _ => rfl
  | p :: m', hx => by
    simp [readEntries, entryOf, hx p (.head _), readEntries_map fun q hq => hx q (.tail _ hq)]

theorem loadData_fst (h : s.Represents sha1 m) (hx : s.Exact sha1 m) (p : String) :
    (s.loadData p).1 = m.filter (fun q => startswith q.1 p) := by
  simp only [loadData, h.db_eq, List.filter_map]
  exact congrArg Prod.fst (readEntries_map fun q hq => hx q (List.mem_of_mem_filter hq))

theorem copyToFile_fst (h : s.Represents sha1 m) (hx : s.Exact sha1 m) (n : String) :
    (s.copyToFile n).1 =
      match m.lookup n with | some d => .ok d | none => .error (.noSuchName n) := by
  have hs : s.search n = (m.filter (·.1 == n)).map (entryOf sha1) := by
    simp [search, h.db_eq, List.filter_map, entryOf, Function.comp_def]
  rw [NamedStore.lookup_eq_head]
  unfold copyToFile
  rw [hs]
  cases hq : m.filter (·.1 == n) with
  | nil => rfl
  | cons q qs =>
    have hqm : q ∈ m := List.mem_of_mem_filter (hq ▸ List.mem_cons_self q qs)
    simp [entryOf, hx q hqm]

/-- Every call keeps the invariant; on a refused `store_data` the state is unchanged. -/
theorem exec_represents (h : s.Represents sha1 m) (c : Call) :
    (s.exec sha1 c).2.Represents sha1 (m.exec c).2 := by
  cases c with
  | storeData n d =>
    by_cases hn : n ∈ m.names
    · simpa [exec, NamedStore.exec, storeData_eq, h.db_names, hn] using h
    · simpa [exec, NamedStore.exec, storeData_eq, h.db_names, hn] using h.storeData hn
  | loadData p => simpa [exec, NamedStore.exec, loadData_snd h.blobsPresent] using h
  | findMissing ns => exact h
  | copyToFile n => simpa [exec, NamedStore.exec, copyToFile_snd h.blobsPresent] using h

/-- On an exact store every call returns what the map returns. -/
theorem exec_outcome (h : s.Represents sha1 m) (hx : s.Exact sha1 m) (c : Call) :
    (s.exec sha1 c).1 = (m.exec c).1 := by
  cases c with
  | storeData n d =>
    by_cases hn : n ∈ m.names <;>
      simp [exec, NamedStore.exec, storeData_eq, h.db_names, hn, Outcome.ofExcept]
  | loadData p => simp [exec, NamedStore.exec, loadData_fst h hx]
  | findMissing ns => simp [exec, NamedStore.exec, findMissing_eq, h.db_names]
  | copyToFile n =>
    simp only [exec, NamedStore.exec, copyToFile_fst h hx]
    cases m.lookup n <;> rfl

/-! ## Histories -/

theorem run_represents (h : s.Represents sha1 m) (cs : List Call) :
    (s.run sha1 cs).2.Represents sha1 (m.run cs).2 := by
  induction cs generalizing s m with
  | nil => exact h
  | cons c cs ih => exact ih (exec_represents h c)

/-- Injectivity on the bytes of the whole history makes every intermediate store exact. -/
theorem run_outcomes (h : s.Represents sha1 m) (cs : List Call)
    (hinj : Set.InjOn sha1 {d | ∃ n, (n, d) ∈ (m.run cs).2}) :
    (s.run sha1 cs).1 = (m.run cs).1 := by
  induction cs generalizing s m with
  | nil => rfl
  | cons c cs ih =>
    have hx := h.exact <| hinj.mono <| by
      rintro d ⟨n, hn⟩; exact ⟨n, (NamedStore.run_grows m (c :: cs)).subset hn⟩
    simp only [run, NamedStore.run]
    rw [exec_outcome h hx c, ih (exec_represents h c) hinj]

end Storage
end

/-- **Refinement.** From an empty store, with `sha1` injective on the byte strings stored, every
call of every history returns what the insertion-ordered map returns, and a `store_data` of a
stored name raises `NameTakenError` and leaves the index and the blobs as they are. -/
theorem Storage.run_refines_namedStore (sha1 : Bytes → String) (calls : List Storage.Call)
    (hinj : Set.InjOn sha1 {d | ∃ n, (n, d) ∈ (NamedStore.run [] calls).2}) :
    (Storage.empty.run sha1 calls).1 = (NamedStore.run [] calls).1 ∧
      ∀ n d, n ∈ (NamedStore.run [] calls).2.names →
        (Storage.empty.run sha1 calls).2.exec sha1 (.storeData n d) =
          (.raised (.nameTaken n), (Storage.empty.run sha1 calls).2) := by
  have h : (Storage.empty.run sha1 calls).2.Represents sha1 (NamedStore.run [] calls).2 :=
    Storage.run_represents Storage.Represents.empty calls
  refine ⟨Storage.run_outcomes Storage.Represents.empty calls hinj, fun n d hn => ?_⟩
  simp [Storage.exec, Storage.storeData_eq, h.db_names, hn, Storage.Outcome.ofExcept]


/-- `Storage.run_refines_namedStore` on a history with a refused store and a deduplicated
digest, hashed by a constant. -/
theorem Storage.run_refines_namedStore_refused :
    Set.InjOn (fun _ : Bytes => "d") {d | ∃ n, (n, d) ∈ (NamedStore.run []
        [.storeData "a" [1], .storeData "a" [2], .copyToFile "a", .loadData ""]).2} ∧
      ((Storage.empty.run (fun _ => "d")
          [.storeData "a" [1], .storeData "a" [2], .copyToFile "a", .loadData ""]).1 =
        (NamedStore.run [] [.storeData "a" [1], .storeData "a" [2], .copyToFile "a", .loadData ""]).1 ∧
      ∀ n d, n ∈ (NamedStore.run []
          [.storeData "a" [1], .storeData "a" [2], .copyToFile "a", .loadData ""]).2.names →
        (Storage.empty.run (fun _ => "d")
            [.storeData "a" [1], .storeData "a" [2], .copyToFile "a", .loadData ""]).2.exec
            (fun _ => "d") (.storeData n d) =
          (.raised (.nameTaken n), (Storage.empty.run (fun _ => "d")
            [.storeData "a" [1], .storeData "a" [2], .copyToFile "a", .loadData ""]).2)) := by
  have hinj : Set.InjOn (fun _ : Bytes => "d") {d | ∃ n, (n, d) ∈ (NamedStore.run []
      [.storeData "a" [1], .storeData "a" [2], .copyToFile "a", .loadData ""]).2} := by
    rintro x ⟨_, hx⟩ y ⟨_, hy⟩ _
    simp [NamedStore.run, NamedStore.exec, NamedStore.names] at hx hy
    rw [hx.2, hy.2]
  exact ⟨hinj, Storage.run_refines_namedStore _ _ hinj⟩

/-! ## The invariant over every history -/

/-- **Representation invariant.** After every history from an empty store the state represents
the stored pairs, and from it no call rewrites or removes a blob file. -/
theorem Storage.run_representation_invariant (sha1 : Bytes → String) (calls : List Storage.Call) :
    (Storage.empty.run sha1 calls).2.Represents sha1 (NamedStore.run [] calls).2 ∧
      ∀ c, (Storage.empty.run sha1 calls).2.BlobsExtend
        ((Storage.empty.run sha1 calls).2.exec sha1 c).2 :=
  ⟨Storage.run_represents Storage.Represents.empty calls, fun c => Storage.exec_blobsExtend _ _ c⟩

/-- A name's blob need not hold its bytes: for every 160-bit digest function there are two
byte strings with one digest (pigeonhole over 161-bit inputs), and storing them under two names
leaves the second name indexed against the first blob. -/
theorem Storage.exists_blob_content_ne (digest : Bytes → Fin 160 → Bool)
    (hex : (Fin 160 → Bool) → String) :
    ∃ calls, ∃ p ∈ (NamedStore.run [] calls).2,
      (Storage.empty.run (fun d => hex (digest d)) calls).2.blobs (hex (digest p.2)) ≠
        some p.2 := by
  obtain ⟨bytes, hinj⟩ : ∃ bytes : (Fin 161 → Bool) → Bytes, Function.Injective bytes :=
    ⟨fun f => List.ofFn fun i => if f i then 1 else 0, fun x y he => funext fun i => by
      have h := congrFun (List.ofFn_injective he) i
      revert h; cases x i <;> cases y i <;> decide⟩
  obtain ⟨x, y, hxy, hd⟩ := Fintype.exists_ne_map_eq_of_card_lt (fun f => digest (bytes f))
    (by rw [Fintype.card_fun, Fintype.card_fun, Fintype.card_fin, Fintype.card_fin, Fintype.card_bool]
        exact Nat.pow_lt_pow_succ (by decide))
  refine ⟨[.storeData "a" (bytes x), .storeData "b" (bytes y)], ("b", bytes y), by
    simp [NamedStore.run, NamedStore.exec, NamedStore.names], ?_⟩
  simpa [Storage.run, Storage.exec, Storage.storeData_eq, Storage.empty, hd] using hinj.ne hxy

/-- Part (ii) of the exact-content reading fails: not every history leaves every stored name's
blob holding that name's bytes, whatever the 160-bit digest. -/
theorem Storage.blob_content_collides :
    ¬ ∀ (digest : Bytes → Fin 160 → Bool) (hex : (Fin 160 → Bool) → String)
        (calls : List Storage.Call), ∀ p ∈ (NamedStore.run [] calls).2,
          (Storage.empty.run (fun d => hex (digest d)) calls).2.blobs (hex (digest p.2)) =
            some p.2 := fun h =>
  let ⟨calls, p, hp, hne⟩ := Storage.exists_blob_content_ne (fun _ _ => false) (fun _ => "")
  hne (h (fun _ _ => false) (fun _ => "") calls p hp)

end RecDtn
