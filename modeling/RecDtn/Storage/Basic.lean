import RecDtn.Basic

/-!
# The named-data storage engine

`Storage` (`src/rec/dtn/storage.py`) maps names to blobs: a TinyDB table of documents
`{"name": ..., "filename": ...}`, kept in insertion order, and a blob directory whose files are
named by the SHA-1 hex digest of their content. The digest is a parameter `sha1`; the model
commits to nothing about it.

Each call runs under the storage's reader/writer lock, so calls are atomic with respect to each
other and a history of calls is a sequence (`Storage.run`). The blob directory is a partial map
from filenames to contents: a file is written only where none exists (`storeData`), and no call
removes one.
-/

namespace RecDtn

/-- A document of the name index. -/
structure Entry where
  name : String
  filename : String
deriving DecidableEq, Repr

/-- The state of a `Storage`: the index table in insertion order, and the blob directory. -/
structure Storage where
  db : List Entry
  blobs : String → Option Bytes

/-- A freshly created store. Reference: `Storage.__init__` (`storage.py:48`). -/
def Storage.empty : Storage := ⟨[], fun _ => none⟩

section
variable (sha1 : Bytes → String)

namespace Storage

/-- `self._db.search(db_data.name == name)`. -/
def search (s : Storage) (name : String) : List Entry := s.db.filter (·.name == name)

/-- `self._db.insert({"name": name, "filename": filename})`. -/
def insert (s : Storage) (name filename : String) : Storage :=
  { s with db := s.db ++ [⟨name, filename⟩] }

/-- Writing `data` to `<blob_dir>/<filename>`. -/
def writeBlob (s : Storage) (filename : String) (data : Bytes) : Storage :=
  { s with blobs := Function.update s.blobs filename (some data) }

/-- `store_data(name, data)`: raise `NameTakenError` if the name is indexed; otherwise write the
blob unless a file of that digest exists (dedup), then index the name.
Reference: `Storage.store_data` (`storage.py:63`). -/
def storeData (s : Storage) (name : String) (data : Bytes) : Except RecError Unit × Storage :=
  if s.search name ≠ [] then (.error (.nameTaken name), s)
  else
    let filename := sha1 data
    if (s.blobs filename).isSome then (.ok (), s.insert name filename)
    else (.ok (), (s.writeBlob filename data).insert name filename)

/-- `_cleanup(names)`: remove every index entry whose *name* is one of `names`.
Reference: `Storage._cleanup` (`storage.py:195`). -/
def cleanup (s : Storage) (names : List String) : Storage :=
  { s with db := s.db.filter (fun e => e.name ∉ names) }

/-- The `for entry in entries` loop of `load_data`: the `(name, data)` pairs of the blobs that
could be read, and the filenames whose read raised `FileNotFoundError`. -/
def readEntries (blobs : String → Option Bytes) : List Entry → List (String × Bytes) × List String
  | [] => ([], [])
  | e :: es =>
    let rest := readEntries blobs es
    match blobs e.filename with
    | some data => ((e.name, data) :: rest.1, rest.2)
    | none => (rest.1, e.filename :: rest.2)

/-- What the read loop returns is read from the blob of one of the entries. -/
theorem mem_readEntries {blobs : String → Option Bytes} {p : String × Bytes} :
    ∀ {es : List Entry}, p ∈ (readEntries blobs es).1 → ∃ e ∈ es, p.1 = e.name ∧ blobs e.filename = some p.2
  | e :: es, h => by
    simp only [readEntries] at h
    split at h
    · next data hd =>
      rcases List.mem_cons.1 h with rfl | h
      · exact ⟨e, .head _, rfl, hd⟩
      · obtain ⟨e', he', h'⟩ := mem_readEntries h
        exact ⟨e', .tail _ he', h'⟩
    · obtain ⟨e', he', h'⟩ := mem_readEntries h
      exact ⟨e', .tail _ he', h'⟩

/-- `load_data(name)`: every indexed entry whose name starts with `name`, read from its blob;
the filenames found missing are passed to `_cleanup` after the reader lock is released.
Reference: `Storage.load_data` (`storage.py:98`). -/
def loadData (s : Storage) (name : String) : List (String × Bytes) × Storage :=
  let entries := s.db.filter (fun e => startswith e.name name)
  let read := readEntries s.blobs entries
  (read.1, if read.2 ≠ [] then s.cleanup read.2 else s)

/-- `find_missing(names)`: the names with no index entry.
Reference: `Storage.find_missing` (`storage.py:141`). -/
def findMissing (s : Storage) (names : Finset String) : Finset String :=
  if names = ∅ then ∅ else names.filter (fun n => s.search n = [])

/-- `copy_to_file(name, destination)`: the bytes written to `destination`, from the blob of the
first entry named `name`; a missing blob removes (by name) the entries named by its filename and
raises `NoSuchNameError`. Reference: `Storage.copy_to_file` (`storage.py:164`). -/
def copyToFile (s : Storage) (name : String) : Except RecError Bytes × Storage :=
  match s.search name with
  | [] => (.error (.noSuchName name), s)
  | e :: _ =>
    match s.blobs e.filename with
    | some data => (.ok data, s)
    | none => (.error (.noSuchName name), s.cleanup [e.filename])

/-! ## One lemma per operation -/

variable {s : Storage} {n : String}

theorem search_eq_nil_iff : s.search n = [] ↔ n ∉ s.db.map Entry.name := by
  simp [search, List.filter_eq_nil_iff]

/-- `store_data` in one equation: the dedup branch leaves the blob of an existing digest as it
is, which is what the update to `getD` says. -/
theorem storeData_eq (s : Storage) (n : String) (d : Bytes) :
    s.storeData sha1 n d =
      if n ∈ s.db.map Entry.name then (.error (.nameTaken n), s)
      else (.ok (), ⟨s.db ++ [⟨n, sha1 d⟩],
        Function.update s.blobs (sha1 d) (some ((s.blobs (sha1 d)).getD d))⟩) := by
  unfold storeData
  by_cases hn : n ∈ s.db.map Entry.name
  · simp [hn, search_eq_nil_iff]
  · simp only [hn, search_eq_nil_iff, not_not, if_false, ne_eq, not_true]
    cases h : s.blobs (sha1 d) with
    | none => rfl
    | some x => simp [insert, h, Function.update_eq_self_iff]

/-- `store_data` of a name already indexed raises and changes nothing. -/
theorem storeData_of_mem (h : n ∈ s.db.map Entry.name) (d : Bytes) :
    s.storeData sha1 n d = (.error (.nameTaken n), s) := by
  rw [storeData_eq, if_pos h]

/-- `store_data(n, d)` indexes `n` and no other name, whether it raises or not. -/
theorem mem_storeData_names (d : Bytes) {x : String} :
    x ∈ (s.storeData sha1 n d).2.db.map Entry.name ↔ x ∈ s.db.map Entry.name ∨ x = n := by
  rw [storeData_eq]
  split_ifs with h
  · exact ⟨.inl, fun h' => h'.elim id (· ▸ h)⟩
  · simp

/-- When every blob can be read, the read loop finds nothing missing. -/
theorem readEntries_snd_eq_nil {blobs : String → Option Bytes} :
    ∀ {es : List Entry}, (∀ e ∈ es, (blobs e.filename).isSome) → (readEntries blobs es).2 = []
  | [], _ => rfl
  | e :: es, h => by
    obtain ⟨x, hx⟩ := Option.isSome_iff_exists.1 (h e (.head _))
    simp [readEntries, hx, readEntries_snd_eq_nil fun e he => h e (.tail _ he)]

/-- Every indexed entry has its blob file: nothing was removed from the blob directory. -/
def BlobsPresent (s : Storage) : Prop := ∀ e ∈ s.db, (s.blobs e.filename).isSome

theorem loadData_snd (h : s.BlobsPresent) (p : String) : (s.loadData p).2 = s := by
  simp [loadData, readEntries_snd_eq_nil fun e he => h e (List.mem_of_mem_filter he)]

theorem copyToFile_snd (h : s.BlobsPresent) (n : String) : (s.copyToFile n).2 = s := by
  unfold copyToFile
  split
  · rfl
  · next e es he =>
    obtain ⟨x, hx⟩ := Option.isSome_iff_exists.1
      (h e (List.mem_of_mem_filter (he ▸ List.mem_cons_self e es)))
    simp [hx]

/-- `copy_to_file` raises nothing but `NoSuchNameError` of its name. -/
theorem copyToFile_fst_error {e : RecError} (h : (s.copyToFile n).1 = .error e) :
    e = .noSuchName n := by
  unfold copyToFile at h
  split at h
  · cases h; rfl
  · split at h <;> cases h; rfl

/-- A `copy_to_file` that returns read an indexed name and changed nothing. -/
theorem copyToFile_ok {d : Bytes} (h : (s.copyToFile n).1 = .ok d) :
    (s.copyToFile n).2 = s ∧ n ∈ s.db.map Entry.name := by
  unfold copyToFile at h ⊢
  split at h
  · cases h
  · next e es he =>
    refine ⟨?_, not_not.1 fun hn => by simp [search_eq_nil_iff.2 hn] at he⟩
    cases hb : s.blobs e.filename <;> simp [hb] at h ⊢

/-- With every blob in place, `copy_to_file` of an indexed name returns and changes nothing. -/
theorem copyToFile_of_mem (h : s.BlobsPresent) (hn : n ∈ s.db.map Entry.name) :
    ∃ d, s.copyToFile n = (.ok d, s) := by
  unfold copyToFile
  split
  · next he => exact absurd (search_eq_nil_iff.1 he) (not_not.2 hn)
  · next e es he =>
    obtain ⟨d, hd⟩ := Option.isSome_iff_exists.1
      (h e (List.mem_of_mem_filter (he ▸ List.mem_cons_self e es)))
    exact ⟨d, by simp [hd]⟩

/-- `find_missing` is the set difference with the indexed names; its early return on an empty
set agrees with it. -/
theorem findMissing_eq (s : Storage) (ns : Finset String) :
    s.findMissing ns = ns.filter (· ∉ s.db.map Entry.name) := by
  unfold findMissing
  split
  · next h => simp [h]
  · exact Finset.filter_congr fun _ _ => search_eq_nil_iff

end Storage

/-! ## Histories of calls -/

/-- A call on the storage's public interface. -/
inductive Storage.Call
  | storeData (name : String) (data : Bytes)
  | loadData (name : String)
  | findMissing (names : Finset String)
  | copyToFile (name : String)

/-- What a call returns, or the exception it raises. -/
inductive Storage.Outcome
  | stored
  | loaded (data : List (String × Bytes))
  | missing (names : Finset String)
  | copied (data : Bytes)
  | raised (e : RecError)
deriving DecidableEq

/-- An `Except` result of a call as an outcome. -/
def Storage.Outcome.ofExcept {α : Type} (f : α → Storage.Outcome) :
    Except RecError α → Storage.Outcome
  | .ok a => f a
  | .error e => .raised e

/-- One call on a store. -/
def Storage.exec (s : Storage) : Storage.Call → Storage.Outcome × Storage
  | .storeData n d =>
    (.ofExcept (fun _ => .stored) (s.storeData sha1 n d).1, (s.storeData sha1 n d).2)
  | .loadData n => (.loaded (s.loadData n).1, (s.loadData n).2)
  | .findMissing ns => (.missing (s.findMissing ns), s)
  | .copyToFile n => (.ofExcept .copied (s.copyToFile n).1, (s.copyToFile n).2)

/-- A history of calls on a store, with the outcome of each. -/
def Storage.run (s : Storage) : List Storage.Call → List Storage.Outcome × Storage
  | [] => ([], s)
  | c :: cs =>
    let step := s.exec sha1 c
    let rest := step.2.run cs
    (step.1 :: rest.1, rest.2)

/-- Every file of `s` is in `s'` with the same content: no blob file is rewritten or removed. -/
def Storage.BlobsExtend (s s' : Storage) : Prop := ∀ f d, s.blobs f = some d → s'.blobs f = some d

/-- No call rewrites or removes a blob file, from any state: `store_data` writes only where no
file of the digest exists, and `_cleanup` touches the index alone. -/
theorem Storage.exec_blobsExtend (s : Storage) (c : Storage.Call) : s.BlobsExtend (s.exec sha1 c).2 := by
  intro f x hx
  cases c with
  | storeData n d =>
    simp only [Storage.exec, Storage.storeData_eq]
    split
    · exact hx
    · by_cases hf : f = sha1 d
      · subst hf; simp [hx]
      · simpa [Function.update_noteq hf] using hx
  | loadData p => simp only [Storage.exec, Storage.loadData]; split <;> exact hx
  | findMissing ns => exact hx
  | copyToFile n =>
    simp only [Storage.exec, Storage.copyToFile]
    split
    · exact hx
    · split <;> exact hx

end

end RecDtn
