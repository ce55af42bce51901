import RecDtn.Storage.Basic

/-!
# The store when its blob directory misbehaves

Two things can happen to the blob directory that the storage's own calls never do: a blob file is
deleted from outside, and writing a blob fails part way. `Storage` answers the first by
*self-healing*: `load_data` and `copy_to_file` pass what they found missing to `_cleanup`. They
pass the blobs' *filenames*, the SHA-1 digests, and `_cleanup` removes the entries whose *name* is
one of them (`storage.py:136`, `:192`, `:205`). So the stale entries stay, and an entry that
happens to be named by a missing digest goes.

A failed write leaves what reached the file before the error, and no index entry. The next
`store_data` of the same bytes finds a file of their digest and takes the dedup branch, which
trusts it.

* `Storage.loadData_db` — after `load_data(p)`, the index is the old one without the entries
  whose name is the filename of a blob found missing;
* `Storage.loadData_copyToFile_stale` — a stale entry survives both repairs, and an entry named by
  a missing digest does not survive `load_data`;
* `Storage.storeDataWith_failsAfter` — a failed blob write leaves a partial blob, and every later
  store of the same bytes, after any calls, indexes its name against it.
-/

namespace RecDtn

namespace Storage

section
variable (sha1 : Bytes → String) {s : Storage}

/-! ## Self-healing -/

/-- The read loop finds missing the filenames of the entries whose blob is gone, in order. -/
theorem readEntries_snd (blobs : String → Option Bytes) :
    ∀ es : List Entry,
      (readEntries blobs es).2 = (es.filter (fun e => (blobs e.filename).isNone)).map Entry.filename
  | [] => rfl
  | e :: es => by
    cases h : blobs e.filename <;> simp [readEntries, h, readEntries_snd blobs es]

/-- The read loop returns the blob of every entry whose blob is there. -/
theorem mem_readEntries_of_mem {blobs : String → Option Bytes} {e : Entry} {d : Bytes}
    (hd : blobs e.filename = some d) : ∀ {es : List Entry}, e ∈ es → (e.name, d) ∈ (readEntries blobs es).1
  | e' :: es, he => by
    simp only [readEntries]
    rcases List.mem_cons.1 he with rfl | he
    · simp [hd]
    · have ih := mem_readEntries_of_mem hd he
      split <;> simp [ih]

theorem cleanup_nil (s : Storage) : s.cleanup [] = s := by simp [cleanup]

/-- `load_data(p)` ends in `_cleanup` of the filenames it found missing, whether there are any or
not. -/
theorem loadData_snd_eq_cleanup (s : Storage) (p : String) :
    (s.loadData p).2 = s.cleanup (readEntries s.blobs (s.db.filter (fun e => startswith e.name p))).2 := by
  simp only [loadData]
  split
  · rfl
  · next h => rw [not_not.1 h, cleanup_nil]

/-- **After `load_data(p)` the index lacks exactly the entries named by a missing digest** of an
entry that starts with `p`. -/
theorem loadData_db (s : Storage) (p : String) :
    (s.loadData p).2.db = s.db.filter fun e => e.name ∉
      ((s.db.filter (fun e => startswith e.name p)).filter (fun e => (s.blobs e.filename).isNone)).map
        Entry.filename := by
  rw [loadData_snd_eq_cleanup, readEntries_snd]
  rfl

/-- **Self-healing keeps what is stale.** A stale entry whose name is no missing digest stays in
the index after every `load_data(p)` it matches; one named by a missing digest goes, blob or no
blob. `copy_to_file` of a name whose first entry is stale raises `NoSuchNameError` and leaves the
name indexed, so `find_missing` no longer reports it. -/
theorem loadData_copyToFile_stale (s : Storage) :
    (∀ p e, e ∈ s.db → startswith e.name p → s.blobs e.filename = none →
      (∀ e' ∈ s.db, startswith e'.name p → s.blobs e'.filename = none → e.name ≠ e'.filename) →
      e ∈ (s.loadData p).2.db) ∧
    (∀ p e e', e ∈ s.db → startswith e.name p → s.blobs e.filename = none → e' ∈ s.db →
      e'.name = e.filename → e' ∉ (s.loadData p).2.db) ∧
    (∀ n e es, s.search n = e :: es → s.blobs e.filename = none → n ≠ e.filename →
      (s.copyToFile n).1 = .error (.noSuchName n) ∧ (s.copyToFile n).2.findMissing {n} = ∅) := by
  refine ⟨fun p e he hp _ hname => ?_, fun p e e' he hp hb he' hname => ?_,
    fun n e es hs hb hn => ?_⟩
  · rw [loadData_db, List.mem_filter]
    simp only [List.mem_map, List.mem_filter, Option.isNone_iff_eq_none, decide_eq_true_eq]
    exact ⟨he, by simpa using fun e' he' hp' hb' h => hname e' he' hp' hb' h.symm⟩
  · rw [loadData_db, List.mem_filter]
    simp only [List.mem_map, List.mem_filter, Option.isNone_iff_eq_none, decide_eq_true_eq, not_and,
      not_not]
    exact fun _ => ⟨e, ⟨⟨he, hp⟩, hb⟩, hname.symm⟩
  · have hmem : e ∈ s.db ∧ e.name = n := by
      have := List.mem_filter.1 (hs ▸ List.mem_cons_self e es : e ∈ s.search n)
      simpa using this
    refine ⟨by simp [copyToFile, hs, hb], ?_⟩
    simp only [copyToFile, hs, hb, findMissing_eq]
    refine Finset.filter_false_of_mem fun x hx => ?_
    rw [Finset.mem_singleton.1 hx, not_not]
    exact List.mem_map.2 ⟨e, List.mem_filter.2 ⟨hmem.1, by simpa [hmem.2] using hn⟩, hmem.2⟩

/-- Entry `a` lost its blob `h`; entry `h` is named by that digest and keeps its blob `g`. -/
theorem loadData_copyToFile_stale_ah :
    let s : Storage := ⟨[⟨"a", "h"⟩, ⟨"h", "g"⟩], fun f => if f = "g" then some [1] else none⟩
    ⟨"a", "h"⟩ ∈ (s.loadData "").2.db ∧ ⟨"h", "g"⟩ ∉ (s.loadData "").2.db ∧
      (s.copyToFile "a").1 = .error (.noSuchName "a") ∧ (s.copyToFile "a").2.findMissing {"a"} = ∅ := by
  intro s
  have h := loadData_copyToFile_stale s
  obtain ⟨h₁, h₂⟩ := h.2.2 "a" ⟨"a", "h"⟩ [] rfl rfl (by decide)
  exact ⟨h.1 "" _ (by decide) rfl rfl (by decide),
    h.2.1 "" ⟨"a", "h"⟩ _ (by decide) rfl rfl (by decide) rfl, h₁, h₂⟩

/-! ## A blob write that fails -/

/-- How writing a blob ends: every byte written, or an `OSError` once the first `k` bytes have
reached the file, which `open(..., "wb")` creates before the first byte. -/
inductive BlobWrite
  | complete
  | failsAfter (k : Nat)

/-- `store_data(name, data)` where writing the blob ends as `w` says; the index row is inserted
only once the write has returned. Reference: `Storage.store_data` (`storage.py:63`). -/
def storeDataWith (s : Storage) (name : String) (data : Bytes) (w : BlobWrite) :
    Except RecError Unit × Storage :=
  if s.search name ≠ [] then (.error (.nameTaken name), s)
  else
    let filename := sha1 data
    if (s.blobs filename).isSome then (.ok (), s.insert name filename)
    else match w with
      | .complete => (.ok (), (s.writeBlob filename data).insert name filename)
      | .failsAfter k => (.error (.osError "OSError"), s.writeBlob filename (data.take k))

/-- With a write that completes, `storeDataWith` is `storeData`. -/
theorem storeDataWith_complete (s : Storage) (n : String) (d : Bytes) :
    s.storeDataWith sha1 n d .complete = s.storeData sha1 n d := rfl

theorem startswith_self (n : String) : startswith n n = true := by
  simp [startswith, List.isPrefixOf_iff_prefix]

/-- No history of calls rewrites or removes a blob file. -/
theorem run_blobsExtend (s : Storage) : ∀ calls : List Call, s.BlobsExtend (s.run sha1 calls).2
  | [] => fun _ _ h => h
  | c :: cs => fun f d h => run_blobsExtend _ cs f d (exec_blobsExtend sha1 s c f d h)

/-- `store_data` of a new name whose digest has a file takes the dedup branch. -/
theorem storeData_dedup {n : String} {d x : Bytes} (hn : n ∉ s.db.map Entry.name)
    (hb : s.blobs (sha1 d) = some x) : s.storeData sha1 n d = (.ok (), s.insert n (sha1 d)) := by
  simp [storeData, search_eq_nil_iff.2 hn, hb]

theorem search_insert_of_not_mem {n : String} (hn : n ∉ s.db.map Entry.name) (f : String) :
    (s.insert n f).search n = [⟨n, f⟩] := by
  rw [search, insert, List.filter_append, List.filter_eq_nil_iff.2]
  · simp
  · intro e he h
    exact hn (List.mem_map.2 ⟨e, he, by simpa using h⟩)

/-- **A failed blob write is trusted by every later store of the same bytes.** If writing the
blob of a new name fails after `k` of the `B.length` bytes, the index is as it was, but a blob of
`B`'s digest now holds the first `k` bytes. After any calls, `store_data(n₂, B)` of a new name
takes the dedup branch: `copy_to_file(n₂)` writes those `k` bytes, and `load_data(n₂)` returns
them. -/
theorem storeDataWith_failsAfter (s : Storage) {n n₂ : String} {B : Bytes} {k : Nat}
    (hk : k < B.length) (hn : n ∉ s.db.map Entry.name) (hb : s.blobs (sha1 B) = none)
    (calls : List Call)
    (hn₂ : n₂ ∉ ((s.storeDataWith sha1 n B (.failsAfter k)).2.run sha1 calls).2.db.map Entry.name) :
    let s₁ := (s.storeDataWith sha1 n B (.failsAfter k)).2
    let t := (s₁.run sha1 calls).2.storeData sha1 n₂ B
    (s.storeDataWith sha1 n B (.failsAfter k)).1 = .error (.osError "OSError") ∧ s₁.db = s.db ∧
      s₁.blobs (sha1 B) = some (B.take k) ∧ B.take k ≠ B ∧ t.1 = .ok () ∧
      (t.2.copyToFile n₂).1 = .ok (B.take k) ∧ (n₂, B.take k) ∈ (t.2.loadData n₂).1 := by
  intro s₁ t
  have h₁ : s.storeDataWith sha1 n B (.failsAfter k) =
      (.error (.osError "OSError"), s.writeBlob (sha1 B) (B.take k)) := by
    simp [storeDataWith, search_eq_nil_iff.2 hn, hb]
  have hs₁ : s₁.blobs (sha1 B) = some (B.take k) := by simp [s₁, h₁, writeBlob]
  have hblob : (s₁.run sha1 calls).2.blobs (sha1 B) = some (B.take k) :=
    run_blobsExtend sha1 s₁ calls _ _ hs₁
  have ht : t = (.ok (), (s₁.run sha1 calls).2.insert n₂ (sha1 B)) := storeData_dedup sha1 hn₂ hblob
  refine ⟨by rw [h₁], by simp [s₁, h₁, writeBlob], hs₁, ?_, by rw [ht], ?_, ?_⟩
  · intro h
    have := congrArg List.length h
    simp only [List.length_take] at this
    omega
  · rw [ht, copyToFile, search_insert_of_not_mem hn₂]
    simp [insert, hblob]
  · have he : (⟨n₂, sha1 B⟩ : Entry) ∈
        ((s₁.run sha1 calls).2.insert n₂ (sha1 B)).db.filter (fun e => startswith e.name n₂) :=
      List.mem_filter.2 ⟨by simp [insert], startswith_self n₂⟩
    rw [ht]
    exact mem_readEntries_of_mem hblob he

/-- Storing `[1, 2]` under `a` fails after one byte; `b` stored later gets `[1]`. -/
theorem storeDataWith_failsAfter_one :
    let s₁ := (Storage.empty.storeDataWith (fun _ => "h") "a" [1, 2] (.failsAfter 1)).2
    let t := (s₁.run (fun _ => "h") []).2.storeData (fun _ => "h") "b" [1, 2]
    (Storage.empty.storeDataWith (fun _ => "h") "a" [1, 2] (.failsAfter 1)).1 =
        .error (.osError "OSError") ∧ s₁.db = Storage.empty.db ∧
      s₁.blobs "h" = some [1] ∧ ([1] : Bytes) ≠ [1, 2] ∧ t.1 = .ok () ∧
      (t.2.copyToFile "b").1 = .ok [1] ∧ ("b", ([1] : Bytes)) ∈ (t.2.loadData "b").1 :=
  storeDataWith_failsAfter (fun _ => "h") Storage.empty (by decide) (by decide) rfl [] (by decide)

end

end Storage

end RecDtn
