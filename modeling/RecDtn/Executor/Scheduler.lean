import Mathlib.Data.Finset.Card
import RecDtn.Executor.Effects

/-!
# The executor's scheduler

`Executor._scheduler` (`src/rec/dtn/executor.py:187`) waits until `_has_runnable_job` finds a
pending job that can run, takes one with `_pop_next_runnable_job`, runs it, sends its results,
stores its named results and sends them to the datastores. A job can run when every name it reads
is in the storage (`_job_has_all_inputs`) and the system has the capabilities it asks for
(`_system_can_run`). The check is a parameter `runnable` wherever it does not change during a call.

* `popNextRunnableJob_rotation` — the pop is a rotation: it finds a job exactly when
  `_has_runnable_job` does, takes the first runnable one, and puts the jobs before it behind the
  rest, so no job is lost or duplicated;
* `prepareWasiEnvironment_requiredNamedData` — the names whose absence the preparation reports are
  those of `required_named_data`, and all of them must be there for it to return; with every blob
  in place, a job that passes `_job_has_all_inputs` never meets `NoSuchNameError`;
* `schedulerIteration_nameTaken` — a named result already in the storage ends the iteration
  before any named result is sent, and the ones after it are not stored; without such a name,
  every named result is stored and sent (`schedulerIteration_fresh`).
-/

namespace RecDtn

/-! ## Which jobs can run -/

/-- `Capabilities.is_capable_of(caps)`: this system meets every requirement of `caps`.
Reference: `job.py:55`. -/
def Capabilities.isCapableOf (self caps : Capabilities) : Bool :=
  caps.cpuCores ≤ self.cpuCores && caps.freeCpuCapacity ≤ self.freeCpuCapacity &&
    caps.freeMemory ≤ self.freeMemory && caps.freeDiskSpace ≤ self.freeDiskSpace

/-- `JobInfo.required_named_data()`: the module, the stdin file when it is set and not empty, and
every value of `data`. Reference: `job.py:110`. -/
def JobInfo.requiredNamedData (job : JobInfo) : Finset String :=
  ([job.wasmModule] ++ (truthy job.stdinFile).toList ++ job.data.map Prod.snd).toFinset

/-- `Executor._job_has_all_inputs(job)`: `find_missing` of what the job reads is empty.
Reference: `executor.py:153`. -/
def jobHasAllInputs (s : Storage) (job : JobInfo) : Bool := (s.findMissing job.requiredNamedData).card == 0

/-- The check `_has_runnable_job` and `_pop_next_runnable_job` make of a job,
`await self._job_has_all_inputs(j) and self._system_can_run(j)`, where `current` is what
`Capabilities.from_system()` measured. Reference: `executor.py:166`. -/
def jobRunnable (s : Storage) (current : Capabilities) (job : JobInfo) : Bool :=
  jobHasAllInputs s job && current.isCapableOf job.capabilities

/-- `Executor._has_runnable_job()`: whether a pending job passes the check.
Reference: `executor.py:170`. -/
def hasRunnableJob (runnable : JobInfo → Bool) : List JobInfo → Bool
  | [] => false
  | j :: js => if runnable j then true else hasRunnableJob runnable js

/-- The `for _ in range(n)` loop of `_pop_next_runnable_job`: pop the head, return it if it can
run, otherwise append it to the tail. The deque keeps its length, so it is never empty while
rounds remain. -/
def popLoop (runnable : JobInfo → Bool) : Nat → List JobInfo → Option JobInfo × List JobInfo
  | 0, q => (none, q)
  | _ + 1, [] => (none, [])
  | n + 1, j :: q => if runnable j then (some j, q) else popLoop runnable n (q ++ [j])

/-- `Executor._pop_next_runnable_job()`: the job taken, if any, and the pending deque after.
Reference: `executor.py:177`. -/
def popNextRunnableJob (runnable : JobInfo → Bool) (pending : List JobInfo) :
    Option JobInfo × List JobInfo :=
  popLoop runnable pending.length pending

section
variable (runnable : JobInfo → Bool)

theorem hasRunnableJob_eq_any : ∀ q : List JobInfo, hasRunnableJob runnable q = q.any runnable
  | [] => rfl
  | j :: js => by cases h : runnable j <;> simp [hasRunnableJob, h, hasRunnableJob_eq_any js]

/-- The loop moves the jobs that cannot run from the head to the tail, one per round. -/
theorem popLoop_rotate : ∀ (P r : List JobInfo) (n : Nat), (∀ p ∈ P, runnable p = false) →
    popLoop runnable (P.length + n) (P ++ r) = popLoop runnable n (r ++ P)
  | [], r, n, _ => by simp
  | p :: P, r, n, h => by
    rw [List.length_cons, Nat.add_right_comm, List.cons_append, popLoop, if_neg (by simp [h p (.head _)]),
      List.append_assoc, popLoop_rotate P (r ++ [p]) n fun q hq => h q (.tail _ hq)]
    simp

/-- **The pop is a rotation that agrees with the check.** It finds no job exactly when
`_has_runnable_job` finds none, and then the deque is as it was. When it finds one, the deque was
`P ++ j :: T` with no job of `P` runnable and `j` runnable; it returns `j` and leaves `T ++ P`. -/
theorem popNextRunnableJob_rotation (q : List JobInfo) :
    ((popNextRunnableJob runnable q).1 = none ↔ hasRunnableJob runnable q = false) ∧
    ((popNextRunnableJob runnable q).1 = none → (popNextRunnableJob runnable q).2 = q) ∧
    ∀ j, (popNextRunnableJob runnable q).1 = some j →
      ∃ P T, q = P ++ j :: T ∧ (∀ p ∈ P, runnable p = false) ∧ runnable j = true ∧
        (popNextRunnableJob runnable q).2 = T ++ P := by
  rw [hasRunnableJob_eq_any]
  cases hf : q.find? runnable with
  | none =>
    have hall : ∀ p ∈ q, runnable p = false := by simpa using List.find?_eq_none.1 hf
    have hpop : popNextRunnableJob runnable q = (none, q) := by
      simpa [popLoop] using popLoop_rotate runnable q [] 0 hall
    simp only [hpop, true_iff, List.any_eq_false, Bool.not_eq_true, reduceCtorEq, false_implies,
      implies_true, and_true]
    exact hall
  | some j =>
    obtain ⟨hj, P, T, rfl, hP⟩ := List.find?_eq_some.1 hf
    have hP' : ∀ p ∈ P, runnable p = false := by simpa using hP
    have hpop : popNextRunnableJob runnable (P ++ j :: T) = (some j, T ++ P) := by
      rw [popNextRunnableJob, show (P ++ j :: T).length = P.length + (T.length + 1) by simp,
        popLoop_rotate runnable P _ _ hP']
      simp [popLoop, hj]
    have hany : (P ++ j :: T).any runnable = true := List.any_eq_true.2 ⟨j, by simp, hj⟩
    simp only [hpop, hany, reduceCtorEq, false_iff, Bool.true_eq_false, not_false_eq_true,
      false_implies, Option.some.injEq, true_and]
    rintro _ rfl
    exact ⟨P, T, rfl, hP', hj, rfl⟩

end

/-! ## What the preparation reads -/

theorem JobInfo.mem_requiredNamedData {job : JobInfo} {n : String} :
    n ∈ job.requiredNamedData ↔
      n = job.wasmModule ∨ truthy job.stdinFile = some n ∨ ∃ p, (p, n) ∈ job.data := by
  simp [JobInfo.requiredNamedData, or_assoc]

theorem jobHasAllInputs_iff (s : Storage) (job : JobInfo) :
    jobHasAllInputs s job = true ↔ ∀ n ∈ job.requiredNamedData, n ∈ s.db.map Entry.name := by
  simp [jobHasAllInputs, Storage.findMissing_eq, Finset.filter_eq_empty_iff]

/-- A `Job`: its specification and the named data sent with it, a dict from names to bytes.
Reference: `job.py:125`. -/
structure Job where
  metadata : JobInfo
  data : List (String × Bytes)

/-- `Job.has_all_data()`: `required.issubset(self.data.keys())`. Reference: `job.py:143`. -/
def Job.hasAllData (job : Job) : Bool :=
  decide (job.metadata.requiredNamedData ⊆ (job.data.map Prod.fst).toFinset)

/-- `Job.missing_data()`: `required - self.data.keys()`. Reference: `job.py:153`. -/
def Job.missingData (job : Job) : Finset String :=
  job.metadata.requiredNamedData \ (job.data.map Prod.fst).toFinset

/-- A job has all its data exactly when none of it is missing. -/
theorem Job.hasAllData_iff (job : Job) : job.hasAllData = true ↔ job.missingData = ∅ := by
  simp [Job.hasAllData, Job.missingData, Finset.sdiff_eq_empty_iff_subset]

section Keeps

variable {I : Sandbox → Prop} {E : RecError → Sandbox → Prop}

theorem prepareDir_keeps (hmk : ∀ p, Triple I (mkdirs p) (fun _ => I) E)
    (hval : ∀ msg y, I y → E (.valueError msg) y) (dataDir : List String) (p : String) :
    Triple I (prepareDir dataDir p) (fun _ => I) E := by
  unfold prepareDir
  dsimp only
  split
  · exact .throw_bind (hval _)
  · exact .bind (.pure' (Q := fun _ => I) _) fun _ => hmk _

theorem prepareDataFile_keeps (hmk : ∀ p, Triple I (mkdirs p) (fun _ => I) E)
    (hval : ∀ msg y, I y → E (.valueError msg) y) (dataDir : List String) (p n : String)
    (hcp : ∀ q, Triple I (copyToFile n q) (fun _ => I) E) :
    Triple I (prepareDataFile dataDir p n) (fun _ => I) E := by
  unfold prepareDataFile
  dsimp only
  split
  · exact .throw_bind (hval _)
  · exact .bind (.pure' (Q := fun _ => I) _) fun _ => .bind (hmk _) fun _ => hcp _

theorem prepareOutput_keeps (hmk : ∀ p, Triple I (mkdirs p) (fun _ => I) E)
    (hval : ∀ msg y, I y → E (.valueError msg) y) (l : String) (f : Option String)
    (dataDir : List String) : Triple I (prepareOutput l f dataDir) (fun _ => I) E := by
  unfold prepareOutput
  split
  · exact .pure' (Q := fun _ => I) _
  · dsimp only
    split
    · exact .throw_bind (hval _)
    · exact .bind (.pure' (Q := fun _ => I) _) fun _ => hmk _

theorem prepareStdin_keeps (f : Option String) (base : List String)
    (hcp : ∀ n, truthy f = some n → ∀ p, Triple I (copyToFile n p) (fun _ => I) E) :
    Triple I (prepareStdin f base) (fun _ => I) E := by
  unfold prepareStdin
  split
  · next h => exact .bind_pure (hcp _ h _) _
  · exact .pure' (Q := fun _ => I) _

/-- A data file whose name never copies never returns. -/
theorem prepareDataFile_never (hmk : ∀ p, Triple I (mkdirs p) (fun _ => I) E)
    (hval : ∀ msg y, I y → E (.valueError msg) y) (dataDir : List String) (p n : String)
    (hnever : ∀ q, Triple I (copyToFile n q) (fun _ _ => False) E) :
    Triple I (prepareDataFile dataDir p n) (fun _ _ => False) E := by
  unfold prepareDataFile
  dsimp only
  split
  · exact .throw_bind (hval _)
  · exact .bind (.pure' (Q := fun _ => I) _) fun _ => .bind (hmk _) fun _ => hnever _

/-- **The preparation keeps what its steps keep**: an invariant that every `mkdir`, every copy of
a name the job reads and every escape error keep. -/
theorem prepareWasiEnvironment_keeps (job : JobInfo) (base : List String)
    (hmk : ∀ p, Triple I (mkdirs p) (fun _ => I) E)
    (hcp : ∀ n ∈ job.requiredNamedData, ∀ p, Triple I (copyToFile n p) (fun _ => I) E)
    (hval : ∀ msg y, I y → E (.valueError msg) y) :
    Triple I (prepareWasiEnvironment job base) (fun _ => I) E := by
  unfold prepareWasiEnvironment
  exact .bind (hmk _) fun _ => .bind (hcp _ (JobInfo.mem_requiredNamedData.2 (.inl rfl)) _) fun _ =>
    .bind (prepareStdin_keeps _ _ fun n h => hcp n (JobInfo.mem_requiredNamedData.2 (.inr (.inl h))))
      fun _ => .bind (hmk _) fun _ =>
    .bind (.forIn' fun _ _ _ => .bind_pure (prepareDir_keeps hmk hval _ _) _) fun _ =>
    .bind (.forIn' fun ⟨_, _⟩ h _ => .bind_pure (prepareDataFile_keeps hmk hval _ _ _
      (hcp _ (JobInfo.mem_requiredNamedData.2 (.inr (.inr ⟨_, h⟩))))) _) fun _ =>
    .bind (prepareOutput_keeps hmk hval _ _ _) fun _ =>
    .bind (prepareOutput_keeps hmk hval _ _ _) fun _ => .pure' (Q := fun _ => I) _

/-- **The preparation never returns when one name it reads never copies**, provided the steps
before that copy keep an invariant. -/
theorem prepareWasiEnvironment_never (job : JobInfo) (base : List String) {Q}
    (hmk : ∀ p, Triple I (mkdirs p) (fun _ => I) E)
    (hcp : ∀ n ∈ job.requiredNamedData, ∀ p, Triple I (copyToFile n p) (fun _ => I) E)
    (hval : ∀ msg y, I y → E (.valueError msg) y) {n : String} (hn : n ∈ job.requiredNamedData)
    (hnever : ∀ p, Triple I (copyToFile n p) (fun _ _ => False) E) :
    Triple I (prepareWasiEnvironment job base) Q E := by
  have hwasm := hcp _ (JobInfo.mem_requiredNamedData.2 (.inl rfl))
  unfold prepareWasiEnvironment
  rcases JobInfo.mem_requiredNamedData.1 hn with rfl | hn | ⟨p, hmem⟩
  · -- the module
    exact .bind (hmk _) fun _ => .bind_never (hnever _)
  · -- the stdin file
    refine .bind (hmk _) fun _ => .bind (hwasm _) fun _ => .bind_never ?_
    unfold prepareStdin
    rw [hn]
    exact .bind_never (hnever _)
  · -- a data file: the loop stops at it
    obtain ⟨pre, post, hsplit⟩ := List.append_of_mem hmem
    refine .bind (hmk _) fun _ => .bind (hwasm _) fun _ =>
      .bind (prepareStdin_keeps _ _ fun m h => hcp m (JobInfo.mem_requiredNamedData.2 (.inr (.inl h))))
        fun _ => .bind (hmk _) fun _ =>
      .bind (.forIn' fun _ _ _ => .bind_pure (prepareDir_keeps hmk hval _ _) _) fun _ => .bind_never ?_
    rw [hsplit]
    exact .forIn_never (fun ⟨_, _⟩ h _ => .yield_of (prepareDataFile_keeps hmk hval _ _ _
      (hcp _ (JobInfo.mem_requiredNamedData.2 (.inr (.inr ⟨_, hsplit ▸ List.mem_append_left _ h⟩))))))
      fun _ => .bind_never (prepareDataFile_never hmk hval _ _ _ hnever)

end Keeps

/-- **What the preparation raises**: a `NoSuchNameError` that copying a name the job reads raised
from the storage it started with, an `OSError`, or a `ValueError`. It leaves the storage as it was
when it returns. -/
theorem prepareWasiEnvironment_raises (job : JobInfo) (base : List String) (s : Storage) :
    Triple (·.storage = s) (prepareWasiEnvironment job base) (fun _ y => y.storage = s)
      fun e _ => (∃ n ∈ job.requiredNamedData, e = .noSuchName n ∧ (s.copyToFile n).1 = .error e) ∨
        (∃ k, e = .osError k) ∨ ∃ msg, e = .valueError msg :=
  prepareWasiEnvironment_keeps job base
    (fun p => (mkdirs_triple p s).conseq (fun _ h => h) (fun _ _ h => h) fun _ _ h => .inr (.inl h.2))
    (fun n hn p => (copyToFile_triple n p s).conseq (fun _ h => h) (fun _ _ h => h.1) fun _ _ h =>
      h.elim (fun ⟨he, hc, _⟩ => .inl ⟨n, hn, he, hc⟩) fun h => .inr (.inl h.2))
    fun msg _ _ => .inr (.inr ⟨msg, rfl⟩)

/-- **The preparation reads exactly the names the check checks.** Every `NoSuchNameError` it
raises names a name of `required_named_data`; it returns only if every such name was indexed when
it started, so only if the job passed `_job_has_all_inputs`; and when every blob of the storage is
in place and the job passes the check, it raises no `NoSuchNameError`. -/
theorem prepareWasiEnvironment_requiredNamedData (job : JobInfo) (base : List String) :
    (∀ x n, ((prepareWasiEnvironment job base).run.run x).1 = .error (.noSuchName n) →
      n ∈ job.requiredNamedData) ∧
    (∀ x r, ((prepareWasiEnvironment job base).run.run x).1 = .ok r →
      jobHasAllInputs x.storage job = true) ∧
    (∀ x, x.storage.BlobsPresent → jobHasAllInputs x.storage job = true →
      ∀ n, ((prepareWasiEnvironment job base).run.run x).1 ≠ .error (.noSuchName n)) := by
  refine ⟨fun x n he => ?_, fun x r hr => ?_, fun x hb hall n he => ?_⟩
  · -- every `NoSuchNameError` comes from a copy of a name the job reads
    rcases Triple.error_of (prepareWasiEnvironment_raises job base _) rfl he with
      ⟨m, hm, h, -⟩ | ⟨_, h⟩ | ⟨_, h⟩ <;> cases h
    exact hm
  · -- a return means every name was there
    by_contra hno
    obtain ⟨m, hm, hmiss⟩ : ∃ m ∈ job.requiredNamedData, m ∉ x.storage.db.map Entry.name := by
      simpa [jobHasAllInputs_iff] using hno
    exact Triple.ok_of (Q := fun _ _ => False) (prepareWasiEnvironment_never job base
      (fun p => (mkdirs_triple p _).conseq (fun _ h => h) (fun _ _ h => h) fun _ _ _ => trivial)
      (fun m _ p => (copyToFile_triple m p _).conseq (fun _ h => h) (fun _ _ h => h.1) fun _ _ _ => trivial)
      (fun _ _ _ => trivial) hm
      fun p => (copyToFile_triple m p _).conseq (fun _ h => h) (fun _ _ h => hmiss h.2)
        fun _ _ _ => trivial) rfl hr
  · -- with every blob in place and the check passed, every copy returns
    rcases Triple.error_of (prepareWasiEnvironment_raises job base _) rfl he with
      ⟨m, hm, h, hc⟩ | ⟨_, h⟩ | ⟨_, h⟩ <;> cases h
    obtain ⟨d, hd⟩ := Storage.copyToFile_of_mem hb ((jobHasAllInputs_iff _ _).1 hall _ hm)
    rw [hd] at hc
    exact Except.noConfusion hc

/-! ## Sending and storing the results of a job -/

/-- `Executor._send_results(job, results)`: the `JOB_RESULT` bundle handed to the agent, if the
results are not empty and the receiver is set and not empty. What the agent answers is only
logged. Reference: `executor.py:212`. -/
def sendResults (nodeId : EID) (job : JobInfo) (results : Option Bytes) : List BundleData :=
  match results, job.resultsReceiver with
  | some r, some receiver =>
    if r.isEmpty || receiver.str.isEmpty then []
    else [{ type := BundleType.jobResult.toInt, source := nodeId, destination := receiver, payload := r }]
  | _, _ => []

/-- `Executor._send_named_results(results)`: one `NDATA_PUT` bundle per named result, to the
datastores. Reference: `executor.py:244`. -/
def sendNamedResults (nodeId : EID) (results : List (String × Bytes)) : List BundleData :=
  results.map fun (name, data) =>
    { type := BundleType.ndataPut.toInt, source := nodeId, destination := datastoreMulticastAddress,
      payload := data, namedData := some (.name name) }

section Iteration

variable (execute : JobInfo → List String → SandboxM (Option Bytes × List (String × Bytes)))
  (sha1 : Bytes → String)

/-- One iteration of `Executor._scheduler`'s `try` for a popped job, with the bundles it hands to
the agent: `_run_job`, `_send_results`, `_store_named_results`, `_send_named_results`. An exception
ends the `try` (it is logged as "Job failed"), so nothing after it runs. Reference:
`executor.py:200`. -/
def schedulerIteration (nodeId : EID) (root : List String) (jobId : Nat) (job : JobInfo)
    (x : Sandbox) : List BundleData × Sandbox :=
  match (runJob execute root jobId job).run.run x with
  | (.error _, y) => ([], y)
  | (.ok (results, namedResults), y) =>
    let sent := sendResults nodeId job results
    match (storeNamedResults sha1 namedResults).run.run y with
    | (.error _, z) => (sent, z)
    | (.ok (), z) => (sent ++ sendNamedResults nodeId namedResults, z)

/-- The iteration leaves the sandbox as `schedulerJob`, the step of `scheduler`, does. -/
theorem schedulerIteration_snd (nodeId : EID) (root : List String) (jobId : Nat) (job : JobInfo)
    (x : Sandbox) : (schedulerIteration execute sha1 nodeId root jobId job x).2 =
      ((schedulerJob execute sha1 root jobId job).run.run x).2 := by
  simp only [schedulerIteration, schedulerJob, SandboxM.run_bind]
  rcases (runJob execute root jobId job).run.run x with ⟨_ | ⟨_, R⟩, y⟩
  · rfl
  · dsimp only
    rcases (storeNamedResults sha1 R).run.run y with ⟨_ | ⟨⟩, z⟩ <;> rfl

theorem sendResults_not_ndataPut (nodeId : EID) (job : JobInfo) (results : Option Bytes) :
    ∀ b ∈ sendResults nodeId job results, b.isType .ndataPut = false := by
  unfold sendResults
  split
  · split <;> simp [BundleData.isType, BundleType.toInt]
  · simp

theorem storeNamedResults_run_cons (name : String) (data : Bytes) (rest : List (String × Bytes))
    (y : Sandbox) : (storeNamedResults sha1 ((name, data) :: rest)).run.run y =
      match y.storage.storeData sha1 name data with
      | (.ok (), s) => (storeNamedResults sha1 rest).run.run { y with storage := s }
      | (.error e, s) => (.error e, { y with storage := s }) := by
  simp only [storeNamedResults, SandboxM.run_bind, SandboxM.run_get, SandboxM.run_set]
  rcases y.storage.storeData sha1 name data with ⟨_ | ⟨⟩, s⟩ <;> rfl

/-- **A taken name stops the storing.** When a name of the list is in the storage, storing the
list raises, and every name indexed after is one that was there or one stored before it. -/
theorem storeNamedResults_taken {n : String} (d : Bytes) (post : List (String × Bytes)) :
    ∀ (pre : List (String × Bytes)) (y : Sandbox), n ∈ y.storage.db.map Entry.name →
      ∃ e, ((storeNamedResults sha1 (pre ++ (n, d) :: post)).run.run y).1 = .error e ∧
        ∀ m ∈ ((storeNamedResults sha1 (pre ++ (n, d) :: post)).run.run y).2.storage.db.map Entry.name,
          m ∈ y.storage.db.map Entry.name ∨ m ∈ pre.map Prod.fst
  | [], y, hn => by
    rw [List.nil_append, storeNamedResults_run_cons, Storage.storeData_of_mem sha1 hn]
    exact ⟨_, rfl, fun _ hm => .inl hm⟩
  | (k, e) :: pre, y, hn => by
    rw [List.cons_append, storeNamedResults_run_cons]
    rcases hs : y.storage.storeData sha1 k e with ⟨_ | ⟨⟩, s⟩
    · have hy : s = y.storage := by rw [Storage.storeData_eq] at hs; split_ifs at hs <;> cases hs; rfl
      exact ⟨_, rfl, fun _ hm => .inl (hy ▸ hm)⟩
    · have hnames : ∀ m, m ∈ s.db.map Entry.name ↔ m ∈ y.storage.db.map Entry.name ∨ m = k := by
        intro m; rw [← Storage.mem_storeData_names sha1 e, hs]
      obtain ⟨e', he, hsub⟩ := storeNamedResults_taken d post pre { y with storage := s }
        ((hnames n).2 (.inl hn))
      refine ⟨e', he, fun m hm => ?_⟩
      rcases hsub m hm with h | h
      · rcases (hnames m).1 h with h | rfl
        · exact .inl h
        · exact .inr (.head _)
      · exact .inr (.tail _ h)

/-- **Fresh names are all stored.** When no name of the list is indexed and no name repeats,
storing the list returns and indexes each name, in order, under its digest. -/
theorem storeNamedResults_fresh :
    ∀ (R : List (String × Bytes)) (y : Sandbox), (R.map Prod.fst).Nodup →
      (∀ p ∈ R, p.1 ∉ y.storage.db.map Entry.name) →
      ((storeNamedResults sha1 R).run.run y).1 = .ok () ∧
        ((storeNamedResults sha1 R).run.run y).2.storage.db =
          y.storage.db ++ R.map fun p => ⟨p.1, sha1 p.2⟩
  | [], _, _, _ => by simp [storeNamedResults]
  | (k, e) :: R, y, hnd, hfresh => by
    obtain ⟨hk, hnd⟩ := List.nodup_cons.1 hnd
    have hkf := hfresh _ (.head _)
    have hok : (y.storage.storeData sha1 k e).1 = .ok () := by rw [Storage.storeData_eq, if_neg hkf]
    have hdb : (y.storage.storeData sha1 k e).2.db = y.storage.db ++ [⟨k, sha1 e⟩] := by
      rw [Storage.storeData_eq, if_neg hkf]
    have ih := storeNamedResults_fresh R { y with storage := (y.storage.storeData sha1 k e).2 } hnd
      fun p hp hmem => by
        rcases (Storage.mem_storeData_names sha1 e).1 hmem with hmem | hpk
        · exact hfresh p (.tail _ hp) hmem
        · exact hk (by simpa [hpk] using List.mem_map_of_mem Prod.fst hp)
    rw [storeNamedResults_run_cons]
    rcases hs : y.storage.storeData sha1 k e with ⟨_ | ⟨⟩, s'⟩ <;> rw [hs] at hok hdb ih
    · cases hok
    · exact ⟨ih.1, by rw [ih.2, hdb]; simp⟩

/-- **Without a taken name, everything is published**: when the named results' names are distinct
and none is indexed after the run, the iteration hands the agent the results bundle, if any, and
one `NDATA_PUT` bundle per named result, and indexes every name. -/
theorem schedulerIteration_fresh (nodeId : EID) (root : List String) (jobId : Nat) (job : JobInfo)
    (x : Sandbox) {results : Option Bytes} {R : List (String × Bytes)} {y : Sandbox}
    (hrun : (runJob execute root jobId job).run.run x = (.ok (results, R), y))
    (hnd : (R.map Prod.fst).Nodup) (hfresh : ∀ p ∈ R, p.1 ∉ y.storage.db.map Entry.name) :
    (schedulerIteration execute sha1 nodeId root jobId job x).1 =
        sendResults nodeId job results ++ sendNamedResults nodeId R ∧
      (schedulerIteration execute sha1 nodeId root jobId job x).2.storage.db =
        y.storage.db ++ R.map fun p => ⟨p.1, sha1 p.2⟩ := by
  obtain ⟨hok, hdb⟩ := storeNamedResults_fresh sha1 R y hnd hfresh
  simp only [schedulerIteration, hrun]
  rcases hs : (storeNamedResults sha1 R).run.run y with ⟨_ | ⟨⟩, z⟩ <;> rw [hs] at hok hdb
  · cases hok
  · exact ⟨rfl, hdb⟩

/-- **A named result whose name is already stored ends the iteration before anything is
published**: when a job's named results are `pre ++ (n, d) :: post` and `n` is in the storage
after the run, the iteration hands no `NDATA_PUT` bundle to the agent, and every name indexed
after it was there before or is a name of `pre`: the names of `post` not yet stored stay
unstored. -/
theorem schedulerIteration_nameTaken (nodeId : EID) (root : List String) (jobId : Nat)
    (job : JobInfo) (x : Sandbox) {results : Option Bytes} {R pre post : List (String × Bytes)}
    {n : String} {d : Bytes} {y : Sandbox}
    (hrun : (runJob execute root jobId job).run.run x = (.ok (results, R), y))
    (hR : R = pre ++ (n, d) :: post) (hn : n ∈ y.storage.db.map Entry.name) :
    (∀ b ∈ (schedulerIteration execute sha1 nodeId root jobId job x).1, b.isType .ndataPut = false) ∧
    ∀ m ∈ (schedulerIteration execute sha1 nodeId root jobId job x).2.storage.db.map Entry.name,
      m ∈ y.storage.db.map Entry.name ∨ m ∈ pre.map Prod.fst := by
  obtain ⟨e, he, hsub⟩ := storeNamedResults_taken sha1 d post pre y hn
  rw [← hR] at he hsub
  have hit : schedulerIteration execute sha1 nodeId root jobId job x =
      (sendResults nodeId job results, ((storeNamedResults sha1 R).run.run y).2) := by
    simp only [schedulerIteration, hrun]
    rcases hs : (storeNamedResults sha1 R).run.run y with ⟨_ | ⟨⟩, z⟩ <;> rw [hs] at he
    cases he
  rw [hit]
  exact ⟨sendResults_not_ndataPut nodeId job results, hsub⟩

/-- A job whose module writes the named results `a` and `b`, run by an executor that already
stores `a` (the job ran before): no `NDATA_PUT` is sent and `b` is not stored. -/
theorem schedulerIteration_nameTaken_rerun :
    let x : Sandbox :=
      ⟨⟨fun p => if p = ["exec"] then some .dir else none⟩,
        ⟨[⟨"mod", "h"⟩, ⟨"a", "g"⟩], fun f => if f = "h" then some [0] else if f = "g" then some [1] else none⟩⟩
    let job : JobInfo := { wasmModule := "mod" }
    let execute : JobInfo → List String → SandboxM (Option Bytes × List (String × Bytes)) :=
      fun _ _ => pure (none, [("a", [1]), ("b", [2])])
    let it := schedulerIteration execute (fun _ => "g") ⟨"dtn://exec/"⟩ ["exec"] 7 job x
    (∀ b ∈ it.1, b.isType .ndataPut = false) ∧ "b" ∉ it.2.storage.db.map Entry.name := by
  intro x job execute it
  have hy : ((runJob execute ["exec"] 7 job).run.run x).2.storage = x.storage := rfl
  obtain ⟨hsent, hnames⟩ := schedulerIteration_nameTaken execute (fun _ => "g") ⟨"dtn://exec/"⟩
    ["exec"] 7 job x (y := ((runJob execute ["exec"] 7 job).run.run x).2) rfl
    (show [("a", [1]), ("b", [2])] = [] ++ ("a", [1]) :: [("b", [2])] from rfl)
    (by rw [hy]; decide)
  refine ⟨hsent, fun hb => ?_⟩
  rcases hnames _ hb with h | h
  · rw [hy] at h; revert h; decide
  · exact List.not_mem_nil _ h

end Iteration

end RecDtn
