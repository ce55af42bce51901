import RecDtn.Storage.Basic

/-!
# The job sandbox

`Executor._run_job` (`src/rec/dtn/executor.py:265`) runs a job in a directory of its own,
`<root>/job-<id(job)>`: `_prepare_wasi_environment` copies the module and the job's named data
into it and creates the directories the job asks for, under `data/`, which is the WASI module's
`/`. After the module has run and the results are collected, a `finally` removes the job directory.

The preparation stands before that `try`. When it raises (a named input missing from the
storage, a path escaping the data directory, a file in the way), the exception leaves `_run_job`
without the `finally`, `_scheduler` logs it, and what the preparation had created stays. CPython
reuses the `id()` of a job object once nothing refers to it, so a later job can get the same
directory, and its module starts on what the failed job left there.

The file system is a map from absolute paths, as lists of components, to directories and files,
without symbolic links; `Path.resolve` then normalises `.` and `..` lexically. The executor's
state during a job is the file system and its `Storage`; the module's run and the collection of
results are a parameter `execute`, which is the job's own doing.

* `startJob_grows` — no step before the module starts removes anything: every path present
  before is present after, whether the preparation returns or raises;
* `scheduler_leftover` — after a job whose preparation raised, the next job with the same `id()`
  starts its module on everything that preparation had created.
-/

namespace RecDtn

/-- What a path holds. -/
inductive FsNode
  | dir
  | file (data : Bytes)
deriving DecidableEq, Repr

/-- A file system: what each absolute path, as its list of components, holds. -/
structure Fs where
  node : List String → Option FsNode

namespace Fs

/-- What `p` holds; the root is a directory. -/
def kind (fs : Fs) (p : List String) : Option FsNode := if p = [] then some .dir else fs.node p

/-- `p` now holds `n`. -/
def setNode (fs : Fs) (p : List String) (n : FsNode) : Fs := ⟨Function.update fs.node p (some n)⟩

/-- `shutil.rmtree(p)`: `p` and everything under it are gone. -/
def rmtree (fs : Fs) (p : List String) : Fs := ⟨fun q => if p.isPrefixOf q then none else fs.node q⟩

/-- Every path present in `fs` is present in `fs'`. -/
def Extends (fs fs' : Fs) : Prop := ∀ p, fs.node p ≠ none → fs'.node p ≠ none

theorem Extends.refl (fs : Fs) : fs.Extends fs := fun _ h => h

theorem Extends.trans {fs₁ fs₂ fs₃ : Fs} (h₁ : fs₁.Extends fs₂) (h₂ : fs₂.Extends fs₃) :
    fs₁.Extends fs₃ := fun p h => h₂ p (h₁ p h)

/-- Setting a path that is not a directory already, or that holds nothing, removes nothing. -/
theorem extends_setNode (fs : Fs) (p : List String) (n : FsNode) : fs.Extends (fs.setNode p n) := by
  intro q h
  by_cases hq : q = p
  · subst hq; simp [setNode]
  · simpa [setNode, Function.update_noteq hq] using h

end Fs

/-- The executor's world during a job: the file system and the executor's storage. -/
structure Sandbox where
  fs : Fs
  storage : Storage

/-- Code that may raise, acting on the sandbox; a raise keeps what was done before it. -/
abbrev SandboxM := ExceptT RecError (StateM Sandbox)

namespace SandboxM

variable {α β : Type}

theorem run_bind (m : SandboxM α) (f : α → SandboxM β) (x : Sandbox) :
    (m >>= f).run.run x =
      match m.run.run x with
      | (.ok a, x') => (f a).run.run x'
      | (.error e, x') => (.error e, x') := by
  rw [ExceptT.run_bind, StateT.run_bind]
  rcases m.run.run x with ⟨_ | _, x'⟩ <;> rfl

@[simp] theorem run_pure (a : α) (x : Sandbox) : (pure a : SandboxM α).run.run x = (.ok a, x) := rfl

@[simp] theorem run_throw (e : RecError) (x : Sandbox) :
    (throw e : SandboxM α).run.run x = (.error e, x) := rfl

@[simp] theorem run_get (x : Sandbox) : (get : SandboxM Sandbox).run.run x = (.ok x, x) := rfl

@[simp] theorem run_set (y x : Sandbox) : (set y : SandboxM PUnit).run.run x = (.ok ⟨⟩, y) := rfl

@[simp] theorem run_modify (f : Sandbox → Sandbox) (x : Sandbox) :
    (modify f : SandboxM PUnit).run.run x = (.ok ⟨⟩, f x) := rfl

end SandboxM

/-- Code that removes nothing from the file system, whether it returns or raises. -/
def Grows {α : Type} (m : SandboxM α) : Prop := ∀ x : Sandbox, x.fs.Extends (m.run.run x).2.fs

namespace Grows

variable {α β : Type}

theorem pure' (a : α) : Grows (pure a : SandboxM α) := fun x => Fs.Extends.refl x.fs

theorem throw' (e : RecError) : Grows (throw e : SandboxM α) := fun x => Fs.Extends.refl x.fs

theorem bind {m : SandboxM α} {f : α → SandboxM β} (hm : Grows m) (hf : ∀ a, Grows (f a)) :
    Grows (m >>= f) := by
  intro x
  have h := hm x
  rw [SandboxM.run_bind]
  rcases hr : m.run.run x with ⟨_ | a, x'⟩
  · simpa [hr] using h
  · rw [hr] at h
    exact h.trans (hf a x')

theorem ite' {c : Prop} [Decidable c] {m₁ m₂ : SandboxM α} (h₁ : Grows m₁) (h₂ : Grows m₂) :
    Grows (if c then m₁ else m₂) := by
  split <;> assumption

/-- A `for` loop whose body removes nothing removes nothing. -/
theorem forIn' {xs : List α} {b : β} {f : α → β → SandboxM (ForInStep β)}
    (hf : ∀ a b, Grows (f a b)) : Grows (forIn xs b f) := by
  induction xs generalizing b with
  | nil => exact pure' _
  | cons a as ih =>
    rw [List.forIn_cons]
    exact bind (hf a b) fun r => by cases r <;> [exact pure' _; exact ih]

end Grows

/-! ## The file-system calls -/

/-- `str.lstrip("/")`. -/
def lstripSlash (s : String) : String := ⟨s.data.dropWhile (· == '/')⟩

/-- One component appended to a resolved path: `.` and empty components vanish, `..` goes up,
not above the root. -/
def pushPart (p : List String) (c : String) : List String :=
  if c = "" ∨ c = "." then p else if c = ".." then p.dropLast else p ++ [c]

/-- The pieces of a path between its slashes, empty ones included. -/
def splitSlash : List Char → List (List Char)
  | [] => [[]]
  | c :: cs =>
    if c = '/' then [] :: splitSlash cs
    else match splitSlash cs with
      | [] => [[c]]
      | p :: ps => (c :: p) :: ps

/-- `(base / rel).resolve()` for a resolved `base`, on a file system without symbolic links. -/
def resolve (base : List String) (rel : String) : List String :=
  ((splitSlash rel.data).map String.mk).foldl pushPart base

/-- `path.is_relative_to(base)`. -/
def isRelativeTo (p base : List String) : Bool := base.isPrefixOf p

/-- `Path(pre + cs).mkdir(parents=True, exist_ok=True)` below the directory `pre`: each missing
directory is created from the top down; a file in the way raises `FileExistsError` at the path
itself and `NotADirectoryError` above it. -/
def mkdirFrom (pre : List String) : List String → SandboxM Unit
  | [] => pure ()
  | c :: cs => do
    let q := pre ++ [c]
    match (← get).fs.kind q with
    | none =>
      modify fun x => { x with fs := x.fs.setNode q .dir }
      mkdirFrom q cs
    | some .dir => mkdirFrom q cs
    | some (.file _) =>
      throw (.osError (if cs = [] then "FileExistsError" else "NotADirectoryError"))

/-- `path.mkdir(parents=True, exist_ok=True)`. -/
def mkdirs (p : List String) : SandboxM Unit := mkdirFrom [] p

/-- `open(path, "wb").write(data)`, as `shutil.copyfile` does it. -/
def writeFile (p : List String) (data : Bytes) : SandboxM Unit := do
  let fs := (← get).fs
  match fs.kind p, fs.kind p.dropLast with
  | some .dir, _ => throw (.osError "IsADirectoryError")
  | _, some .dir => modify fun x => { x with fs := x.fs.setNode p (.file data) }
  | _, some (.file _) => throw (.osError "NotADirectoryError")
  | _, none => throw (.osError "FileNotFoundError")

/-- `Storage.copy_to_file(name, destination)`: the blob of `name` copied to `destination`.
Reference: `storage.py:164`. -/
def copyToFile (name : String) (destination : List String) : SandboxM Unit := do
  let x ← get
  let r := x.storage.copyToFile name
  set { x with storage := r.2 }
  match r.1 with
  | .ok data => writeFile destination data
  | .error e => throw e

theorem mkdirFrom_run (pre : List String) (c : String) (cs : List String) (x : Sandbox) :
    (mkdirFrom pre (c :: cs)).run.run x =
      match x.fs.kind (pre ++ [c]) with
      | none => (mkdirFrom (pre ++ [c]) cs).run.run { x with fs := x.fs.setNode (pre ++ [c]) .dir }
      | some .dir => (mkdirFrom (pre ++ [c]) cs).run.run x
      | some (.file _) =>
        (.error (.osError (if cs = [] then "FileExistsError" else "NotADirectoryError")), x) := by
  rcases h : x.fs.kind (pre ++ [c]) with _ | _ | _ <;> simp [mkdirFrom, h, SandboxM.run_bind]

theorem mkdirFrom_grows (pre cs : List String) : Grows (mkdirFrom pre cs) := by
  induction cs generalizing pre with
  | nil => exact Grows.pure' _
  | cons c cs ih =>
    intro x
    rw [mkdirFrom_run]
    split
    · exact (Fs.extends_setNode _ _ _).trans (ih _ { x with fs := x.fs.setNode (pre ++ [c]) .dir })
    · exact ih _ _
    · exact Fs.Extends.refl _

theorem mkdirs_grows (p : List String) : Grows (mkdirs p) := mkdirFrom_grows [] p

theorem writeFile_grows (p : List String) (data : Bytes) : Grows (writeFile p data) := by
  intro x
  simp only [writeFile, SandboxM.run_bind, SandboxM.run_get]
  split <;> simp [Fs.Extends.refl, Fs.extends_setNode]

theorem copyToFile_grows (name : String) (dest : List String) : Grows (copyToFile name dest) := by
  intro x
  simp only [copyToFile, SandboxM.run_bind, SandboxM.run_get, SandboxM.run_set]
  split
  · exact writeFile_grows _ _ { x with storage := (x.storage.copyToFile name).2 }
  · exact Fs.Extends.refl _

/-! ## Jobs -/

/-- `Capabilities`: the resources a job needs, or that a system has free. Reference: `job.py:12`. -/
structure Capabilities where
  cpuCores : Int := 1
  freeCpuCapacity : Int := 0
  freeMemory : Int := 0
  freeDiskSpace : Int := 0
deriving DecidableEq, Repr

/-- `JobInfo`, each `dict` as its list of items. Python requires `capabilities`; the model gives it
the default `Capabilities()`, which is what the tests pass. Reference: `job.py:74`. -/
structure JobInfo where
  wasmModule : String
  capabilities : Capabilities := {}
  argv : List String := []
  env : List (String × String) := []
  stdinFile : Option String := none
  dirs : List String := []
  data : List (String × String) := []
  stdoutFile : Option String := none
  stderrFile : Option String := none
  results : List String := []
  namedResults : List (String × String) := []
  resultsReceiver : Option EID := none
deriving DecidableEq, Repr

/-- Python's truth value of an optional string: set and not empty. -/
def truthy : Option String → Option String
  | some s => if s = "" then none else some s
  | none => none

/-- The stdin file, if the job names one: its named data copied to `stdin.bin`.
Reference: `executor.py:328`. -/
def prepareStdin (stdinFile : Option String) (baseDir : List String) :
    SandboxM (Option (List String)) :=
  match truthy stdinFile with
  | some f => do
    copyToFile f (baseDir ++ ["stdin.bin"])
    pure (some (baseDir ++ ["stdin.bin"]))
  | none => pure none

/-- One directory of the `for dir_path in job.dirs` loop. Reference: `executor.py:339`. -/
def prepareDir (dataDir : List String) (dirPath : String) : SandboxM Unit := do
  let absDirPath := resolve dataDir (lstripSlash dirPath)
  if !isRelativeTo absDirPath dataDir then
    throw (.valueError ("Directory path escapes data directory: " ++ dirPath))
  mkdirs absDirPath

/-- One file of the `for file_path, data in job.data.items()` loop: its parent directory, then
its named data. Reference: `executor.py:346`. -/
def prepareDataFile (dataDir : List String) (filePath name : String) : SandboxM Unit := do
  let absFilePath := resolve dataDir (lstripSlash filePath)
  if !isRelativeTo absFilePath dataDir then
    throw (.valueError ("Data file path escapes data directory: " ++ filePath))
  mkdirs absFilePath.dropLast
  copyToFile name absFilePath

/-- The check and the parent directory for `stdout_file` or `stderr_file`, the two blocks of
`_prepare_wasi_environment` that differ only in the field. Reference: `executor.py:354`. -/
def prepareOutput (label : String) (file : Option String) (dataDir : List String) : SandboxM Unit :=
  match truthy file with
  | none => pure ()
  | some f => do
    let path := resolve dataDir (lstripSlash f)
    if !isRelativeTo path dataDir then
      throw (.valueError (label ++ " path escapes data directory: " ++ f))
    mkdirs path.dropLast

/-- `Executor._prepare_wasi_environment(job, base_dir)`: the module's path, the stdin file's
path, if any, and the data directory. Reference: `executor.py:304`. -/
def prepareWasiEnvironment (job : JobInfo) (baseDir : List String) :
    SandboxM (List String × Option (List String) × List String) := do
  mkdirs baseDir
  let wasmPath := baseDir ++ ["module.wasm"]
  copyToFile job.wasmModule wasmPath
  let stdinPath ← prepareStdin job.stdinFile baseDir
  let dataDir := baseDir ++ ["data"]
  mkdirs dataDir
  for dirPath in job.dirs do
    prepareDir dataDir dirPath
  for (filePath, name) in job.data do
    prepareDataFile dataDir filePath name
  prepareOutput "stdout_file" job.stdoutFile dataDir
  prepareOutput "stderr_file" job.stderrFile dataDir
  pure (wasmPath, stdinPath, dataDir)

/-! ## Preparation removes nothing -/

theorem prepareStdin_grows (f : Option String) (baseDir : List String) :
    Grows (prepareStdin f baseDir) := by
  unfold prepareStdin
  split
  · exact .bind (copyToFile_grows _ _) fun _ => .pure' _
  · exact .pure' _

theorem prepareDir_grows (dataDir : List String) (p : String) : Grows (prepareDir dataDir p) := by
  unfold prepareDir
  exact .ite' (.bind (.throw' _) fun _ => mkdirs_grows _) (.bind (.pure' _) fun _ => mkdirs_grows _)

theorem prepareDataFile_grows (dataDir : List String) (p n : String) :
    Grows (prepareDataFile dataDir p n) := by
  unfold prepareDataFile
  exact .ite' (.bind (.throw' _) fun _ => .bind (mkdirs_grows _) fun _ => copyToFile_grows _ _)
    (.bind (.pure' _) fun _ => .bind (mkdirs_grows _) fun _ => copyToFile_grows _ _)

theorem prepareOutput_grows (l : String) (f : Option String) (dataDir : List String) :
    Grows (prepareOutput l f dataDir) := by
  unfold prepareOutput
  split
  · exact .pure' _
  · exact .ite' (.bind (.throw' _) fun _ => mkdirs_grows _)
      (.bind (.pure' _) fun _ => mkdirs_grows _)

/-- **The preparation removes nothing**, whether it returns or raises. -/
theorem prepareWasiEnvironment_grows (job : JobInfo) (baseDir : List String) :
    Grows (prepareWasiEnvironment job baseDir) := by
  unfold prepareWasiEnvironment
  exact .bind (mkdirs_grows _) fun _ => .bind (copyToFile_grows _ _) fun _ =>
    .bind (prepareStdin_grows _ _) fun _ => .bind (mkdirs_grows _) fun _ =>
    .bind (.forIn' fun _ _ => .bind (prepareDir_grows _ _) fun _ => .pure' _) fun _ =>
    .bind (.forIn' fun ⟨_, _⟩ _ => .bind (prepareDataFile_grows _ _ _) fun _ => .pure' _) fun _ =>
    .bind (prepareOutput_grows _ _ _) fun _ => .bind (prepareOutput_grows _ _ _) fun _ => .pure' _

/-- `(self._root_dir / f"job-{id(job)}").resolve()`. -/
def jobDir (root : List String) (jobId : Nat) : List String := root ++ ["job-" ++ toString jobId]

/-- The part of `_run_job` before its `try`: the job directory and the preparation, under the
writer lock. It returns the data directory the module gets as its `/`. -/
def startJob (root : List String) (jobId : Nat) (job : JobInfo) : SandboxM (List String) := do
  mkdirs (jobDir root jobId)
  let (_, _, dataDir) ← prepareWasiEnvironment job (jobDir root jobId)
  pure dataDir

/-- `if job_dir and job_dir.exists(): shutil.rmtree(job_dir, ignore_errors=True)`. -/
def removeJobDir (dir : List String) : SandboxM Unit := do
  if ((← get).fs.kind dir).isSome then
    modify fun x => { x with fs := x.fs.rmtree dir }

section
variable (execute : JobInfo → List String → SandboxM (Option Bytes × List (String × Bytes)))

/-- The `try` of `_run_job` and its `finally`: the module runs and the results are collected
(`execute`); an exception there is logged and gives `(None, {})`; the job directory is removed
either way. -/
def finishJob (root : List String) (jobId : Nat) (job : JobInfo) (dataDir : List String) :
    SandboxM (Option Bytes × List (String × Bytes)) := do
  let results ← tryCatch (execute job dataDir) fun _ => pure (none, [])
  removeJobDir (jobDir root jobId)
  pure results

/-- `Executor._run_job(job)` for the job object whose `id()` is `jobId`.
Reference: `executor.py:265`. -/
def runJob (root : List String) (jobId : Nat) (job : JobInfo) :
    SandboxM (Option Bytes × List (String × Bytes)) := do
  let dataDir ← startJob root jobId job
  finishJob execute root jobId job dataDir

variable (sha1 : Bytes → String)

/-- `Executor._store_named_results(named_results)`: `store_data` for each, until one raises.
Reference: `executor.py:235`. -/
def storeNamedResults : List (String × Bytes) → SandboxM Unit
  | [] => pure ()
  | (name, data) :: rest => do
    let x ← get
    let r := x.storage.storeData sha1 name data
    set { x with storage := r.2 }
    match r.1 with
    | .ok () => storeNamedResults rest
    | .error e => throw e

/-- One job of `Executor._scheduler`: run it and store its named results; an exception is logged
("Job failed") and the scheduler goes on. Sending results and named results only talks to the
agent. Reference: `executor.py:200`. -/
def schedulerJob (root : List String) (jobId : Nat) (job : JobInfo) : SandboxM Unit := do
  let (_, namedResults) ← runJob execute root jobId job
  storeNamedResults sha1 namedResults

/-- The file system the job's module starts on, if `_run_job` gets that far. -/
def moduleStart (root : List String) (x : Sandbox) (jobId : Nat) (job : JobInfo) : Option Fs :=
  match (startJob root jobId job).run.run x with
  | (.ok _, x') => some x'.fs
  | (.error _, _) => none

/-- `Executor._scheduler` running jobs one after another, each with its object's `id()`: the file
system each module starts on, and the state after the last job. -/
def scheduler (root : List String) : Sandbox → List (Nat × JobInfo) → List (Option Fs) × Sandbox
  | x, [] => ([], x)
  | x, (jobId, job) :: jobs =>
    let rest := scheduler root ((schedulerJob execute sha1 root jobId job).run.run x).2 jobs
    (moduleStart root x jobId job :: rest.1, rest.2)

/-! ## A failed preparation leaves its files to the next job of the same `id()` -/

/-- **The part of `_run_job` before its `try` removes nothing.** -/
theorem startJob_grows (root : List String) (jobId : Nat) (job : JobInfo) :
    Grows (startJob root jobId job) := by
  unfold startJob
  exact .bind (mkdirs_grows _) fun _ =>
    .bind (prepareWasiEnvironment_grows _ _) fun ⟨_, _, _⟩ => .pure' _

/-- The module of a job starts on everything that was there before its preparation. -/
theorem moduleStart_extends {root : List String} {x : Sandbox} {jobId : Nat} {job : JobInfo}
    {fs : Fs} (h : moduleStart root x jobId job = some fs) : x.fs.Extends fs := by
  unfold moduleStart at h
  split at h
  · next x' hs =>
    cases h
    simpa [hs] using startJob_grows root jobId job x
  · cases h

/-- A job whose preparation raised ends there, in the state the preparation left: the exception
leaves `_run_job` past its `finally`. -/
theorem schedulerJob_of_startJob_error {root : List String} {jobId : Nat} {job : JobInfo}
    {x : Sandbox} {e : RecError} (h : ((startJob root jobId job).run.run x).1 = .error e) :
    (schedulerJob execute sha1 root jobId job).run.run x =
      (.error e, ((startJob root jobId job).run.run x).2) := by
  simp only [schedulerJob, runJob, SandboxM.run_bind]
  rcases hs : (startJob root jobId job).run.run x with ⟨_ | _, x'⟩
  · rw [hs] at h; cases h; rfl
  · rw [hs] at h; cases h

/-- **What a failed preparation created is there when the next job of the same `id()` starts.**
If the preparation of a job raises after creating `p`, the scheduler goes on to the next job,
and when that job has the same `id()`, its module starts on a file system holding `p`. -/
theorem scheduler_leftover (root : List String) (x : Sandbox) (jobId : Nat) (j₁ j₂ : JobInfo)
    (jobs : List (Nat × JobInfo)) {e : RecError} {p : List String}
    (hfail : ((startJob root jobId j₁).run.run x).1 = .error e)
    (hp : ((startJob root jobId j₁).run.run x).2.fs.node p ≠ none) :
    ∃ rest, (scheduler execute sha1 root x ((jobId, j₁) :: (jobId, j₂) :: jobs)).1 =
        none :: moduleStart root ((startJob root jobId j₁).run.run x).2 jobId j₂ :: rest ∧
      ∀ fs₂, moduleStart root ((startJob root jobId j₁).run.run x).2 jobId j₂ = some fs₂ →
        fs₂.node p ≠ none := by
  have h₁ : moduleStart root x jobId j₁ = none := by
    unfold moduleStart
    rcases hs : (startJob root jobId j₁).run.run x with ⟨_ | _, _⟩
    · rfl
    · rw [hs] at hfail; cases hfail
  let x₁ := ((startJob root jobId j₁).run.run x).2
  refine ⟨(scheduler execute sha1 root
    ((schedulerJob execute sha1 root jobId j₂).run.run x₁).2 jobs).1, ?_, ?_⟩
  · simp only [scheduler, schedulerJob_of_startJob_error execute sha1 hfail, h₁, x₁]
  · intro fs₂ h
    exact moduleStart_extends h p hp

end

/-- A job whose second directory escapes the data directory fails after creating `data/d`; the
next job with the same `id()` starts its module on `data/d`, which its own preparation does not
create. -/
theorem scheduler_leftover_escape :
    let x : Sandbox :=
      ⟨⟨fun p => if p = ["exec"] then some .dir else none⟩,
        ⟨[⟨"mod", "h"⟩], fun f => if f = "h" then some [0] else none⟩⟩
    let j₁ : JobInfo := { wasmModule := "mod", dirs := ["d", "../x"] }
    let j₂ : JobInfo := { wasmModule := "mod" }
    let x₁ := ((startJob ["exec"] 7 j₁).run.run x).2
    ((startJob ["exec"] 7 j₁).run.run x).1 =
        .error (.valueError "Directory path escapes data directory: ../x") ∧
      x₁.fs.node ["exec", "job-7", "data", "d"] ≠ none ∧
      (∃ rest,
        (scheduler (fun _ _ => pure (none, [])) (fun _ => "") ["exec"] x [(7, j₁), (7, j₂)]).1 =
          none :: moduleStart ["exec"] x₁ 7 j₂ :: rest ∧
        ∀ fs₂, moduleStart ["exec"] x₁ 7 j₂ = some fs₂ →
          fs₂.node ["exec", "job-7", "data", "d"] ≠ none) ∧
      (moduleStart ["exec"] x₁ 7 j₂).isSome ∧
      (moduleStart ["exec"] x 7 j₂).map (·.node ["exec", "job-7", "data", "d"]) = some none := by
  intro x j₁ j₂ x₁
  have hfail : ((startJob ["exec"] 7 j₁).run.run x).1 =
      .error (.valueError "Directory path escapes data directory: ../x") := rfl
  have hp : x₁.fs.node ["exec", "job-7", "data", "d"] ≠ none := by decide
  exact ⟨hfail, hp, scheduler_leftover _ _ ["exec"] x 7 j₁ j₂ [] hfail hp, by decide, by decide⟩

end RecDtn
