import RecDtn.Executor.Effects

/-!
# The sandbox preparation stays in its directory

`Executor._prepare_wasi_environment` (`src/rec/dtn/executor.py:304`) first builds what reads no
user-supplied path (`prepareSandbox`: the base directory, the module, the stdin file and the data
directory), then takes one step per user-supplied path of the job in the order of `userPaths`:
the directories of `dirs`, the files of `data`, and the parents of `stdout_file` and
`stderr_file` (`prepareWasiEnvironment_eq`). Each step checks that the normalised path stays in the
data directory before its `mkdir` or its write.

* `prepareWasiEnvironment_confined` — from a base directory whose parent exists, the preparation
  changes only paths at or below the base; the steps for user-supplied paths change only paths
  strictly below the data directory; and the first user-supplied path that escapes raises
  `ValueError` right after the steps before it, so nothing is made for it or for any path after it.

The file system of the model has no symbolic links, so a resolved path is its normalisation.
-/

namespace RecDtn

/-- A user-supplied path of a job, with the field it comes from. -/
inductive UserPath
  | dir (p : String)
  | dataFile (p name : String)
  | output (label p : String)
deriving DecidableEq, Repr

namespace UserPath

/-- The path as the job gives it. -/
def path : UserPath → String
  | dir p | dataFile p _ | output _ p => p

/-- The step `_prepare_wasi_environment` takes for the path. -/
def prepare (dataDir : List String) : UserPath → SandboxM Unit
  | dir p => prepareDir dataDir p
  | dataFile p name => prepareDataFile dataDir p name
  | output label p => prepareOutput label (some p) dataDir

/-- The check each step makes first: the normalised path is not in the data directory. -/
def escapes (dataDir : List String) (u : UserPath) : Bool :=
  !isRelativeTo (resolve dataDir (lstripSlash u.path)) dataDir

end UserPath

/-- The user-supplied paths of a job in the order `_prepare_wasi_environment` takes them; an
unset or empty `stdout_file` or `stderr_file` is skipped. -/
def userPaths (job : JobInfo) : List UserPath :=
  job.dirs.map .dir ++ job.data.map (fun (p, name) => .dataFile p name) ++
    (truthy job.stdoutFile).toList.map (.output "stdout_file") ++
    (truthy job.stderrFile).toList.map (.output "stderr_file")

/-- The steps for a list of user-supplied paths, one after the other. -/
def prepareUserPaths (dataDir : List String) : List UserPath → SandboxM Unit
  | [] => pure ()
  | u :: us => do u.prepare dataDir; prepareUserPaths dataDir us

/-- The part of `_prepare_wasi_environment` before the first user-supplied path: the base
directory, the module, the stdin file and the data directory. Reference: `executor.py:322-336`. -/
def prepareSandbox (job : JobInfo) (baseDir : List String) : SandboxM (Option (List String)) := do
  mkdirs baseDir
  copyToFile job.wasmModule (baseDir ++ ["module.wasm"])
  let stdinPath ← prepareStdin job.stdinFile baseDir
  mkdirs (baseDir ++ ["data"])
  pure stdinPath

/-! ## The preparation as two parts -/

theorem prepareUserPaths_append (dataDir : List String) (us vs : List UserPath) :
    prepareUserPaths dataDir (us ++ vs) = (do prepareUserPaths dataDir us; prepareUserPaths dataDir vs) := by
  induction us with
  | nil => simp [prepareUserPaths]
  | cons u us ih => simp [prepareUserPaths, ih]

/-- The steps for the paths of one field are its `for` loop. -/
theorem prepareUserPaths_map {α : Type} (dataDir : List String) (g : α → UserPath) (xs : List α) :
    prepareUserPaths dataDir (xs.map g) =
      forIn xs PUnit.unit (fun a _ => do (g a).prepare dataDir; pure (ForInStep.yield PUnit.unit)) := by
  induction xs with
  | nil => rfl
  | cons a as ih => simp [prepareUserPaths, ih]

theorem truthy_some_of {f : Option String} {s : String} (h : truthy f = some s) :
    truthy (some s) = some s := by
  cases f with
  | none => cases h
  | some t =>
    simp only [truthy] at h ⊢
    split_ifs at h with ht
    cases h
    simp [ht]

/-- The steps for a set `stdout_file` or `stderr_file` are its block. -/
theorem prepareUserPaths_output (dataDir : List String) (label : String) (f : Option String) :
    prepareUserPaths dataDir ((truthy f).toList.map (.output label)) = prepareOutput label f dataDir := by
  rcases h : truthy f with _ | s
  · simp [prepareUserPaths, prepareOutput, h]
  · simp [prepareUserPaths, UserPath.prepare, prepareOutput, h, truthy_some_of h]

/-- **`_prepare_wasi_environment` is `prepareSandbox` followed by one step per user-supplied
path.** -/
theorem prepareWasiEnvironment_eq (job : JobInfo) (base : List String) :
    prepareWasiEnvironment job base = (do
      let stdinPath ← prepareSandbox job base
      prepareUserPaths (base ++ ["data"]) (userPaths job)
      pure (base ++ ["module.wasm"], stdinPath, base ++ ["data"])) := by
  simp only [prepareSandbox, userPaths, prepareUserPaths_append, prepareUserPaths_output, bind_assoc]
  simp only [prepareUserPaths_map, UserPath.prepare, prepareWasiEnvironment]
  rfl

/-! ## What each part changes -/

theorem UserPath.prepare_touches (dataDir : List String) :
    ∀ u : UserPath, Touches (Around dataDir) (u.prepare dataDir)
  | dir _ => prepareDir_touches _ _
  | dataFile _ _ => prepareDataFile_touches _ _ _
  | output _ _ => prepareOutput_touches _ _ _

theorem prepareUserPaths_touches (dataDir : List String) :
    ∀ us, Touches (Around dataDir) (prepareUserPaths dataDir us)
  | [] => .pure' _
  | u :: us => .bind (u.prepare_touches dataDir) fun _ => prepareUserPaths_touches dataDir us

/-- When `prepareSandbox` returns, every directory on the way to the data directory is there. -/
theorem prepareSandbox_ok_kind {job : JobInfo} {base : List String} {x y : Sandbox}
    {r : Option (List String)} (h : (prepareSandbox job base).run.run x = (.ok r, y)) :
    ∀ q, q <+: base ++ ["data"] → y.fs.kind q = some .dir := by
  have ht : Triple (fun _ => True) (prepareSandbox job base)
      (fun _ y => ∀ q, q <+: base ++ ["data"] → y.fs.kind q = some .dir) fun _ _ => True :=
    .bind (.trivial' _) fun _ => .bind (.trivial' _) fun _ => .bind (.trivial' _) fun _ =>
      .bind (mkdirs_triple_kind _) fun _ =>
        .pure' (Q := fun _ y => ∀ q, q <+: base ++ ["data"] → y.fs.kind q = some .dir) _
  simpa [h] using Triple.ok_of ht trivial (x := x) (by rw [h])

/-- **An escaping path raises `ValueError` before its `mkdir` or its write.** -/
theorem UserPath.prepare_of_escapes {dataDir : List String} {u : UserPath}
    (h : u.escapes dataDir = true) : ∃ msg, u.prepare dataDir = throw (.valueError msg) := by
  have h' : isRelativeTo (resolve dataDir (lstripSlash u.path)) dataDir = false := by
    simpa [escapes] using h
  cases u with
  | dir p =>
    exact ⟨"Directory path escapes data directory: " ++ p, by simp_all [prepare, prepareDir, path]⟩
  | dataFile p n =>
    exact ⟨"Data file path escapes data directory: " ++ p, by simp_all [prepare, prepareDataFile, path]⟩
  | output l p =>
    have hne : p ≠ "" := by
      rintro rfl
      have hself : dataDir.isPrefixOf dataDir = true := List.isPrefixOf_iff_prefix.2 (List.prefix_refl _)
      simp [path, lstripSlash, resolve, splitSlash, pushPart, isRelativeTo, hself] at h'
    exact ⟨l ++ " path escapes data directory: " ++ p, by simp_all [prepare, prepareOutput, truthy, path]⟩

/-! ## Confinement -/

/-- **The preparation stays in its directory.** From a state where every directory above the base
is there, it changes only paths at or below the base. After `prepareSandbox` has made the data
directory, the rest changes only paths strictly below it. And when the user-supplied paths are
`pre ++ u :: post` with `u` escaping the data directory, the preparation is `prepareSandbox`, the
steps for `pre`, then a `ValueError`: nothing is made for `u` or for any path of `post`. -/
theorem prepareWasiEnvironment_confined (job : JobInfo) (base : List String) :
    (∀ x, (∀ q, q <+: base → q ≠ base → x.fs.kind q = some .dir) →
      ∀ q, ((prepareWasiEnvironment job base).run.run x).2.fs.node q ≠ x.fs.node q → base <+: q) ∧
    (∀ x r y, (prepareSandbox job base).run.run x = (.ok r, y) →
      ∀ q, ((prepareWasiEnvironment job base).run.run x).2.fs.node q ≠ y.fs.node q →
        base ++ ["data"] <+: q ∧ q ≠ base ++ ["data"]) ∧
    (∀ pre u post, userPaths job = pre ++ u :: post → u.escapes (base ++ ["data"]) = true →
      ∃ msg, prepareWasiEnvironment job base = (do
        let _ ← prepareSandbox job base
        prepareUserPaths (base ++ ["data"]) pre
        throw (.valueError msg))) := by
  refine ⟨fun x hbase q hq => ?_, fun x r y hs q hq => ?_, fun pre u post hsplit hu => ?_⟩
  · -- the whole preparation: around the base, and nowhere a directory was
    obtain ⟨⟨-, hq | hq⟩, hk⟩ := prepareWasiEnvironment_touches job base x q hq
    · by_cases hqb : q = base
      · exact hqb ▸ List.prefix_refl _
      · exact absurd (hbase q hq hqb) hk
    · exact hq
  · -- the user steps, from the state with the data directory
    rw [prepareWasiEnvironment_eq, SandboxM.run_bind, hs] at hq
    have hdirs := prepareSandbox_ok_kind hs
    obtain ⟨⟨-, hq | hq⟩, hk⟩ :=
      Touches.bind (prepareUserPaths_touches _ (userPaths job)) (fun _ => .pure' _) y q hq
    · exact absurd (hdirs q hq) hk
    · exact ⟨hq, fun h => hk (hdirs q (h ▸ List.prefix_refl _))⟩
  · -- the first escaping path
    obtain ⟨msg, hmsg⟩ := UserPath.prepare_of_escapes hu
    refine ⟨msg, ?_⟩
    simp only [prepareWasiEnvironment_eq, hsplit, prepareUserPaths_append, prepareUserPaths, hmsg,
      ExceptT.bind_throw, bind_assoc]

end RecDtn
