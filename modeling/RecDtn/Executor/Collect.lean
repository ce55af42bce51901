import RecDtn.Executor.Sandbox

/-!
# Collecting the results of a job

After the module has run, `Executor._collect_results` (`src/rec/dtn/executor.py:374`) zips the
files at or below each path of `results`, and `Executor._collect_named_results`
(`executor.py:407`) reads each path of `named_results`, zipping a directory. Both resolve a listed
path with `Path.resolve()` and skip it when it leaves the data directory, and both walk a
directory with `Path.rglob("*")`, which lists what the module left there, symbolic links included,
and read each entry with `is_file()` and `ZipFile.write`, which follow links.

The host file system here has symbolic links (`HostFs`), unlike the one the preparation sees: the
module may leave links with any target. Without links, resolving a path is the normalisation
`resolve` of the preparation (`HostFs.resolve_of_noLinks`). A ZIP is the list of its entries, each
a name and the bytes written; its encoding is not modelled.

* `collect_readsThroughLinks` — a link below a listed directory is read through: the results hold
  the bytes of the file the link resolves to, wherever that file is;
* `collectResults_entries` — on a tree without links, every entry holds the bytes of the file
  at its name, and a file's name occurs once per listed path at or above it;
* `collectResults_overlap` — a directory and a file below it, both listed, give the file twice.
-/

namespace RecDtn

/-- What a host path holds, as `os.lstat` sees it. -/
inductive HostNode
  | file (data : Bytes)
  | dir
  | link (target : String)
deriving DecidableEq, Repr, Inhabited

/-- Whether an entry is a symbolic link. -/
def HostNode.isLink : HostNode → Bool
  | .link _ => true
  | _ => false

/-- The components of a path string: the pieces between its slashes. -/
def pathComponents (s : String) : List String := (splitSlash s.data).map String.mk

/-- A component a directory can list: not empty, `.` or `..`. Every component of a resolved path
is one. -/
def properName (c : String) : Bool := c != "" && c != "." && c != ".."

/-- A host file system: each path from the root with what it holds, in the order directories list
them. The root is a directory. -/
structure HostFs where
  entries : List (List String × HostNode)
deriving Repr

namespace HostFs

/-- What `p` holds, a link not followed (`os.lstat`). -/
def lstat (fs : HostFs) (p : List String) : Option HostNode :=
  if p = [] then some .dir else fs.entries.lookup p

/-- The components one after another from the resolved directory `cur`: `.` and empty ones
vanish, `..` goes up, and a link `name` to `target` is replaced by `follow cur name target`. The
loop of `posixpath._joinrealpath`. -/
def walk (fs : HostFs) (follow : List String → String → String → List String) :
    List String → List String → List String
  | cur, [] => cur
  | cur, c :: cs =>
    if c = "" ∨ c = "." then fs.walk follow cur cs
    else if c = ".." then fs.walk follow cur.dropLast cs
    else match fs.lstat (cur ++ [c]) with
      | some (.link t) => fs.walk follow (follow cur c t) cs
      | _ => fs.walk follow (cur ++ [c]) cs

/-- `os.path.realpath` from `cur` over `cs`, following links `n` deep: a target is resolved from
the root when it starts with a slash, else from the link's directory. Deeper than `n`, a link is
kept as a plain component. -/
def realpathN (fs : HostFs) : Nat → List String → List String → List String
  | 0 => fs.walk fun cur c _ => cur ++ [c]
  | n + 1 => fs.walk fun cur _ t =>
    fs.realpathN n (if startswith t "/" then [] else cur) (pathComponents t)

/-- `os.path.realpath`, following links as deep as there are entries: a chain of links without a
loop is followed to its end. Python stops at a loop instead. -/
def realpath (fs : HostFs) (cur cs : List String) : List String :=
  fs.realpathN fs.entries.length cur cs

/-- `(base / rel).resolve()` for a resolved directory `base`. -/
def resolve (fs : HostFs) (base : List String) (rel : String) : List String :=
  fs.realpath base (pathComponents rel)

/-- What `p` holds, links followed (`os.stat`); `none` when it does not exist. -/
def stat (fs : HostFs) (p : List String) : Option HostNode := fs.lstat (fs.realpath [] p)

/-- The bytes `open(p, "rb").read()` returns, when `p.is_file()`. -/
def readFile (fs : HostFs) (p : List String) : Option Bytes :=
  match fs.stat p with
  | some (.file b) => some b
  | _ => none

/-- `Path(d).rglob("*")`: every entry below `d` reached through directories, in the order of the
entries; a link is listed and not entered. -/
def rglob (fs : HostFs) (d : List String) : List (List String × HostNode) :=
  fs.entries.filter fun e => d.isPrefixOf e.1 && d.length < e.1.length &&
    (List.range e.1.length).all fun k => k ≤ d.length || fs.lstat (e.1.take k) == some .dir

end HostFs

/-- The files `rglob` finds below a directory, each named by its path with the first `n`
components dropped and holding what reading it returns: the loops of `_collect_results` and
`_collect_named_results` over `abs_path.rglob("*")`. -/
def zipTree (fs : HostFs) (d : List String) (n : Nat) : List (List String × Bytes) :=
  (fs.rglob d).filterMap fun e => (fs.readFile e.1).map fun b => (e.1.drop n, b)

/-- The entries `_collect_results` writes for one listed path: the file itself, or every file
below the directory, each named by its path relative to the data directory. A path that escapes
the data directory, does not exist, or is neither a file nor a directory is skipped (and logged).
Reference: `executor.py:384-402`. -/
def collectPath (fs : HostFs) (dataDir : List String) (path : String) : List (List String × Bytes) :=
  let absPath := fs.resolve dataDir (lstripSlash path)
  if !isRelativeTo absPath dataDir then []
  else match fs.stat absPath with
    | some (.file b) => [(absPath.drop dataDir.length, b)]
    | some .dir => zipTree fs absPath dataDir.length
    | _ => []

/-- `Executor._collect_results(job, base_dir)`: the entries of the results ZIP in the order they
are written, or `None` when the job has no receiver. Reference: `executor.py:374`. -/
def collectResults (fs : HostFs) (job : JobInfo) (baseDir : List String) :
    Option (List (List String × Bytes)) :=
  match job.resultsReceiver with
  | some r => if r.str.isEmpty then none else some (job.results.flatMap (collectPath fs (baseDir ++ ["data"])))
  | none => none

/-- A named result: a file's bytes, or the entries of a directory's ZIP. -/
inductive ResultValue
  | bytes (b : Bytes)
  | zip (entries : List (List String × Bytes))
deriving DecidableEq, Repr

/-- The value `_collect_named_results` takes for one path: the file's bytes, or a ZIP of the
directory with names relative to its parent; `none` when the path is skipped.
Reference: `executor.py:413-439`. -/
def collectNamed (fs : HostFs) (dataDir : List String) (path : String) : Option ResultValue :=
  let absPath := fs.resolve dataDir (lstripSlash path)
  if !isRelativeTo absPath dataDir then none
  else match fs.stat absPath with
    | some (.file b) => some (.bytes b)
    | some .dir => some (.zip (zipTree fs absPath absPath.dropLast.length))
    | _ => none

/-- `results[name] = value`: a name already there keeps its place and takes the new value. -/
def setResult (d : List (String × ResultValue)) (name : String) (v : ResultValue) :
    List (String × ResultValue) :=
  if d.any (·.1 == name) then d.map fun p => if p.1 = name then (name, v) else p else d ++ [(name, v)]

/-- `Executor._collect_named_results(job, base_dir)`: the dict of named results.
Reference: `executor.py:407`. -/
def collectNamedResults (fs : HostFs) (job : JobInfo) (baseDir : List String) :
    List (String × ResultValue) :=
  job.namedResults.foldl (fun acc (path, name) =>
    match collectNamed fs (baseDir ++ ["data"]) path with
    | some v => setResult acc name v
    | none => acc) []

/-! ## A link below a listed directory is read through -/

theorem mem_zipTree {fs : HostFs} {d : List String} {e : List String × HostNode} {b : Bytes}
    (he : e ∈ fs.rglob d) (hb : fs.readFile e.1 = some b) (n : Nat) :
    (e.1.drop n, b) ∈ zipTree fs d n :=
  List.mem_filterMap.2 ⟨e, he, by simp [hb]⟩

/-- **The results read through the links the module left.** When a listed path resolves to a
directory in the data directory and `rglob` lists a link `l` below it, the results ZIP holds the
bytes of the file `l` resolves to, under `l`'s name, and so does the ZIP `_collect_named_results`
makes of that directory: nothing checks where the link leads. -/
theorem collect_readsThroughLinks (fs : HostFs) (job : JobInfo) (base : List String) {r : EID}
    {path : String} {d l : List String} {t : String} {b : Bytes}
    (hr : job.resultsReceiver = some r) (hne : r.str.isEmpty = false) (hpath : path ∈ job.results)
    (hd : fs.resolve (base ++ ["data"]) (lstripSlash path) = d)
    (hin : isRelativeTo d (base ++ ["data"]) = true) (hdir : fs.stat d = some .dir)
    (hl : (l, .link t) ∈ fs.rglob d) (hb : fs.readFile l = some b) :
    (∃ es, collectResults fs job base = some es ∧ (l.drop (base.length + 1), b) ∈ es) ∧
    ∃ es, collectNamed fs (base ++ ["data"]) path = some (.zip es) ∧ (l.drop d.dropLast.length, b) ∈ es := by
  have hpath' : (l.drop (base.length + 1), b) ∈ collectPath fs (base ++ ["data"]) path := by
    simpa [collectPath, hd, hin, hdir] using mem_zipTree hl hb (base ++ ["data"]).length
  refine ⟨⟨_, by simp [collectResults, hr, hne], List.mem_flatMap.2 ⟨path, hpath, hpath'⟩⟩, ?_⟩
  exact ⟨_, by simp [collectNamed, hd, hin, hdir], mem_zipTree hl hb _⟩

/-- Two hosts that agree inside the data directory `/exec/data`, where the module left a link
`out/l` with the relative target `../../../../etc/secret`, and differ in `/etc/secret`: the results
of a job listing `/out` differ, each holding its host's secret. -/
theorem collect_readsThroughLinks_secret :
    let fs : Bytes → HostFs := fun secret =>
      ⟨[(["etc"], .dir), (["etc", "secret"], .file secret), (["exec"], .dir), (["exec", "data"], .dir),
        (["exec", "data", "out"], .dir), (["exec", "data", "out", "l"], .link "../../../../etc/secret")]⟩
    let job : JobInfo :=
      { wasmModule := "mod", results := ["/out"], resultsReceiver := some ⟨"dtn://client/"⟩ }
    (fs [1]).entries.filter (["exec", "data"].isPrefixOf ·.1) =
        (fs [2]).entries.filter (["exec", "data"].isPrefixOf ·.1) ∧
      collectResults (fs [1]) job ["exec"] ≠ collectResults (fs [2]) job ["exec"] ∧
      (∃ es, collectResults (fs [1]) job ["exec"] = some es ∧ (["out", "l"], [1]) ∈ es) ∧
      ∃ es, collectResults (fs [2]) job ["exec"] = some es ∧ (["out", "l"], [2]) ∈ es := by
  intro fs job
  refine ⟨by decide, by decide, ?_, ?_⟩
  · exact (collect_readsThroughLinks (fs [1]) job ["exec"] rfl rfl (.head _) rfl (by decide) (by decide)
      (l := ["exec", "data", "out", "l"]) (t := "../../../../etc/secret") (b := [1]) (by decide) (by decide)).1
  · exact (collect_readsThroughLinks (fs [2]) job ["exec"] rfl rfl (.head _) rfl (by decide) (by decide)
      (l := ["exec", "data", "out", "l"]) (t := "../../../../etc/secret") (b := [2]) (by decide) (by decide)).1

/-! ## Results on a tree without links -/

namespace HostFs

/-- No entry is a symbolic link. -/
def NoLinks (fs : HostFs) : Prop := ∀ e ∈ fs.entries, e.2.isLink = false

/-- The host file system is a tree: no path is listed twice, the root is not listed, every
component is a proper name, and every directory on the way to an entry is listed as a
directory. -/
def IsTree (fs : HostFs) : Prop :=
  (fs.entries.map Prod.fst).Nodup ∧
    ∀ e ∈ fs.entries, e.1 ≠ [] ∧ (∀ c ∈ e.1, properName c = true) ∧
      ∀ k < e.1.length, 0 < k → fs.lstat (e.1.take k) = some .dir

instance (fs : HostFs) : Decidable fs.NoLinks :=
  inferInstanceAs (Decidable (∀ e ∈ fs.entries, e.2.isLink = false))

instance (fs : HostFs) : Decidable fs.IsTree :=
  inferInstanceAs (Decidable ((fs.entries.map Prod.fst).Nodup ∧
    ∀ e ∈ fs.entries, e.1 ≠ [] ∧ (∀ c ∈ e.1, properName c = true) ∧
      ∀ k < e.1.length, 0 < k → fs.lstat (e.1.take k) = some .dir))

variable {fs : HostFs}

theorem mem_of_lstat {p : List String} {n : HostNode} (hp : p ≠ []) (h : fs.lstat p = some n) :
    (p, n) ∈ fs.entries := by
  rw [lstat, if_neg hp, List.lookup_eq_some_iff] at h
  obtain ⟨l₁, l₂, he, -⟩ := h
  simp [he]

theorem lstat_ne_link (hnl : fs.NoLinks) (p : List String) (t : String) :
    fs.lstat p ≠ some (.link t) := fun h => by
  by_cases hp : p = []
  · simp [lstat, hp] at h
  · exact absurd (hnl _ (mem_of_lstat hp h)) (by simp [HostNode.isLink])

/-- Without links, resolving is normalising. -/
theorem walk_noLinks (hnl : fs.NoLinks) (follow : List String → String → String → List String) :
    ∀ cur cs, fs.walk follow cur cs = cs.foldl pushPart cur
  | _, [] => rfl
  | cur, c :: cs => by
    rw [walk, List.foldl_cons, pushPart]
    split_ifs
    · exact walk_noLinks hnl follow cur cs
    · exact walk_noLinks hnl follow _ cs
    · split
      · next t h => exact absurd h (lstat_ne_link hnl _ t)
      · exact walk_noLinks hnl follow _ cs

theorem realpath_noLinks (hnl : fs.NoLinks) (cur cs : List String) :
    fs.realpath cur cs = cs.foldl pushPart cur := by
  unfold realpath
  cases fs.entries.length <;> exact walk_noLinks hnl _ cur cs

theorem resolve_of_noLinks (hnl : fs.NoLinks) (base : List String) (rel : String) :
    fs.resolve base rel = RecDtn.resolve base rel :=
  realpath_noLinks hnl base _

end HostFs

theorem foldl_pushPart_proper :
    ∀ {cur cs : List String}, (∀ c ∈ cs, properName c = true) → cs.foldl pushPart cur = cur ++ cs
  | _, [], _ => by simp
  | cur, c :: cs, h => by
    have hc := h c (.head _)
    simp only [properName, Bool.and_eq_true, bne_iff_ne, ne_eq] at hc
    rw [List.foldl_cons, pushPart, if_neg (not_or.2 hc.1), if_neg hc.2,
      foldl_pushPart_proper fun c' hc' => h c' (.tail _ hc')]
    simp

/-- Normalising keeps the components proper: `pushPart` only appends proper ones. -/
theorem proper_foldl_pushPart :
    ∀ {cur : List String} (cs : List String), (∀ c ∈ cur, properName c = true) →
      ∀ c ∈ cs.foldl pushPart cur, properName c = true
  | _, [], h => h
  | cur, c :: cs, h => by
    rw [List.foldl_cons]
    refine proper_foldl_pushPart cs ?_
    unfold pushPart
    split_ifs with h₁ h₂
    · exact h
    · exact fun c' hc' => h c' ((List.dropLast_prefix cur).subset hc')
    · intro c' hc'
      rcases List.mem_append.1 hc' with hc' | hc'
      · exact h c' hc'
      · rw [List.mem_singleton.1 hc']
        simp only [properName, Bool.and_eq_true, bne_iff_ne, ne_eq]
        exact ⟨not_or.1 h₁, h₂⟩

namespace HostFs

variable {fs : HostFs}

/-- Without links, `os.stat` of a path of proper names is `os.lstat`. -/
theorem stat_of_proper (hnl : fs.NoLinks) {p : List String} (hp : ∀ c ∈ p, properName c = true) :
    fs.stat p = fs.lstat p := by
  rw [stat, realpath_noLinks hnl, foldl_pushPart_proper hp, List.nil_append]

/-- **Every directory on the way to a path of a tree is a directory.** -/
theorem lstat_dir_of_prefix (ht : fs.IsTree) {p q : List String} {n : HostNode}
    (hq : fs.lstat q = some n) (hpq : p <+: q) (hne : p ≠ q) : fs.lstat p = some .dir := by
  by_cases hp : p = []
  · simp [lstat, hp]
  have hq0 : q ≠ [] := fun h => hp (List.prefix_nil.1 (h ▸ hpq))
  have hlt : p.length < q.length := lt_of_le_of_ne hpq.length_le fun h => hne (hpq.eq_of_length h)
  have := (ht.2 _ (mem_of_lstat hq0 hq)).2.2 p.length hlt (List.length_pos.2 hp)
  rwa [← List.prefix_iff_eq_take.1 hpq] at this

/-- In a tree, `rglob` lists every entry below the directory. -/
theorem mem_rglob (ht : fs.IsTree) {d : List String} {e : List String × HostNode} :
    e ∈ fs.rglob d ↔ e ∈ fs.entries ∧ d <+: e.1 ∧ d.length < e.1.length := by
  simp only [rglob, List.mem_filter, Bool.and_eq_true, List.isPrefixOf_iff_prefix, decide_eq_true_eq,
    List.all_eq_true, List.mem_range, Bool.or_eq_true, beq_iff_eq, and_assoc]
  refine ⟨fun ⟨he, hpre, hlen, _⟩ => ⟨he, hpre, hlen⟩, fun ⟨he, hpre, hlen⟩ => ⟨he, hpre, hlen, ?_⟩⟩
  intro k hk
  by_cases hkd : k ≤ d.length
  · exact .inl hkd
  · exact .inr ((ht.2 _ he).2.2 k hk (by omega))

end HostFs

/-- **Among entries at distinct paths below `pre`, only the one at `pre ++ a` is named `a`.** -/
theorem count_names_filterMap (f : List String → Option Bytes) {pre a : List String}
    {L : List (List String × HostNode)} (hnd : (L.map Prod.fst).Nodup) (hpre : ∀ e ∈ L, pre <+: e.1) :
    ((L.filterMap fun e => (f e.1).map fun b => (e.1.drop pre.length, b)).map Prod.fst).count a =
      if ∃ e ∈ L, e.1 = pre ++ a ∧ (f e.1).isSome then 1 else 0 := by
  induction L with
  | nil => simp
  | cons e L ih =>
    obtain ⟨hne, hnd⟩ := List.nodup_cons.1 hnd
    have ih := ih hnd fun e' he' => hpre e' (.tail _ he')
    have key : e.1.drop pre.length = a ↔ e.1 = pre ++ a := by
      obtain ⟨t, ht⟩ := hpre e (.head _)
      rw [← ht]
      simp
    by_cases hwit : e.1 = pre ++ a ∧ (f e.1).isSome
    · obtain ⟨b, hb⟩ := Option.isSome_iff_exists.1 hwit.2
      have hnot : ¬ ∃ e' ∈ L, e'.1 = pre ++ a ∧ (f e'.1).isSome :=
        fun ⟨e', he', h', _⟩ => hne (hwit.1 ▸ h' ▸ List.mem_map_of_mem _ he')
      rw [List.filterMap_cons, hb, if_pos ⟨e, .head _, hwit⟩]
      simp [ih, hnot, key.2 hwit.1]
    · have hiff : (∃ e' ∈ e :: L, e'.1 = pre ++ a ∧ (f e'.1).isSome) ↔
          ∃ e' ∈ L, e'.1 = pre ++ a ∧ (f e'.1).isSome := by
        simp only [List.mem_cons, exists_eq_or_imp, hwit, false_or]
      rw [List.filterMap_cons, if_congr hiff rfl rfl, ← ih]
      rcases hfe : f e.1 with _ | b
      · rfl
      · have : e.1.drop pre.length ≠ a := fun h => hwit ⟨key.1 h, by simp [hfe]⟩
        simp [List.count_cons, this]

/-- A listed result path whose normalisation lies in the data directory, at or above
`dataDir ++ a`. -/
def listedAt (dataDir : List String) (path : String) (a : List String) : Bool :=
  isRelativeTo (resolve dataDir (lstripSlash path)) dataDir &&
    (resolve dataDir (lstripSlash path)).isPrefixOf (dataDir ++ a)

section Tree

variable {fs : HostFs} {dataDir : List String}

theorem proper_resolve (hdata : ∀ c ∈ dataDir, properName c = true) (rel : String) :
    ∀ c ∈ resolve dataDir rel, properName c = true :=
  proper_foldl_pushPart _ hdata

/-- On a tree without links, one listed path gives the file at its normalisation, or the files
below the directory there. -/
theorem collectPath_of_tree (hnl : fs.NoLinks) (hdata : ∀ c ∈ dataDir, properName c = true)
    (path : String) :
    collectPath fs dataDir path =
      if isRelativeTo (resolve dataDir (lstripSlash path)) dataDir then
        match fs.lstat (resolve dataDir (lstripSlash path)) with
        | some (.file b) => [((resolve dataDir (lstripSlash path)).drop dataDir.length, b)]
        | some .dir => zipTree fs (resolve dataDir (lstripSlash path)) dataDir.length
        | _ => []
      else [] := by
  rw [collectPath, HostFs.resolve_of_noLinks hnl, HostFs.stat_of_proper hnl (proper_resolve hdata _)]
  cases isRelativeTo (resolve dataDir (lstripSlash path)) dataDir <;> rfl

/-- **Every entry holds the bytes of the file at its name.** -/
theorem lstat_of_mem_collectPath (ht : fs.IsTree) (hnl : fs.NoLinks)
    (hdata : ∀ c ∈ dataDir, properName c = true) {path : String} {a : List String} {b : Bytes}
    (h : (a, b) ∈ collectPath fs dataDir path) : fs.lstat (dataDir ++ a) = some (.file b) := by
  rw [collectPath_of_tree hnl hdata] at h
  split_ifs at h with hrel
  · have hpre := List.isPrefixOf_iff_prefix.1 hrel
    split at h
    · next b' hD =>
      obtain ⟨rfl, rfl⟩ := List.mem_singleton.1 h
      rwa [List.prefix_iff_eq_append.1 hpre]
    · obtain ⟨e, he, hfe⟩ := List.mem_filterMap.1 h
      obtain ⟨b', hb', hab⟩ := Option.map_eq_some'.1 hfe
      obtain ⟨he, hDe, -⟩ := (HostFs.mem_rglob ht).1 he
      obtain ⟨rfl, rfl⟩ := Prod.mk.inj hab
      rw [List.prefix_iff_eq_append.1 (hpre.trans hDe), ← HostFs.stat_of_proper hnl (ht.2 _ he).2.1]
      unfold HostFs.readFile at hb'
      split at hb' <;> simp_all
    · cases h
  · cases h

/-- **A file's name occurs once for a listed path at or above it, and not otherwise.** -/
theorem count_collectPath (ht : fs.IsTree) (hnl : fs.NoLinks)
    (hdata : ∀ c ∈ dataDir, properName c = true) (path : String) {a : List String} {b : Bytes}
    (hf : fs.lstat (dataDir ++ a) = some (.file b)) :
    ((collectPath fs dataDir path).map Prod.fst).count a = if listedAt dataDir path a then 1 else 0 := by
  rw [collectPath_of_tree hnl hdata, listedAt]
  generalize resolve dataDir (lstripSlash path) = D
  by_cases hrel : isRelativeTo D dataDir = true
  swap
  · simp [hrel]
  have hpre := List.isPrefixOf_iff_prefix.1 hrel
  -- a directory or nothing at `D` is at or above the file only when it is strictly above
  have habove : ∀ n, fs.lstat D = some n → n ≠ .dir → (D <+: dataDir ++ a ↔ D = dataDir ++ a) :=
    fun n hD hn => ⟨fun hDa => by_contra fun heq => hn (by
      rw [HostFs.lstat_dir_of_prefix ht hf hDa heq] at hD; exact (Option.some.inj hD).symm),
      fun h => h ▸ List.prefix_refl _⟩
  rw [if_pos hrel, hrel, Bool.true_and]
  simp only [List.isPrefixOf_iff_prefix]
  rcases hD : fs.lstat D with _ | (b' | _ | t)
  · have : ¬ D <+: dataDir ++ a := fun hDa => by
      by_cases heq : D = dataDir ++ a
      · rw [heq, hf] at hD; cases hD
      · rw [HostFs.lstat_dir_of_prefix ht hf hDa heq] at hD; cases hD
    simp [this]
  · have hdrop : D.drop dataDir.length = a ↔ D = dataDir ++ a := by
      conv_rhs => rw [← List.prefix_iff_eq_append.1 hpre]
      simp
    simp only [habove _ hD (by simp), ← hdrop]
    simp [List.count_cons]
  · have hmem : (dataDir ++ a, HostNode.file b) ∈ fs.entries :=
      HostFs.mem_of_lstat (fun h => by simp [h, HostFs.lstat] at hf) hf
    have hnd : ((fs.rglob D).map Prod.fst).Nodup := ht.1.sublist ((List.filter_sublist _).map _)
    dsimp only
    rw [zipTree, count_names_filterMap _ hnd fun e he => hpre.trans ((HostFs.mem_rglob ht).1 he).2.1]
    refine if_congr ⟨fun ⟨e, he, he1, _⟩ => he1 ▸ ((HostFs.mem_rglob ht).1 he).2.1, fun hDa => ?_⟩ rfl rfl
    have hne : D ≠ dataDir ++ a := fun h => by rw [h, hf] at hD; cases hD
    refine ⟨_, (HostFs.mem_rglob ht).2 ⟨hmem, hDa, ?_⟩, rfl, ?_⟩
    · exact lt_of_le_of_ne hDa.length_le fun h => hne (hDa.eq_of_length h)
    · simp [HostFs.readFile, HostFs.stat_of_proper hnl (ht.2 _ hmem).2.1, hf]
  · exact absurd hD (HostFs.lstat_ne_link hnl D t)

theorem count_flatMap_collectPath (ht : fs.IsTree) (hnl : fs.NoLinks)
    (hdata : ∀ c ∈ dataDir, properName c = true) {a : List String} {b : Bytes}
    (hf : fs.lstat (dataDir ++ a) = some (.file b)) :
    ∀ paths : List String, ((paths.flatMap (collectPath fs dataDir)).map Prod.fst).count a =
      (paths.filter fun path => listedAt dataDir path a).length
  | [] => rfl
  | path :: paths => by
    rw [List.flatMap_cons, List.map_append, List.count_append, count_collectPath ht hnl hdata path hf,
      count_flatMap_collectPath ht hnl hdata hf paths, List.filter_cons]
    split <;> simp [Nat.add_comm]

end Tree

/-- **The results ZIP of a tree without links.** Every entry holds the bytes of the regular file at
its name below the data directory, and the name of such a file occurs once per listed path whose
normalisation lies in the data directory at or above it: a file below no such path is left out,
and a file below two of them (a directory and a file in it, or a path listed twice) is written
twice. -/
theorem collectResults_entries (fs : HostFs) (ht : fs.IsTree) (hnl : fs.NoLinks) (job : JobInfo)
    (base : List String) (hbase : ∀ c ∈ base, properName c = true) {r : EID}
    (hr : job.resultsReceiver = some r) (hne : r.str.isEmpty = false) :
    ∃ es, collectResults fs job base = some es ∧
      (∀ a b, (a, b) ∈ es → fs.lstat (base ++ ["data"] ++ a) = some (.file b)) ∧
      ∀ a b, fs.lstat (base ++ ["data"] ++ a) = some (.file b) →
        (es.map Prod.fst).count a = (job.results.filter fun path => listedAt (base ++ ["data"]) path a).length := by
  have hdata : ∀ c ∈ base ++ ["data"], properName c = true := fun c hc => by
    rcases List.mem_append.1 hc with hc | hc
    · exact hbase c hc
    · rw [List.mem_singleton.1 hc]; rfl
  refine ⟨_, by simp [collectResults, hr, hne], fun a b h => ?_, fun a b hf => count_flatMap_collectPath ht hnl hdata hf _⟩
  obtain ⟨path, -, h⟩ := List.mem_flatMap.1 h
  exact lstat_of_mem_collectPath ht hnl hdata h

/-- A tree without links holding `data/subdir/file1.txt`, and a job listing `/subdir` and
`/subdir/file1.txt`: the file's name occurs twice in the results ZIP. -/
theorem collectResults_entries_nested :
    let fs : HostFs := ⟨[(["exec"], .dir), (["exec", "data"], .dir), (["exec", "data", "subdir"], .dir),
      (["exec", "data", "subdir", "file1.txt"], .file [1])]⟩
    let job : JobInfo :=
      { wasmModule := "mod", results := ["/subdir", "/subdir/file1.txt"]
        resultsReceiver := some ⟨"dtn://client/"⟩ }
    ∃ es, collectResults fs job ["exec"] = some es ∧ (es.map Prod.fst).count ["subdir", "file1.txt"] = 2 := by
  intro fs job
  obtain ⟨es, hes, -, hcount⟩ := collectResults_entries fs (by decide) (by decide) job ["exec"] (by decide) rfl rfl
  exact ⟨es, hes, by rw [hcount _ [1] (by decide)]; decide⟩

/-- The same tree and job: the results ZIP holds `subdir/file1.txt` twice. -/
theorem collectResults_overlap :
    let fs : HostFs := ⟨[(["exec"], .dir), (["exec", "data"], .dir), (["exec", "data", "subdir"], .dir),
      (["exec", "data", "subdir", "file1.txt"], .file [1])]⟩
    let job : JobInfo :=
      { wasmModule := "mod", results := ["/subdir", "/subdir/file1.txt"]
        resultsReceiver := some ⟨"dtn://client/"⟩ }
    fs.IsTree ∧ fs.NoLinks ∧
      collectResults fs job ["exec"] = some [(["subdir", "file1.txt"], [1]), (["subdir", "file1.txt"], [1])] := by
  decide

end RecDtn
