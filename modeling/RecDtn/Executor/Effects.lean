import RecDtn.Executor.Sandbox

/-!
# What each step of a job does

Two ways to say what code of `SandboxM` does, each with its rules for `pure`, `throw`, `>>=`, `if`
and `for`, and one specification per file-system call:

* `Touches T m` — `m` changes the file system only at paths of `T`, and only where there was no
  directory. `mkdir` touches the missing directories on the way to its path (`mkdirFrom_touches`),
  a write touches its own path (`writeFile_touches`), and a directory stays a directory
  (`Touches.kind_dir`);
* `Triple P m Q E` — a Hoare triple: from a state satisfying `P`, `m` returns in a state satisfying
  `Q` or raises in one satisfying `E`. The specifications of `mkdir` and of writing leave the
  storage as it is and raise only `OSError`s; copying named data raises `NoSuchNameError` exactly
  when the storage does (`copyToFile_triple`).

* `runJob_jobDir` — when `_run_job` returns, whatever the module did, no job directory is left;
  when it raises after creating the job directory, the job directory is still there.
-/

namespace RecDtn

namespace Fs

@[simp] theorem node_setNode (fs : Fs) (p q : List String) (n : FsNode) :
    (fs.setNode p n).node q = if q = p then some n else fs.node q := by
  by_cases h : q = p <;> simp [setNode, h, Function.update_noteq]

theorem kind_eq_node {fs : Fs} {q : List String} (hq : q ≠ []) : fs.kind q = fs.node q := by
  simp [kind, hq]

/-- Two file systems that hold the same at `q` agree on what `q` is. -/
theorem kind_congr {fs fs' : Fs} {q : List String} (h : fs'.node q = fs.node q) :
    fs'.kind q = fs.kind q := by
  simp [kind, h]

end Fs

/-! ## What a step touches -/

/-- `m` changes the file system only at paths satisfying `T`, and only where no directory was,
whether it returns or raises. -/
def Touches {α : Type} (T : List String → Prop) (m : SandboxM α) : Prop :=
  ∀ x q, (m.run.run x).2.fs.node q ≠ x.fs.node q → T q ∧ x.fs.kind q ≠ some .dir

namespace Touches

variable {α β : Type} {T T' : List String → Prop}

theorem mono {m : SandboxM α} (h : Touches T m) (hT : ∀ q, T q → T' q) : Touches T' m :=
  fun x q hq => (h x q hq).imp_left (hT q)

theorem pure' (a : α) : Touches T (pure a : SandboxM α) := fun _ _ h => absurd rfl h

theorem throw' (e : RecError) : Touches T (throw e : SandboxM α) := fun _ _ h => absurd rfl h

/-- Nothing after a raise runs. -/
theorem throw_bind (e : RecError) (f : α → SandboxM β) : Touches T (throw e >>= f) := by
  intro x q hq
  simp [SandboxM.run_bind] at hq

/-- What a sequence touches, its first step or the rest touched; a path the first step left as
it was is what it was before the rest. -/
theorem bind {m : SandboxM α} {f : α → SandboxM β} (hm : Touches T m) (hf : ∀ a, Touches T (f a)) :
    Touches T (m >>= f) := by
  intro x q hq
  rw [SandboxM.run_bind] at hq
  rcases hr : m.run.run x with ⟨_ | a, y⟩ <;> rw [hr] at hq
  · exact hm x q (by rwa [hr])
  · by_cases hy : y.fs.node q = x.fs.node q
    · have := hf a y q (by rwa [hy])
      exact ⟨this.1, Fs.kind_congr hy ▸ this.2⟩
    · exact hm x q (by rwa [hr])

theorem ite' {c : Prop} [Decidable c] {m₁ m₂ : SandboxM α} (h₁ : Touches T m₁) (h₂ : Touches T m₂) :
    Touches T (if c then m₁ else m₂) := by
  split <;> assumption

/-- A `for` loop touches what its body touches. -/
theorem forIn' {xs : List α} {b : β} {f : α → β → SandboxM (ForInStep β)}
    (hf : ∀ a b, Touches T (f a b)) : Touches T (forIn xs b f) := by
  induction xs generalizing b with
  | nil => exact pure' _
  | cons a as ih =>
    rw [List.forIn_cons]
    exact bind (hf a b) fun r => by cases r <;> [exact pure' _; exact ih]

/-- **A directory stays a directory** through a step that touches only where none was. -/
theorem kind_dir {m : SandboxM α} (h : Touches T m) {x : Sandbox} {q : List String}
    (hq : x.fs.kind q = some .dir) : (m.run.run x).2.fs.kind q = some .dir := by
  by_cases hn : (m.run.run x).2.fs.node q = x.fs.node q
  · rw [Fs.kind_congr hn, hq]
  · exact absurd hq (h x q hn).2

end Touches

/-- **`mkdir` touches the missing directories on its way**: the prefixes of its path longer than
the one it starts from. -/
theorem mkdirFrom_touches (pre cs : List String) :
    Touches (fun q => q <+: pre ++ cs ∧ pre.length < q.length) (mkdirFrom pre cs) := by
  induction cs generalizing pre with
  | nil => exact Touches.pure' _
  | cons c cs ih =>
    have hT : ∀ q, (q <+: pre ++ [c] ++ cs ∧ (pre ++ [c]).length < q.length) →
        q <+: pre ++ c :: cs ∧ pre.length < q.length := fun q ⟨h₁, h₂⟩ =>
      ⟨by simpa using h₁, by simp at h₂; omega⟩
    intro x q hq
    rw [mkdirFrom_run] at hq
    split at hq
    · next hk =>
      let x' : Sandbox := { x with fs := x.fs.setNode (pre ++ [c]) .dir }
      by_cases hy : ((mkdirFrom (pre ++ [c]) cs).run.run x').2.fs.node q = x'.fs.node q
      · have hqc : q = pre ++ [c] := by
          by_contra hne
          exact hq (by rw [hy]; simp [x', hne])
        subst hqc
        exact ⟨⟨by simp, by simp⟩, by rw [hk]; simp⟩
      · obtain ⟨hTq, hkq⟩ := ih (pre ++ [c]) x' q hy
        have hne : q ≠ pre ++ [c] := by rintro rfl; simp at hTq
        exact ⟨hT q hTq, by rwa [Fs.kind_congr (by simp [x', hne] : x'.fs.node q = x.fs.node q)] at hkq⟩
    · exact (ih (pre ++ [c]) x q hq).imp_left (hT q)
    · exact absurd rfl hq

theorem mkdirs_touches (p : List String) :
    Touches (fun q => q <+: p ∧ q ≠ []) (mkdirs p) :=
  (mkdirFrom_touches [] p).mono fun _ ⟨h₁, h₂⟩ => ⟨by simpa using h₁, List.ne_nil_of_length_pos h₂⟩

/-- **A write touches its own path**, and never over a directory. -/
theorem writeFile_touches (p : List String) (data : Bytes) : Touches (· = p) (writeFile p data) := by
  intro x q hq
  by_cases hk : x.fs.kind p = some .dir
  · simp [writeFile, SandboxM.run_bind, hk] at hq
  · by_cases hqp : q = p
    · exact ⟨hqp, hqp ▸ hk⟩
    · simp only [writeFile, SandboxM.run_bind, SandboxM.run_get] at hq
      split at hq <;> simp [hqp] at hq

theorem copyToFile_touches (name : String) (p : List String) :
    Touches (· = p) (copyToFile name p) := by
  intro x q hq
  simp only [copyToFile, SandboxM.run_bind, SandboxM.run_get, SandboxM.run_set] at hq
  split at hq
  · exact writeFile_touches _ _ { x with storage := (x.storage.copyToFile name).2 } q hq
  · exact absurd rfl hq

/-- **A `mkdir` that returns leaves every directory on its way.** -/
theorem mkdirFrom_ok_kind (pre cs : List String) (x : Sandbox)
    (h : ((mkdirFrom pre cs).run.run x).1 = .ok ()) :
    ∀ q, q <+: pre ++ cs → pre.length < q.length → ((mkdirFrom pre cs).run.run x).2.fs.kind q = some .dir := by
  induction cs generalizing pre x with
  | nil => intro q hq hl; simp at hq; exact absurd (hq.length_le) (by omega)
  | cons c cs ih =>
    have hstep : ∀ x', x'.fs.kind (pre ++ [c]) = some .dir →
        ((mkdirFrom (pre ++ [c]) cs).run.run x').1 = .ok () → ∀ q, q <+: pre ++ c :: cs →
          pre.length < q.length → ((mkdirFrom (pre ++ [c]) cs).run.run x').2.fs.kind q = some .dir := by
      intro x' hk' hok q hq hl
      by_cases hqc : q.length = pre.length + 1
      · have : q = pre ++ [c] :=
          List.prefix_of_prefix_length_le hq (by simp) (by simp; omega) |>.eq_of_length (by simp; omega)
        rw [this]
        exact (mkdirFrom_touches _ _).kind_dir hk'
      · exact ih (pre ++ [c]) x' hok q (by simpa using hq) (by simp; omega)
    rw [mkdirFrom_run] at h ⊢
    rcases hk : x.fs.kind (pre ++ [c]) with _ | _ | _ <;> simp only [hk] at h ⊢
    · exact hstep _ (by simp [Fs.kind]) h
    · exact hstep _ hk h
    · cases h

theorem mkdirs_ok_kind {p : List String} {x : Sandbox} (h : ((mkdirs p).run.run x).1 = .ok ()) :
    ∀ q, q <+: p → ((mkdirs p).run.run x).2.fs.kind q = some .dir := by
  intro q hq
  by_cases hne : q = []
  · simp [Fs.kind, hne]
  · exact mkdirFrom_ok_kind [] p x h q (by simpa using hq) (List.length_pos.2 hne)

/-! ## The preparation touches only its base directory -/

/-- `q` is on the way to `d`, or at or below it; the root is on no way. -/
def Around (d q : List String) : Prop := q ≠ [] ∧ (q <+: d ∨ d <+: q)

theorem around_of_common {d t q : List String} (hd : d <+: t) (hq : q <+: t) (hne : q ≠ []) :
    Around d q :=
  ⟨hne, List.prefix_or_prefix_of_prefix hq hd⟩

/-- What is around a path below `d` is around `d`. -/
theorem Around.widen {d d' q : List String} (hd : d <+: d') (h : Around d' q) : Around d q :=
  ⟨h.1, h.2.elim (fun hq => List.prefix_or_prefix_of_prefix hq hd) fun hq => .inr (hd.trans hq)⟩

theorem mkdirs_touches_around {d p : List String} (hd : d <+: p) : Touches (Around d) (mkdirs p) :=
  (mkdirs_touches p).mono fun _ ⟨hq, hne⟩ => around_of_common hd hq hne

theorem copyToFile_touches_around {d p : List String} (hd : d <+: p) (name : String) :
    Touches (Around d) (copyToFile name p) := by
  intro x q hq
  obtain ⟨rfl, hk⟩ := copyToFile_touches name p x q hq
  exact ⟨around_of_common hd (List.prefix_refl q) fun h => hk (by simp [Fs.kind, h]), hk⟩

theorem prefix_of_isRelativeTo {p d : List String} (h : isRelativeTo p d = true) : d <+: p :=
  List.isPrefixOf_iff_prefix.1 h

/-- The parent of a path at or below `d` is on the way to `d` or below it. -/
theorem touches_dropLast {d p : List String} (hd : d <+: p) :
    Touches (Around d) (mkdirs p.dropLast) :=
  (mkdirs_touches _).mono fun _ ⟨hq, hne⟩ => around_of_common hd (hq.trans (List.dropLast_prefix p)) hne

/-- **Each step of a user-supplied path touches only around the data directory**: the escape check
stands before its `mkdir` and its write. -/
theorem prepareDir_touches (dataDir : List String) (p : String) :
    Touches (Around dataDir) (prepareDir dataDir p) := by
  unfold prepareDir
  dsimp only
  split
  · exact .throw_bind _ _
  · next h => exact .bind (.pure' _) fun _ => mkdirs_touches_around (prefix_of_isRelativeTo (by simpa using h))

theorem prepareDataFile_touches (dataDir : List String) (p n : String) :
    Touches (Around dataDir) (prepareDataFile dataDir p n) := by
  unfold prepareDataFile
  dsimp only
  split
  · exact .throw_bind _ _
  · next h =>
    have hd := prefix_of_isRelativeTo (by simpa using h)
    exact .bind (.pure' _) fun _ => .bind (touches_dropLast hd) fun _ => copyToFile_touches_around hd _

theorem prepareOutput_touches (l : String) (f : Option String) (dataDir : List String) :
    Touches (Around dataDir) (prepareOutput l f dataDir) := by
  unfold prepareOutput
  split
  · exact .pure' _
  · dsimp only
    split
    · exact .throw_bind _ _
    · next h => exact .bind (.pure' _) fun _ => touches_dropLast (prefix_of_isRelativeTo (by simpa using h))

/-- **The preparation touches only around its base directory.** -/
theorem prepareWasiEnvironment_touches (job : JobInfo) (base : List String) :
    Touches (Around base) (prepareWasiEnvironment job base) := by
  have hdata : base <+: base ++ ["data"] := List.prefix_append _ _
  have huser : ∀ q, Around (base ++ ["data"]) q → Around base q := fun _ h => h.widen hdata
  unfold prepareWasiEnvironment prepareStdin
  refine .bind (mkdirs_touches_around (List.prefix_refl _)) fun _ =>
    .bind (copyToFile_touches_around (List.prefix_append _ _) _) fun _ => .bind ?_ fun _ =>
    .bind (mkdirs_touches_around hdata) fun _ =>
    .bind (.forIn' fun _ _ => .bind ((prepareDir_touches _ _).mono huser) fun _ => .pure' _) fun _ =>
    .bind (.forIn' fun ⟨_, _⟩ _ => .bind ((prepareDataFile_touches _ _ _).mono huser) fun _ => .pure' _)
      fun _ => .bind ((prepareOutput_touches _ _ _).mono huser) fun _ =>
    .bind ((prepareOutput_touches _ _ _).mono huser) fun _ => .pure' _
  split
  · exact .bind (copyToFile_touches_around (List.prefix_append _ _) _) fun _ => .pure' _
  · exact .pure' _

/-! ## Hoare triples -/

/-- Whether an outcome satisfies `Q` on a return and `E` on a raise. -/
def Sat {α : Type} (Q : α → Sandbox → Prop) (E : RecError → Sandbox → Prop) :
    Except RecError α × Sandbox → Prop
  | (.ok a, y) => Q a y
  | (.error e, y) => E e y

/-- A Hoare triple of `SandboxM`: from every state satisfying `P`, `m` returns a value in a state
satisfying `Q`, or raises an error in a state satisfying `E`. -/
def Triple {α : Type} (P : Sandbox → Prop) (m : SandboxM α) (Q : α → Sandbox → Prop)
    (E : RecError → Sandbox → Prop) : Prop :=
  ∀ x, P x → Sat Q E (m.run.run x)

namespace Triple

variable {α β : Type} {P P' : Sandbox → Prop} {E E' : RecError → Sandbox → Prop}

theorem pure' {Q : α → Sandbox → Prop} (a : α) : Triple (Q a) (pure a : SandboxM α) Q E :=
  fun _ h => h

theorem throw' {Q : α → Sandbox → Prop} (e : RecError) : Triple (E e) (throw e : SandboxM α) Q E :=
  fun _ h => h

theorem conseq {Q Q' : α → Sandbox → Prop} {m : SandboxM α} (h : Triple P m Q E)
    (hP : ∀ x, P' x → P x) (hQ : ∀ a y, Q a y → Q' a y) (hE : ∀ e y, E e y → E' e y) :
    Triple P' m Q' E' := by
  intro x hx
  have := h x (hP x hx)
  rcases hr : m.run.run x with ⟨_ | a, y⟩ <;> rw [hr] at this
  · exact hE _ _ this
  · exact hQ _ _ this

theorem bind {Q : β → Sandbox → Prop} {m : SandboxM α} {f : α → SandboxM β}
    {I : α → Sandbox → Prop} (hm : Triple P m I E) (hf : ∀ a, Triple (I a) (f a) Q E) :
    Triple P (m >>= f) Q E := by
  intro x hx
  have h := hm x hx
  rw [SandboxM.run_bind]
  rcases hr : m.run.run x with ⟨_ | a, y⟩ <;> rw [hr] at h
  · exact h
  · exact hf a y h

theorem ite' {Q : α → Sandbox → Prop} {c : Prop} [Decidable c] {m₁ m₂ : SandboxM α}
    (h₁ : Triple P m₁ Q E) (h₂ : Triple P m₂ Q E) : Triple P (if c then m₁ else m₂) Q E := by
  split <;> assumption

/-- A `for` loop whose body keeps `I` for each element keeps `I`. -/
theorem forIn' {xs : List α} {b : β} {f : α → β → SandboxM (ForInStep β)} {I : Sandbox → Prop}
    (hf : ∀ a ∈ xs, ∀ b, Triple I (f a b) (fun _ => I) E) : Triple I (forIn xs b f) (fun _ => I) E := by
  induction xs generalizing b with
  | nil => exact pure' (Q := fun _ => I) _
  | cons a as ih =>
    rw [List.forIn_cons]
    refine bind (hf a (.head _) b) fun r => ?_
    cases r with
    | done => exact pure' (Q := fun _ => I) _
    | yield => exact ih fun a ha => hf a (.tail _ ha)

/-- Nothing after a raise runs. -/
theorem throw_bind {Q : β → Sandbox → Prop} {e : RecError} {f : α → SandboxM β}
    (h : ∀ y, P y → E e y) : Triple P (throw e >>= f) Q E := by
  intro x hx
  simpa [SandboxM.run_bind, Sat] using h x hx

/-- What never returns is followed by nothing. -/
theorem bind_never {Q : β → Sandbox → Prop} {m : SandboxM α} {f : α → SandboxM β}
    (hm : Triple P m (fun _ _ => False) E) : Triple P (m >>= f) Q E :=
  bind hm fun _ _ h => h.elim

/-- A `for` loop over a list with an element whose body never returns, where the bodies of the
elements before it yield and keep `I`, never returns. -/
theorem forIn_never {pre post : List α} {a : α} {b : β} {f : α → β → SandboxM (ForInStep β)}
    {I : Sandbox → Prop} {Q : β → Sandbox → Prop}
    (hf : ∀ c ∈ pre, ∀ b, Triple I (f c b) (fun r y => (∃ b', r = .yield b') ∧ I y) E)
    (ha : ∀ b, Triple I (f a b) (fun _ _ => False) E) :
    Triple I (forIn (pre ++ a :: post) b f) Q E := by
  induction pre generalizing b with
  | nil =>
    rw [List.nil_append, List.forIn_cons]
    exact bind_never (ha b)
  | cons c cs ih =>
    rw [List.cons_append, List.forIn_cons]
    refine bind (hf c (.head _) b) fun r => ?_
    rcases r with b' | b'
    · exact fun _ ⟨⟨_, h⟩, _⟩ => nomatch h
    · exact fun y hy => ih (fun c hc => hf c (.tail _ hc)) y hy.2

/-- A step that keeps `I`, followed by a value, keeps `I`. -/
theorem bind_pure {m : SandboxM α} {I : Sandbox → Prop} (h : Triple I m (fun _ => I) E) (b : β) :
    Triple I (m >>= fun _ => pure b) (fun _ => I) E :=
  bind h fun _ => pure' (Q := fun _ => I) b

/-- A step that keeps `I`, followed by `yield`, yields and keeps `I`: the body of a `for` loop. -/
theorem yield_of {m : SandboxM α} {I : Sandbox → Prop} {b : β} (h : Triple I m (fun _ => I) E) :
    Triple I (m >>= fun _ => pure (ForInStep.yield b)) (fun r y => (∃ b', r = .yield b') ∧ I y) E :=
  bind h fun _ _ hy => ⟨⟨b, rfl⟩, hy⟩

/-- Every step satisfies the triple that says nothing. -/
theorem trivial' (m : SandboxM α) : Triple P m (fun _ _ => True) fun _ _ => True := by
  intro x _
  rcases m.run.run x with ⟨_ | _, _⟩ <;> trivial

/-- What a triple says of a raise. -/
theorem error_of {Q : α → Sandbox → Prop} {m : SandboxM α} (h : Triple P m Q E) {x : Sandbox}
    (hx : P x) {e : RecError} (he : (m.run.run x).1 = .error e) : E e (m.run.run x).2 := by
  have := h x hx
  rcases hr : m.run.run x with ⟨_ | a, y⟩ <;> rw [hr] at this he <;> cases he
  exact this

/-- What a triple says of a return. -/
theorem ok_of {Q : α → Sandbox → Prop} {m : SandboxM α} (h : Triple P m Q E) {x : Sandbox}
    (hx : P x) {a : α} (ha : (m.run.run x).1 = .ok a) : Q a (m.run.run x).2 := by
  have := h x hx
  rcases hr : m.run.run x with ⟨_ | a, y⟩ <;> rw [hr] at this ha <;> cases ha
  exact this

end Triple

/-- **`mkdir` leaves the storage as it is and raises only `OSError`s.** -/
theorem mkdirFrom_triple (pre cs : List String) (s : Storage) :
    Triple (·.storage = s) (mkdirFrom pre cs) (fun _ y => y.storage = s)
      (fun e y => y.storage = s ∧ ∃ k, e = .osError k) := by
  induction cs generalizing pre with
  | nil => exact Triple.pure' (Q := fun _ y => y.storage = s) _
  | cons c cs ih =>
    intro x hx
    rw [mkdirFrom_run]
    split
    · exact ih _ _ hx
    · exact ih _ _ hx
    · exact ⟨hx, _, rfl⟩

theorem mkdirs_triple (p : List String) (s : Storage) :
    Triple (·.storage = s) (mkdirs p) (fun _ y => y.storage = s)
      (fun e y => y.storage = s ∧ ∃ k, e = .osError k) :=
  mkdirFrom_triple [] p s

/-- **A write leaves the storage as it is and raises only `OSError`s.** -/
theorem writeFile_triple (p : List String) (data : Bytes) (s : Storage) :
    Triple (·.storage = s) (writeFile p data) (fun _ y => y.storage = s)
      (fun e y => y.storage = s ∧ ∃ k, e = .osError k) := by
  intro x hx
  simp only [writeFile, SandboxM.run_bind, SandboxM.run_get]
  split <;> simp [Sat, hx]

/-- **Copying named data raises `NoSuchNameError` exactly when the storage does**, in the state
the storage call left; when it returns, the name was indexed and the storage is as it was. A write
that fails after it raises an `OSError`. -/
theorem copyToFile_triple (name : String) (p : List String) (s : Storage) :
    Triple (·.storage = s) (copyToFile name p)
      (fun _ y => y.storage = s ∧ name ∈ s.db.map Entry.name)
      (fun e y => (e = .noSuchName name ∧ (s.copyToFile name).1 = .error e ∧
          y.storage = (s.copyToFile name).2) ∨ (y.storage = s ∧ ∃ k, e = .osError k)) := by
  intro x hx
  subst hx
  simp only [copyToFile, SandboxM.run_bind, SandboxM.run_get, SandboxM.run_set]
  rcases hr : x.storage.copyToFile name with ⟨_ | d, s'⟩
  · have he := Storage.copyToFile_fst_error (by rw [hr])
    exact .inl ⟨he, rfl, rfl⟩
  · obtain ⟨hs, hn⟩ := Storage.copyToFile_ok (by rw [hr] : (x.storage.copyToFile name).1 = .ok d)
    rw [hr] at hs
    have := writeFile_triple p d x.storage { x with storage := s' } hs
    rcases hw : (writeFile p d).run.run { x with storage := s' } with ⟨_ | _, y⟩ <;> rw [hw] at this
    · exact .inr this
    · exact ⟨this, hn⟩

/-- **A `mkdir` that returns leaves every directory on its way**, as a triple. -/
theorem mkdirs_triple_kind (p : List String) :
    Triple (fun _ => True) (mkdirs p) (fun _ y => ∀ q, q <+: p → y.fs.kind q = some .dir)
      fun _ _ => True := by
  intro x _
  rcases hr : (mkdirs p).run.run x with ⟨_ | ⟨⟩, y⟩
  · trivial
  · have := mkdirs_ok_kind (x := x) (by rw [hr])
    rw [hr] at this
    exact this

/-! ## The job directory -/

theorem run_tryCatch {α : Type} (m : SandboxM α) (h : RecError → SandboxM α) (x : Sandbox) :
    (tryCatch m h).run.run x =
      match m.run.run x with
      | (.ok a, y) => (.ok a, y)
      | (.error e, y) => (h e).run.run y := by
  have hm : StateT.run m x = m.run.run x := rfl
  simp only [tryCatch, tryCatchThe, MonadExceptOf.tryCatch, ExceptT.tryCatch, ExceptT.run_mk,
    StateT.run_bind, hm]
  rcases m.run.run x with ⟨_ | _, y⟩ <;> rfl

/-- `shutil.rmtree` of a directory that exists, and nothing otherwise: nothing is left at it. -/
theorem removeJobDir_run {dir : List String} (hd : dir ≠ []) (x : Sandbox) :
    ((removeJobDir dir).run.run x).1 = .ok () ∧ ((removeJobDir dir).run.run x).2.fs.node dir = none := by
  simp only [removeJobDir, SandboxM.run_bind, SandboxM.run_get]
  split
  · simp [Fs.rmtree]
  · next h => simp_all [Fs.kind]

theorem jobDir_ne_nil (root : List String) (jobId : Nat) : jobDir root jobId ≠ [] := by
  simp [jobDir]

section
variable (execute : JobInfo → List String → SandboxM (Option Bytes × List (String × Bytes)))

/-- **The `try` of `_run_job` returns, and leaves nothing at the job directory**, whatever the
module did: an exception is caught, and the `finally` removes the directory. -/
theorem finishJob_run (root : List String) (jobId : Nat) (job : JobInfo) (dataDir : List String)
    (x : Sandbox) : ∃ r y, (finishJob execute root jobId job dataDir).run.run x = (.ok r, y) ∧
      y.fs.node (jobDir root jobId) = none := by
  have hrm := removeJobDir_run (jobDir_ne_nil root jobId)
  simp only [finishJob, SandboxM.run_bind, run_tryCatch]
  rcases (execute job dataDir).run.run x with ⟨_ | r, y⟩ <;> simp only [SandboxM.run_pure]
  all_goals
    rcases hz : (removeJobDir (jobDir root jobId)).run.run y with ⟨_ | _, z⟩
    · have := (hrm y).1; rw [hz] at this; cases this
    · exact ⟨_, z, rfl, by simpa [hz] using (hrm y).2⟩

/-- **The job directory outlives a failed preparation.** When `_run_job` returns, whatever the
module did, nothing is left at the job directory. When it raises after `job_dir.mkdir` returned,
the exception came from the preparation, before the `try`, and the job directory is still a
directory. -/
theorem runJob_jobDir (root : List String) (jobId : Nat) (job : JobInfo) (x : Sandbox) :
    (∀ r, ((runJob execute root jobId job).run.run x).1 = .ok r →
      ((runJob execute root jobId job).run.run x).2.fs.node (jobDir root jobId) = none) ∧
    (∀ e, ((runJob execute root jobId job).run.run x).1 = .error e →
      ((mkdirs (jobDir root jobId)).run.run x).1 = .ok () →
      ((runJob execute root jobId job).run.run x).2.fs.node (jobDir root jobId) = some .dir) := by
  rw [runJob, SandboxM.run_bind]
  rcases hs : (startJob root jobId job).run.run x with ⟨_ | dataDir, y⟩ <;> dsimp only
  · refine ⟨fun _ h => Except.noConfusion h, fun e _ hmk => ?_⟩
    simp only [startJob, SandboxM.run_bind] at hs
    rcases hm : (mkdirs (jobDir root jobId)).run.run x with ⟨_ | _, x₁⟩ <;> rw [hm] at hs hmk
    · cases hmk
    · have hdir : x₁.fs.kind (jobDir root jobId) = some .dir := by
        have := mkdirs_ok_kind (p := jobDir root jobId) (x := x) (by rw [hm]) _ (List.prefix_refl _)
        rwa [hm] at this
      have hprep := (prepareWasiEnvironment_touches job (jobDir root jobId)).kind_dir hdir
      rw [← Fs.kind_eq_node (jobDir_ne_nil root jobId)]
      dsimp only at hs
      rcases hp : (prepareWasiEnvironment job (jobDir root jobId)).run.run x₁ with ⟨_ | _, x₂⟩ <;>
        rw [hp] at hs hprep <;> dsimp only at hs hprep
      · cases hs
        exact hprep
      · cases hs
  · obtain ⟨r, z, hf, hz⟩ := finishJob_run execute root jobId job dataDir y
    simp only [hf]
    exact ⟨fun _ _ => hz, fun _ h => Except.noConfusion h⟩

end

/-- A job whose second directory escapes the data directory: `_run_job` raises, and `job-7` is
still a directory. -/
theorem runJob_jobDir_escape :
    let x : Sandbox :=
      ⟨⟨fun p => if p = ["exec"] then some .dir else none⟩,
        ⟨[⟨"mod", "h"⟩], fun f => if f = "h" then some [0] else none⟩⟩
    let job : JobInfo := { wasmModule := "mod", dirs := ["d", "../x"] }
    ((runJob (fun _ _ => pure (none, [])) ["exec"] 7 job).run.run x).1 =
        .error (.valueError "Directory path escapes data directory: ../x") ∧
      ((mkdirs (jobDir ["exec"] 7)).run.run x).1 = .ok () ∧
      ((runJob (fun _ _ => pure (none, [])) ["exec"] 7 job).run.run x).2.fs.node (jobDir ["exec"] 7) =
        some .dir := by
  intro x job
  have he : ((runJob (fun _ _ => pure (none, [])) ["exec"] 7 job).run.run x).1 =
      .error (.valueError "Directory path escapes data directory: ../x") := rfl
  have hmk : ((mkdirs (jobDir ["exec"] 7)).run.run x).1 = .ok () := rfl
  exact ⟨he, hmk, (runJob_jobDir _ ["exec"] 7 job x).2 _ he hmk⟩

end RecDtn
