import RecDtn.Msgpack.Codec

/-!
# msgpack objects are self-delimiting

The decoder of `Codec` reads one object from the front of its input. It never looks at a byte
past that object. Whatever it reads from `bs`, it reads from `bs ++ s` for every `s`, with a
buffer bound at least as large, and hands `s` back untouched (`decodeValue_readsPrefix`). This is
proved for every input the decoder accepts, not only for what the packer writes. It follows
the decoder's own structure: one lemma per reader of `unpack_template.h`, one for the header
`switch`, and induction on the containers that may still be opened.

* `unpackb_append_extra`, `unpackb_prefix_error` — bytes appended to an input `unpackb` accepts
  make it raise `ExtraData`, and every proper prefix of an accepted input raises: a reply that is
  cut short, or that runs on, is never read as an object.
-/

namespace RecDtn

namespace Msgpack

/-- `d'` reads from `bs ++ s` what `d` reads from `bs`, and leaves `s` after what `d` left: a
reader that looks at no byte past what it consumes. -/
def ReadsPrefix {α : Type} (d d' : Bytes → Except RecError (α × Bytes)) : Prop :=
  ∀ bs s a rest, d bs = .ok (a, rest) → d' (bs ++ s) = .ok (a, rest ++ s)

section Readers

variable {α β : Type}

theorem readN_readsPrefix (n : Nat) : ReadsPrefix (readN n) (readN n) := by
  intro bs s a rest h
  unfold readN at h ⊢
  split_ifs at h with hn
  cases h
  rw [if_pos (by simp only [List.length_append]; omega), List.take_append_of_le_length hn,
    List.drop_append_of_le_length hn]

/-- A reader followed by a function of what it read. -/
theorem ReadsPrefix.map {d d' : Bytes → Except RecError (α × Bytes)} (h : ReadsPrefix d d')
    (f : α → β) :
    ReadsPrefix (fun bs => (d bs).map fun r => (f r.1, r.2))
      (fun bs => (d' bs).map fun r => (f r.1, r.2)) := by
  intro bs s b rest hb
  obtain ⟨⟨a, r⟩, ha, hr⟩ := Except.map_eq_ok.1 hb
  simp only [Prod.mk.injEq] at hr
  obtain ⟨rfl, rfl⟩ := hr
  simp [h bs s a r ha, Except.map]

/-- A reader followed by a reader chosen by what it read. -/
theorem ReadsPrefix.bind {d d' : Bytes → Except RecError (α × Bytes)}
    {f f' : α → Bytes → Except RecError (β × Bytes)} (h : ReadsPrefix d d')
    (hf : ∀ a, ReadsPrefix (f a) (f' a)) :
    ReadsPrefix (fun bs => (d bs).bind fun r => f r.1 r.2)
      (fun bs => (d' bs).bind fun r => f' r.1 r.2) := by
  intro bs s b rest hb
  obtain ⟨⟨a, r⟩, ha, hr⟩ := Except.bind_eq_ok.1 hb
  simp [h bs s a r ha, Except.bind, hf a r s b rest hr]

theorem readBE_readsPrefix (k : Nat) : ReadsPrefix (readBE k) (readBE k) :=
  (readN_readsPrefix k).map ofBE

theorem decodeSigned_readsPrefix (k : Nat) : ReadsPrefix (decodeSigned k) (decodeSigned k) :=
  (readBE_readsPrefix k).map fun n : Nat =>
    Value.int (if 2 ^ (8 * k - 1) ≤ n then (n : Int) - 2 ^ (8 * k) else n)

variable {len len' : Nat}

/-- A string reader bounded by `max_str_len` reads the same with a larger bound. -/
theorem decodeStr_readsPrefix (hlen : len ≤ len') (l : Nat) :
    ReadsPrefix (decodeStr len l) (decodeStr len' l) := by
  intro bs s a rest h
  obtain ⟨⟨body, r⟩, hr, h⟩ := Except.bind_eq_ok.1 h
  simp only [decodeStr, readN_readsPrefix l bs s _ _ hr, bind, Except.bind]
  simp only at h
  by_cases hl : len < l
  · rw [if_pos hl] at h
    cases h
  rw [if_neg hl] at h
  rw [if_neg (by omega)]
  rcases hu : utf8Decode body with _ | str <;> rw [hu] at h
  · cases h
  · cases h
    rfl

theorem decodeBin_readsPrefix (hlen : len ≤ len') (l : Nat) :
    ReadsPrefix (decodeBin len l) (decodeBin len' l) := by
  intro bs s a rest h
  obtain ⟨⟨body, r⟩, hr, h⟩ := Except.bind_eq_ok.1 h
  simp only [decodeBin, readN_readsPrefix l bs s _ _ hr, bind, Except.bind]
  simp only at h
  by_cases hl : len < l
  · rw [if_pos hl] at h
    cases h
  rw [if_neg hl] at h
  cases h
  rw [if_neg (by omega)]
  rfl

end Readers

/-! ## Containers -/

section Containers

variable {dec dec' : Bytes → Except RecError (Value × Bytes)} {len len' : Nat}

theorem decodeItems_readsPrefix (h : ReadsPrefix dec dec') :
    ∀ n, ReadsPrefix (decodeItems dec n) (decodeItems dec' n)
  | 0, bs, s, a, rest, hd => by cases hd; rfl
  | n + 1, bs, s, a, rest, hd => by
    obtain ⟨⟨v, r⟩, hv, hd⟩ := Except.bind_eq_ok.1 hd
    obtain ⟨⟨vs, r'⟩, hvs, hd⟩ := Except.bind_eq_ok.1 hd
    cases hd
    simp [decodeItems, h bs s v r hv, decodeItems_readsPrefix h n r s vs _ hvs, bind,
      Except.bind, pure, Except.pure]

theorem decodePairs_readsPrefix (h : ReadsPrefix dec dec') :
    ∀ n, ReadsPrefix (decodePairs dec n) (decodePairs dec' n)
  | 0, bs, s, a, rest, hd => by cases hd; rfl
  | n + 1, bs, s, a, rest, hd => by
    obtain ⟨⟨k, r⟩, hk, hd⟩ := Except.bind_eq_ok.1 hd
    obtain ⟨⟨v, r'⟩, hv, hd⟩ := Except.bind_eq_ok.1 hd
    obtain ⟨⟨⟩, hc, hd⟩ := Except.bind_eq_ok.1 hd
    obtain ⟨⟨kvs, r''⟩, hkvs, hd⟩ := Except.bind_eq_ok.1 hd
    cases hd
    simp [decodePairs, h bs s k r hk, h r s v r' hv, hc,
      decodePairs_readsPrefix h n _ s kvs _ hkvs, bind, Except.bind, pure, Except.pure]

theorem openArray_readsPrefix (hlen : len ≤ len') (h : ReadsPrefix dec dec') (n : Nat) :
    ReadsPrefix (openArray len dec n) (openArray len' dec' n) := by
  intro bs s a rest hd
  unfold openArray at hd ⊢
  split_ifs at hd with hn
  rw [if_neg (by omega)]
  exact (decodeItems_readsPrefix h n).map (α := List Value) Value.arr bs s a rest hd

theorem openMap_readsPrefix (hlen : len ≤ len') (h : ReadsPrefix dec dec') (n : Nat) :
    ReadsPrefix (openMap len dec n) (openMap len' dec' n) := by
  intro bs s a rest hd
  unfold openMap at hd ⊢
  split_ifs at hd with hn
  rw [if_neg (fun h' => hn (lt_of_le_of_lt (Nat.div_le_div_right hlen) h'))]
  exact (decodePairs_readsPrefix h n).map Value.map bs s a rest hd

end Containers

/-! ## One object -/

/-- A reader that raises reads a prefix of nothing. -/
theorem ReadsPrefix.error {α : Type} (e : RecError) :
    ReadsPrefix (fun _ => (.error e : Except RecError (α × Bytes))) (fun _ => .error e) :=
  fun _ _ _ _ h => by cases h

/-- A reader that consumes nothing. -/
theorem ReadsPrefix.const {α : Type} (a : α) :
    ReadsPrefix (fun bs => (.ok (a, bs) : Except RecError (α × Bytes))) (fun bs => .ok (a, bs)) :=
  fun _ _ _ _ h => by cases h; rfl

/-- A choice made before reading. -/
theorem ReadsPrefix.ite {α : Type} {c : Prop} {_ : Decidable c}
    {d₁ d₁' d₂ d₂' : Bytes → Except RecError (α × Bytes)} (h₁ : ReadsPrefix d₁ d₁')
    (h₂ : ReadsPrefix d₂ d₂') :
    ReadsPrefix (fun bs => if c then d₁ bs else d₂ bs) (fun bs => if c then d₁' bs else d₂' bs) := by
  intro bs s a rest h
  split_ifs at h ⊢
  · exact h₁ bs s a rest h
  · exact h₂ bs s a rest h

/-- **The header `switch` reads a prefix**, whatever its containers do, provided they do. -/
theorem decodeHead_readsPrefix {len len' : Nat} (hlen : len ≤ len')
    {arr arr' map map' : Nat → Bytes → Except RecError (Value × Bytes)}
    (harr : ∀ n, ReadsPrefix (arr n) (arr' n)) (hmap : ∀ n, ReadsPrefix (map n) (map' n))
    (x : Nat) : ReadsPrefix (decodeHead len arr map x) (decodeHead len' arr' map' x) := by
  show ReadsPrefix (fun bs => decodeHead len arr map x bs) (fun bs => decodeHead len' arr' map' x bs)
  unfold decodeHead
  have hbin := fun k => (readBE_readsPrefix k).bind (decodeBin_readsPrefix hlen)
  have hstr := fun k => (readBE_readsPrefix k).bind (decodeStr_readsPrefix hlen)
  have hint := fun k => (readBE_readsPrefix k).map fun n : Nat => Value.int n
  exact .ite (.const _) <| .ite (hmap _) <| .ite (harr _) <| .ite (decodeStr_readsPrefix hlen _) <|
    .ite (.const _) <| .ite (.const _) <| .ite (.const _) <| .ite (.const _) <|
    .ite (hbin 1) <| .ite (hbin 2) <| .ite (hbin 4) <|
    .ite (hint 1) <| .ite (hint 2) <| .ite (hint 4) <| .ite (hint 8) <|
    .ite (decodeSigned_readsPrefix 1) <| .ite (decodeSigned_readsPrefix 2) <|
    .ite (decodeSigned_readsPrefix 4) <| .ite (decodeSigned_readsPrefix 8) <|
    .ite (hstr 1) <| .ite (hstr 2) <| .ite (hstr 4) <|
    .ite ((readBE_readsPrefix 2).bind harr) <| .ite ((readBE_readsPrefix 4).bind harr) <|
    .ite ((readBE_readsPrefix 2).bind hmap) <| .ite ((readBE_readsPrefix 4).bind hmap) <| .error _

/-- **The decoder reads one object and nothing past it**, at every stack depth, and with any
larger buffer bound. -/
theorem decodeValue_readsPrefix {len len' : Nat} (hlen : len ≤ len') :
    ∀ fuel, ReadsPrefix (decodeValue len fuel) (decodeValue len' fuel)
  | 0, [], _, _, _, h | _ + 1, [], _, _, _, h => by cases h
  | 0, b :: bs, s, a, rest, h =>
    decodeHead_readsPrefix hlen (fun _ _ _ _ _ h => by cases h) (fun _ _ _ _ _ h => by cases h)
      b.toNat bs s a rest h
  | f + 1, b :: bs, s, a, rest, h =>
    decodeHead_readsPrefix hlen (openArray_readsPrefix hlen (decodeValue_readsPrefix hlen f))
      (openMap_readsPrefix hlen (decodeValue_readsPrefix hlen f)) b.toNat bs s a rest h

/-! ## `unpackb` -/

/-- What `unpackb` raises on bytes left after the object. -/
def extraData : RecError := .valueError "unpack(b) received extra data."

theorem unpackb_eq_ok {data : Bytes} {v : Value} :
    unpackb data = .ok v ↔ decodeValue data.length stackSize data = .ok (v, []) := by
  unfold unpackb
  rcases decodeValue data.length stackSize data with _ | ⟨v', rest⟩
  · simp [bind, Except.bind]
  · by_cases hr : rest = [] <;>
      simp [hr, bind, Except.bind, pure, Except.pure, throw, throwThe, MonadExceptOf.throw]

/-- Bytes appended to an input `unpackb` accepts make it raise `ExtraData`. -/
theorem unpackb_append_extra {p : Bytes} {w : Value} (hp : unpackb p = .ok w) (t : Bytes)
    (ht : t ≠ []) : unpackb (p ++ t) = .error extraData := by
  have hd := decodeValue_readsPrefix (show p.length ≤ (p ++ t).length by simp) stackSize p t w []
    (unpackb_eq_ok.1 hp)
  simp only [unpackb, hd, List.nil_append, bind, Except.bind, ne_eq, ht, not_false_eq_true, if_true]
  rfl

/-- Every proper prefix of an input `unpackb` accepts makes it raise. -/
theorem unpackb_prefix_error {bs p t : Bytes} {v : Value} (h : unpackb bs = .ok v)
    (hp : bs = p ++ t) (ht : t ≠ []) : ∃ e, unpackb p = .error e := by
  rcases hu : unpackb p with e | w
  · exact ⟨e, rfl⟩
  · have := unpackb_append_extra hu t ht
    rw [← hp, h] at this
    cases this

end Msgpack

end RecDtn
