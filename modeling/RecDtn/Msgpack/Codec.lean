import RecDtn.Msgpack.Bytes

/-!
# msgpack

The subset of msgpack-python (`packb` with its defaults, `use_bin_type=True`; `unpackb` with
its defaults, `raw=False`, `strict_map_key=True`) through which the program's messages and job
payloads travel: `None`, `bool`, `int`, `str`, `bytes`, `list` and `dict`. The packer keeps the
library's limits (no item longer than `2 ** 32 - 1`, integers in `[-2 ** 63, 2 ** 64)`, nesting
at most 511 deep); the unpacker keeps its checks (truncated input, at most 1024 open
containers, lengths bounded by the buffer, `str` or `bytes` map keys, strict UTF-8, no data
after the object). Floats and extension types, which the program never packs, are outside the
subset: msgpack-python's `unpackb` decodes them (into a `float`, an `ExtType` or a `Timestamp`),
and this decoder reports their headers as unknown. A statement here about every input `unpackb`
accepts is about inputs without float or extension items.

* `decodeValue_pack` — the decoder reads back what the packer wrote, with any bytes after it
  left over, for every decoder state with room for the object;
* `unpackb_packb` — `unpackb(packb(v)) == v` whenever every map key is a `str` or `bytes`;
* `pack_toBool` — `pack` succeeds exactly on the values that `Value.fits`.
-/

namespace RecDtn

namespace Msgpack

/-- A Python object as msgpack carries it. -/
inductive Value
  | nil
  | bool (b : Bool)
  | int (i : Int)
  | str (s : String)
  | bin (b : Bytes)
  | arr (vs : List Value)
  | map (kvs : List (Value × Value))
deriving Repr

/-- `ITEM_LIMIT`: the longest `str`, `bytes`, `list` or `dict` the packer accepts. -/
def itemLimit : Nat := 2 ^ 32 - 1

/-- `msgpack_pack_real_uint64`: the shortest unsigned encoding of `d`. -/
def packUnsigned (d : Nat) : Bytes :=
  if d < 0x80 then [UInt8.ofNat d]
  else if d < 0x100 then 0xcc :: toBE 1 d
  else if d < 0x10000 then 0xcd :: toBE 2 d
  else if d < 0x100000000 then 0xce :: toBE 4 d
  else 0xcf :: toBE 8 d

/-- `msgpack_pack_real_int64`: the shortest signed encoding of `d`, its non-negative values
encoded as unsigned ones. -/
def packSigned (d : Int) : Bytes :=
  if d < -0x80000000 then 0xd3 :: toBE 8 (d + 0x10000000000000000).toNat
  else if d < -0x8000 then 0xd2 :: toBE 4 (d + 0x100000000).toNat
  else if d < -0x80 then 0xd1 :: toBE 2 (d + 0x10000).toNat
  else if d < -0x20 then 0xd0 :: toBE 1 (d + 0x100).toNat
  else if d < 0x80 then [UInt8.ofNat (d + 0x100).toNat]
  else packUnsigned d.toNat

/-- `_pack` on an `int`: `unsigned long long` for `o > 0`, `long long` otherwise, and
`OverflowError` when the conversion does not fit. -/
def packInt (i : Int) : Except RecError Bytes :=
  if 0 < i then
    if i < 0x10000000000000000 then .ok (packUnsigned i.toNat)
    else .error (.overflowError "Integer value out of range")
  else if -0x8000000000000000 ≤ i then .ok (packSigned i)
  else .error (.overflowError "Integer value out of range")

/-- `msgpack_pack_raw`: the header of a UTF-8 string of `l` bytes. -/
def strHeader (l : Nat) : Bytes :=
  if l < 32 then [UInt8.ofNat (0xa0 + l)]
  else if l < 2 ^ 8 then 0xd9 :: toBE 1 l
  else if l < 2 ^ 16 then 0xda :: toBE 2 l
  else 0xdb :: toBE 4 l

/-- `msgpack_pack_bin`: the header of a byte string of `l` bytes. -/
def binHeader (l : Nat) : Bytes :=
  if l < 2 ^ 8 then 0xc4 :: toBE 1 l
  else if l < 2 ^ 16 then 0xc5 :: toBE 2 l
  else 0xc6 :: toBE 4 l

/-- `msgpack_pack_array`. -/
def arrayHeader (n : Nat) : Bytes :=
  if n < 16 then [UInt8.ofNat (0x90 + n)]
  else if n < 2 ^ 16 then 0xdc :: toBE 2 n
  else 0xdd :: toBE 4 n

/-- `msgpack_pack_map`. -/
def mapHeader (n : Nat) : Bytes :=
  if n < 16 then [UInt8.ofNat (0x80 + n)]
  else if n < 2 ^ 16 then 0xde :: toBE 2 n
  else 0xdf :: toBE 4 n

mutual

/-- `Packer._pack(o, nest_limit)`. Reference: msgpack `_packer.pyx`. -/
def pack (nest : Int) (v : Value) : Except RecError Bytes :=
  if nest < 0 then .error (.valueError "recursion limit exceeded") else
  match v with
  | .nil => .ok [0xc0]
  | .bool b => .ok [if b then 0xc3 else 0xc2]
  | .int i => packInt i
  | .str s =>
    if itemLimit < (utf8Encode s).length then .error (.valueError "unicode string is too large")
    else .ok (strHeader (utf8Encode s).length ++ utf8Encode s)
  | .bin b =>
    if itemLimit < b.length then .error (.valueError "bytes object is too large")
    else .ok (binHeader b.length ++ b)
  | .arr vs =>
    if itemLimit < vs.length then .error (.valueError "list is too large")
    else (packList (nest - 1) vs).map (arrayHeader vs.length ++ ·)
  | .map kvs =>
    if itemLimit < kvs.length then .error (.valueError "dict is too large")
    else (packPairs (nest - 1) kvs).map (mapHeader kvs.length ++ ·)

/-- The items of a list, one after another. -/
def packList (nest : Int) : List Value → Except RecError Bytes
  | [] => .ok []
  | v :: vs => do
    let a ← pack nest v
    let b ← packList nest vs
    pure (a ++ b)

/-- The items of a dict, each key before its value. -/
def packPairs (nest : Int) : List (Value × Value) → Except RecError Bytes
  | [] => .ok []
  | (k, v) :: kvs => do
    let a ← pack nest k
    let b ← pack nest v
    let c ← packPairs nest kvs
    pure (a ++ b ++ c)

end

/-- `msgpack.packb(o)`: `DEFAULT_RECURSE_LIMIT` is 511. -/
def packb (v : Value) : Except RecError Bytes := pack 511 v

/-! ## Unpacking -/

/-- `MSGPACK_EMBED_STACK_SIZE`: how many containers may be open at once. -/
def stackSize : Nat := 1024

/-- What `unpackb` raises on truncated input. -/
def incomplete : RecError := .valueError "Unpack failed: incomplete input"

/-- The next `n` bytes, or `incomplete`. -/
def readN (n : Nat) (bs : Bytes) : Except RecError (Bytes × Bytes) :=
  if n ≤ bs.length then .ok (bs.take n, bs.drop n) else .error incomplete

/-- A `k`-byte big-endian unsigned integer. -/
def readBE (k : Nat) (bs : Bytes) : Except RecError (Nat × Bytes) :=
  (readN k bs).map fun r => (ofBE r.1, r.2)

/-- `l` items, each read by `dec`. -/
def decodeItems (dec : Bytes → Except RecError (Value × Bytes)) :
    Nat → Bytes → Except RecError (List Value × Bytes)
  | 0, bs => .ok ([], bs)
  | n + 1, bs => do
    let (v, bs) ← dec bs
    let (vs, bs) ← decodeItems dec n bs
    pure (v :: vs, bs)

/-- A `str` or a `bytes`, the keys `strict_map_key` lets through. -/
def Value.isKey : Value → Bool
  | .str _ | .bin _ => true
  | _ => false

/-- `unpack_callback_map_item` with `strict_map_key`, once the key and its value are read. -/
def checkMapKey (k : Value) : Except RecError Unit :=
  if k.isKey then .ok () else .error (.valueError "is not allowed for map key when strict_map_key=True")

/-- `n` key–value pairs. -/
def decodePairs (dec : Bytes → Except RecError (Value × Bytes)) :
    Nat → Bytes → Except RecError (List (Value × Value) × Bytes)
  | 0, bs => .ok ([], bs)
  | n + 1, bs => do
    let (k, bs) ← dec bs
    let (v, bs) ← dec bs
    checkMapKey k
    let (kvs, bs) ← decodePairs dec n bs
    pure ((k, v) :: kvs, bs)

/-- A string of `l` bytes, with `max_str_len` the buffer's length. -/
def decodeStr (len l : Nat) (bs : Bytes) : Except RecError (Value × Bytes) := do
  let (body, rest) ← readN l bs
  if len < l then throw (.valueError "exceeds max_str_len")
  match utf8Decode body with
  | some s => pure (.str s, rest)
  | none => throw (.valueError "UnicodeDecodeError")

/-- A byte string of `l` bytes, with `max_bin_len` the buffer's length. -/
def decodeBin (len l : Nat) (bs : Bytes) : Except RecError (Value × Bytes) := do
  let (body, rest) ← readN l bs
  if len < l then throw (.valueError "exceeds max_bin_len")
  pure (.bin body, rest)

/-- A `k`-byte two's-complement integer. -/
def decodeSigned (k : Nat) (bs : Bytes) : Except RecError (Value × Bytes) :=
  (readBE k bs).map fun r =>
    (.int (if 2 ^ (8 * k - 1) ≤ r.1 then (r.1 : Int) - 2 ^ (8 * k) else r.1), r.2)

/-- What a header byte `x` announces, `arr n` and `map n` opening a container of `n` items. The
float (`0xca`, `0xcb`) and extension (`0xc7`-`0xc9`, `0xd4`-`0xd8`) headers, which msgpack-python
decodes, are outside the modelled subset and reach the last branch with `0xc1`.
Reference: msgpack `unpack_template.h`, the `switch` on the header byte. -/
def decodeHead (len : Nat) (arr map : Nat → Bytes → Except RecError (Value × Bytes)) (x : Nat)
    (bs : Bytes) : Except RecError (Value × Bytes) :=
  if x < 0x80 then .ok (.int x, bs)
  else if x < 0x90 then map (x - 0x80) bs
  else if x < 0xa0 then arr (x - 0x90) bs
  else if x < 0xc0 then decodeStr len (x - 0xa0) bs
  else if 0xe0 ≤ x then .ok (.int ((x : Int) - 256), bs)
  else if x = 0xc0 then .ok (.nil, bs)
  else if x = 0xc2 then .ok (.bool false, bs)
  else if x = 0xc3 then .ok (.bool true, bs)
  else if x = 0xc4 then (readBE 1 bs).bind fun r => decodeBin len r.1 r.2
  else if x = 0xc5 then (readBE 2 bs).bind fun r => decodeBin len r.1 r.2
  else if x = 0xc6 then (readBE 4 bs).bind fun r => decodeBin len r.1 r.2
  else if x = 0xcc then (readBE 1 bs).map fun r => (.int r.1, r.2)
  else if x = 0xcd then (readBE 2 bs).map fun r => (.int r.1, r.2)
  else if x = 0xce then (readBE 4 bs).map fun r => (.int r.1, r.2)
  else if x = 0xcf then (readBE 8 bs).map fun r => (.int r.1, r.2)
  else if x = 0xd0 then decodeSigned 1 bs
  else if x = 0xd1 then decodeSigned 2 bs
  else if x = 0xd2 then decodeSigned 4 bs
  else if x = 0xd3 then decodeSigned 8 bs
  else if x = 0xd9 then (readBE 1 bs).bind fun r => decodeStr len r.1 r.2
  else if x = 0xda then (readBE 2 bs).bind fun r => decodeStr len r.1 r.2
  else if x = 0xdb then (readBE 4 bs).bind fun r => decodeStr len r.1 r.2
  else if x = 0xdc then (readBE 2 bs).bind fun r => arr r.1 r.2
  else if x = 0xdd then (readBE 4 bs).bind fun r => arr r.1 r.2
  else if x = 0xde then (readBE 2 bs).bind fun r => map r.1 r.2
  else if x = 0xdf then (readBE 4 bs).bind fun r => map r.1 r.2
  else .error (.valueError "Unpack failed: error = -2")

/-- What `start_container` raises once `stackSize` containers are open. -/
def stackError : RecError := .valueError "StackError"

/-- An array of `n` items, each read by `dec`, with `max_array_len` the buffer's length. -/
def openArray (len : Nat) (dec : Bytes → Except RecError (Value × Bytes)) (n : Nat) (bs : Bytes) :
    Except RecError (Value × Bytes) :=
  if len < n then .error (.valueError "exceeds max_array_len")
  else (decodeItems dec n bs).map fun r => (.arr r.1, r.2)

/-- A map of `n` pairs, each read by `dec`, with `max_map_len` half the buffer's length. -/
def openMap (len : Nat) (dec : Bytes → Except RecError (Value × Bytes)) (n : Nat) (bs : Bytes) :
    Except RecError (Value × Bytes) :=
  if len / 2 < n then .error (.valueError "exceeds max_map_len")
  else (decodePairs dec n bs).map fun r => (.map r.1, r.2)

/-- One object, with `len` the buffer's length (the bound of every `max_*_len`) and `fuel` the
containers that may still be opened. Reference: msgpack `unpack_template.h`. -/
def decodeValue (len : Nat) : Nat → Bytes → Except RecError (Value × Bytes)
  | _, [] => .error incomplete
  | 0, b :: bs => decodeHead len (fun _ _ => .error stackError) (fun _ _ => .error stackError) b.toNat bs
  | f + 1, b :: bs =>
    decodeHead len (openArray len (decodeValue len f)) (openMap len (decodeValue len f)) b.toNat bs

/-- `msgpack.unpackb(data)`: one object and nothing after it. -/
def unpackb (data : Bytes) : Except RecError Value := do
  let (v, rest) ← decodeValue data.length stackSize data
  if rest ≠ [] then throw (.valueError "unpack(b) received extra data.")
  pure v

/-! ## Reading back what was packed

One lemma per header kind, each for every decoder state, then the round trip by structural
recursion over the value, following the packer's own recursion. -/

/-- Reading exactly the bytes that are there. -/
theorem readN_append {n : Nat} {bs : Bytes} (r : Bytes) (h : bs.length = n) :
    readN n (bs ++ r) = .ok (bs, r) := by
  subst h; simp [readN]

/-- A length field reads back the number written into it. -/
theorem readBE_toBE {k m : Nat} (r : Bytes) (h : m < 256 ^ k) :
    readBE k (toBE k m ++ r) = .ok (m, r) := by
  simp [readBE, readN_append r (length_toBE k m), Except.map, ofBE_toBE_of_lt h]

/-- What `decodeHead` reads from a header byte whatever the containers do, `decodeValue` reads at
every stack depth. -/
theorem decodeValue_of_decodeHead {len fuel : Nat} {b : UInt8} {bs : Bytes}
    {o : Except RecError (Value × Bytes)} (h : ∀ arr map, decodeHead len arr map b.toNat bs = o) :
    decodeValue len fuel (b :: bs) = o := by
  cases fuel <;> exact h _ _

/-- A `str` header hands the rest to `decodeStr` with its length. -/
theorem decodeValue_strHeader (len fuel : Nat) {l : Nat} (r : Bytes) (hl : l ≤ itemLimit) :
    decodeValue len fuel (strHeader l ++ r) = decodeStr len l r := by
  unfold strHeader itemLimit at *
  split_ifs with h1 h2 h3 <;> rw [List.cons_append] <;>
    refine decodeValue_of_decodeHead fun arr map => ?_
  · simp [decodeHead, UInt8.size, UInt8.toNat_ofNat_of_lt (show 0xa0 + l < 256 by omega),
      show ¬ 0xa0 + l < 0x80 by omega, show ¬ 0xa0 + l < 0x90 by omega,
      show ¬ 0xa0 + l < 0xa0 by omega, show 0xa0 + l < 0xc0 by omega]
  · simp [decodeHead, UInt8.size, readBE_toBE r (show l < 256 ^ 1 by omega), Except.bind]
  · simp [decodeHead, UInt8.size, readBE_toBE r (show l < 256 ^ 2 by omega), Except.bind]
  · simp [decodeHead, UInt8.size, readBE_toBE r (show l < 256 ^ 4 by omega), Except.bind]

/-- A `bin` header hands the rest to `decodeBin` with its length. -/
theorem decodeValue_binHeader (len fuel : Nat) {l : Nat} (r : Bytes) (hl : l ≤ itemLimit) :
    decodeValue len fuel (binHeader l ++ r) = decodeBin len l r := by
  unfold binHeader itemLimit at *
  split_ifs with h1 h2 <;> rw [List.cons_append] <;>
    refine decodeValue_of_decodeHead fun arr map => ?_
  · simp [decodeHead, UInt8.size, readBE_toBE r (show l < 256 ^ 1 by omega), Except.bind]
  · simp [decodeHead, UInt8.size, readBE_toBE r (show l < 256 ^ 2 by omega), Except.bind]
  · simp [decodeHead, UInt8.size, readBE_toBE r (show l < 256 ^ 4 by omega), Except.bind]

/-- An array header opens a container of `n` items, read one level down. -/
theorem decodeValue_arrayHeader (len f : Nat) {n : Nat} (r : Bytes) (hn : n ≤ itemLimit) :
    decodeValue len (f + 1) (arrayHeader n ++ r) = openArray len (decodeValue len f) n r := by
  unfold itemLimit at hn
  rcases Nat.lt_or_ge n 16 with h1 | h1
  · simp [arrayHeader, h1, decodeValue, decodeHead, UInt8.size,
      UInt8.toNat_ofNat_of_lt (show 0x90 + n < 256 by omega),
      show ¬ 0x90 + n < 0x80 by omega, show ¬ 0x90 + n < 0x90 by omega,
      show 0x90 + n < 0xa0 by omega]
  rcases Nat.lt_or_ge n (2 ^ 16) with h2 | h2
  · simp [arrayHeader, Nat.not_lt.mpr h1, show n < 65536 by omega, decodeValue, decodeHead,
      UInt8.size, readBE_toBE r (show n < 256 ^ 2 by omega), Except.bind]
  · simp [arrayHeader, Nat.not_lt.mpr h1, show ¬ n < 65536 by omega, decodeValue, decodeHead,
      UInt8.size, readBE_toBE r (show n < 256 ^ 4 by omega), Except.bind]

/-- A map header opens a container of `n` pairs, read one level down. -/
theorem decodeValue_mapHeader (len f : Nat) {n : Nat} (r : Bytes) (hn : n ≤ itemLimit) :
    decodeValue len (f + 1) (mapHeader n ++ r) = openMap len (decodeValue len f) n r := by
  unfold itemLimit at hn
  rcases Nat.lt_or_ge n 16 with h1 | h1
  · simp [mapHeader, h1, decodeValue, decodeHead, UInt8.size,
      UInt8.toNat_ofNat_of_lt (show 0x80 + n < 256 by omega),
      show ¬ 0x80 + n < 0x80 by omega, show 0x80 + n < 0x90 by omega]
  rcases Nat.lt_or_ge n (2 ^ 16) with h2 | h2
  · simp [mapHeader, Nat.not_lt.mpr h1, show n < 65536 by omega, decodeValue, decodeHead,
      UInt8.size, readBE_toBE r (show n < 256 ^ 2 by omega), Except.bind]
  · simp [mapHeader, Nat.not_lt.mpr h1, show ¬ n < 65536 by omega, decodeValue, decodeHead,
      UInt8.size, readBE_toBE r (show n < 256 ^ 4 by omega), Except.bind]

/-- Every unsigned encoding reads back, whichever of its five widths it took. -/
theorem decodeValue_packUnsigned (len fuel : Nat) {d : Nat} (r : Bytes)
    (h : d < 0x10000000000000000) : decodeValue len fuel (packUnsigned d ++ r) = .ok (.int d, r) := by
  unfold packUnsigned
  split_ifs with h1 h2 h3 h4 <;> rw [List.cons_append] <;>
    refine decodeValue_of_decodeHead fun arr map => ?_
  · simp [decodeHead, UInt8.size, UInt8.toNat_ofNat_of_lt (show d < 256 by omega), h1]
  · simp [decodeHead, UInt8.size, readBE_toBE r (show d < 256 ^ 1 by omega), Except.map]
  · simp [decodeHead, UInt8.size, readBE_toBE r (show d < 256 ^ 2 by omega), Except.map]
  · simp [decodeHead, UInt8.size, readBE_toBE r (show d < 256 ^ 4 by omega), Except.map]
  · simp [decodeHead, UInt8.size, readBE_toBE r (show d < 256 ^ 8 by omega), Except.map]

/-- A signed header of width `k` over `m` reads back `d` when `m` is `d`'s two's complement. -/
theorem decodeValue_signedHeader {len fuel : Nat} {x : UInt8} {k m : Nat} {d : Int} (r : Bytes)
    (hx : ∀ arr map bs, decodeHead len arr map x.toNat bs = decodeSigned k bs) (h : m < 256 ^ k)
    (hd : 2 ^ (8 * k - 1) ≤ m ∧ (m : Int) - 2 ^ (8 * k) = d) :
    decodeValue len fuel (x :: (toBE k m ++ r)) = .ok (.int d, r) :=
  decodeValue_of_decodeHead fun arr map => by
    rw [hx, decodeSigned, readBE_toBE r h]
    simp only [Except.map, if_pos hd.1, hd.2]

/-- Every signed encoding of a non-positive integer reads back. -/
theorem decodeValue_packSigned (len fuel : Nat) {d : Int} (r : Bytes)
    (h : -0x8000000000000000 ≤ d) (h0 : d ≤ 0) :
    decodeValue len fuel (packSigned d ++ r) = .ok (.int d, r) := by
  unfold packSigned
  repeat' split
  all_goals try rw [List.cons_append]
  all_goals first
    | omega
    | exact decodeValue_signedHeader r (fun _ _ _ => rfl) (by omega) ⟨by omega, by omega⟩
    | refine decodeValue_of_decodeHead fun arr map => ?_
  rcases h0.lt_or_eq with hn | rfl
  · have hb : (UInt8.ofNat (d + 0x100).toNat).toNat = (d + 0x100).toNat :=
      UInt8.toNat_ofNat_of_lt (show (d + 0x100).toNat < 256 by omega)
    simp [decodeHead, UInt8.size, hb, show ¬ (d + 0x100).toNat < 0x80 by omega,
      show ¬ (d + 0x100).toNat < 0x90 by omega, show ¬ (d + 0x100).toNat < 0xa0 by omega,
      show ¬ (d + 0x100).toNat < 0xc0 by omega, show 0xe0 ≤ (d + 0x100).toNat by omega]
    omega
  · rfl

/-- Every integer the packer accepts reads back. -/
theorem decodeValue_packInt {i : Int} {bs : Bytes} (len fuel : Nat) (r : Bytes)
    (h : packInt i = .ok bs) : decodeValue len fuel (bs ++ r) = .ok (.int i, r) := by
  unfold packInt at h
  split_ifs at h with h0 h1 h2 <;> cases h
  · rw [decodeValue_packUnsigned len fuel r (by omega), Int.toNat_of_nonneg h0.le]
  · exact decodeValue_packSigned len fuel r h2 (by omega)


mutual

/-- Every map key, at any depth, is a `str` or a `bytes`. -/
def Value.keysOk : Value → Bool
  | .arr vs => keysOkList vs
  | .map kvs => keysOkPairs kvs
  | _ => true

/-- `Value.keysOk` for each item of a list. -/
def keysOkList : List Value → Bool
  | [] => true
  | v :: vs => v.keysOk && keysOkList vs

/-- `Value.keysOk` for each value of a dict, whose keys are themselves keys. -/
def keysOkPairs : List (Value × Value) → Bool
  | [] => true
  | (k, v) :: kvs => k.isKey && v.keysOk && keysOkPairs kvs

end

/-- A key holds no map. -/
theorem Value.keysOk_of_isKey {k : Value} (h : k.isKey = true) : k.keysOk = true := by
  cases k <;> first | rfl | cases h

/-- Every header is at least one byte. -/
theorem length_strHeader_pos (l : Nat) : 0 < (strHeader l).length := by
  unfold strHeader; split_ifs <;> simp

theorem length_binHeader_pos (l : Nat) : 0 < (binHeader l).length := by
  unfold binHeader; split_ifs <;> simp

theorem length_arrayHeader_pos (n : Nat) : 0 < (arrayHeader n).length := by
  unfold arrayHeader; split_ifs <;> simp

theorem length_mapHeader_pos (n : Nat) : 0 < (mapHeader n).length := by
  unfold mapHeader; split_ifs <;> simp

/-- A packed integer is at least one byte. -/
theorem length_pos_of_packInt {i : Int} {bs : Bytes} (h : packInt i = .ok bs) :
    0 < bs.length := by
  have hd := decodeValue_packInt 0 0 [] h
  cases bs with
  | nil => simp [decodeValue] at hd
  | cons => simp

/-- A packed object is at least one byte. -/
theorem length_pos_of_pack {nest : Int} {v : Value} {bs : Bytes} (h : pack nest v = .ok bs) :
    0 < bs.length := by
  unfold pack at h
  split_ifs at h
  cases v with
  | nil | bool => cases h; simp
  | int i => exact length_pos_of_packInt h
  | str s =>
    simp only at h; split_ifs at h; cases h
    simpa using Nat.lt_add_right _ (length_strHeader_pos _)
  | bin b =>
    simp only at h; split_ifs at h; cases h
    simpa using Nat.lt_add_right _ (length_binHeader_pos _)
  | arr vs =>
    simp only at h; split_ifs at h
    obtain ⟨a, -, rfl⟩ := Except.map_eq_ok.1 h
    simpa using Nat.lt_add_right _ (length_arrayHeader_pos _)
  | map kvs =>
    simp only at h; split_ifs at h
    obtain ⟨a, -, rfl⟩ := Except.map_eq_ok.1 h
    simpa using Nat.lt_add_right _ (length_mapHeader_pos _)

/-- A packed list is at least one byte per item, so `max_array_len` passes. -/
theorem length_le_of_packList {nest : Int} {vs : List Value} {bs : Bytes}
    (h : packList nest vs = .ok bs) : vs.length ≤ bs.length := by
  induction vs generalizing bs with
  | nil => simp
  | cons v vs ih =>
    obtain ⟨a, ha, h⟩ := Except.bind_eq_ok.1 h
    obtain ⟨b, hb, h⟩ := Except.bind_eq_ok.1 h
    cases h
    have := length_pos_of_pack ha
    have := ih hb
    simp; omega

/-- A packed dict is at least two bytes per pair, so `max_map_len` passes. -/
theorem length_le_of_packPairs {nest : Int} {kvs : List (Value × Value)} {bs : Bytes}
    (h : packPairs nest kvs = .ok bs) : 2 * kvs.length ≤ bs.length := by
  induction kvs generalizing bs with
  | nil => simp
  | cons kv kvs ih =>
    obtain ⟨a, ha, h⟩ := Except.bind_eq_ok.1 h
    obtain ⟨b, hb, h⟩ := Except.bind_eq_ok.1 h
    obtain ⟨c, hc, h⟩ := Except.bind_eq_ok.1 h
    cases h
    have := length_pos_of_pack ha
    have := length_pos_of_pack hb
    have := ih hc
    simp; omega

/-- A UTF-8 body of the announced length reads back as its string. -/
theorem decodeStr_utf8Encode (s : String) (r : Bytes) {len : Nat}
    (h : (utf8Encode s).length ≤ len) :
    decodeStr len (utf8Encode s).length (utf8Encode s ++ r) = .ok (.str s, r) := by
  simp [decodeStr, readN_append r rfl, utf8Decode_encode, Nat.not_lt.mpr h, bind, Except.bind,
    pure, Except.pure]

/-- A byte body of the announced length reads back as itself. -/
theorem decodeBin_self (b r : Bytes) {len : Nat} (h : b.length ≤ len) :
    decodeBin len b.length (b ++ r) = .ok (.bin b, r) := by
  simp [decodeBin, readN_append r rfl, Nat.not_lt.mpr h, bind, Except.bind, pure, Except.pure]

mutual

/-- **Round trip.** What `pack` writes, `decodeValue` reads back and stops where it ended,
provided every map key is a `str` or `bytes` (`strict_map_key`), the buffer is at least as long
as the object (every `max_*_len`), and the stack has room for one more level than the packer's
nesting allowance. -/
theorem decodeValue_pack (len : Nat) : ∀ (v : Value) {nest : Int} {fuel : Nat} {bs : Bytes}
    (r : Bytes), v.keysOk = true → pack nest v = .ok bs → bs.length ≤ len → nest < fuel →
    decodeValue len fuel (bs ++ r) = .ok (v, r)
  | .nil, _, _, _, r, _, h, _, _ => by
    unfold pack at h; split_ifs at h; cases h
    exact decodeValue_of_decodeHead fun _ _ => rfl
  | .bool b, _, _, _, r, _, h, _, _ => by
    unfold pack at h; split_ifs at h; cases h
    cases b <;> exact decodeValue_of_decodeHead fun _ _ => rfl
  | .int i, _, fuel, _, r, _, h, _, _ => by
    unfold pack at h; split_ifs at h; exact decodeValue_packInt len fuel r h
  | .str s, _, fuel, _, r, _, h, hlen, _ => by
    unfold pack at h; simp only at h; split_ifs at h with h0 h1; cases h
    simp only [List.length_append] at hlen
    rw [List.append_assoc, decodeValue_strHeader len fuel _ (Nat.not_lt.mp h1)]
    exact decodeStr_utf8Encode s r (by omega)
  | .bin b, _, fuel, _, r, _, h, hlen, _ => by
    unfold pack at h; simp only at h; split_ifs at h with h0 h1; cases h
    simp only [List.length_append] at hlen
    rw [List.append_assoc, decodeValue_binHeader len fuel _ (Nat.not_lt.mp h1)]
    exact decodeBin_self b r (by omega)
  | .arr vs, nest, fuel, _, r, hk, h, hlen, hf => by
    unfold pack at h; simp only at h; split_ifs at h with h0 h1
    obtain ⟨a, ha, rfl⟩ := Except.map_eq_ok.1 h
    obtain ⟨f, rfl⟩ : ∃ f, fuel = f + 1 := ⟨fuel - 1, by omega⟩
    have hn := length_le_of_packList ha
    have hh := length_arrayHeader_pos vs.length
    simp only [List.length_append] at hlen
    rw [List.append_assoc, decodeValue_arrayHeader len f _ (Nat.not_lt.mp h1), openArray, if_neg (by omega),
      decodeItems_packList len vs r hk ha (by omega) (by push_cast at hf ⊢; omega)]
    rfl
  | .map kvs, nest, fuel, _, r, hk, h, hlen, hf => by
    unfold pack at h; simp only at h; split_ifs at h with h0 h1
    obtain ⟨a, ha, rfl⟩ := Except.map_eq_ok.1 h
    obtain ⟨f, rfl⟩ : ∃ f, fuel = f + 1 := ⟨fuel - 1, by omega⟩
    have hn := length_le_of_packPairs ha
    have hh := length_mapHeader_pos kvs.length
    simp only [List.length_append] at hlen
    rw [List.append_assoc, decodeValue_mapHeader len f _ (Nat.not_lt.mp h1), openMap, if_neg (by omega),
      decodePairs_packPairs len kvs r hk ha (by omega) (by push_cast at hf ⊢; omega)]
    rfl

/-- The items of a packed list read back in order. -/
theorem decodeItems_packList (len : Nat) : ∀ (vs : List Value) {nest : Int} {fuel : Nat}
    {bs : Bytes} (r : Bytes), keysOkList vs = true → packList nest vs = .ok bs →
    bs.length ≤ len → nest < fuel → decodeItems (decodeValue len fuel) vs.length (bs ++ r) = .ok (vs, r)
  | [], _, _, _, r, _, h, _, _ => by cases h; rfl
  | v :: vs, _, _, _, r, hk, h, hlen, hf => by
    obtain ⟨a, ha, h⟩ := Except.bind_eq_ok.1 h
    obtain ⟨b, hb, h⟩ := Except.bind_eq_ok.1 h
    cases h
    simp only [keysOkList, Bool.and_eq_true] at hk
    simp only [List.length_append] at hlen
    simp only [List.length_cons, decodeItems, List.append_assoc,
      decodeValue_pack len v _ hk.1 ha (by omega) hf,
      decodeItems_packList len vs r hk.2 hb (by omega) hf, bind, Except.bind, pure, Except.pure]

/-- The pairs of a packed dict read back in order. -/
theorem decodePairs_packPairs (len : Nat) : ∀ (kvs : List (Value × Value)) {nest : Int}
    {fuel : Nat} {bs : Bytes} (r : Bytes), keysOkPairs kvs = true → packPairs nest kvs = .ok bs →
    bs.length ≤ len → nest < fuel →
    decodePairs (decodeValue len fuel) kvs.length (bs ++ r) = .ok (kvs, r)
  | [], _, _, _, r, _, h, _, _ => by cases h; rfl
  | (k, v) :: kvs, _, _, _, r, hk, h, hlen, hf => by
    obtain ⟨a, ha, h⟩ := Except.bind_eq_ok.1 h
    obtain ⟨b, hb, h⟩ := Except.bind_eq_ok.1 h
    obtain ⟨c, hc, h⟩ := Except.bind_eq_ok.1 h
    cases h
    simp only [keysOkPairs, Bool.and_eq_true] at hk
    simp only [List.length_append] at hlen
    have hkey := Value.keysOk_of_isKey hk.1.1
    simp only [List.length_cons, decodePairs, List.append_assoc,
      decodeValue_pack len k _ hkey ha (by omega) hf,
      decodeValue_pack len v _ hk.1.2 hb (by omega) hf,
      decodePairs_packPairs len kvs r hk.2 hc (by omega) hf, checkMapKey, hk.1.1, bind, Except.bind,
      pure, Except.pure, if_true]

end

/-- `unpackb(packb(v)) == v` for every `v` with `str` or `bytes` map keys: `packb`'s nesting
allowance (511) is below the unpacker's stack (1024), and the buffer is the packed object. -/
theorem unpackb_packb {v : Value} {bs : Bytes} (hk : v.keysOk = true) (h : packb v = .ok bs) :
    unpackb bs = .ok v := by
  have hd := decodeValue_pack bs.length v [] hk h le_rfl (by decide : (511 : Int) < (1024 : Nat))
  rw [List.append_nil] at hd
  simp [unpackb, stackSize, hd, bind, Except.bind, pure, Except.pure]


/-! ## When `packb` raises -/

mutual

/-- What `pack nest` accepts: no container deeper than `nest`, no item longer than
`itemLimit`, every integer in `[-2 ^ 63, 2 ^ 64)`. -/
def Value.fits (nest : Int) : Value → Bool
  | .nil | .bool _ => 0 ≤ nest
  | .int i => 0 ≤ nest && -0x8000000000000000 ≤ i && i < 0x10000000000000000
  | .str s => 0 ≤ nest && (utf8Encode s).length ≤ itemLimit
  | .bin b => 0 ≤ nest && b.length ≤ itemLimit
  | .arr vs => 0 ≤ nest && vs.length ≤ itemLimit && fitsList (nest - 1) vs
  | .map kvs => 0 ≤ nest && kvs.length ≤ itemLimit && fitsPairs (nest - 1) kvs

/-- `Value.fits` for each item of a list. -/
def fitsList (nest : Int) : List Value → Bool
  | [] => true
  | v :: vs => v.fits nest && fitsList nest vs

/-- `Value.fits` for each key and each value of a dict. -/
def fitsPairs (nest : Int) : List (Value × Value) → Bool
  | [] => true
  | (k, v) :: kvs => k.fits nest && v.fits nest && fitsPairs nest kvs

end

/-- `packInt` raises exactly on integers outside `[-2 ** 63, 2 ** 64)`. -/
theorem packInt_toBool (i : Int) :
    (packInt i).toBool = (-0x8000000000000000 ≤ i && i < 0x10000000000000000) := by
  unfold packInt
  split_ifs <;> simp [Except.toBool] <;> omega

mutual

/-- **When `pack` raises.** `pack nest v` succeeds exactly when `v` fits: the packer's only
errors are its depth, length and integer-range checks. -/
theorem pack_toBool (nest : Int) : ∀ v : Value, (pack nest v).toBool = v.fits nest
  | .nil | .bool _ => by unfold pack; split_ifs <;> simp_all [Value.fits, Except.toBool]
  | .int i => by
    unfold pack; split_ifs with h0
    · simp [Value.fits, Except.toBool, h0]
    · simp [Value.fits, packInt_toBool, Int.not_lt.mp h0]
  | .str s | .bin b => by
    unfold pack; simp only; split_ifs <;> simp_all [Value.fits, Except.toBool]
  | .arr vs => by
    unfold pack; simp only; split_ifs with h0 h1
    · simp [Value.fits, Except.toBool, h0]
    · simp [Value.fits, Except.toBool, h0, h1]
    · simp [Value.fits, Int.not_lt.mp h0, Nat.not_lt.mp h1, Except.toBool_map, packList_toBool (nest - 1) vs]
  | .map kvs => by
    unfold pack; simp only; split_ifs with h0 h1
    · simp [Value.fits, Except.toBool, h0]
    · simp [Value.fits, Except.toBool, h0, h1]
    · simp [Value.fits, Int.not_lt.mp h0, Nat.not_lt.mp h1, Except.toBool_map, packPairs_toBool (nest - 1) kvs]

/-- A list packs exactly when each item fits. -/
theorem packList_toBool (nest : Int) : ∀ vs : List Value, (packList nest vs).toBool = fitsList nest vs
  | [] => rfl
  | v :: vs => by
    have ih := pack_toBool nest v
    have ih' := packList_toBool nest vs
    simp only [packList, fitsList, ← ih, ← ih']
    cases pack nest v <;> cases packList nest vs <;> rfl

/-- A dict packs exactly when each key and each value fits. -/
theorem packPairs_toBool (nest : Int) :
    ∀ kvs : List (Value × Value), (packPairs nest kvs).toBool = fitsPairs nest kvs
  | [] => rfl
  | (k, v) :: kvs => by
    have ihk := pack_toBool nest k
    have ihv := pack_toBool nest v
    have ih' := packPairs_toBool nest kvs
    simp only [packPairs, fitsPairs, ← ihk, ← ihv, ← ih']
    cases pack nest k <;> cases pack nest v <;> cases packPairs nest kvs <;> rfl

end

/-! ## What fits, item by item -/

/-- A `str` that `packb` takes: at most `itemLimit` bytes of UTF-8. -/
def strFits (s : String) : Bool := (utf8Encode s).length ≤ itemLimit

/-- An `int` that `packb` takes: one in `[-2 ** 63, 2 ** 64)`. -/
def intFits (i : Int) : Bool := -0x8000000000000000 ≤ i && i < 0x10000000000000000

section

variable {nest : Int}

theorem Value.fits_str (hn : 0 ≤ nest) (s : String) : (Value.str s).fits nest = strFits s := by
  simp [Value.fits, strFits, hn]

theorem Value.fits_int (hn : 0 ≤ nest) (i : Int) : (Value.int i).fits nest = intFits i := by
  simp [Value.fits, intFits, hn]

theorem Value.fits_bin (hn : 0 ≤ nest) (b : Bytes) :
    (Value.bin b).fits nest = decide (b.length ≤ itemLimit) := by
  simp [Value.fits, hn]

theorem Value.fits_arr (hn : 0 ≤ nest) (vs : List Value) :
    (Value.arr vs).fits nest = (decide (vs.length ≤ itemLimit) && fitsList (nest - 1) vs) := by
  simp [Value.fits, hn]

theorem Value.fits_map (hn : 0 ≤ nest) (kvs : List (Value × Value)) :
    (Value.map kvs).fits nest = (decide (kvs.length ≤ itemLimit) && fitsPairs (nest - 1) kvs) := by
  simp [Value.fits, hn]

end

end Msgpack

end RecDtn
