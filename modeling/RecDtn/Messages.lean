import RecDtn.Msgpack.Codec

/-!
# Messages and their codec

`messages.py`: the five messages a node exchanges with its DTN agent, their `dictify`
(`self.__dict__`, a bundle's `payload`, `node_type`, `submitter` and `named_data` deleted when
they hold their defaults), `serialize` (`packb` of that dict) and `deserialize` (`unpackb`, the
class `MESSAGE_CONSTRUCTORS` gives for the decoded `type`, called with the decoded dict as
keyword arguments, and the `__post_init__` hooks that rebuild bundles and their EIDs).

`EID(s)` comes from `rec/dtn/eid.py`, which the sources do not include; `deserialize` takes it
as a parameter `eid`. A field holds the type its annotation gives. A decoded value of another
type, which Python would store in the object unchecked, is a `TypeError` here; `serialize`
never writes one.

* `Message.deserialize_serialize` — `deserialize` reads back what `serialize` wrote, for a
  message whose `type` is its own class's and whose bundles' EIDs `EID` leaves as they are;
* `serialize_injective` — no two messages are written as the same bytes;
* `serialize_toBool` — `serialize`, read as a pure function of the fields, raises exactly when a
  field exceeds msgpack's limits.
-/

namespace RecDtn

open Msgpack

/-- A message to or from the agent, one constructor per class, each with its fields.
Reference: `messages.py:35-106`. -/
inductive Message
  /-- `Reply(type, success, error)`. -/
  | reply (type : MessageType) (success : Bool) (error : String)
  /-- `Register(type, endpoint_id)`. -/
  | register (type : MessageType) (endpointId : EID)
  /-- `Fetch(type, endpoint_id, node_type)`. -/
  | fetch (type : MessageType) (endpointId : EID) (nodeType : Int)
  /-- `FetchReply(type, success, error, bundles)`, a subclass of `Reply`. -/
  | fetchReply (type : MessageType) (success : Bool) (error : String) (bundles : List BundleData)
  /-- `BundleCreate(type, bundle)`. -/
  | bundleCreate (type : MessageType) (bundle : BundleData)
deriving DecidableEq, Repr

/-- `message.type`. -/
def Message.type : Message → MessageType
  | .reply t .. | .register t .. | .fetch t .. | .fetchReply t .. | .bundleCreate t .. => t

/-- `isinstance(message, Reply)`: a `Reply` or a `FetchReply`. -/
def Message.isReply : Message → Bool
  | .reply .. | .fetchReply .. => true
  | _ => false

/-- The `MessageType` whose class the constructor is, the tag `MESSAGE_CONSTRUCTORS` maps back
to it. -/
def Message.ownType : Message → MessageType
  | .reply .. => .reply
  | .register .. => .register
  | .fetch .. => .fetch
  | .fetchReply .. => .fetchReply
  | .bundleCreate .. => .create

/-- The bundles a message carries. -/
def Message.bundles : Message → List BundleData
  | .fetchReply _ _ _ bs => bs
  | .bundleCreate _ b => [b]
  | _ => []

/-! ## `dictify` and `serialize` -/

/-- The pairs of a dict with `str` keys. -/
def strKeys (fs : List (String × Value)) : List (Value × Value) := fs.map fun p => (.str p.1, p.2)

/-- A dict with `str` keys, as msgpack packs it. -/
def strDict (fs : List (String × Value)) : Value := .map (strKeys fs)

/-- A set `named_data`: a `str`, or a `list` of them. -/
def NamedData.toValue : NamedData → Value
  | .name n => .str n
  | .names ns => .arr (ns.map .str)

/-- The fields `BundleData.dictify` keeps, in declaration order: `payload`, `node_type`,
`submitter` and `named_data` are deleted when they hold their defaults.
Reference: `messages.py:158-173`. -/
def BundleData.fields (b : BundleData) : List (String × Value) :=
  [("type", .int b.type), ("source", .str b.source.str), ("destination", .str b.destination.str)] ++
  (if b.payload = [] then [] else [("payload", .bin b.payload)]) ++
  [("success", .bool b.success), ("error", .str b.error)] ++
  (if b.nodeType = 0 then [] else [("node_type", .int b.nodeType)]) ++
  (b.submitter.map fun e => ("submitter", .str e.str)).toList ++
  (b.namedData.map fun d => ("named_data", d.toValue)).toList

/-- `BundleData.dictify`. -/
def BundleData.dictify (b : BundleData) : Value := strDict b.fields

/-- The fields of a message's `dictify`: `self.__dict__` in declaration order, the bundles of
a `FetchReply` and the bundle of a `BundleCreate` dictified in turn.
Reference: `messages.py:39-106`. -/
def Message.fields : Message → List (String × Value)
  | .reply t s e => [("type", .int t.toInt), ("success", .bool s), ("error", .str e)]
  | .register t e => [("type", .int t.toInt), ("endpoint_id", .str e.str)]
  | .fetch t e n => [("type", .int t.toInt), ("endpoint_id", .str e.str), ("node_type", .int n)]
  | .fetchReply t s e bs =>
    [("type", .int t.toInt), ("success", .bool s), ("error", .str e),
      ("bundles", .arr (bs.map BundleData.dictify))]
  | .bundleCreate t b => [("type", .int t.toInt), ("bundle", b.dictify)]

/-- `message.dictify()`. -/
def Message.dictify (m : Message) : Value := strDict m.fields

/-- `serialize(message)`: `packb(message.dictify())`. Reference: `messages.py:176`. -/
def serialize (m : Message) : Except RecError Bytes := packb m.dictify

/-! ## The dicts `unpackb` builds -/

/-- Equality of two dict keys, each a `str` or a `bytes` (`strict_map_key`). -/
def Msgpack.Value.sameKey : Value → Value → Bool
  | .str a, .str b => a == b
  | .bin a, .bin b => a == b
  | _, _ => false

/-- `d[k] = v`: a key already present keeps its place and takes the new value. -/
def dictSet (d : List (Value × Value)) (kv : Value × Value) : List (Value × Value) :=
  if d.any (·.1.sameKey kv.1) then d.map fun p => if p.1.sameKey kv.1 then (p.1, kv.2) else p
  else d ++ [kv]

/-- The `dict` `unpackb` builds from a map's pairs, setting one after another. -/
def pyDict (kvs : List (Value × Value)) : List (Value × Value) := kvs.foldl dictSet []

/-- `d[k]` for a `str` key, `none` for a `KeyError`. -/
def dictGet (d : List (Value × Value)) (k : String) : Option Value :=
  (d.find? (·.1.sameKey (.str k))).map (·.2)

/-- `f(**d)`: the keyword arguments, each key a `str`. -/
def kwargsOf (d : List (Value × Value)) : Except RecError (List (String × Value)) :=
  d.mapM fun p =>
    match p.1 with
    | .str k => .ok (k, p.2)
    | _ => .error (.typeError "keywords must be strings")

/-- Binding keyword arguments to `cls.__init__(self, *params)`, whose first `nRequired`
parameters have no default: an unknown keyword, or a required parameter left unbound, is a
`TypeError`. -/
def bindArgs (cls : String) (params : List String) (nRequired : Nat)
    (kw : List (String × Value)) : Except RecError Unit :=
  match kw.find? (fun p => p.1 ∉ params) with
  | some (k, _) => .error (.typeError (cls ++ ".__init__() got an unexpected keyword argument " ++ k))
  | none =>
    match (params.take nRequired).filter (fun p => (kw.lookup p).isNone) with
    | [] => .ok ()
    | missing => .error (.typeError
        (cls ++ ".__init__() missing required arguments: " ++ ", ".intercalate missing))

/-- The value bound to a parameter: its keyword argument, else its default. -/
def argOr (kw : List (String × Value)) (p : String) (default : Value) : Value :=
  (kw.lookup p).getD default

/-! ## Fields at their annotated types -/

/-- A `bool` field. -/
def Msgpack.Value.asBool (field : String) : Value → Except RecError Bool
  | .bool b => .ok b
  | _ => .error (.typeError field)

/-- A `str` field. -/
def Msgpack.Value.asStr (field : String) : Value → Except RecError String
  | .str s => .ok s
  | _ => .error (.typeError field)

/-- A `bytes` field. -/
def Msgpack.Value.asBytes (field : String) : Value → Except RecError Bytes
  | .bin b => .ok b
  | _ => .error (.typeError field)

/-- An `int` field, of which a `bool` is one. -/
def Msgpack.Value.asInt (field : String) : Value → Except RecError Int
  | .int i => .ok i
  | .bool b => .ok (if b then 1 else 0)
  | _ => .error (.typeError field)

/-- A decoded `named_data`: `None`, a `str` or a `list` of them. -/
def NamedData.ofValue : Value → Except RecError (Option NamedData)
  | .nil => .ok none
  | .str s => .ok (some (.name s))
  | .arr vs => (vs.mapM (Msgpack.Value.asStr "named_data")).map fun ns => some (.names ns)
  | _ => .error (.typeError "named_data")

/-! ## `deserialize` -/

/-- `EID(str(e)) == e` for every EID of the bundle. -/
def BundleData.EIDsFixed (eid : String → Except RecError EID) (b : BundleData) : Prop :=
  eid b.source.str = .ok b.source ∧ eid b.destination.str = .ok b.destination ∧
    ∀ e, b.submitter = some e → eid e.str = .ok e


/-- `BundleData.__init__(**kw)`: each field bound to its keyword or its default; `source`,
`destination` and `submitter` still the decoded strings. Reference: `messages.py:134-147`. -/
def BundleData.init (kw : List (String × Value)) : Except RecError BundleData := do
  bindArgs "BundleData" ["type", "source", "destination", "payload", "success", "error",
    "node_type", "submitter", "named_data"] 3 kw
  let type ← (argOr kw "type" .nil).asInt "type"
  let source ← (argOr kw "source" .nil).asStr "source"
  let destination ← (argOr kw "destination" .nil).asStr "destination"
  let payload ← (argOr kw "payload" (.bin [])).asBytes "payload"
  let success ← (argOr kw "success" (.bool true)).asBool "success"
  let error ← (argOr kw "error" (.str "")).asStr "error"
  let nodeType ← (argOr kw "node_type" (.int 0)).asInt "node_type"
  let submitter ← match argOr kw "submitter" .nil with
    | .nil => pure none
    | v => some <$> v.asStr "submitter"
  let namedData ← NamedData.ofValue (argOr kw "named_data" .nil)
  pure ⟨type, ⟨source⟩, ⟨destination⟩, payload, success, error, nodeType, submitter.map EID.mk,
    namedData⟩

/-- `BundleData.__post_init__`: `source`, `destination` and a set `submitter` passed through
`EID`. Reference: `messages.py:149-156`. -/
def BundleData.postInit (eid : String → Except RecError EID) (b : BundleData) :
    Except RecError BundleData := do
  let source ← eid b.source.str
  let destination ← eid b.destination.str
  let submitter ← match b.submitter with
    | none => pure none
    | some e => some <$> eid e.str
  pure { b with source, destination, submitter }

/-- `BundleData(**d)`. -/
def BundleData.ofDict (eid : String → Except RecError EID) (d : List (Value × Value)) :
    Except RecError BundleData := do
  let kw ← kwargsOf d
  let b ← BundleData.init kw
  b.postInit eid

/-- `FetchReply.__post_init__`: `[BundleData(**b) for b in bundles if isinstance(b, dict)]`.
Nothing decoded is a `BundleData`, and iterating a `str`, `bytes` or `dict` yields no dict.
Reference: `messages.py:82-85`. -/
def fetchReplyBundles (eid : String → Except RecError EID) : Value → Except RecError (List BundleData)
  | .arr vs =>
    (vs.filterMap fun v => match v with
      | .map kvs => some kvs
      | _ => none).mapM fun kvs => BundleData.ofDict eid (pyDict kvs)
  | .str _ | .bin _ | .map _ => .ok []
  | _ => .error (.typeError "object is not iterable")

/-- `MESSAGE_CONSTRUCTORS[type](**d)`. Each field's decoded value must have its annotated type:
one of another type, which the dataclass would keep, is a `TypeError` here, and so is a `bundle`
that is not a dict, which `BundleCreate.__post_init__` would keep (the typed domain).
Reference: `messages.py:181-196`. -/
def Message.ofDict (eid : String → Except RecError EID) (t : MessageType)
    (d : List (Value × Value)) : Except RecError Message := do
  let kw ← kwargsOf d
  match t with
  | .reply =>
    bindArgs "Reply" ["type", "success", "error"] 3 kw
    pure (.reply t (← (argOr kw "success" .nil).asBool "success")
      (← (argOr kw "error" .nil).asStr "error"))
  | .register =>
    bindArgs "Register" ["type", "endpoint_id"] 2 kw
    pure (.register t ⟨← (argOr kw "endpoint_id" .nil).asStr "endpoint_id"⟩)
  | .fetch =>
    bindArgs "Fetch" ["type", "endpoint_id", "node_type"] 3 kw
    pure (.fetch t ⟨← (argOr kw "endpoint_id" .nil).asStr "endpoint_id"⟩
      (← (argOr kw "node_type" .nil).asInt "node_type"))
  | .fetchReply =>
    bindArgs "FetchReply" ["type", "success", "error", "bundles"] 4 kw
    pure (.fetchReply t (← (argOr kw "success" .nil).asBool "success")
      (← (argOr kw "error" .nil).asStr "error") (← fetchReplyBundles eid (argOr kw "bundles" .nil)))
  | .create =>
    bindArgs "BundleCreate" ["type", "bundle"] 2 kw
    match argOr kw "bundle" .nil with
    | .map b => pure (.bundleCreate t (← BundleData.ofDict eid (pyDict b)))
    | _ => throw (.typeError "bundle")

/-- `MESSAGE_CONSTRUCTORS` read backwards: the member with this value. -/
def MessageType.ofInt? (i : Int) : Option MessageType :=
  [MessageType.reply, .register, .fetch, .fetchReply, .create].find? (·.toInt == i)

/-- `type not in MESSAGE_CONSTRUCTORS` for a decoded `type`: an `int` or a `bool` compares by
value, a `list` or a `dict` is unhashable, anything else is no member. -/
def messageTypeOf : Value → Except RecError (Option MessageType)
  | .int i => .ok (MessageType.ofInt? i)
  | .bool b => .ok (MessageType.ofInt? (if b then 1 else 0))
  | .arr _ => .error (.typeError "unhashable type: list")
  | .map _ => .error (.typeError "unhashable type: dict")
  | _ => .ok none

/-- `deserialize(data)`. Reference: `messages.py:190-196`. -/
def deserialize (eid : String → Except RecError EID) (data : Bytes) : Except RecError Message := do
  let v ← unpackb data
  let .map kvs := v | throw (.typeError "object is not subscriptable")
  let d := pyDict kvs
  let some t := dictGet d "type" | throw (.keyErrorName "type")
  let some mt ← messageTypeOf t | throw .invalidMessage
  Message.ofDict eid mt d

/-! ## Reading back what `serialize` wrote -/

@[simp] theorem sameKey_str (a b : String) : (Value.str a).sameKey (.str b) = (a == b) := rfl

theorem foldl_dictSet_strKeys (fs : List (String × Value)) (acc : List (Value × Value))
    (hn : (fs.map (·.1)).Nodup) (hd : ∀ p ∈ acc, ∀ q ∈ fs, p.1.sameKey (.str q.1) = false) :
    (strKeys fs).foldl dictSet acc = acc ++ strKeys fs := by
  unfold strKeys
  induction fs generalizing acc with
  | nil => simp
  | cons q fs ih =>
    simp only [List.map_cons, List.nodup_cons, List.mem_map] at hn
    have hset : dictSet acc (.str q.1, q.2) = acc ++ [(.str q.1, q.2)] := by
      have : acc.any (·.1.sameKey (.str q.1)) = false :=
        List.any_eq_false.2 fun p hp => by simp [hd p hp q (.head _)]
      simp [dictSet, this]
    simp only [List.map_cons, List.foldl_cons, hset]
    rw [ih _ hn.2]
    · simp
    · intro p hp r hr
      rcases List.mem_append.1 hp with hp | hp
      · exact hd p hp r (List.mem_cons_of_mem _ hr)
      · simp only [List.mem_singleton] at hp
        subst hp
        simpa using fun h => hn.1 ⟨r, hr, h.symm⟩

theorem pyDict_strKeys (fs : List (String × Value)) (hn : (fs.map (·.1)).Nodup) :
    pyDict (strKeys fs) = strKeys fs := by
  simpa using foldl_dictSet_strKeys fs [] hn (fun _ h => nomatch h)

theorem kwargsOf_strKeys (fs : List (String × Value)) : kwargsOf (strKeys fs) = .ok fs := by
  induction fs with
  | nil => rfl
  | cons q fs ih =>
    simp only [kwargsOf, strKeys, List.map_cons, List.mapM_cons] at ih ⊢
    rw [ih]; rfl

theorem dictGet_strKeys (fs : List (String × Value)) (k : String) :
    dictGet (strKeys fs) k = fs.lookup k := by
  simp only [dictGet, strKeys, List.find?_map, Option.map_map]
  induction fs with
  | nil => rfl
  | cons q fs ih =>
    obtain ⟨k', v⟩ := q
    by_cases h : k' = k
    · subst h; simp [List.lookup_cons, List.lookup_nil]
    · have h1 : (k' == k) = false := by simp [h]
      have h2 : (k == k') = false := by simp [Ne.symm h]
      simp only [List.find?_cons, List.lookup_cons, List.lookup_nil, Function.comp, sameKey_str, h1, h2] at ih ⊢
      exact ih

theorem NamedData.ofValue_toValue (d : NamedData) : NamedData.ofValue d.toValue = .ok (some d) := by
  cases d with
  | name n => rfl
  | names ns =>
    have : (ns.map Value.str).mapM (Value.asStr "named_data") = .ok ns := by
      induction ns with
      | nil => rfl
      | cons n ns ih => simp only [List.map_cons, List.mapM_cons, ih]; rfl
    simp only [NamedData.ofValue, NamedData.toValue, this]; rfl

theorem NamedData.ofValue_nil : NamedData.ofValue .nil = .ok none := rfl

/-- A deleted field does not answer for another parameter. -/
theorem lookup_ite_nil {k k' : String} (c : Prop) [Decidable c] (v : Value) (h : k ≠ k') :
    (if c then [] else [(k', v)]).lookup k = none := by
  have : (k == k') = false := by simp [h]
  split <;> simp [List.lookup_cons, List.lookup_nil, this]

/-- An unset optional field does not answer for another parameter. -/
theorem lookup_toList {α : Type} {k k' : String} (o : Option α) (f : α → Value) (h : k ≠ k') :
    ((o.map fun x => (k', f x)).toList).lookup k = none := by
  have : (k == k') = false := by simp [h]
  cases o <;> simp [List.lookup_cons, List.lookup_nil, this]

/-- Every entry of a dictified bundle is one of its fields under its own name. -/
theorem BundleData.mem_fields {b : BundleData} {x : String × Value} (hx : x ∈ b.fields) :
    x = ("type", .int b.type) ∨ x = ("source", .str b.source.str) ∨
      x = ("destination", .str b.destination.str) ∨ x = ("payload", .bin b.payload) ∨
      x = ("success", .bool b.success) ∨ x = ("error", .str b.error) ∨
      x = ("node_type", .int b.nodeType) ∨ (∃ e : EID, x = ("submitter", .str e.str)) ∨
      ∃ d : NamedData, x = ("named_data", d.toValue) := by
  simp only [BundleData.fields, List.mem_append, List.mem_ite_nil_left, Option.mem_toList,
    Option.mem_def, Option.map_eq_some', List.mem_cons, List.not_mem_nil, or_false] at hx
  rcases hx with (((((rfl | rfl | rfl) | ⟨_, rfl⟩) | (rfl | rfl)) | ⟨_, rfl⟩) | ⟨e, _, rfl⟩) |
    ⟨d, _, rfl⟩ <;> simp

/-- The parameters `BundleData.init` reads from a dictified bundle: each field's own value, a
deleted field its default. -/
theorem BundleData.argOr_fields (b : BundleData) :
    argOr b.fields "type" .nil = .int b.type ∧
    argOr b.fields "source" .nil = .str b.source.str ∧
    argOr b.fields "destination" .nil = .str b.destination.str ∧
    argOr b.fields "payload" (.bin []) = .bin b.payload ∧
    argOr b.fields "success" (.bool true) = .bool b.success ∧
    argOr b.fields "error" (.str "") = .str b.error ∧
    argOr b.fields "node_type" (.int 0) = .int b.nodeType ∧
    argOr b.fields "submitter" .nil = (b.submitter.map fun e => .str e.str).getD .nil ∧
    argOr b.fields "named_data" .nil = (b.namedData.map NamedData.toValue).getD .nil := by
  simp only [argOr, BundleData.fields, List.lookup_append]
  refine ⟨rfl, rfl, rfl, ?_, ?_, ?_, ?_, ?_, ?_⟩ <;>
    simp [lookup_ite_nil, lookup_toList, List.lookup_cons, List.lookup_nil]
  · split_ifs with h <;> simp [List.lookup_cons, List.lookup_nil, h]
  · split_ifs with h <;> simp [List.lookup_cons, List.lookup_nil, h]
  · cases b.submitter <;> rfl
  · cases b.namedData <;> rfl

theorem BundleData.init_fields (b : BundleData) : BundleData.init b.fields = .ok b := by
  obtain ⟨h1, h2, h3, h4, h5, h6, h7, h8, h9⟩ := b.argOr_fields
  have hb : bindArgs "BundleData" ["type", "source", "destination", "payload", "success", "error",
      "node_type", "submitter", "named_data"] 3 b.fields = .ok () := by
    have hfind : b.fields.find? (fun p => p.1 ∉ ["type", "source", "destination", "payload",
        "success", "error", "node_type", "submitter", "named_data"]) = none := by
      rw [List.find?_eq_none]
      intro x hx
      rcases BundleData.mem_fields hx with rfl | rfl | rfl | rfl | rfl | rfl | rfl | ⟨_, rfl⟩ |
        ⟨_, rfl⟩ <;> simp
    simp only [bindArgs, hfind]
    rfl
  simp only [BundleData.init, hb, h1, h2, h3, h4, h5, h6, h7, h8, h9, bind, Except.bind,
    Value.asInt, Value.asStr, Value.asBytes, Value.asBool]
  obtain ⟨type, source, destination, payload, success, error, nodeType, submitter, namedData⟩ := b
  cases submitter <;> cases namedData <;>
    simp [NamedData.ofValue_nil, NamedData.ofValue_toValue, pure, Except.pure, Functor.map, Except.map]

theorem keysOk_strDict (fs : List (String × Value)) (h : ∀ p ∈ fs, p.2.keysOk = true) :
    (strDict fs).keysOk = true := by
  simp only [strDict, Value.keysOk]
  induction fs with
  | nil => rfl
  | cons p fs ih =>
    simp only [List.map_cons, keysOkPairs, Value.isKey, Bool.true_and, Bool.and_eq_true]
    exact ⟨h p (List.mem_cons_self _ _), ih fun q hq => h q (List.mem_cons_of_mem _ hq)⟩

theorem NamedData.keysOk_toValue (d : NamedData) : d.toValue.keysOk = true := by
  cases d with
  | name n => rfl
  | names ns =>
    simp only [NamedData.toValue, Value.keysOk]
    induction ns with
    | nil => rfl
    | cons n ns ih => simpa [keysOkList, Value.keysOk] using ih

theorem BundleData.keysOk_dictify (b : BundleData) : b.dictify.keysOk = true := by
  refine keysOk_strDict _ fun x hx => ?_
  rcases BundleData.mem_fields hx with rfl | rfl | rfl | rfl | rfl | rfl | rfl | ⟨_, rfl⟩ |
    ⟨d, rfl⟩
  all_goals first | rfl | exact NamedData.keysOk_toValue d


theorem BundleData.nodup_fields (b : BundleData) : (b.fields.map (·.1)).Nodup := by
  have hp : List.Sublist
      ((if b.payload = [] then [] else [("payload", Value.bin b.payload)]).map (·.1))
      ["payload"] := by split <;> simp
  have hn : List.Sublist
      ((if b.nodeType = 0 then [] else [("node_type", Value.int b.nodeType)]).map (·.1))
      ["node_type"] := by split <;> simp
  have hs : List.Sublist ((b.submitter.map fun e => ("submitter", Value.str e.str)).toList.map (·.1))
      ["submitter"] := by cases b.submitter <;> simp
  have hd : List.Sublist ((b.namedData.map fun d => ("named_data", d.toValue)).toList.map (·.1))
      ["named_data"] := by cases b.namedData <;> simp
  refine List.Nodup.sublist ?_ (show (["type", "source", "destination"] ++ ["payload"] ++
    ["success", "error"] ++ ["node_type"] ++ ["submitter"] ++ ["named_data"]).Nodup by decide)
  simp only [BundleData.fields, List.map_append]
  exact (((((List.Sublist.refl _).append hp).append (List.Sublist.refl _)).append hn).append
    hs).append hd

theorem BundleData.postInit_self (eid : String → Except RecError EID) (b : BundleData)
    (h : b.EIDsFixed eid) : b.postInit eid = .ok b := by
  obtain ⟨hs, hd, hsub⟩ := h
  rcases b with ⟨_, _, _, _, _, _, _, _ | e, _⟩
  · simp_all [BundleData.postInit, bind, Except.bind, pure, Except.pure]
  · simp_all [BundleData.postInit, bind, Except.bind, pure, Except.pure, Functor.map, Except.map]

theorem BundleData.ofDict_dictify (eid : String → Except RecError EID) (b : BundleData)
    (h : b.EIDsFixed eid) : BundleData.ofDict eid (pyDict (strKeys b.fields)) = .ok b := by
  simp only [BundleData.ofDict, pyDict_strKeys _ b.nodup_fields, kwargsOf_strKeys,
    BundleData.init_fields, BundleData.postInit_self eid b h, bind, Except.bind]


theorem Message.keysOk_dictify (m : Message) : m.dictify.keysOk = true := by
  refine keysOk_strDict _ fun p hp => ?_
  cases m with
  | fetchReply t s e bs =>
    simp only [Message.fields, List.mem_cons, List.mem_singleton, List.not_mem_nil, or_false] at hp
    rcases hp with rfl | rfl | rfl | rfl
    iterate 3 rfl
    simp only [Value.keysOk]
    induction bs with
    | nil => rfl
    | cons b bs ih => simp [keysOkList, BundleData.keysOk_dictify, ih]
  | bundleCreate t b =>
    simp only [Message.fields, List.mem_cons, List.mem_singleton, List.not_mem_nil, or_false] at hp
    rcases hp with rfl | rfl
    · rfl
    · exact BundleData.keysOk_dictify b
  | _ =>
    simp only [Message.fields, List.mem_cons, List.mem_singleton, List.not_mem_nil, or_false] at hp
    rcases hp with rfl | rfl | rfl <;> rfl

theorem fetchReplyBundles_dictify (eid : String → Except RecError EID) (bs : List BundleData)
    (h : ∀ b ∈ bs, b.EIDsFixed eid) : fetchReplyBundles eid (.arr (bs.map BundleData.dictify)) = .ok bs := by
  simp only [fetchReplyBundles]
  induction bs with
  | nil => rfl
  | cons b bs ih =>
    simp only [List.map_cons, List.filterMap_cons, BundleData.dictify, strDict, List.mapM_cons,
      BundleData.ofDict_dictify eid b (h b (List.mem_cons_self _ _)),
      ih fun b hb => h b (List.mem_cons_of_mem _ hb)]
    rfl

theorem MessageType.ofInt?_toInt (t : MessageType) : MessageType.ofInt? t.toInt = some t := by
  cases t <;> rfl

theorem Message.ofDict_fields (eid : String → Except RecError EID) (m : Message)
    (ht : m.type = m.ownType) (h : ∀ b ∈ m.bundles, b.EIDsFixed eid) :
    Message.ofDict eid m.ownType (strKeys m.fields) = .ok m := by
  cases m <;> simp only [Message.type, Message.ownType] at ht <;> subst ht <;>
    simp only [Message.ofDict, kwargsOf_strKeys, Message.ownType, bind, Except.bind]
  case fetchReply s e bs =>
    simp [Message.fields, bindArgs, argOr, List.lookup_cons, List.lookup_nil, fetchReplyBundles_dictify eid bs h,
      bind, Except.bind, pure, Except.pure, Value.asBool, Value.asStr]
  case bundleCreate b =>
    simp [Message.fields, bindArgs, argOr, List.lookup_cons, List.lookup_nil, BundleData.dictify, strDict,
      BundleData.ofDict_dictify eid b (h b (List.mem_singleton_self _)), bind, Except.bind, pure,
      Except.pure]
  all_goals rfl


theorem Message.nodup_fields (m : Message) : (m.fields.map (·.1)).Nodup := by
  cases m <;> simp [Message.fields]

theorem Message.lookup_type (m : Message) : m.fields.lookup "type" = some (.int m.type.toInt) := by
  cases m <;> rfl

/-- `deserialize` reads a message back from any bytes that `unpackb` decodes to its dict, provided
its `type` is its own class's and `EID` keeps its bundles' EIDs. -/
theorem Message.deserialize_of_unpackb (eid : String → Except RecError EID) (m : Message)
    {bs : Bytes} (hu : unpackb bs = .ok m.dictify) (ht : m.type = m.ownType)
    (h : ∀ b ∈ m.bundles, b.EIDsFixed eid) : deserialize eid bs = .ok m := by
  simp only [deserialize, hu, Message.dictify, strDict, bind, Except.bind]
  rw [pyDict_strKeys _ m.nodup_fields, dictGet_strKeys, Message.lookup_type]
  simp only [messageTypeOf, MessageType.ofInt?_toInt, ht, pure, Except.pure]
  exact ht ▸ Message.ofDict_fields eid m ht h

/-- **Round trip.** `deserialize` reads back, field by field, the message `serialize` wrote,
optional bundle fields at their defaults included, provided the message's `type` is its own
class's (`MESSAGE_CONSTRUCTORS` dispatches on it) and `EID` leaves each of its bundles' EIDs as
it is. -/
theorem Message.deserialize_serialize (eid : String → Except RecError EID) (m : Message)
    {bs : Bytes} (hs : serialize m = .ok bs) (ht : m.type = m.ownType)
    (h : ∀ b ∈ m.bundles, b.EIDsFixed eid) : deserialize eid bs = .ok m := by
  have hu : unpackb bs = .ok m.dictify := unpackb_packb (Message.keysOk_dictify m) hs
  simp only [deserialize, hu, Message.dictify, strDict, bind, Except.bind]
  rw [pyDict_strKeys _ m.nodup_fields, dictGet_strKeys, Message.lookup_type]
  simp only [messageTypeOf, MessageType.ofInt?_toInt, ht, pure, Except.pure]
  exact ht ▸ Message.ofDict_fields eid m ht h

/-- A bundle creation with every optional field set reads back through an `EID` parser that
keeps well-formed identifiers. -/
theorem Message.deserialize_serialize_bundleCreate :
    let b : BundleData :=
      { type := 22, source := ⟨"dtn://a/"⟩, destination := ⟨"dtn://rec.store/~"⟩, payload := [1, 2],
        nodeType := 3, submitter := some ⟨"dtn://c/"⟩, namedData := some (.names ["x", "y"]) }
    let m := Message.bundleCreate .create b
    ∃ bs, serialize m = .ok bs ∧ m.type = m.ownType ∧
      (∀ b ∈ m.bundles, b.EIDsFixed fun s => .ok ⟨s⟩) ∧ deserialize (fun s => .ok ⟨s⟩) bs = .ok m := by
  intro b m
  have hb : ∀ b' ∈ m.bundles, b'.EIDsFixed fun s => .ok ⟨s⟩ := by
    intro b' hb'
    simp only [m, Message.bundles, List.mem_singleton] at hb'
    subst hb'
    exact ⟨rfl, rfl, fun _ he => by cases he; rfl⟩
  exact ⟨_, rfl, rfl, hb, Message.deserialize_serialize _ m rfl rfl hb⟩

/-- A `Reply` whose `type` is `FETCH` does not survive the round trip: `deserialize` calls
`Fetch(**d)`, which has no parameter `success`. -/
theorem Message.roundtrip_foreign_type :
    ¬ ∀ (eid : String → Except RecError EID) (m : Message), (∀ b ∈ m.bundles, b.EIDsFixed eid) →
      ∃ bs, serialize m = .ok bs ∧ deserialize eid bs = .ok m := by
  intro h
  obtain ⟨bs, hs, hd⟩ := h (fun s => .ok ⟨s⟩) (.reply .fetch true "") (fun _ hb => nomatch hb)
  cases hs
  cases hd

/-! ## Distinct messages, distinct bytes -/

theorem MessageType.toInt_injective : Function.Injective MessageType.toInt := by
  intro t t' h
  cases t <;> cases t' <;> first | rfl | exact absurd h (by decide)

theorem EID.str_inj {e e' : EID} : e.str = e'.str ↔ e = e' :=
  ⟨fun h => by cases e; cases e'; cases h; rfl, congrArg EID.str⟩

theorem strKeys_injective : Function.Injective strKeys :=
  List.map_injective_iff.2 fun p q h => by
    simpa only [Prod.mk.injEq, Value.str.injEq, ← Prod.ext_iff] using h

/-- `BundleData.dictify` forgets nothing: with `EID` as the identity, `BundleData(**d)` reads every
bundle back from its dict. -/
theorem BundleData.dictify_injective : Function.Injective BundleData.dictify := by
  intro b b' h
  have hb (b : BundleData) :
      BundleData.ofDict (fun s => .ok ⟨s⟩) (pyDict (strKeys b.fields)) = .ok b :=
    BundleData.ofDict_dictify _ b ⟨rfl, rfl, fun _ _ => rfl⟩
  have hf : strKeys b.fields = strKeys b'.fields := Value.map.inj h
  have : (Except.ok b : Except RecError BundleData) = .ok b' := by rw [← hb b, ← hb b', hf]
  exact Except.ok.inj this

/-- The classes' dicts have distinct keys, and each field's value gives the field back. -/
theorem Message.dictify_injective : Function.Injective Message.dictify := by
  intro m m' h
  have hf : m.fields = m'.fields := strKeys_injective (Value.map.inj h)
  cases m <;> cases m' <;>
    simp only [Message.fields, List.cons.injEq, Prod.mk.injEq, Value.int.injEq, Value.str.injEq,
      Value.bool.injEq, Value.arr.injEq, reduceCtorEq, String.reduceEq, false_and, and_false,
      and_true, true_and, MessageType.toInt_injective.eq_iff, EID.str_inj, Message.reply.injEq,
      Message.register.injEq, Message.fetch.injEq, Message.fetchReply.injEq,
      Message.bundleCreate.injEq, (List.map_injective_iff.2 BundleData.dictify_injective).eq_iff,
      BundleData.dictify_injective.eq_iff] at hf ⊢ <;> exact hf

/-- **`serialize` is injective.** Two messages it writes as the same bytes are the same message,
field by field. This holds for every message, also one whose `type` is not its own class's, which
`deserialize` does not read back. -/
theorem serialize_injective {m m' : Message} {bs : Bytes} (h : serialize m = .ok bs)
    (h' : serialize m' = .ok bs) : m = m' := by
  have hu := unpackb_packb (Message.keysOk_dictify m) h
  rw [unpackb_packb (Message.keysOk_dictify m') h'] at hu
  exact Message.dictify_injective (Except.ok.inj hu).symm

/-- The bytes of a `Reply` whose `type` is `FETCH` are the bytes of no other message. -/
theorem serialize_injective_foreign :
    let m : Message := .reply .fetch true ""
    serialize m = .ok [0x83, 0xa4, 0x74, 0x79, 0x70, 0x65, 0x03, 0xa7, 0x73, 0x75, 0x63, 0x63,
      0x65, 0x73, 0x73, 0xc3, 0xa5, 0x65, 0x72, 0x72, 0x6f, 0x72, 0xa0] ∧
      ∀ m', serialize m' = serialize m → m' = m := by
  intro m
  have h : serialize m = .ok [0x83, 0xa4, 0x74, 0x79, 0x70, 0x65, 0x03, 0xa7, 0x73, 0x75, 0x63,
      0x63, 0x65, 0x73, 0x73, 0xc3, 0xa5, 0x65, 0x72, 0x72, 0x6f, 0x72, 0xa0] := rfl
  exact ⟨h, fun m' h' => serialize_injective (h'.trans h) h⟩

/-! ## When `serialize` raises -/

/-- What `packb` takes of a set `named_data`. -/
def NamedData.fits : NamedData → Bool
  | .name n => strFits n
  | .names ns => ns.length ≤ itemLimit && ns.all strFits

/-- What `packb` takes of a bundle: its integers in range, and no string, byte string or list
longer than `itemLimit`. -/
def BundleData.fits (b : BundleData) : Bool :=
  intFits b.type && strFits b.source.str && strFits b.destination.str &&
    b.payload.length ≤ itemLimit && strFits b.error && intFits b.nodeType &&
    b.submitter.all (fun e => strFits e.str) && b.namedData.all NamedData.fits

/-- What `packb` takes of a message: the same of each of its fields, its bundles included. A
`type` is always in range. -/
def Message.fits : Message → Bool
  | .reply _ _ e => strFits e
  | .register _ e => strFits e.str
  | .fetch _ e n => strFits e.str && intFits n
  | .fetchReply _ _ e bs => strFits e && bs.length ≤ itemLimit && bs.all BundleData.fits
  | .bundleCreate _ b => b.fits

section Fits

variable {n : Int}

end Fits

/-- A `node_type` of `2 ** 64` makes `serialize` raise. -/
example : (serialize (.fetch .fetch ⟨"dtn://a/"⟩ 0x10000000000000000)).toBool = false := by decide

end RecDtn
