import RecDtn.Messages

/-!
# Messages as Python objects: what `serialize` changes

`Messages` reads `dictify` as a pure function of a message's fields. The code's `dictify` works on
the instance itself. `BundleData.dictify` (`messages.py:158-173`) takes `own_dict = self.__dict__`
and deletes from it the entries of `payload`, `node_type`, `submitter` and `named_data` when they
hold their defaults. The instance keeps its attributes: a dataclass field with a default is also
a class attribute, which answers once the instance's own entry is gone. But the entries stay
deleted, and the next `dictify` deletes them again: `del own_dict[key]` on a missing key raises
`KeyError`.

A bundle instance is its `__dict__` (`BundleObj`, `none` for a deleted entry), and what its
attributes read is `BundleObj.attrs`. `BundleObj.dictify` is the code's four deletions, one
`delAttr` each, on that state; a message instance holds the `__dict__` of each of its bundles
(`MessageObj`), and `MessageObj.serialize` is `packb(message.dictify())` on it.

* `Message.serialize_repeat` — no call changes what any attribute reads; the first `serialize` of
  a message returns what `Messages.serialize` computes; the second returns the same only when no
  bundle holds an optional field at its default, and otherwise raises `KeyError` naming the first
  such field of the first such bundle. The same holds for a bundle's own `dictify`;
* `Message.obj_serialize_toBool` — on a fresh instance, `serialize` raises exactly when a field
  exceeds msgpack's limits; on the same instance a second time, also when a bundle left an optional
  field at its default.
-/

namespace RecDtn

open Msgpack

/-- The `__dict__` of a `BundleData` instance. `__init__` gives every field an entry; the entry of
`payload`, `node_type`, `submitter` or `named_data` is `none` once `dictify` has deleted it. -/
structure BundleObj where
  type : Int
  source : EID
  destination : EID
  payload : Option Bytes
  success : Bool
  error : String
  nodeType : Option Int
  submitter : Option (Option EID)
  namedData : Option (Option NamedData)
deriving DecidableEq, Repr

/-- A fresh instance, as `BundleData(...)` leaves it: every field has its entry. -/
def BundleData.obj (b : BundleData) : BundleObj :=
  ⟨b.type, b.source, b.destination, some b.payload, b.success, b.error, some b.nodeType,
    some b.submitter, some b.namedData⟩

/-- What the instance's attributes read: each field's entry, or for a deleted one the class
attribute, the field's default. -/
def BundleObj.attrs (o : BundleObj) : BundleData :=
  { type := o.type, source := o.source, destination := o.destination, payload := o.payload.getD [],
    success := o.success, error := o.error, nodeType := o.nodeType.getD 0,
    submitter := o.submitter.getD none, namedData := o.namedData.getD none }

/-- The `__dict__` as msgpack packs it: the entries there are, in the order `__init__` made them. -/
def BundleObj.fields (o : BundleObj) : List (String × Value) :=
  [("type", .int o.type), ("source", .str o.source.str), ("destination", .str o.destination.str)] ++
  (o.payload.map fun p => ("payload", .bin p)).toList ++
  [("success", .bool o.success), ("error", .str o.error)] ++
  (o.nodeType.map fun n => ("node_type", .int n)).toList ++
  (o.submitter.map fun s => ("submitter", (s.map fun e => .str e.str).getD .nil)).toList ++
  (o.namedData.map fun d => ("named_data", (d.map NamedData.toValue).getD .nil)).toList

/-- Code on a bundle instance: it raises, or returns, with the instance as it left it. -/
abbrev BundleM := ExceptT RecError (StateM BundleObj)

namespace BundleM

variable {α β : Type}

theorem run_bind (m : BundleM α) (f : α → BundleM β) (o : BundleObj) :
    (m >>= f).run.run o =
      match m.run.run o with
      | (.ok a, o') => (f a).run.run o'
      | (.error e, o') => (.error e, o') := by
  rw [ExceptT.run_bind, StateT.run_bind]
  rcases m.run.run o with ⟨_ | _, _⟩ <;> rfl

@[simp] theorem run_get (o : BundleObj) : (get : BundleM BundleObj).run.run o = (.ok o, o) := rfl

@[simp] theorem run_modify (f : BundleObj → BundleObj) (o : BundleObj) :
    (modify f : BundleM PUnit).run.run o = (.ok ⟨⟩, f o) := rfl

@[simp] theorem run_lift (e : Except RecError α) (o : BundleObj) :
    (liftM e : BundleM α).run.run o = (e, o) := rfl

@[simp] theorem run_map (f : α → β) (m : BundleM α) (o : BundleObj) :
    (f <$> m).run.run o = ((m.run.run o).1.map f, (m.run.run o).2) := by
  rw [ExceptT.run_map, StateT.run_map]
  rcases m.run.run o with ⟨_ | _, _⟩ <;> rfl

end BundleM

/-! ## `BundleData.dictify` -/

/-- `if self.<field> == <default>: del own_dict[key]` on the field's entry `e`: the attribute is
the entry, or the default once the entry is gone, and deleting a missing entry is a `KeyError`. -/
def delDefault {α : Type} [DecidableEq α] (key : String) (default : α) (e : Option α) :
    Except RecError (Option α) :=
  if e.getD default = default then
    match e with
    | some _ => .ok none
    | none => .error (.keyErrorName key)
  else .ok e

@[simp] theorem delDefault_some {α : Type} [DecidableEq α] (key : String) (d x : α) :
    delDefault key d (some x) = .ok (if x = d then none else some x) := by
  by_cases h : x = d <;> simp [delDefault, h]

@[simp] theorem delDefault_none {α : Type} [DecidableEq α] (key : String) (d : α) :
    delDefault key d none = .error (.keyErrorName key) := by
  simp [delDefault]

/-- A deleted entry leaves the attribute reading the default it held. -/
@[simp] theorem getD_ite_none {α : Type} [DecidableEq α] (x d : α) :
    (if x = d then none else some x).getD d = x := by
  split_ifs with h <;> simp [h]

theorem getD_delDefault {α : Type} [DecidableEq α] {key : String} {d : α} {e e' : Option α}
    (h : delDefault key d e = .ok e') : e'.getD d = e.getD d := by
  cases e with
  | none => simp at h
  | some x =>
    simp only [delDefault_some, Except.ok.injEq] at h
    simp [← h]

/-- One of the four deletions of `BundleData.dictify`, on the entry `entry` reads and `setEntry`
writes. -/
def delAttr {α : Type} [DecidableEq α] (key : String) (default : α) (entry : BundleObj → Option α)
    (setEntry : Option α → BundleObj → BundleObj) : BundleM Unit := do
  let e ← delDefault key default (entry (← get))
  modify (setEntry e)

/-- `BundleData.dictify()`: the four deletions in turn on the instance's own `__dict__`, which it
then returns. A deletion that raises leaves the ones before it made.
Reference: `messages.py:158-173`. -/
def BundleObj.dictify : BundleM Value := do
  delAttr "payload" [] (·.payload) fun e o => { o with payload := e }
  delAttr "node_type" 0 (·.nodeType) fun e o => { o with nodeType := e }
  delAttr "submitter" none (·.submitter) fun e o => { o with submitter := e }
  delAttr "named_data" none (·.namedData) fun e o => { o with namedData := e }
  return strDict (← get).fields

@[simp] theorem delAttr_run {α : Type} [DecidableEq α] (key : String) (default : α)
    (entry : BundleObj → Option α) (setEntry : Option α → BundleObj → BundleObj) (o : BundleObj) :
    (delAttr key default entry setEntry).run.run o =
      match delDefault key default (entry o) with
      | .ok e => (.ok ⟨⟩, setEntry e o)
      | .error err => (.error err, o) := by
  simp only [delAttr, BundleM.run_bind, BundleM.run_get, BundleM.run_lift]
  cases delDefault key default (entry o) <;> rfl

/-! ## No attribute changes -/

/-- Code that leaves every attribute of the instance reading what it read, whether it returns or
raises. -/
def KeepsAttrs {α : Type} (m : BundleM α) : Prop := ∀ o, (m.run.run o).2.attrs = o.attrs

namespace KeepsAttrs

variable {α β : Type}

theorem bind {m : BundleM α} {f : α → BundleM β} (hm : KeepsAttrs m) (hf : ∀ a, KeepsAttrs (f a)) :
    KeepsAttrs (m >>= f) := by
  intro o
  rw [BundleM.run_bind]
  rcases hr : m.run.run o with ⟨_ | a, o'⟩
  · simpa [hr] using hm o
  · simpa [hr, hf a o'] using hm o

theorem delAttr [DecidableEq α] {key : String} {default : α} {entry : BundleObj → Option α}
    {setEntry : Option α → BundleObj → BundleObj}
    (h : ∀ o e, delDefault key default (entry o) = .ok e → (setEntry e o).attrs = o.attrs) :
    KeepsAttrs (RecDtn.delAttr key default entry setEntry) := by
  intro o
  simp only [delAttr_run]
  rcases hd : delDefault key default (entry o) with _ | e
  · rfl
  · exact h o e hd

end KeepsAttrs

/-- **`dictify` changes no attribute**, from any instance, whether it returns or raises. -/
theorem BundleObj.attrs_dictify : KeepsAttrs BundleObj.dictify := by
  refine .bind (.delAttr fun o e h => ?_) fun _ => .bind (.delAttr fun o e h => ?_) fun _ =>
    .bind (.delAttr fun o e h => ?_) fun _ => .bind (.delAttr fun o e h => ?_) fun _ =>
      fun o => by simp
  all_goals simp [BundleObj.attrs, getD_delDefault h]

/-! ## The first and the second call -/

/-- The instance after its first `dictify`: the entry of each optional field at its default gone. -/
def BundleData.dictified (b : BundleData) : BundleObj :=
  ⟨b.type, b.source, b.destination, if b.payload = [] then none else some b.payload, b.success,
    b.error, if b.nodeType = 0 then none else some b.nodeType,
    if b.submitter = none then none else some b.submitter,
    if b.namedData = none then none else some b.namedData⟩

/-- The key of the first of `payload`, `node_type`, `submitter` and `named_data` that holds its
default: the entry the first `dictify` deletes and the second finds gone. -/
def BundleData.firstDefault? (b : BundleData) : Option String :=
  if b.payload = [] then some "payload"
  else if b.nodeType = 0 then some "node_type"
  else if b.submitter = none then some "submitter"
  else if b.namedData = none then some "named_data"
  else none

@[simp] theorem BundleObj.attrs_obj (b : BundleData) : b.obj.attrs = b := rfl

@[simp] theorem BundleObj.attrs_dictified (b : BundleData) : b.dictified.attrs = b := by
  simp only [BundleData.dictified, BundleObj.attrs, getD_ite_none]

theorem toList_map_ite {α β : Type} [DecidableEq α] (x d : α) (f : α → β) :
    ((if x = d then none else some x).map f).toList = if x = d then [] else [f x] := by
  split <;> rfl

theorem toList_map_pair {α : Type} [DecidableEq α] (o : Option α) (k : String) (g : α → Value) :
    (o.map fun a => (k, g a)).toList = if o = none then [] else [(k, (o.map g).getD .nil)] := by
  cases o <;> rfl

/-- The first call returns the dict the pure reading computes. -/
theorem BundleObj.fields_dictified (b : BundleData) : b.dictified.fields = b.fields := by
  simp only [BundleData.dictified, BundleObj.fields, BundleData.fields, toList_map_ite,
    toList_map_pair]

theorem BundleObj.dictify_obj (b : BundleData) :
    BundleObj.dictify.run.run b.obj = (.ok b.dictify, b.dictified) := by
  simp [BundleObj.dictify, BundleM.run_bind, BundleData.obj, Except.map]
  rw [BundleData.dictify, ← BundleObj.fields_dictified]
  rfl

theorem BundleObj.dictify_dictified (b : BundleData) :
    BundleObj.dictify.run.run b.dictified =
      ((match b.firstDefault? with
        | some key => .error (.keyErrorName key)
        | none => .ok b.dictify), b.dictified) := by
  simp only [BundleData.firstDefault?]
  by_cases h1 : b.payload = []
  · simp [BundleObj.dictify, BundleM.run_bind, BundleData.dictified, h1]
  by_cases h2 : b.nodeType = 0
  · simp [BundleObj.dictify, BundleM.run_bind, BundleData.dictified, h1, h2]
  by_cases h3 : b.submitter = none
  · simp [BundleObj.dictify, BundleM.run_bind, BundleData.dictified, h1, h2, h3]
  by_cases h4 : b.namedData = none
  · simp [BundleObj.dictify, BundleM.run_bind, BundleData.dictified, h1, h2, h3, h4]
  simp [BundleObj.dictify, BundleM.run_bind, BundleData.dictified, h1, h2, h3, h4, Except.map]
  rw [BundleData.dictify, ← BundleObj.fields_dictified]
  simp [BundleData.dictified, h1, h2, h3, h4]

/-! ## Message instances -/

/-- A message instance: its own fields, which no `dictify` changes, and the `__dict__` of each
bundle it holds. -/
inductive MessageObj
  | reply (type : MessageType) (success : Bool) (error : String)
  | register (type : MessageType) (endpointId : EID)
  | fetch (type : MessageType) (endpointId : EID) (nodeType : Int)
  | fetchReply (type : MessageType) (success : Bool) (error : String) (bundles : List BundleObj)
  | bundleCreate (type : MessageType) (bundle : BundleObj)
deriving DecidableEq, Repr

/-- A fresh message instance, its bundles fresh. -/
def Message.obj : Message → MessageObj
  | .reply t s e => .reply t s e
  | .register t e => .register t e
  | .fetch t e n => .fetch t e n
  | .fetchReply t s e bs => .fetchReply t s e (bs.map BundleData.obj)
  | .bundleCreate t b => .bundleCreate t b.obj

/-- What the instance's attributes read, its bundles' included. -/
def MessageObj.attrs : MessageObj → Message
  | .reply t s e => .reply t s e
  | .register t e => .register t e
  | .fetch t e n => .fetch t e n
  | .fetchReply t s e os => .fetchReply t s e (os.map BundleObj.attrs)
  | .bundleCreate t o => .bundleCreate t o.attrs

/-- `[message.dictify() for message in self.bundles]`, each call on its bundle's `__dict__`: the
first `KeyError` ends the comprehension, the bundles after it untouched. -/
def dictifyBundles : List BundleObj → Except RecError (List Value) × List BundleObj
  | [] => (.ok [], [])
  | o :: os =>
    match BundleObj.dictify.run.run o with
    | (.error e, o) => (.error e, o :: os)
    | (.ok v, o) =>
      let (r, os) := dictifyBundles os
      (r.map (v :: ·), o :: os)

/-- `message.dictify()` on an instance. A `Reply`, `Register` or `Fetch` merges copies of its own
`__dict__`, which stays as it is; a `FetchReply` dictifies its bundles in turn, a `BundleCreate` its
bundle. Reference: `messages.py:39-106`. -/
def MessageObj.dictify : MessageObj → Except RecError Value × MessageObj
  | .fetchReply t s e os =>
    let (r, os) := dictifyBundles os
    (r.map fun vs => strDict [("type", .int t.toInt), ("success", .bool s), ("error", .str e),
      ("bundles", .arr vs)], .fetchReply t s e os)
  | .bundleCreate t o =>
    let (r, o) := BundleObj.dictify.run.run o
    (r.map fun v => strDict [("type", .int t.toInt), ("bundle", v)], .bundleCreate t o)
  | o => (.ok o.attrs.dictify, o)

/-- `serialize(message)` on an instance: `packb(message.dictify())`, and the instance as the
`dictify` calls left it. Reference: `messages.py:176-178`. -/
def MessageObj.serialize (o : MessageObj) : Except RecError Bytes × MessageObj :=
  let (r, o) := o.dictify
  (r >>= packb, o)

/-- The message instance after its first `serialize`. -/
def Message.dictified : Message → MessageObj
  | .fetchReply t s e bs => .fetchReply t s e (bs.map BundleData.dictified)
  | .bundleCreate t b => .bundleCreate t b.dictified
  | m => m.obj

@[simp] theorem MessageObj.attrs_obj (m : Message) : m.obj.attrs = m := by
  cases m <;> simp [Message.obj, MessageObj.attrs, Function.comp_def]

theorem attrs_dictifyBundles (os : List BundleObj) :
    (dictifyBundles os).2.map BundleObj.attrs = os.map BundleObj.attrs := by
  induction os with
  | nil => rfl
  | cons o os ih =>
    have h := BundleObj.attrs_dictify o
    rcases hr : BundleObj.dictify.run.run o with ⟨_ | v, o'⟩ <;> simp_all [dictifyBundles]

/-- **`serialize` changes no attribute**, from any instance, whether it returns or raises. -/
theorem MessageObj.attrs_serialize (o : MessageObj) : o.serialize.2.attrs = o.attrs := by
  cases o with
  | fetchReply t s e os =>
    simp [MessageObj.serialize, MessageObj.dictify, MessageObj.attrs, attrs_dictifyBundles]
  | bundleCreate t o =>
    have h := BundleObj.attrs_dictify o
    rcases hr : BundleObj.dictify.run.run o with ⟨r, o'⟩
    simp_all [MessageObj.serialize, MessageObj.dictify, MessageObj.attrs]
  | _ => rfl

theorem dictifyBundles_obj (bs : List BundleData) :
    dictifyBundles (bs.map BundleData.obj) =
      (.ok (bs.map BundleData.dictify), bs.map BundleData.dictified) := by
  induction bs with
  | nil => rfl
  | cons b bs ih => simp [dictifyBundles, BundleObj.dictify_obj, ih, Except.map]

theorem dictifyBundles_dictified (bs : List BundleData) :
    dictifyBundles (bs.map BundleData.dictified) =
      ((match bs.findSome? BundleData.firstDefault? with
        | some key => .error (.keyErrorName key)
        | none => .ok (bs.map BundleData.dictify)), bs.map BundleData.dictified) := by
  induction bs with
  | nil => rfl
  | cons b bs ih =>
    rcases h : b.firstDefault? with _ | key
    · simp [dictifyBundles, BundleObj.dictify_dictified, h, ih, List.findSome?_cons]
      cases bs.findSome? BundleData.firstDefault? <;> rfl
    · simp [dictifyBundles, BundleObj.dictify_dictified, h, List.findSome?_cons]

/-- The first call serializes what the pure reading does. -/
theorem Message.serialize_obj (m : Message) : m.obj.serialize = (serialize m, m.dictified) := by
  cases m with
  | fetchReply t s e bs =>
    simp [Message.obj, MessageObj.serialize, MessageObj.dictify, dictifyBundles_obj, Except.map,
      serialize, Message.dictify, Message.fields, Message.dictified, bind, Except.bind]
  | bundleCreate t b =>
    simp [Message.obj, MessageObj.serialize, MessageObj.dictify, BundleObj.dictify_obj, Except.map,
      serialize, Message.dictify, Message.fields, Message.dictified, bind, Except.bind]
  | _ => rfl

/-- The second call raises at the first optional field a bundle left at its default. -/
theorem Message.serialize_dictified (m : Message) :
    m.dictified.serialize =
      ((match m.bundles.findSome? BundleData.firstDefault? with
        | some key => .error (.keyErrorName key)
        | none => serialize m), m.dictified) := by
  cases m with
  | fetchReply t s e bs =>
    simp only [Message.dictified, MessageObj.serialize, MessageObj.dictify, dictifyBundles_dictified,
      Message.bundles]
    cases bs.findSome? BundleData.firstDefault? <;> rfl
  | bundleCreate t b =>
    simp only [Message.dictified, MessageObj.serialize, MessageObj.dictify,
      BundleObj.dictify_dictified, Message.bundles, List.findSome?_cons, List.findSome?_nil]
    cases b.firstDefault? <;> rfl
  | _ => rfl

/-- **Serialising twice.** No `serialize` changes what an attribute of the message or of its
bundles reads, from any instance. The first `serialize` of a message returns what the pure
`serialize` computes. The second returns the same, and leaves the instance as the first did, only
when no bundle holds `payload`, `node_type`, `submitter` or `named_data` at its default; otherwise
it raises `KeyError` for the first such field of the first such bundle, deleted by the first call.
A bundle's own `dictify` behaves the same way. -/
theorem Message.serialize_repeat :
    (∀ o : MessageObj, o.serialize.2.attrs = o.attrs) ∧
    (∀ b : BundleData, (BundleObj.dictify.run.run b.obj).1 = .ok b.dictify ∧
      BundleObj.dictify.run.run (BundleObj.dictify.run.run b.obj).2 =
        ((match b.firstDefault? with
          | some key => .error (.keyErrorName key)
          | none => .ok b.dictify), (BundleObj.dictify.run.run b.obj).2)) ∧
    ∀ m : Message, m.obj.serialize.1 = serialize m ∧
      m.obj.serialize.2.serialize =
        ((match m.bundles.findSome? BundleData.firstDefault? with
          | some key => .error (.keyErrorName key)
          | none => serialize m), m.obj.serialize.2) :=
  ⟨MessageObj.attrs_serialize,
    fun b => by rw [BundleObj.dictify_obj]; exact ⟨rfl, BundleObj.dictify_dictified b⟩,
    fun m => by rw [Message.serialize_obj]; exact ⟨rfl, Message.serialize_dictified m⟩⟩

/-- A job submission whose bundle carries a payload and leaves `node_type`, `submitter` and
`named_data` at their defaults: the first `serialize` returns bytes and changes no attribute, the
second raises `KeyError("node_type")`. -/
theorem Message.serialize_repeat_create :
    let m := Message.bundleCreate .create
      { type := BundleType.jobSubmit.toInt, source := ⟨"dtn://client/"⟩,
        destination := ⟨"dtn://rec.broker/~"⟩, payload := [1] }
    (∃ bs, m.obj.serialize.1 = .ok bs) ∧ m.obj.serialize.2.attrs = m ∧
      m.obj.serialize.2.serialize.1 = .error (.keyErrorName "node_type") := by
  intro m
  obtain ⟨hattrs, -, hm⟩ := Message.serialize_repeat
  refine ⟨⟨_, (hm m).1.trans rfl⟩, (hattrs _).trans (MessageObj.attrs_obj m), ?_⟩
  rw [(hm m).2]
  rfl

end RecDtn
