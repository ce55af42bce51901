import Mathlib.Data.Finset.Basic

/-!
# The data model of `rec.dtn`

Byte strings, endpoint identifiers, the three integer enums of the wire and the bundle record
that every node role exchanges with the DTN agent (`src/rec/dtn/messages.py`), with the
exceptions the modelled code raises.

Enum-valued fields of a bundle hold the integer the wire carries: after `deserialize` the fields
`type` and `node_type` of a `BundleData` are plain `int`s, and the handlers compare them by value
(`bundle.type == BundleType.JOB_SUBMIT`, `BROKER_ANNOUNCE <= bundle.type <= BROKER_ACK`), so a
bundle whose type is no member of the enum is a possible input and is modelled as one.
-/

namespace RecDtn

/-- Python `bytes`. -/
abbrev Bytes := List UInt8

/-- `str.startswith`: `pre` is a prefix of `s`, code point by code point. -/
def startswith (s pre : String) : Bool := pre.data.isPrefixOf s.data

/-- An endpoint identifier. `EID` subclasses `str` and compares and hashes as its string. Its
parser (`rec/dtn/eid.py`) is not part of the sources; where it matters it is a parameter. -/
structure EID where
  str : String
deriving DecidableEq, Repr

/-- `BROADCAST_ADDRESS = EID.dtn("rec.all", "~")`. Reference: `messages.py:109`. -/
def broadcastAddress : EID := ⟨"dtn://rec.all/~"⟩

/-- `DATASTORE_MULTICAST_ADDRESS = EID.dtn("rec.store", "~")`. Reference: `messages.py:111`. -/
def datastoreMulticastAddress : EID := ⟨"dtn://rec.store/~"⟩

/-! ## Enums -/

/-- `NodeType`, an `IntEnum`. Reference: `messages.py:20`. -/
inductive NodeType
  | broker | executor | datastore | client
deriving DecidableEq, Repr

/-- The integer of a `NodeType` member. -/
def NodeType.toInt : NodeType → Int
  | .broker => 1 | .executor => 2 | .datastore => 3 | .client => 4

/-- `BundleType`, an `IntEnum`. Reference: `messages.py:116`. -/
inductive BundleType
  | brokerAnnounce | brokerRequest | brokerAck
  | jobSubmit | jobResult | jobQuery | jobList
  | ndataPut | ndataGet | ndataDel
deriving DecidableEq, Repr

/-- The integer of a `BundleType` member. -/
def BundleType.toInt : BundleType → Int
  | .brokerAnnounce => 1 | .brokerRequest => 2 | .brokerAck => 3
  | .jobSubmit => 11 | .jobResult => 12 | .jobQuery => 13 | .jobList => 14
  | .ndataPut => 21 | .ndataGet => 22 | .ndataDel => 23

/-- `MessageType`, an `IntEnum`. Reference: `messages.py:27`. -/
inductive MessageType
  | reply | register | fetch | fetchReply | create
deriving DecidableEq, Repr

/-- The integer of a `MessageType` member. -/
def MessageType.toInt : MessageType → Int
  | .reply => 1 | .register => 2 | .fetch => 3 | .fetchReply => 4 | .create => 5

/-! ## Bundles -/

/-- A set `named_data` field: `str | list[str]`. -/
inductive NamedData
  | name (n : String)
  | names (ns : List String)
deriving DecidableEq, Repr

/-- The handlers' `if isinstance(bundle.named_data, str): bundle.named_data = [bundle.named_data]`. -/
def NamedData.toList : NamedData → List String
  | .name n => [n]
  | .names ns => ns

/-- `BundleData`, with the defaults of its dataclass fields. Reference: `messages.py:134`. -/
structure BundleData where
  type : Int
  source : EID
  destination : EID
  payload : Bytes := []
  success : Bool := true
  error : String := ""
  nodeType : Int := 0
  submitter : Option EID := none
  namedData : Option NamedData := none
deriving DecidableEq, Repr

/-- Whether a bundle's type is the given member: `bundle.type == BundleType.X`. -/
def BundleData.isType (b : BundleData) (t : BundleType) : Bool := b.type == t.toInt

/-- `BundleType.BROKER_ANNOUNCE <= bundle.type <= BundleType.BROKER_ACK`, the dispatch test
of every intake for discovery bundles. -/
def BundleData.isDiscovery (b : BundleData) : Bool :=
  BundleType.brokerAnnounce.toInt ≤ b.type && b.type ≤ BundleType.brokerAck.toInt

theorem BundleType.toInt_injective : Function.Injective BundleType.toInt := by
  intro t t' h
  cases t <;> cases t' <;> first | rfl | exact absurd h (by decide)

/-- A bundle of one type is of no other. -/
theorem BundleData.isType_eq_false {b : BundleData} {t t' : BundleType} (h : b.isType t)
    (hne : t ≠ t') : b.isType t' = false := by
  simp only [BundleData.isType, beq_iff_eq, beq_eq_false_iff_ne] at h ⊢
  exact h ▸ fun e => hne (BundleType.toInt_injective e)

/-- Whether a bundle of a member type is a discovery bundle, as a closed term. -/
theorem BundleData.isDiscovery_of_isType {b : BundleData} {t : BundleType} (h : b.isType t) :
    b.isDiscovery = (BundleType.brokerAnnounce.toInt ≤ t.toInt && t.toInt ≤ BundleType.brokerAck.toInt) := by
  simp only [BundleData.isType, beq_iff_eq] at h
  simp [BundleData.isDiscovery, h]

/-! ## Exceptions -/

/-- The exceptions the modelled code raises, with the data each carries. -/
inductive RecError
  /-- `NameTakenError(name)`. Reference: `storage.py:15`. -/
  | nameTaken (name : String)
  /-- `NoSuchNameError(name)`. Reference: `storage.py:26`. -/
  | noSuchName (name : String)
  /-- `KeyError(key)` of a lookup in a dict keyed by an enum. -/
  | keyError (key : Int)
  /-- `AttributeError`: the object has no attribute of this name. -/
  | attributeError (attr : String)
  /-- `ValueError(message)`, also its subclasses (`UnicodeDecodeError`, msgpack's `ExtraData`,
  `FormatError`, `StackError`). -/
  | valueError (msg : String)
  /-- `OverflowError(message)`. -/
  | overflowError (msg : String)
  /-- `TypeError(message)`, such as a constructor called with a missing or an unknown keyword. -/
  | typeError (msg : String)
  /-- `InvalidMessageError(data)`: the decoded map's `type` names no message class. -/
  | invalidMessage
  /-- A failed `assert`. -/
  | assertionError
  /-- An `OSError` of the file system, with its kind (`FileExistsError`, `IsADirectoryError`, ...). -/
  | osError (kind : String)
  /-- `KeyError(key)` of a lookup in a dict keyed by strings. -/
  | keyErrorName (key : String)
deriving DecidableEq, Repr

/-! ## Reading back an `Except` -/

theorem Except.map_eq_ok {α β ε : Type} {f : α → β} {x : Except ε α} {b : β} :
    x.map f = .ok b ↔ ∃ a, x = .ok a ∧ f a = b := by
  cases x <;> simp [Except.map]

theorem Except.bind_eq_ok {α β ε : Type} {f : α → Except ε β} {x : Except ε α} {b : β} :
    x.bind f = .ok b ↔ ∃ a, x = .ok a ∧ f a = .ok b := by
  cases x <;> simp [Except.bind]

theorem Except.toBool_map {α β ε : Type} (f : α → β) (x : Except ε α) :
    (x.map f).toBool = x.toBool := by
  cases x <;> rfl

end RecDtn
