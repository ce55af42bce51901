import RecDtn.Messages
import RecDtn.Msgpack.Framing

/-!
# The agent socket

`Node._send_message` (`node.py:40-70`) opens a stream connection to the DTN agent, sends the
message framed by its 8-byte big-endian length, and reads the reply back with one
`sock_recv(s, 8)` for the length and one `sock_recv(s, reply_length)` for the body.

A stream socket hands over what has arrived, at most as many bytes as asked for. `sockRecv`
models one such read: the next chunk of the reply stream, truncated to the request, its rest left
for the next read. A stream's chunks are the pieces in which its bytes arrive.

* `sendMessage_whole` — when the length arrives whole, then the body whole (together with the
  length or in the next chunk), `_send_message` returns the reply the agent sent;
* `sendMessage_split_header` — when the length arrives in two pieces, the first of four bytes,
  `_send_message` raises for every reply: it reads a length of zero and hands `b""` to
  `deserialize`;
* `sendMessage_split_body` — when the length arrives whole but the body does not, `_send_message`
  raises for every reply: its one `sock_recv` returns the part that has arrived, and no proper
  prefix of a serialized message is one (`unpackb_prefix_error`);
* `getNewBundles_whole` — `_get_new_bundles`, the fetch every intake loop starts with, returns
  the bundles the agent queued when its `FetchReply` arrives whole, and raises `AssertionError`
  on a plain `Reply`.

The other callers of `_send_message` (`_send_messages`, `_send_bundle(s)`, `_register`) open one
connection per message.
-/

namespace RecDtn

open Msgpack

/-- `loop.sock_recv(s, n)` on a stream whose bytes arrive in `chunks`: at most `n` bytes of the
chunk at the head of the stream, `b""` once the agent has closed it. -/
def sockRecv (n : Nat) : List Bytes → Bytes × List Bytes
  | [] => ([], [])
  | c :: cs => if c.length ≤ n then (c, cs) else (c.take n, c.drop n :: cs)

/-- `message_length.to_bytes(length=8, byteorder="big", signed=False)`. -/
def lengthBytes (n : Nat) : Except RecError Bytes :=
  if n < 2 ^ 64 then .ok (toBE 8 n) else .error (.overflowError "int too big to convert")

/-- What the agent writes back for a reply: its length in eight big-endian bytes, then the
reply. -/
def frame (body : Bytes) : Bytes := toBE 8 body.length ++ body

/-- `Node._send_message(message)` against an agent whose reply stream arrives in `chunks`. The
two `sock_sendall` calls, which write the framed message, change nothing the reply depends on.
Reference: `node.py:40-70`. -/
def sendMessage (eid : String → Except RecError EID) (message : Message) (chunks : List Bytes) :
    Except RecError Message := do
  let messageBytes ← serialize message
  let _ ← lengthBytes messageBytes.length
  let (data, chunks) := sockRecv 8 chunks
  let replyLength := ofBE data
  let (data, _) := sockRecv replyLength chunks
  let reply ← deserialize eid data
  if reply.isReply then pure reply else throw .assertionError

/-- `Node._send_messages(messages)`: one connection per message, in order, and the first exception
ends the loop. `conns` are the agent's reply streams, one per connection; a connection past the
last reads `b""`. Reference: `node.py:32-38`. -/
def sendMessages (eid : String → Except RecError EID) :
    List Message → List (List Bytes) → Except RecError (List Message)
  | [], _ => .ok []
  | m :: ms, conns => do
    let r ← sendMessage eid m (conns.headD [])
    let rs ← sendMessages eid ms conns.tail
    pure (r :: rs)

/-- `Node._send_bundle(bundle)`: a `BundleCreate` of the bundle. Reference: `node.py:87-89`. -/
def sendBundle (eid : String → Except RecError EID) (bundle : BundleData) (chunks : List Bytes) :
    Except RecError Message :=
  sendMessage eid (.bundleCreate .create bundle) chunks

/-- `Node._send_bundles(bundles)`: `_send_bundle` on each bundle in turn, which is
`_send_messages` on their `BundleCreate`s. Reference: `node.py:91-97`. -/
def sendBundles (eid : String → Except RecError EID) (bundles : List BundleData)
    (conns : List (List Bytes)) : Except RecError (List Message) :=
  sendMessages eid (bundles.map (.bundleCreate .create)) conns

/-- `Node._register()`: a `Register` of the node's endpoint. Its reply's `success` is only logged,
and a missing socket (`FileNotFoundError`, then `sys.exit(1)`) is outside the model.
Reference: `node.py:72-85`. -/
def register (eid : String → Except RecError EID) (nodeId : EID) (chunks : List Bytes) :
    Except RecError Unit := do
  let _ ← sendMessage eid (.register .register nodeId) chunks

/-- `Node._get_new_bundles()`: a `Fetch` for the node's endpoint and type, whose answer must be a
`FetchReply`; its bundles if it succeeded, none otherwise. Reference: `node.py:99-116`. -/
def getNewBundles (eid : String → Except RecError EID) (nodeId : EID) (nodeType : NodeType)
    (chunks : List Bytes) : Except RecError (List BundleData) := do
  let reply ← sendMessage eid (.fetch .fetch nodeId nodeType.toInt) chunks
  match reply with
  | .fetchReply _ success _ bundles => pure (if success then bundles else [])
  | _ => throw .assertionError

section

variable (eid : String → Except RecError EID) {message : Message} {mb : Bytes}

/-- What `_send_message` returns for the bytes it read back, when they are a message. -/
theorem sendMessage_eq_of_body (chunks : List Bytes) {r : Message} {body : Bytes}
    (hm : serialize message = .ok mb) (hmb : mb.length < 2 ^ 64)
    (hbody : (sockRecv (ofBE (sockRecv 8 chunks).1) (sockRecv 8 chunks).2).1 = body)
    (hd : deserialize eid body = .ok r) :
    sendMessage eid message chunks = if r.isReply then .ok r else .error .assertionError := by
  simp only [sendMessage, hm, lengthBytes, hmb, if_true, hbody, hd, bind, Except.bind]
  split <;> rfl

/-- A reply read back whole comes out of `_send_message` as the agent sent it. -/
theorem sendMessage_of_body (chunks : List Bytes) {r : Message} {body : Bytes}
    (hm : serialize message = .ok mb) (hmb : mb.length < 2 ^ 64)
    (hbody : (sockRecv (ofBE (sockRecv 8 chunks).1) (sockRecv 8 chunks).2).1 = body)
    (hd : deserialize eid body = .ok r) (hr : r.isReply = true) :
    sendMessage eid message chunks = .ok r := by
  simp only [sendMessage, hm, lengthBytes, hmb, if_true, hbody, hd, hr, bind, Except.bind, pure,
    Except.pure]

/-- A frame that arrives whole, in one chunk or as its length and then its body, is read back as
its body. -/
theorem sockRecv_frame {body : Bytes} (hlen : body.length < 2 ^ 64) {chunks : List Bytes}
    (hc : chunks = [frame body] ∨ chunks = [toBE 8 body.length, body]) :
    (sockRecv (ofBE (sockRecv 8 chunks).1) (sockRecv 8 chunks).2).1 = body := by
  have hl : ofBE (toBE 8 body.length) = body.length := ofBE_toBE_of_lt (by simpa using hlen)
  rcases hc with rfl | rfl
  · by_cases h0 : body = []
    · subst h0; rfl
    · have h8 : ¬ (frame body).length ≤ 8 := by simpa [frame] using h0
      simp only [sockRecv, h8, if_false]
      rw [frame, List.take_left' (length_toBE 8 _), List.drop_left' (length_toBE 8 _), hl,
        if_pos le_rfl]
  · simp only [sockRecv, length_toBE, le_refl, if_true, hl]

/-- **The reply arrives whole.** When the agent's frame arrives in one chunk, or as the length
and then the body, `_send_message` returns the reply the agent serialized, provided it is a
`Reply` or a `FetchReply` whose `type` is its class's and whose bundles' EIDs `EID` keeps. -/
theorem sendMessage_whole {r : Message} {body : Bytes} (chunks : List Bytes)
    (hm : serialize message = .ok mb) (hmb : mb.length < 2 ^ 64) (hs : serialize r = .ok body)
    (hlen : body.length < 2 ^ 64) (ht : r.type = r.ownType) (he : ∀ b ∈ r.bundles, b.EIDsFixed eid)
    (hr : r.isReply = true)
    (hc : chunks = [frame body] ∨ chunks = [toBE 8 body.length, body]) :
    sendMessage eid message chunks = .ok r :=
  sendMessage_of_body eid chunks hm hmb (sockRecv_frame hlen hc)
    (Message.deserialize_of_unpackb eid r (unpackb_packb (Message.keysOk_dictify r) hs) ht he) hr

/-- **The length arrives in two pieces.** If the first chunk of the agent's frame holds four of
the eight length bytes, `_send_message` reads the reply length from those four bytes alone, which
is zero for every reply shorter than `2 ** 32` bytes, reads `b""` as the reply and raises in
`unpackb`, whatever the reply. -/
theorem sendMessage_split_header {body : Bytes} (hm : serialize message = .ok mb)
    (hmb : mb.length < 2 ^ 64) (hlen : body.length < 2 ^ 32) :
    sendMessage eid message [(frame body).take 4, (frame body).drop 4] =
      .error (.valueError "Unpack failed: incomplete input") := by
  have h4 : ofBE ((frame body).take 4) = 0 := by
    rw [frame, List.take_append_of_le_length (by simp), take_toBE 4 4, ofBE_toBE,
      Nat.div_eq_of_lt (by omega), Nat.zero_mod]
  have hrest : ¬ ((frame body).drop 4).length ≤ 0 := by simp [frame]; omega
  have hhead : ((frame body).take 4).length ≤ 8 := by simp [frame]
  simp only [sendMessage, hm, lengthBytes, hmb, if_true, sockRecv, hhead, h4, hrest, List.take_zero,
    deserialize, unpackb, decodeValue, bind, Except.bind]
  rfl

/-- What `_send_message` raises when the bytes it read back are not a message. -/
theorem sendMessage_error_of_body (chunks : List Bytes) {e : RecError}
    (hd : deserialize eid (sockRecv (ofBE (sockRecv 8 chunks).1) (sockRecv 8 chunks).2).1 =
      .error e) :
    ∃ e', sendMessage eid message chunks = .error e' := by
  unfold sendMessage
  rcases serialize message with e₁ | mb
  · exact ⟨e₁, rfl⟩
  rcases hl : lengthBytes mb.length with e₂ | _
  · exact ⟨e₂, by simp only [hl, bind, Except.bind]⟩
  exact ⟨e, by simp only [hl, hd, bind, Except.bind]⟩

/-- No proper prefix of a serialized message is a message. -/
theorem deserialize_prefix_error {r : Message} {body p t : Bytes} (hs : serialize r = .ok body)
    (hb : body = p ++ t) (ht : t ≠ []) : ∃ e, deserialize eid p = .error e := by
  obtain ⟨e, he⟩ := unpackb_prefix_error (unpackb_packb (Message.keysOk_dictify r) hs) hb ht
  exact ⟨e, by simp only [deserialize, he, bind, Except.bind]⟩

/-- **The body arrives in pieces.** If the agent's frame arrives with its length whole but only a
proper prefix `p` of the reply behind it, in the first chunk or in a chunk of its own,
`_send_message` raises, whatever the reply: its `sock_recv(s, reply_length)` returns `p`. -/
theorem sendMessage_split_body {r : Message} {body p t : Bytes} {chunks : List Bytes}
    (rest : List Bytes) (hs : serialize r = .ok body) (hlen : body.length < 2 ^ 64)
    (hb : body = p ++ t) (ht : t ≠ [])
    (hc : chunks = (toBE 8 body.length ++ p) :: rest ∧ p ≠ [] ∨
      chunks = toBE 8 body.length :: p :: rest) :
    ∃ e, sendMessage eid message chunks = .error e := by
  have hl : ofBE (toBE 8 body.length) = body.length := ofBE_toBE_of_lt (by simpa using hlen)
  have hp : p.length ≤ body.length := by simp [hb]
  have hhead : sockRecv 8 chunks = (toBE 8 body.length, p :: rest) := by
    rcases hc with ⟨rfl, hp0⟩ | rfl
    · have h8 : ¬ (toBE 8 body.length ++ p).length ≤ 8 := by simpa using hp0
      simp only [sockRecv, h8, if_false, List.take_left' (length_toBE 8 _),
        List.drop_left' (length_toBE 8 _)]
    · simp [sockRecv]
  obtain ⟨e, he⟩ := deserialize_prefix_error eid hs hb ht
  refine sendMessage_error_of_body eid chunks (e := e) ?_
  rw [hhead, hl]
  simp only [sockRecv, hp, if_true, he]

/-- **The fetch channel.** When the agent's answer to the fetch arrives whole, `_get_new_bundles`
returns the bundles of a `FetchReply` that succeeded and none for one that failed, and raises
`AssertionError` for any other message, a `Reply` included: a failure the agent reports as a plain
`Reply` never reaches the branch that logs it. -/
theorem getNewBundles_whole (nodeId : EID) (t : NodeType) {r : Message} {body : Bytes}
    (chunks : List Bytes) (hm : serialize (.fetch .fetch nodeId t.toInt) = .ok mb)
    (hmb : mb.length < 2 ^ 64) (hs : serialize r = .ok body) (hlen : body.length < 2 ^ 64)
    (ht : r.type = r.ownType) (he : ∀ b ∈ r.bundles, b.EIDsFixed eid)
    (hc : chunks = [frame body] ∨ chunks = [toBE 8 body.length, body]) :
    getNewBundles eid nodeId t chunks =
      match r with
      | .fetchReply _ success _ bundles => .ok (if success then bundles else [])
      | _ => .error .assertionError := by
  rw [getNewBundles, sendMessage_eq_of_body eid chunks hm hmb (sockRecv_frame hlen hc)
    (Message.deserialize_of_unpackb eid r (unpackb_packb (Message.keysOk_dictify r) hs) ht he)]
  cases r <;> rfl

end

/-- A fetch answered by `Reply(REPLY, True, "")` in one piece comes back as that reply. -/
theorem sendMessage_whole_fetch :
    ∃ mb body, serialize (.fetch .fetch ⟨"dtn://exec/"⟩ 2) = .ok mb ∧ mb.length < 2 ^ 64 ∧
      serialize (.reply .reply true "") = .ok body ∧ body.length < 2 ^ 64 ∧
      sendMessage (fun s => .ok ⟨s⟩) (.fetch .fetch ⟨"dtn://exec/"⟩ 2) [frame body] =
        .ok (.reply .reply true "") :=
  ⟨_, _, rfl, by decide, rfl, by decide,
    sendMessage_whole _ _ rfl (by decide) rfl (by decide) rfl (fun _ h => nomatch h) rfl (.inl rfl)⟩

/-- A fetch answered by `Reply(REPLY, True, "")` whose length arrives split after four bytes
raises. -/
theorem sendMessage_split_header_fetch :
    ∃ mb body, serialize (.fetch .fetch ⟨"dtn://exec/"⟩ 2) = .ok mb ∧ mb.length < 2 ^ 64 ∧
      serialize (.reply .reply true "") = .ok body ∧ body.length < 2 ^ 32 ∧
      sendMessage (fun s => .ok ⟨s⟩) (.fetch .fetch ⟨"dtn://exec/"⟩ 2)
        [(frame body).take 4, (frame body).drop 4] =
        .error (.valueError "Unpack failed: incomplete input") :=
  ⟨_, _, rfl, by decide, rfl, by decide, sendMessage_split_header _ rfl (by decide) (by decide)⟩

/-- A fetch answered by `Reply(REPLY, True, "")` whose body arrives one byte first raises. -/
theorem sendMessage_split_body_fetch :
    ∃ body, serialize (.reply .reply true "") = .ok body ∧ body.length < 2 ^ 64 ∧
      body.drop 1 ≠ [] ∧
      ∃ e, sendMessage (fun s => .ok ⟨s⟩) (.fetch .fetch ⟨"dtn://exec/"⟩ 2)
        [toBE 8 body.length, body.take 1, body.drop 1] = .error e :=
  ⟨_, rfl, by decide, by decide,
    sendMessage_split_body _ (r := .reply .reply true "") [_] rfl (by decide) (List.take_append_drop 1 _).symm (by decide)
      (.inr rfl)⟩

/-- A fetch answered in one piece by a successful `FetchReply` that carries one bundle returns that
bundle. -/
theorem getNewBundles_whole_one :
    let b : BundleData :=
      { type := BundleType.jobSubmit.toInt, source := ⟨"dtn://c/"⟩, destination := ⟨"dtn://exec/"⟩ }
    ∃ mb body, serialize (.fetch .fetch ⟨"dtn://exec/"⟩ NodeType.executor.toInt) = .ok mb ∧
      mb.length < 2 ^ 64 ∧ serialize (.fetchReply .fetchReply true "" [b]) = .ok body ∧
      body.length < 2 ^ 64 ∧
      getNewBundles (fun s => .ok ⟨s⟩) ⟨"dtn://exec/"⟩ .executor [frame body] = .ok [b] := by
  intro b
  have hb : ∀ b' ∈ [b], b'.EIDsFixed fun s => .ok ⟨s⟩ := by
    intro b' hb'
    rw [List.mem_singleton.1 hb']
    exact ⟨rfl, rfl, fun _ he => by cases he⟩
  exact ⟨_, _, rfl, by decide, rfl, by decide,
    getNewBundles_whole _ ⟨"dtn://exec/"⟩ .executor (r := .fetchReply .fetchReply true "" [b]) [_]
      rfl (by decide) rfl (by decide) rfl hb (.inl rfl)⟩

end RecDtn
