import RecDtn.Broker.Discovery

/-!
# The discovery protocol among brokers and nodes

A world of any number of brokers and non-broker nodes, one per endpoint: `kind e` is the role
of the node registered at `e`, if any. Each broker runs `Broker._handle_discovery`, each other
node `Node._handle_discovery`, and every bundle ever sent stays in `sent`, so a step may
deliver any of them at any time, any number of times, or never: loss, duplication and
reordering come for free. A bundle reaches the node it is addressed to, and a bundle addressed
to no node's endpoint (a group such as the broadcast address) may reach any node.

`Protocol.Inv` is the inductive invariant: bundles in flight are what their senders' states say
(an announcement comes from a broker; a request from a node pending on, or associated with,
its destination; an acknowledgement from a broker that recorded its destination), and a
broker records only nodes that target it. Safety (`Protocol.Reachable.association_safe`) follows:
an associated node is recorded by its broker, and no two brokers record one node.
-/

namespace RecDtn

/-- `n` is pending on, or associated with, `X`. -/
def Node.Targets (n : Node) (X : EID) : Prop := n.brokerPending = some X ∨ n.broker = some X

/-- A node whose slots are not both set targets at most one broker. -/
theorem Node.Targets.unique {n : Node} {X Y : EID} (h : n.NotBoth) (hX : n.Targets X)
    (hY : n.Targets Y) : X = Y := by
  unfold Node.NotBoth Node.Targets at *
  rcases h with h | h <;> rcases hX with hX | hX <;> rcases hY with hY | hY <;> simp_all

theorem Broker.mem_record {br : Broker} {t t' : NodeType} {n e : EID} :
    e ∈ (br.record t n).discoveredNodes t' ↔ e ∈ br.discoveredNodes t' ∨ (t' = t ∧ e = n) := by
  by_cases ht : t' = t
  · subst ht; simp [Broker.record, or_comm]
  · simp [Broker.record, Function.update_noteq ht, ht]

namespace Protocol

variable (kind : EID → Option NodeType)

/-- The nodes' states and the bundles sent so far. -/
structure World where
  nodes : EID → Node
  brokers : EID → Broker
  sent : List BundleData

/-- Every node unassociated, every broker with nothing discovered, nothing sent. -/
def World.init : World where
  nodes e := { nodeId := e, nodeType := (kind e).getD .client }
  brokers e := { nodeId := e }
  sent := []

/-- `b` may be delivered at `e`: it is addressed to `e`, or to an endpoint of no node. -/
def Delivers (e : EID) (b : BundleData) : Prop := b.destination = e ∨ kind b.destination = none

namespace World

/-- The broker at `e` announces itself. -/
def announce (w : World) (e : EID) : World :=
  { w with sent := w.sent ++ [(w.brokers e).announcement] }

/-- The broker at `e` handles `b` and sends its reply. -/
def brokerReceive (w : World) (e : EID) (b : BundleData) : World :=
  { w with brokers := Function.update w.brokers e ((w.brokers e).handleDiscovery b).1,
           sent := w.sent ++ Broker.sends ((w.brokers e).handleDiscovery b).2 }

/-- The node at `e` handles `b` and sends what it returns. -/
def nodeReceive (w : World) (e : EID) (b : BundleData) : World :=
  { w with nodes := Function.update w.nodes e ((w.nodes e).handleDiscovery b).1,
           sent := w.sent ++ ((w.nodes e).handleDiscovery b).2 }

end World

/-- One step of the protocol. -/
inductive Step : World → World → Prop
  | announce {w : World} {e : EID} : kind e = some .broker → Step w (w.announce e)
  | brokerReceive {w : World} {e : EID} {b : BundleData} : kind e = some .broker →
      b ∈ w.sent → Delivers kind e b → Step w (w.brokerReceive e b)
  | nodeReceive {w : World} {e : EID} {b : BundleData} {t : NodeType} : kind e = some t →
      t ≠ .broker → b ∈ w.sent → Delivers kind e b → Step w (w.nodeReceive e b)

/-- The worlds reachable from the initial one. -/
inductive Reachable : World → Prop
  | init : Reachable (World.init kind)
  | step {w w' : World} : Reachable w → Step kind w w' → Reachable w'

/-! ## The invariant -/

/-- What a bundle in flight says about the world. -/
structure SentOk (w : World) (b : BundleData) : Prop where
  announce : b.isType .brokerAnnounce → kind b.source = some .broker
  request : b.isType .brokerRequest → ∃ t, kind b.source = some t ∧ t ≠ .broker ∧
    b.nodeType = t.toInt ∧ kind b.destination = some .broker ∧
    (w.nodes b.source).Targets b.destination
  ack : b.isType .brokerAck → ∃ t, kind b.destination = some t ∧
    b.destination ∈ (w.brokers b.source).discoveredNodes t

/-- The inductive invariant of the protocol. -/
structure Inv (w : World) : Prop where
  ids : ∀ e, (w.nodes e).nodeId = e ∧ (w.brokers e).nodeId = e ∧
    ∀ t, kind e = some t → (w.nodes e).nodeType = t
  notBoth : ∀ e, (w.nodes e).NotBoth
  sent : ∀ b ∈ w.sent, SentOk kind w b
  discovered : ∀ X t e, e ∈ (w.brokers X).discoveredNodes t →
    kind e = some t ∧ (w.nodes e).Targets X
  associated : ∀ e t X, kind e = some t → (w.nodes e).broker = some X →
    e ∈ (w.brokers X).discoveredNodes t

/-! ## Preservation -/

variable {kind} {w w' : World} {e : EID} {b : BundleData}

/-- Targets and discoveries only accumulate, so what a bundle in flight says stays true. -/
theorem SentOk.mono (h : SentOk kind w b)
    (hT : ∀ x X, (w.nodes x).Targets X → (w'.nodes x).Targets X)
    (hD : ∀ X t x, x ∈ (w.brokers X).discoveredNodes t → x ∈ (w'.brokers X).discoveredNodes t) :
    SentOk kind w' b :=
  ⟨h.announce, fun hr => let ⟨t, h1, h2, h3, h4, h5⟩ := h.request hr; ⟨t, h1, h2, h3, h4, hT _ _ h5⟩,
    fun ha => let ⟨t, h1, h2⟩ := h.ack ha; ⟨t, h1, hD _ _ _ h2⟩⟩

namespace Inv

theorem init : Inv kind (World.init kind) where
  ids e := ⟨rfl, rfl, fun t h => by simp [World.init, h]⟩
  notBoth _ := Or.inl rfl
  sent _ hb := by cases hb
  discovered _ _ _ h := by simp [World.init] at h
  associated _ _ _ _ h := by simp [World.init] at h

theorem announce (h : Inv kind w) (he : kind e = some .broker) : Inv kind (w.announce e) where
  ids := h.ids
  notBoth := h.notBoth
  sent b' hb' := by
    rcases List.mem_append.1 hb' with hb' | hb'
    · exact (h.sent b' hb').mono (fun _ _ => id) (fun _ _ _ => id)
    · rw [List.mem_singleton] at hb'
      subst hb'
      refine ⟨fun _ => by simpa [Broker.announcement, (h.ids e).2.1] using he, fun hr => ?_, fun hr => ?_⟩ <;>
        simp [Broker.announcement, BundleData.isType, BundleType.toInt] at hr
  discovered := h.discovered
  associated := h.associated

theorem brokerReceive (h : Inv kind w) (hb : b ∈ w.sent) (hd : Delivers kind e b) :
    Inv kind (w.brokerReceive e b) := by
  rcases Broker.handleDiscovery_cases (w.brokers e) b with ⟨h1, h2⟩ | ⟨t, hr, ht, h1, h2⟩
  · have : w.brokerReceive e b = w := by
      simp [World.brokerReceive, h1, h2]
    rw [this]; exact h
  · obtain ⟨t0, hsrc, -, hnt, hdst, htg⟩ := (h.sent b hb).request hr
    rw [hnt, NodeType.ofInt?_toInt, Option.some_inj] at ht
    subst ht
    have hde : b.destination = e := hd.resolve_right (by rw [hdst]; simp)
    rw [hde] at htg
    have hmem : ∀ X t' x, x ∈ ((w.brokerReceive e b).brokers X).discoveredNodes t' ↔
        x ∈ (w.brokers X).discoveredNodes t' ∨ (X = e ∧ t' = t0 ∧ x = b.source) := by
      intro X t' x
      by_cases hX : X = e
      · subst hX; simp [World.brokerReceive, h1, Broker.mem_record]
      · simp [World.brokerReceive, Function.update_noteq hX, hX]
    have hD : ∀ X t' x, x ∈ (w.brokers X).discoveredNodes t' →
        x ∈ ((w.brokerReceive e b).brokers X).discoveredNodes t' :=
      fun X t' x hx => (hmem X t' x).2 (.inl hx)
    refine ⟨fun x => ?_, h.notBoth, fun b' hb' => ?_, fun X t' x hx => ?_,
      fun x t' X hk hx => hD _ _ _ (h.associated x t' X hk hx)⟩
    · refine ⟨(h.ids x).1, ?_, (h.ids x).2.2⟩
      by_cases hX : x = e
      · subst hX; simp [World.brokerReceive, h1, Broker.record, (h.ids x).2.1]
      · simp [World.brokerReceive, Function.update_noteq hX, (h.ids x).2.1]
    · rcases List.mem_append.1 hb' with hb' | hb'
      · exact (h.sent b' hb').mono (fun _ _ => id) hD
      · rw [h2, List.mem_singleton] at hb'
        subst hb'
        refine ⟨fun ha => ?_, fun hr => ?_, fun _ => ⟨t0, hsrc, (hmem _ _ _).2 (.inr ⟨?_, rfl, rfl⟩)⟩⟩
        · simp [Broker.brokerAck, BundleData.isType, BundleType.toInt] at ha
        · simp [Broker.brokerAck, BundleData.isType, BundleType.toInt] at hr
        · simp [Broker.brokerAck, (h.ids e).2.1]
    · rcases (hmem X t' x).1 hx with hx | ⟨rfl, rfl, rfl⟩
      · exact h.discovered X t' x hx
      · exact ⟨hsrc, htg⟩

/-- The node at `e` moves to `n`, keeping its identity, its slots apart and every broker it
targets, and sends `out`: the invariant holds after when the bundles of `out` are right and `n`'s
broker has recorded it. -/
theorem nodeReceive_of_update (h : Inv kind w) {n : Node} {out : List BundleData}
    (hh : (w.nodes e).handleDiscovery b = (n, out))
    (hid : n.nodeId = (w.nodes e).nodeId ∧ n.nodeType = (w.nodes e).nodeType) (hnb : n.NotBoth)
    (hT : ∀ X, (w.nodes e).Targets X → n.Targets X)
    (hout : ∀ b' ∈ out, SentOk kind (w.nodeReceive e b) b')
    (hassoc : ∀ t X, kind e = some t → n.broker = some X → e ∈ (w.brokers X).discoveredNodes t) :
    Inv kind (w.nodeReceive e b) := by
  have hN : ∀ x, (w.nodeReceive e b).nodes x = if x = e then n else w.nodes x := by
    intro x
    by_cases hx : x = e
    · subst hx; simp [World.nodeReceive, hh]
    · simp [World.nodeReceive, Function.update_noteq hx, hx]
  have hT' : ∀ x X, (w.nodes x).Targets X → ((w.nodeReceive e b).nodes x).Targets X := by
    intro x X hx
    rw [hN]
    split
    · next hxe => subst hxe; exact hT X hx
    · exact hx
  refine ⟨fun x => ?_, fun x => ?_, fun b' hb' => ?_, fun X t' x hx => ?_, fun x t' X hk hx => ?_⟩
  · rw [hN]
    split
    · next hxe => subst hxe; rw [hid.1, hid.2]; exact h.ids x
    · exact h.ids x
  · rw [hN]
    split
    · exact hnb
    · exact h.notBoth x
  · rw [World.nodeReceive, hh] at hb'
    rcases List.mem_append.1 hb' with hb' | hb'
    · exact (h.sent b' hb').mono hT' fun _ _ _ => id
    · exact hout b' hb'
  · obtain ⟨h1, h2⟩ := h.discovered X t' x hx
    exact ⟨h1, hT' _ _ h2⟩
  · rw [hN] at hx
    split at hx
    · next hxe => subst hxe; exact hassoc t' X hk hx
    · exact h.associated x t' X hk hx

theorem nodeReceive (h : Inv kind w) {t : NodeType} (he : kind e = some t) (ht : t ≠ .broker)
    (hb : b ∈ w.sent)
    (hd : Delivers kind e b) : Inv kind (w.nodeReceive e b) := by
  rcases Node.handleDiscovery_cases (w.nodes e) b with h1 | ⟨ha, hp, hbr, h1⟩ | ⟨hk, hp, h1⟩
  · have : w.nodeReceive e b = w := by simp [World.nodeReceive, h1]
    rw [this]; exact h
  · -- an announcement makes the unassociated node pending on its source, which it asks
    refine nodeReceive_of_update h h1 ⟨rfl, rfl⟩ (.inr hbr)
      (fun X hx => by simp [Node.Targets, hp, hbr] at hx) ?_ fun _ _ _ hx => by simp [hbr] at hx
    intro b' hb'
    rw [List.mem_singleton] at hb'
    subst hb'
    refine ⟨fun ha' => ?_, fun _ => ⟨t, ?_, ht, ?_, (h.sent b hb).announce ha, ?_⟩, fun hk' => ?_⟩
    · simp [Node.brokerRequest, BundleData.isType, BundleType.toInt] at ha'
    · simpa [Node.brokerRequest, (h.ids e).1] using he
    · simp [Node.brokerRequest, (h.ids e).2.2 t he]
    · simp [Node.brokerRequest, (h.ids e).1, World.nodeReceive, h1, Node.Targets]
    · simp [Node.brokerRequest, BundleData.isType, BundleType.toInt] at hk'
  · -- an acknowledgement from the pending broker associates the node with it
    have hbr : (w.nodes e).broker = none := by
      have := h.notBoth e; unfold Node.NotBoth at this; simpa [hp] using this
    refine nodeReceive_of_update h h1 ⟨rfl, rfl⟩ (.inl rfl)
      (fun X hx => by simp [Node.Targets, hp, hbr] at hx ⊢; exact hx) (fun _ hb' => nomatch hb') ?_
    intro t' X hk' hx
    cases Option.some.inj hx
    obtain ⟨t1, hk1, hm⟩ := (h.sent b hb).ack hk
    have hde : b.destination = e := hd.resolve_right (by rw [hk1]; simp)
    rw [hde, hk'] at hk1
    rw [hde] at hm
    cases hk1
    exact hm

/-- The invariant holds in every reachable world. -/
theorem reachable (hw : Reachable kind w) : Inv kind w := by
  induction hw with
  | init => exact init
  | step _ hs ih =>
    cases hs with
    | announce he => exact ih.announce he
    | brokerReceive _ hb hd => exact ih.brokerReceive hb hd
    | nodeReceive he ht hb hd => exact ih.nodeReceive he ht hb hd

end Inv

/-- **Association safety.** In every reachable world, a node associated with `X` is in `X`'s
`discovered_nodes` under its own type, and no node is in the `discovered_nodes` of two
brokers. -/
theorem Reachable.association_safe (hw : Reachable kind w) :
    (∀ e t X, kind e = some t → (w.nodes e).broker = some X →
      e ∈ (w.brokers X).discoveredNodes t) ∧
    (∀ e X X' t t', e ∈ (w.brokers X).discoveredNodes t →
      e ∈ (w.brokers X').discoveredNodes t' → X = X') := by
  have h := Inv.reachable hw
  exact ⟨h.associated, fun e X X' t t' hX hX' =>
    Node.Targets.unique (h.notBoth e) (h.discovered X t e hX).2 (h.discovered X' t' e hX').2⟩

/-- `Reachable.association_safe` in the world where the broker `b` announced itself, the executor
`x` took the announcement, `b` recorded `x` and acknowledged it, and `x` took the acknowledgement:
`x` is associated with `b` and recorded by it. -/
theorem Reachable.association_safe_associated :
    let kind : EID → Option NodeType := fun e =>
      if e = ⟨"dtn://b/"⟩ then some .broker else if e = ⟨"dtn://x/"⟩ then some .executor else none
    let b : EID := ⟨"dtn://b/"⟩
    let x : EID := ⟨"dtn://x/"⟩
    let w1 := (World.init kind).announce b
    let w2 := w1.nodeReceive x ((w1.brokers b).announcement)
    let w3 := w2.brokerReceive b ((w2.nodes x).brokerRequest b)
    let w4 := w3.nodeReceive x ((w3.brokers b).brokerAck x)
    Reachable kind w4 ∧ (w4.nodes x).broker = some b ∧
      x ∈ (w4.brokers b).discoveredNodes .executor ∧
      (∀ e t X, kind e = some t → (w4.nodes e).broker = some X →
        e ∈ (w4.brokers X).discoveredNodes t) ∧
      (∀ e X X' t t', e ∈ (w4.brokers X).discoveredNodes t →
        e ∈ (w4.brokers X').discoveredNodes t' → X = X') := by
  intro kind b x w1 w2 w3 w4
  have hreq : (w2.nodes x).brokerRequest b ∈ w2.sent := by decide
  have hack : (w3.brokers b).brokerAck x ∈ w3.sent := by decide
  have hw : Reachable kind w4 :=
    .step (.step (.step (.step .init (.announce (by decide)))
      (.nodeReceive (t := .executor) (by decide) (by decide) (List.mem_append_right _ (.head _))
        (.inr (by decide))))
      (.brokerReceive (by decide) hreq (.inl rfl)))
      (.nodeReceive (t := .executor) (by decide) (by decide) hack (.inl rfl))
  exact ⟨hw, by decide, by decide, Reachable.association_safe hw⟩

end Protocol

end RecDtn
