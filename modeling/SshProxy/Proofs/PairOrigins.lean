import SshProxy.Proofs.BridgeUdp
import SshProxy.Proofs.PairCoherent

/-! Where the associations of the helper come from. It starts one for the first datagram of an id, and
datagrams are sent for associations of the controller only. -/

namespace SshProxy
open Library

namespace Pair
variable {pair : Pair}

structure Origins (pair : Pair) : Prop where
  udp : pair.bridge.UdpValid
  datagrams : ∀ id host port data, .udpPacket id host port data ∈ pair.sentToRemote → pair.bridge.IsUdp id
  udpTasks : ∀ task, (pair.remote.udpTasks task).phase ≠ .idle → pair.bridge.IsUdp (pair.remote.udpTasks task).id

theorem Origins.initial (defaultEgressProxy : Option String) : Origins (machine defaultEgressProxy).initial where
  udp := .initial
  datagrams _ _ _ _ sent := by cases sent
  udpTasks _ started := absurd rfl started

theorem Coherent.answered_of_accepted (coherent : pair.Coherent) (call : Nat)
    (accepted : (pair.bridge.calls call).Accepted) :
    ∃ task, (pair.remote.tasks task).id = (pair.bridge.calls call).id ∧
      (pair.remote.tasks task).phase.answered = true := by
  obtain ⟨message, sent⟩ := coherent.accepted call accepted
  exact coherent.answers _ message sent

variable (origins : pair.Origins) (coherent : pair.Coherent)
include origins coherent

theorem Origins.bridge_next {action : BridgeAction} (enabled : pair.bridge.enabled action) :
    (pair.next (.bridge action)).Origins where
  udp := origins.udp.next coherent.bridge enabled
  datagrams id host port data sent := by
    rcases List.mem_append.mp sent with before | now
    · exact (origins.datagrams id host port data before).next origins.udp enabled
    · cases (Bridge.emits_sends now).1 with
      | udpPacket assoc datagram =>
        have started : 0 < (pair.bridge.assocs assoc).phase.rank := by
          cases phase : (pair.bridge.assocs assoc).phase with
          | idle => exact absurd phase enabled.1
          | _ => decide
        exact Bridge.IsUdp.next ⟨assoc, rfl, started⟩ origins.udp enabled
  udpTasks task started := (origins.udpTasks task started).next origins.udp enabled

theorem Origins.remote_next {action : RemoteAction} (enabled : pair.remote.enabled action)
    (arrived : action.consumes <+: pair.toRemote) : (pair.next (.remote action)).Origins where
  udp := origins.udp
  datagrams := origins.datagrams
  udpTasks task started := by
    rcases Remote.next_udpTask enabled started with ⟨same, before⟩ | ⟨host, port, data, reads⟩
    · exact same ▸ origins.udpTasks task before
    · rw [reads] at arrived
      exact origins.datagrams _ host port data (coherent.toRemote (arrived.subset (List.mem_singleton_self _)))

theorem Origins.next {action : PairAction} (enabled : pair.enabled action) : (pair.next action).Origins := by
  cases action with
  | bridge action => exact origins.bridge_next coherent enabled.1
  | remote action => exact origins.remote_next coherent enabled.1 enabled.2
  | loseToRemote | loseToBridge => exact { origins with }

end Pair
end SshProxy
