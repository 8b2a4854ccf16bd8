import SshProxy.Proofs.PairOrigins
import SshProxy.Proofs.SpxTargets

/-! What the helper has open for the controller: for a stream that `open_tcp` returned one connection
to the target that was asked for, and UDP sockets for associations only. -/

namespace SshProxy.Pair
open Library

variable {defaultEgressProxy : Option String} {pair : Pair}
  (reached : (machine defaultEgressProxy).Reachable pair) (few : pair.bridge.allocated < 2 ^ 32)
include reached few

/-- The helper answered a call that has returned a stream, and did so by one task, which is connected to
the host and port of the call. -/
theorem opened_reaches_target (call : Nat) (returned : (pair.bridge.calls call).phase.returned = true) :
    ∃ task, (pair.remote.tasks task).phase.answered = true ∧ (pair.remote.tasks task).id = (pair.bridge.calls call).id ∧
      (pair.remote.tasks task).host = (pair.bridge.calls call).host ∧
      (pair.remote.tasks task).port = (pair.bridge.calls call).port ∧
      ∀ other, (pair.remote.tasks other).phase ≠ .idle →
        (pair.remote.tasks other).id = (pair.bridge.calls call).id → other = task := by
  have coherent := Coherent.of_reachable reached
  obtain ⟨task, owner, answered⟩ := coherent.answered_of_accepted call (.inl returned)
  have started := Nat.lt_of_lt_of_le (Nat.succ_pos 3) (TaskPhase.answered_rank answered)
  have calling := Nat.lt_of_lt_of_le (Nat.succ_pos 4) (OpenPhase.returned_rank returned)
  obtain ⟨host, port⟩ := (Named.of_reachable reached).target coherent few calling started owner
  refine ⟨task, answered, owner, host, port, ?_⟩
  intro other running same
  exact coherent.task_injective few (TaskPhase.rank_pos running) started (same.trans owner.symm)

omit reached few in
theorem opened_reaches_target_exchange : ∃ pair : Pair, (machine none).Reachable pair ∧
    (pair.bridge.calls 0).phase.returned = true ∧ ∃ task, (pair.remote.tasks task).host = "example" := by
  obtain ⟨pair, reached, few, returned, named⟩ := Machine.exists_reachable (machine none)
    (fun pair => pair.bridge.allocated < 2 ^ 32 ∧ (pair.bridge.calls 0).phase.returned = true ∧
      (pair.bridge.calls 0).host = "example") exchange (by decide)
  obtain ⟨task, _, _, host, _⟩ := opened_reaches_target reached few 0 returned
  exact ⟨pair, reached, returned, task, host.trans named⟩

/-- The helper's UDP task belongs to an association of the controller, and its id to no stream. -/
theorem udp_task_has_association (task : Nat) (running : (pair.remote.udpTasks task).phase ≠ .idle) :
    (∃ assoc, (pair.bridge.assocs assoc).id = (pair.remote.udpTasks task).id ∧ (pair.bridge.assocs assoc).phase ≠ .idle) ∧
    ∀ other, (pair.remote.tasks other).phase ≠ .idle →
      (pair.remote.tasks other).id ≠ (pair.remote.udpTasks task).id := by
  have coherent := Coherent.of_reachable reached
  have origins : pair.Origins := reached.invariant Origins (.initial defaultEgressProxy)
    fun _ _ before origins enabled _ => origins.next (.of_reachable before) enabled
  have owned := origins.udpTasks task running
  refine ⟨owned.imp fun _ own => ⟨own.1, fun idle => absurd own.2 (by rw [idle]; decide)⟩, ?_⟩
  intro other started same
  obtain ⟨call, own, rank⟩ := coherent.task_call other (TaskPhase.rank_pos started)
  exact owned.not_call origins.udp coherent.bridge few (Nat.lt_of_lt_of_le (Nat.succ_pos 3) rank) (own.trans same)

def query : UdpDatagram := ⟨"10.0.0.1", 53, [0]⟩

def lookup : List PairAction := [
  .bridge .registerUdp, .bridge (.insertUdp 0), .bridge (.sendUdp 0 query),
  .remote (.read (.udpPacket 1 query.host query.port query.data)), .remote .deliver, .remote (.bindUdp 0)]

omit reached few in
theorem udp_task_has_association_lookup : ∃ pair : Pair, (machine none).Reachable pair ∧
    (pair.remote.udpTasks 0).phase = .bound ∧ ∃ assoc, (pair.bridge.assocs assoc).phase ≠ .idle := by
  obtain ⟨pair, reached, few, bound⟩ := Machine.exists_reachable (machine none)
    (fun pair => pair.bridge.allocated < 2 ^ 32 ∧ (pair.remote.udpTasks 0).phase = .bound) lookup (by decide)
  obtain ⟨⟨assoc, _, started⟩, _⟩ := udp_task_has_association reached few 0 (by rw [bound]; decide)
  exact ⟨pair, reached, bound, assoc, started⟩

end SshProxy.Pair
