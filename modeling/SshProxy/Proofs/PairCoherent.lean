import Mathlib.Data.List.Nodup
import SshProxy.Pair
import SshProxy.Proofs.BridgeValid
import SshProxy.Proofs.RemoteValid

/-! What the two ends know about each other. Every frame that was sent has an origin,
and every origin is further along than the frame: a task exists only for a call that
sent `OpenTcp`, and a call returns only after its task has answered. -/

namespace SshProxy
open Library List Remote

def Remote.taskIds (remote : Remote) : List UInt32 :=
  (range remote.spawned).map fun number => (remote.tasks number).id

@[simp] theorem openIds_append (left right : List Frame) : openIds (left ++ right) = openIds left ++ openIds right :=
  filterMap_append

theorem openIds_sublist {left right : List Frame} (within : left.Sublist right) :
    (openIds left).Sublist (openIds right) :=
  within.filterMap _

namespace Pair
variable {pair : Pair}

structure Coherent (pair : Pair) : Prop where
  bridge : pair.bridge.Valid
  remote : pair.remote.Valid
  toRemote : pair.toRemote ⊆ pair.sentToRemote
  toBridge : pair.toBridge ⊆ pair.sentToBridge
  opens : ∀ id ∈ openIds pair.sentToRemote, ∃ call,
    (pair.bridge.calls call).id = id ∧ 4 ≤ (pair.bridge.calls call).phase.rank
  distinct : pair.bridge.allocated < 2 ^ 32 → (openIds pair.sentToRemote).Nodup
  tasks : (pair.remote.taskIds ++ openIds pair.toRemote).Sublist (openIds pair.sentToRemote)
  answers : ∀ id message, .openTcpResult id true message ∈ pair.sentToBridge → ∃ task,
    (pair.remote.tasks task).id = id ∧ (pair.remote.tasks task).phase.answered = true
  accepted : ∀ call, (pair.bridge.calls call).Accepted → ∃ message,
    .openTcpResult (pair.bridge.calls call).id true message ∈ pair.sentToBridge
  replies : ∀ id data, .data id data ∈ pair.sentToBridge → ∃ task,
    (pair.remote.tasks task).id = id ∧ (pair.remote.tasks task).phase.answered = true
  requests : ∀ id data, .data id data ∈ pair.sentToRemote → ∃ call,
    (pair.bridge.calls call).id = id ∧ (pair.bridge.calls call).phase.returned = true

end Pair

theorem Bridge.Valid.id_injective {bridge : Bridge} (valid : bridge.Valid) (few : bridge.allocated < 2 ^ 32)
    {left right : Nat} (leftStarted : 0 < (bridge.calls left).phase.rank)
    (rightStarted : 0 < (bridge.calls right).phase.rank) (same : (bridge.calls left).id = (bridge.calls right).id) :
    left = right := by
  rw [valid.callId left leftStarted, valid.callId right rightStarted] at same
  have leftKnown := valid.known left leftStarted
  have rightKnown := valid.known right rightStarted
  have equal := congrArg UInt32.toNat same
  rw [UInt32.toNat_ofNat', UInt32.toNat_ofNat'] at equal
  omega

namespace Pair
variable {pair : Pair}

theorem Coherent.task_injective (coherent : pair.Coherent) (few : pair.bridge.allocated < 2 ^ 32) {left right : Nat}
    (leftStarted : 0 < (pair.remote.tasks left).phase.rank) (rightStarted : 0 < (pair.remote.tasks right).phase.rank)
    (same : (pair.remote.tasks left).id = (pair.remote.tasks right).id) : left = right := by
  have distinct : pair.remote.taskIds.Nodup :=
    (coherent.distinct few).sublist ((sublist_append_left _ _).trans coherent.tasks)
  exact inj_on_of_nodup_map distinct (mem_range.mpr (coherent.remote.known left leftStarted))
    (mem_range.mpr (coherent.remote.known right rightStarted)) same

theorem Coherent.task_call (coherent : pair.Coherent) (task : Nat)
    (started : 0 < (pair.remote.tasks task).phase.rank) : ∃ call,
    (pair.bridge.calls call).id = (pair.remote.tasks task).id ∧ 4 ≤ (pair.bridge.calls call).phase.rank := by
  refine coherent.opens _ (coherent.tasks.subset (mem_append_left _ ?_))
  exact mem_map_of_mem (mem_range.mpr (coherent.remote.known task started))

theorem Coherent.replies_silent (coherent : pair.Coherent) (few : pair.bridge.allocated < 2 ^ 32) (call : Nat)
    (started : 0 < (pair.bridge.calls call).phase.rank) (early : (pair.bridge.calls call).phase.rank < 4)
    (data : Bytes) : .data (pair.bridge.calls call).id data ∉ pair.sentToBridge := by
  intro sent
  obtain ⟨task, owner, answered⟩ := coherent.replies _ data sent
  have rank := TaskPhase.answered_rank answered
  obtain ⟨other, same, late⟩ := coherent.task_call task (by omega)
  have equal := coherent.bridge.id_injective few started (by omega) (owner.symm.trans same.symm)
  subst equal
  omega

theorem Coherent.requests_silent (coherent : pair.Coherent) (few : pair.bridge.allocated < 2 ^ 32) (task : Nat)
    (started : 0 < (pair.remote.tasks task).phase.rank) (early : (pair.remote.tasks task).phase.rank < 4)
    (data : Bytes) : .data (pair.remote.tasks task).id data ∉ pair.sentToRemote := by
  intro sent
  obtain ⟨call, owner, returned⟩ := coherent.requests _ data sent
  obtain ⟨message, answer⟩ := coherent.accepted call (.inl returned)
  obtain ⟨other, same, answered⟩ := coherent.answers _ message answer
  have rank := TaskPhase.answered_rank answered
  have equal := coherent.task_injective few started (by omega) (owner.symm.trans same.symm)
  subst equal
  omega

theorem Coherent.initial (defaultEgressProxy : Option String) : Coherent (machine defaultEgressProxy).initial where
  bridge := .initial
  remote := .initial defaultEgressProxy
  toRemote := List.Subset.refl _
  toBridge := List.Subset.refl _
  opens _ sent := by cases sent
  distinct _ := nodup_nil
  tasks := List.Sublist.refl _
  answers _ _ sent := by cases sent
  accepted _ accepted := by rcases accepted with returned | given <;> contradiction
  replies _ _ sent := by cases sent
  requests _ _ sent := by cases sent

private theorem Coherent.distinct_emits (coherent : pair.Coherent) (few : pair.bridge.allocated < 2 ^ 32)
    {action : BridgeAction} (enabled : pair.bridge.enabled action) :
    (openIds (pair.sentToRemote ++ pair.bridge.emits action)).Nodup := by
  rw [openIds_append]
  rcases Bridge.openIds_emits pair.bridge action with none | ⟨call, rfl, one⟩
  · rw [none, append_nil]
    exact coherent.distinct few
  · have phase : (pair.bridge.calls call).phase = .registered := enabled
    have rank : (pair.bridge.calls call).phase.rank = 3 := by rw [phase]; rfl
    rw [one]
    refine (coherent.distinct few).append (nodup_singleton _) ?_
    rintro id sent same
    obtain ⟨other, owner, late⟩ := coherent.opens id sent
    have equal := coherent.bridge.id_injective few (by omega) (by omega) (owner.trans (mem_singleton.mp same))
    subst equal
    omega

theorem Coherent.bridge_next (coherent : pair.Coherent) {action : BridgeAction} (enabled : pair.bridge.enabled action)
    (arrived : action.consumes <+: pair.toBridge) : (pair.next (.bridge action)).Coherent where
  bridge := coherent.bridge.next enabled
  remote := coherent.remote
  toRemote := fun _ member => mem_append.mpr ((mem_append.mp member).imp_left (@coherent.toRemote _))
  toBridge := fun _ member => coherent.toBridge (mem_of_mem_drop member)
  opens id sent := by
    rw [show (pair.next (.bridge action)).sentToRemote = pair.sentToRemote ++ pair.bridge.emits action from rfl,
      openIds_append, mem_append] at sent
    rcases sent with before | now
    · obtain ⟨call, owner, late⟩ := coherent.opens id before
      have advances := coherent.bridge.advances enabled call (by omega)
      exact ⟨call, advances.id.trans owner, Nat.le_trans late advances.rank⟩
    · rcases Bridge.openIds_emits pair.bridge action with none | ⟨call, rfl, one⟩
      · rw [none] at now
        cases now
      · rw [one, mem_singleton] at now
        have phase : (pair.bridge.calls call).phase = .registered := enabled
        have advances := coherent.bridge.advances enabled call (by rw [phase]; decide)
        exact ⟨call, advances.id.trans now.symm, Bridge.sendOpen_call pair.bridge call⟩
  distinct few := coherent.distinct_emits (Nat.lt_of_le_of_lt (Bridge.next_allocated _ _) few) enabled
  tasks := by
    simp only [next, openIds_append, ← append_assoc]
    exact coherent.tasks.append (List.Sublist.refl _)
  answers := coherent.answers
  accepted call accepted := by
    rcases Bridge.next_advances enabled call with advances | ⟨rfl, host, port, egressProxy, rfl⟩
    · have owner : ((pair.next (.bridge action)).bridge.calls call).id = (pair.bridge.calls call).id := advances.id
      rw [owner]
      rcases advances.accepted accepted with before | ⟨id, message, rfl, found⟩
      · exact coherent.accepted call before
      · have frame : Frame.openTcpResult id true message ∈ pair.toBridge := arrived.subset (mem_singleton_self _)
        rw [(coherent.bridge.pending id call found).1]
        exact ⟨message, coherent.toBridge frame⟩
    · rw [show (pair.next (.bridge (.openTcp host port egressProxy))).bridge.calls pair.bridge.allocated = _ from
        Bridge.openTcp_call pair.bridge host port egressProxy] at accepted
      rcases accepted with returned | given <;> contradiction
  replies := coherent.replies
  requests id data sent := by
    rcases mem_append.mp sent with before | now
    · obtain ⟨call, owner, returned⟩ := coherent.requests id data before
      have advances := coherent.bridge.advances enabled call
        (Nat.lt_of_lt_of_le (Nat.succ_pos 4) (OpenPhase.returned_rank returned))
      exact ⟨call, advances.id.trans owner, advances.returned returned⟩
    · cases (Bridge.emits_sends now).1 with
      | data call data => exact ⟨call, rfl, enabled⟩

variable {action : RemoteAction}

private theorem Coherent.answered_next (coherent : pair.Coherent) (enabled : pair.remote.enabled action) {id : UInt32}
    (held : ∃ task, (pair.remote.tasks task).id = id ∧ (pair.remote.tasks task).phase.answered = true) :
    ∃ task, ((pair.remote.next action).tasks task).id = id ∧
      ((pair.remote.next action).tasks task).phase.answered = true := by
  obtain ⟨task, owner, answered⟩ := held
  have advances := coherent.remote.advances enabled task
    (Nat.lt_of_lt_of_le (Nat.succ_pos 3) (TaskPhase.answered_rank answered))
  exact ⟨task, advances.id.trans owner, advances.answered answered⟩

private theorem taskIds_spawn {remote : Remote} (enabled : remote.enabled action) {id : UInt32}
    (spawns : Remote.Spawns action id) : (remote.next action).taskIds = remote.taskIds ++ [id] := by
  have more : (remote.next action).spawned = remote.spawned + 1 :=
    (next_spawned remote action).elim (fun still => absurd spawns (still.2 id)) fun more => more.1
  simp only [taskIds, more, range_succ, map_append, map_cons, map_nil,
    (spawn_task remote spawns).1]
  congr 1
  apply map_congr_left
  intro number member
  rcases next_advances enabled number with advances | ⟨same, _⟩
  · exact advances.id
  · exact absurd (mem_range.mp member) (same ▸ Nat.lt_irrefl _)

private theorem taskIds_still {remote : Remote} (enabled : remote.enabled action)
    (still : ∀ id, ¬ Remote.Spawns action id) : (remote.next action).taskIds = remote.taskIds := by
  have same : (remote.next action).spawned = remote.spawned :=
    (next_spawned remote action).elim (fun still => still.1) fun ⟨_, id, spawns⟩ => absurd spawns (still id)
  rw [taskIds, same]
  apply map_congr_left
  intro number _
  rcases next_advances enabled number with advances | ⟨_, id, spawns⟩
  · exact advances.id
  · exact absurd spawns (still id)

private theorem Coherent.tasks_next (coherent : pair.Coherent) (enabled : pair.remote.enabled action)
    (arrived : action.consumes <+: pair.toRemote) :
    ((pair.remote.next action).taskIds ++ openIds (pair.toRemote.drop action.consumes.length)).Sublist
      (openIds pair.sentToRemote) := by
  by_cases spawning : ∃ id, Remote.Spawns action id
  · obtain ⟨id, spawns⟩ := spawning
    rw [taskIds_spawn enabled spawns]
    obtain ⟨host, port, egressProxy, rfl⟩ := spawns
    obtain ⟨rest, queued⟩ := arrived
    have tasks := coherent.tasks
    rw [← queued] at tasks ⊢
    simpa [RemoteAction.consumes, openIds, Frame.opens?] using tasks
  · rw [taskIds_still enabled fun id spawns => spawning ⟨id, spawns⟩]
    exact ((List.Sublist.refl _).append (openIds_sublist (drop_sublist _ _))).trans coherent.tasks

theorem Coherent.remote_next (coherent : pair.Coherent) (enabled : pair.remote.enabled action)
    (arrived : action.consumes <+: pair.toRemote) : (pair.next (.remote action)).Coherent where
  bridge := coherent.bridge
  remote := coherent.remote.next enabled
  toRemote := fun _ member => coherent.toRemote (mem_of_mem_drop member)
  toBridge := fun _ member => mem_append.mpr ((mem_append.mp member).imp_left (@coherent.toBridge _))
  opens := coherent.opens
  distinct := coherent.distinct
  tasks := coherent.tasks_next enabled arrived
  answers id message sent := by
    rcases mem_append.mp sent with before | now
    · exact coherent.answered_next enabled (coherent.answers id message before)
    · cases (emits_sends now).1 with
      | result task => exact ⟨task, sendResult_task pair.remote task⟩
  accepted call accepted := by
    obtain ⟨message, sent⟩ := coherent.accepted call accepted
    exact ⟨message, mem_append_left _ sent⟩
  replies id data sent := by
    rcases mem_append.mp sent with before | now
    · exact coherent.answered_next enabled (coherent.replies id data before)
    · cases (emits_sends now).1 with
      | data task data => exact ⟨task, rfl, enabled⟩
  requests := coherent.requests

theorem Coherent.next (coherent : pair.Coherent) {action : PairAction} (enabled : pair.enabled action) :
    (pair.next action).Coherent := by
  cases action with
  | bridge action => exact coherent.bridge_next enabled.1 enabled.2
  | remote action => exact coherent.remote_next enabled.1 enabled.2
  | loseToRemote keep =>
    exact { coherent with
      toRemote := fun _ member => coherent.toRemote (mem_of_mem_take member)
      tasks := ((List.Sublist.refl _).append (openIds_sublist (take_sublist _ _))).trans coherent.tasks }
  | loseToBridge keep =>
    exact { coherent with toBridge := fun _ member => coherent.toBridge (mem_of_mem_take member) }

theorem Coherent.of_reachable {defaultEgressProxy : Option String}
    (reached : (machine defaultEgressProxy).Reachable pair) : pair.Coherent :=
  reached.invariant _ (.initial defaultEgressProxy) fun _ _ _ coherent enabled _ => coherent.next enabled

end Pair
end SshProxy
