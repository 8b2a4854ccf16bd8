import SshProxy.FixedTarget
import SshProxy.Proofs.PairDelivery

/-! Whose bytes a call gets. The task that serves a call is connected to the host and port the
call asked for, what it sends is what it has read there, and a receiver has taken a beginning
of what was delivered to it. -/

namespace SshProxy
open Function Library List

/-- What a receiver has taken off its channel. A channel whose receiver was dropped gets no more. -/
structure Channel.Taken {α : Type} (channel : Channel α) (taken : List α) : Prop where
  within : taken ++ channel.queue <+: channel.delivered
  all : channel.alive = true → taken ++ channel.queue = channel.delivered

namespace Channel.Taken
variable {α : Type} {channel : Channel α} {taken : List α}

theorem fresh : Taken ({} : Channel α) [] := ⟨prefix_rfl, fun _ => rfl⟩

variable (held : channel.Taken taken)
include held

theorem send (ready : channel.outlet = .ready) (item : α) : (channel.send item).Taken taken := by
  have alive : channel.alive = true := by
    unfold outlet at ready
    cases up : channel.alive with
    | true => rfl
    | false => simp [up] at ready
  have all : taken ++ (channel.queue ++ [item]) = channel.delivered ++ [item] := by
    rw [← append_assoc, held.all alive]
  exact ⟨all ▸ prefix_rfl, fun _ => all⟩

theorem recv {item : α} {rest : List α} (queue : channel.queue = item :: rest) :
    channel.recv.Taken (taken ++ [item]) := by
  have same : taken ++ [item] ++ channel.queue.tail = taken ++ channel.queue := by
    rw [queue, tail_cons, append_assoc, singleton_append]
  exact ⟨same ▸ held.within, fun alive => same.trans (held.all alive)⟩

theorem dropReceiver : channel.dropReceiver.Taken taken where
  within := (append_nil taken).symm ▸ (prefix_append _ _).trans held.within
  all alive := by cases alive

theorem isPrefix : taken <+: channel.delivered :=
  (prefix_append _ _).trans held.within

end Channel.Taken

namespace Bridge
variable {bridge : Bridge} {action : BridgeAction}

theorem next_callTarget (enabled : bridge.enabled action) (number : Nat) (known : number ≠ bridge.allocated) :
    ((bridge.next action).calls number).host = (bridge.calls number).host ∧
      ((bridge.next action).calls number).port = (bridge.calls number).port ∧
      (((bridge.next action).calls number).dataRx = (bridge.calls number).dataRx ∨
        bridge.Feeds number action ((bridge.next action).calls number).dataRx) := by
  have step := next_call enabled number
  generalize (bridge.next action).calls number = after at step ⊢
  cases step with
  | allocate _ _ _ _ fresh => exact absurd fresh known
  | channel _ feeds => exact ⟨rfl, rfl, .inr feeds⟩
  | same | move _ _ | resolve _ _ | resolveMove _ _ _ _ => exact ⟨rfl, rfl, .inl rfl⟩

end Bridge

namespace Remote
variable {remote : Remote} {action : RemoteAction}

theorem setTask_target (remote : Remote) (task : Nat) {after : OpenTask} (host : after.host = (remote.tasks task).host)
    (port : after.port = (remote.tasks task).port) (number : Nat) :
    ((remote.setTask task after).tasks number).host = (remote.tasks number).host ∧
      ((remote.setTask task after).tasks number).port = (remote.tasks number).port := by
  by_cases same : number = task
  · simp only [setTask, same, update_self, host, port, and_self]
  · simp only [setTask, update_of_ne same, and_self]

theorem next_taskTarget (remote : Remote) (action : RemoteAction) (number : Nat) (known : number ≠ remote.spawned) :
    ((remote.next action).tasks number).host = (remote.tasks number).host ∧
      ((remote.next action).tasks number).port = (remote.tasks number).port := by
  cases action with
  | read frame =>
    cases frame with
    | openTcp id host port egressProxy =>
      simp only [next, readFrame, spawnOpenTcp, setTask, update_of_ne known, and_self]
    | udpPacket id host port data =>
      simp only [next, readFrame]
      split <;> exact ⟨rfl, rfl⟩
    | _ => exact ⟨rfl, rfl⟩
  | deliver =>
    simp only [next]
    split
    next => refine remote.setTask_target _ ?_ ?_ number <;> rfl
    next => exact ⟨rfl, rfl⟩
    next => exact ⟨rfl, rfl⟩
  | clear =>
    simp only [next]
    split
    next id sender chore left _ => cases chore <;> exact ⟨rfl, rfl⟩
    next => exact ⟨rfl, rfl⟩
  | connect task | refuse task _ | insertStream task | sendResult task | recv task | dropReceiver task | sendClose task =>
    refine remote.setTask_target task ?_ ?_ number <;> rfl
  | finish task => refine (remote.removeStream _).setTask_target task ?_ ?_ number <;> rfl
  | _ => exact ⟨rfl, rfl⟩

theorem streamData_sendData (remote : Remote) (task : Nat) (data : Bytes) :
    streamData (remote.emits (.sendData task data)) =
      if remote.writerUp = true then [((remote.tasks task).id, data)] else [] := by
  simp only [emits, send]
  split <;> rfl

theorem streamData_emits (quiet : ∀ task data, action ≠ .sendData task data) : streamData (remote.emits action) = [] := by
  refine streamData_eq_nil fun id data member => ?_
  cases (emits_sends member).1 with
  | data task data => exact quiet task data rfl

end Remote

namespace Pair
variable {pair : Pair}

/-- Requests and tasks carry the target of the call they come from. -/
structure Named (pair : Pair) : Prop where
  requests : ∀ id host port egressProxy, .openTcp id host port egressProxy ∈ pair.sentToRemote → ∃ call,
    (pair.bridge.calls call).id = id ∧ 4 ≤ (pair.bridge.calls call).phase.rank ∧
      (pair.bridge.calls call).host = host ∧ (pair.bridge.calls call).port = port
  tasks : ∀ task, 0 < (pair.remote.tasks task).phase.rank → ∃ egressProxy,
    .openTcp (pair.remote.tasks task).id (pair.remote.tasks task).host (pair.remote.tasks task).port egressProxy ∈
      pair.sentToRemote

theorem Named.bridge_next (named : pair.Named) (coherent : pair.Coherent) {action : BridgeAction}
    (enabled : pair.bridge.enabled action) : (pair.next (.bridge action)).Named where
  requests id host port egressProxy sent := by
    have kept (call : Nat) (started : 0 < (pair.bridge.calls call).phase.rank) :=
      Bridge.next_callTarget enabled call (Nat.ne_of_lt (coherent.bridge.known call started))
    rcases mem_append.mp sent with before | now
    · obtain ⟨call, own, rank, sameHost, samePort⟩ := named.requests id host port egressProxy before
      have started := Nat.lt_of_lt_of_le (Nat.succ_pos 3) rank
      have advances := coherent.bridge.advances enabled call started
      exact ⟨call, advances.id.trans own, Nat.le_trans rank advances.rank, (kept call started).1.trans sameHost,
        (kept call started).2.1.trans samePort⟩
    · cases (Bridge.emits_sends now).1 with
      | openTcp call =>
        have started : 0 < (pair.bridge.calls call).phase.rank := by
          rw [show (pair.bridge.calls call).phase = .registered from enabled]
          decide
        exact ⟨call, (coherent.bridge.advances enabled call started).id, pair.bridge.sendOpen_call call,
          (kept call started).1, (kept call started).2.1⟩
  tasks task started := by
    obtain ⟨egressProxy, sent⟩ := named.tasks task started
    exact ⟨egressProxy, mem_append_left _ sent⟩

theorem Named.remote_next (named : pair.Named) (coherent : pair.Coherent) {action : RemoteAction}
    (enabled : pair.remote.enabled action) (arrived : action.consumes <+: pair.toRemote) :
    (pair.next (.remote action)).Named where
  requests := named.requests
  tasks task started := by
    simp only [next] at started ⊢
    rcases Remote.next_advances enabled task with advances | ⟨rfl, id, host, port, egressProxy, rfl⟩
    · have before := advances.started started
      obtain ⟨host, port⟩ := pair.remote.next_taskTarget action task (Nat.ne_of_lt (coherent.remote.known task before))
      rw [advances.id, host, port]
      exact named.tasks task before
    · refine ⟨egressProxy, coherent.toRemote (arrived.subset ?_)⟩
      simp only [Remote.next, Remote.readFrame, Remote.spawnOpenTcp, Remote.setTask, update_self]
      exact mem_singleton_self _

theorem Named.of_reachable {defaultEgressProxy : Option String}
    (reached : (machine defaultEgressProxy).Reachable pair) : pair.Named := by
  refine reached.invariant Named ⟨nofun, fun _ started => absurd started (Nat.lt_irrefl 0)⟩
    fun pair action before named enabled _ => ?_
  have coherent := Coherent.of_reachable before
  cases action with
  | bridge action => exact named.bridge_next coherent enabled.1
  | remote action => exact named.remote_next coherent enabled.1 enabled.2
  | loseToRemote keep | loseToBridge keep => exact ⟨named.requests, named.tasks⟩

theorem Named.target (named : pair.Named) (coherent : pair.Coherent) (few : pair.bridge.allocated < 2 ^ 32)
    {call task : Nat} (started : 0 < (pair.bridge.calls call).phase.rank)
    (taskStarted : 0 < (pair.remote.tasks task).phase.rank)
    (same : (pair.remote.tasks task).id = (pair.bridge.calls call).id) :
    (pair.remote.tasks task).host = (pair.bridge.calls call).host ∧
      (pair.remote.tasks task).port = (pair.bridge.calls call).port := by
  obtain ⟨egressProxy, sent⟩ := named.tasks task taskStarted
  obtain ⟨other, own, rank, host, port⟩ := named.requests _ _ _ egressProxy sent
  have equal := coherent.bridge.id_injective few (Nat.lt_of_lt_of_le (Nat.succ_pos 3) rank) started (own.trans same)
  rw [← equal]
  exact ⟨host.symm, port.symm⟩

/-- The helper sends on a stream what it has read from the stream's target, and loses nothing
before its writer is gone. -/
structure Tapped (pair : Pair) (targets : Nat → Bytes) : Prop where
  sent : ∀ task, 0 < (pair.remote.tasks task).phase.rank → ∃ lost,
    (payloads (pair.remote.tasks task).id pair.sentToBridge).flatten ++ lost = targets task ∧
      (pair.remote.writerUp = true → lost = [])
  unread : ∀ task, (pair.remote.tasks task).phase.rank = 0 → targets task = []

theorem payloads_eq_nil {id : UInt32} {frames : List Frame} (silent : ∀ data, .data id data ∉ frames) :
    payloads id frames = [] := by
  apply itemsOf_eq_nil
  intro data member
  obtain ⟨frame, sent, carries⟩ := mem_filterMap.mp member
  cases frame <;> cases carries
  exact silent data sent

theorem Coherent.payloads_nil (coherent : pair.Coherent) (few : pair.bridge.allocated < 2 ^ 32) {task : Nat}
    (started : 0 < (pair.remote.tasks task).phase.rank) (silent : (pair.remote.tasks task).phase.answered = false) :
    payloads (pair.remote.tasks task).id pair.sentToBridge = [] := by
  apply payloads_eq_nil
  intro data sent
  obtain ⟨other, own, answered⟩ := coherent.replies _ data sent
  have rank := Nat.lt_of_lt_of_le (Nat.succ_pos 3) (TaskPhase.answered_rank answered)
  rw [coherent.task_injective few rank started own, silent] at answered
  cases answered

theorem payloads_append (id : UInt32) (left right : List Frame) :
    payloads id (left ++ right) = payloads id left ++ itemsOf id (streamData right) := by
  rw [payloads, streamData_append, itemsOf_append]
  rfl

namespace Tapped
variable {targets : Nat → Bytes}

variable (tapped : pair.Tapped targets) (coherent : pair.Coherent) (few : pair.bridge.allocated < 2 ^ 32)
include tapped coherent few

theorem sendData {number : Nat} (data : Bytes) (answered : (pair.remote.tasks number).phase.answered = true) :
    (pair.next (.remote (.sendData number data))).Tapped (update targets number (targets number ++ data)) := by
  have started := Nat.lt_of_lt_of_le (Nat.succ_pos 3) (TaskPhase.answered_rank answered)
  refine ⟨fun task taskStarted => ?_, fun task idle => ?_⟩
  · change 0 < (pair.remote.tasks task).phase.rank at taskStarted
    obtain ⟨lost, whole, none⟩ := tapped.sent task taskStarted
    simp only [next, payloads_append, Remote.streamData_sendData]
    by_cases same : task = number
    · subst same
      rw [update_self]
      cases up : pair.remote.writerUp with
      | true =>
        rw [none up, append_nil] at whole
        refine ⟨[], ?_, fun _ => rfl⟩
        simp [← whole, Remote.next]
      | false =>
        refine ⟨lost ++ data, ?_, fun again => ?_⟩
        · simp [← whole, Remote.next]
        · cases up.symm.trans again
    · have apart : (pair.remote.tasks number).id ≠ (pair.remote.tasks task).id := by
        intro equal
        exact same (coherent.task_injective few taskStarted started equal.symm)
      rw [update_of_ne same]
      refine ⟨lost, ?_, none⟩
      rw [← whole]
      split <;> simp [Remote.next, itemsOf_cons_of_ne apart]
  · have other : task ≠ number := by
      rintro rfl
      exact absurd started (Nat.not_lt_of_le (Nat.le_of_eq idle))
    rw [update_of_ne other]
    exact tapped.unread task idle

theorem quiet {action : RemoteAction} (enabled : pair.remote.enabled action)
    (arrived : action.consumes <+: pair.toRemote) (quiet : ∀ task data, action ≠ .sendData task data) :
    (pair.next (.remote action)).Tapped targets := by
  have after := coherent.remote_next enabled arrived
  refine ⟨fun task started => ?_, fun task idle => ?_⟩
  · rcases Remote.next_advances enabled task with advances | ⟨rfl, id, spawns⟩
    · obtain ⟨lost, whole, none⟩ := tapped.sent task (advances.started started)
      refine ⟨lost, ?_, fun up => none (Remote.next_writerUp up)⟩
      simp only [next, payloads_append, Remote.streamData_emits quiet, itemsOf_nil, append_nil, advances.id]
      exact whole
    · have idle : (pair.remote.tasks pair.remote.spawned).phase.rank = 0 :=
        Nat.eq_zero_of_not_pos fun known => Nat.lt_irrefl _ (coherent.remote.known _ known)
      have silent : ((pair.remote.next action).tasks pair.remote.spawned).phase.answered = false := by
        rw [(pair.remote.spawn_task spawns).2.1]
        rfl
      refine ⟨[], ?_, fun _ => rfl⟩
      rw [after.payloads_nil few started silent, tapped.unread _ idle]
      rfl
  · refine tapped.unread task ?_
    rcases Remote.next_advances enabled task with advances | ⟨rfl, _, _⟩
    · exact Nat.le_zero.mp (idle ▸ advances.rank)
    · exact Nat.eq_zero_of_not_pos fun known => Nat.lt_irrefl _ (coherent.remote.known _ known)

theorem next {action : PairAction} (enabled : pair.enabled action) :
    (pair.next action).Tapped (SpxFixedTunnel.readTargets targets action) := by
  cases action with
  | remote action =>
    by_cases sends : ∃ task data, action = .sendData task data
    · obtain ⟨task, data, rfl⟩ := sends
      exact tapped.sendData coherent few data enabled.1
    · have quiet : ∀ task data, action ≠ .sendData task data := fun task data same => sends ⟨task, data, same⟩
      have same : SpxFixedTunnel.readTargets targets (.remote action) = targets := by
        unfold SpxFixedTunnel.readTargets
        split
        next task data equal => cases equal; exact absurd rfl (quiet task data)
        next => rfl
      rw [same]
      exact tapped.quiet coherent few enabled.1 enabled.2 quiet
  | bridge action | loseToRemote keep | loseToBridge keep => exact ⟨tapped.sent, tapped.unread⟩

end Tapped
end Pair
end SshProxy
