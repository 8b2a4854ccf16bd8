import SshProxy.Proofs.ReaderDemux
import SshProxy.Remote

/-! What one action of the helper can do to a task, to a table and to the wire. -/

namespace SshProxy
open Function Library TaskPhase

def TaskPhase.rank : TaskPhase → Nat
  | .idle => 0
  | .connecting => 1
  | .refused => 1
  | .connected => 2
  | .registered => 3
  | .relaying => 4
  | .closing => 5
  | .finished => 6

theorem TaskPhase.rank_pos {phase : TaskPhase} (started : phase ≠ .idle) : 0 < phase.rank := by
  cases phase <;> first | contradiction | exact Nat.succ_pos _

theorem TaskPhase.answered_rank {phase : TaskPhase} (answered : phase.answered = true) : 4 ≤ phase.rank := by
  cases phase with
  | relaying | closing | finished => decide
  | _ => cases answered

/-- One action changes a task this way. `fed` is the event that puts data into its channel. -/
structure OpenTask.Advances (fed : Prop) (before after : OpenTask) : Prop where
  id : after.id = before.id
  rank : before.phase.rank ≤ after.phase.rank
  started : 0 < after.phase.rank → 0 < before.phase.rank
  answered : before.phase.answered = true → after.phase.answered = true
  delivered : after.streamRx.delivered = before.streamRx.delivered ∨ fed

namespace OpenTask.Advances
variable {fed : Prop} (task : OpenTask)

theorem refl : task.Advances fed task :=
  ⟨rfl, Nat.le_refl _, fun started => started, fun answered => answered, .inl rfl⟩

theorem channel (streamRx : Channel Bytes)
    (same : streamRx.delivered = task.streamRx.delivered ∨ fed) : task.Advances fed { task with streamRx } :=
  ⟨rfl, Nat.le_refl _, fun started => started, fun answered => answered, same⟩

theorem phase (phase : TaskPhase) (started : 0 < task.phase.rank) (rank : task.phase.rank ≤ phase.rank)
    (answered : task.phase.answered = true → phase.answered = true) : task.Advances fed { task with phase } :=
  ⟨rfl, rank, fun _ => started, answered, .inl rfl⟩

end OpenTask.Advances

namespace Remote
variable {remote : Remote} {action : RemoteAction} {fed : Prop}

theorem setTask_advances (remote : Remote) (number : Nat) {task : OpenTask}
    (advances : (remote.tasks number).Advances fed task) (other : Nat) :
    (remote.tasks other).Advances fed ((remote.setTask number task).tasks other) := by
  by_cases same : other = number
  · subst same
    simpa only [setTask, update_self] using advances
  · simpa only [setTask, update_of_ne same] using .refl _

def Spawns (action : RemoteAction) (id : UInt32) : Prop :=
  ∃ host port egressProxy, action = .read (.openTcp id host port egressProxy)

theorem next_advances (enabled : remote.enabled action) (number : Nat) :
    (remote.tasks number).Advances (action = .deliver) ((remote.next action).tasks number) ∨
      number = remote.spawned ∧ ∃ id, Spawns action id := by
  cases action with
  | read frame =>
    cases frame with
    | openTcp id host port egressProxy =>
      by_cases same : number = remote.spawned
      · exact .inr ⟨same, id, host, port, egressProxy, rfl⟩
      · refine .inl ?_
        simpa only [next, readFrame, spawnOpenTcp, setTask, update_of_ne same] using .refl _
    | udpPacket id host port data =>
      simp only [next, readFrame]
      split <;> exact .inl (.refl _)
    | _ => exact .inl (.refl _)
  | deliver =>
    simp only [next]
    split
    next => exact .inl (remote.setTask_advances _ (.channel _ _ (.inr trivial)) number)
    next => exact .inl (.refl _)
    next => exact .inl (.refl _)
  | clear =>
    simp only [next]
    split
    next id sender chore left _ => cases chore <;> exact .inl (.refl _)
    next => exact .inl (.refl _)
  | connect task | refuse task error =>
    have phase : (remote.tasks task).phase = .connecting := enabled
    refine .inl (remote.setTask_advances task (.phase _ _ ?_ ?_ ?_) number) <;> simp [phase, rank, answered]
  | insertStream task =>
    have phase : (remote.tasks task).phase = .connected := enabled
    refine .inl (remote.setTask_advances task (.phase _ _ ?_ ?_ ?_) number) <;> simp [phase, rank, answered]
  | sendResult task =>
    have phase : (remote.tasks task).phase = .registered := enabled
    refine .inl (remote.setTask_advances task (.phase _ _ ?_ ?_ ?_) number) <;> simp [phase, rank, answered]
  | recv task => exact .inl (remote.setTask_advances task (.channel _ (Channel.recv _) (.inl rfl)) number)
  | dropReceiver task =>
    exact .inl (remote.setTask_advances task (.channel _ (Channel.dropReceiver _) (.inl rfl)) number)
  | finish task =>
    have phase : (remote.tasks task).phase = .relaying := enabled
    refine .inl ((remote.removeStream _).setTask_advances task (.phase _ _ ?_ ?_ ?_) number) <;>
      simp [removeStream, phase, rank, answered]
  | sendClose task =>
    have phase : (remote.tasks task).phase = .closing := enabled
    refine .inl (remote.setTask_advances task (.phase _ _ ?_ ?_ ?_) number) <;> simp [phase, rank, answered]
  | _ => exact .inl (.refl _)

theorem next_spawned (remote : Remote) (action : RemoteAction) :
    (remote.next action).spawned = remote.spawned ∧ (∀ id, ¬ Spawns action id) ∨
      (remote.next action).spawned = remote.spawned + 1 ∧ ∃ id, Spawns action id := by
  have other (still : ∀ id host port egressProxy, action ≠ .read (.openTcp id host port egressProxy)) (id : UInt32) :
      ¬ Spawns action id := by
    rintro ⟨host, port, egressProxy, same⟩
    exact still id host port egressProxy same
  cases action with
  | read frame =>
    cases frame with
    | openTcp id host port egressProxy => exact .inr ⟨rfl, id, host, port, egressProxy, rfl⟩
    | udpPacket id host port data =>
      refine .inl ⟨?_, other (by simp)⟩
      simp only [next, readFrame]
      split <;> rfl
    | _ => exact .inl ⟨rfl, other (by simp)⟩
  | deliver =>
    refine .inl ⟨?_, other (by simp)⟩
    simp only [next]
    split <;> rfl
  | clear =>
    refine .inl ⟨?_, other (by simp)⟩
    simp only [next]
    split
    next id sender chore left _ => cases chore <;> rfl
    next => rfl
  | _ => exact .inl ⟨rfl, other (by simp)⟩

theorem next_writerUp (up : (remote.next action).writerUp = true) : remote.writerUp = true := by
  cases action with
  | failWriter => cases up
  | deliver => simp only [next] at up; split at up <;> exact up
  | clear =>
    simp only [next] at up
    split at up
    next id sender chore left _ => cases chore <;> exact up
    next => exact up
  | read frame =>
    cases frame with
    | udpPacket => simp only [next, readFrame] at up; split at up <;> exact up
    | _ => exact up
  | _ => exact up

variable {id : UInt32} {number : Nat}

theorem next_tcpStreams (found : (remote.next action).tcpStreams id = some number) :
    remote.tcpStreams id = some number ∨ action = .insertStream number ∧ id = (remote.tasks number).id := by
  cases action with
  | read frame =>
    cases frame with
    | udpPacket => simp only [next, readFrame] at found; split at found <;> exact .inl found
    | _ => exact .inl found
  | deliver => simp only [next] at found; split at found <;> exact .inl found
  | clear =>
    simp only [next] at found
    split at found
    next id sender chore left _ =>
      cases chore with
      | dropTcp => exact .inl (entry_of_remove found)
      | _ => exact .inl found
    next => exact .inl found
  | insertStream task =>
    rcases entry_of_insert found with kept | ⟨same, rfl⟩
    · exact .inl kept
    · exact .inr ⟨rfl, same⟩
  | finish task => exact .inl (entry_of_remove found)
  | _ => exact .inl found

theorem setUdpTask_started {number other : Nat} {task : UdpTask} (same : task.id = (remote.udpTasks number).id)
    (before : (remote.udpTasks number).phase ≠ .idle ∨ task.phase = .idle)
    (started : ((remote.setUdpTask number task).udpTasks other).phase ≠ .idle) :
    ((remote.setUdpTask number task).udpTasks other).id = (remote.udpTasks other).id ∧
      (remote.udpTasks other).phase ≠ .idle := by
  by_cases equal : other = number
  · subst equal
    simp only [setUdpTask, update_self] at started ⊢
    exact ⟨same, before.resolve_right started⟩
  · simp only [setUdpTask, update_of_ne equal] at started ⊢
    exact ⟨trivial, started⟩

theorem next_udpTask (enabled : remote.enabled action) (started : ((remote.next action).udpTasks number).phase ≠ .idle) :
    ((remote.next action).udpTasks number).id = (remote.udpTasks number).id ∧ (remote.udpTasks number).phase ≠ .idle ∨
      ∃ host port data, action = .read (.udpPacket ((remote.next action).udpTasks number).id host port data) := by
  cases action with
  | read frame =>
    cases frame with
    | udpPacket id host port data =>
      simp only [next, readFrame] at started ⊢
      split at started
      next => exact .inl ⟨rfl, started⟩
      next =>
        by_cases equal : number = remote.spawnedUdp
        · subst equal
          exact .inr ⟨host, port, data, by simp [spawnUdpAssoc, setUdpTask]⟩
        · simp only [spawnUdpAssoc, setUdpTask, update_of_ne equal] at started ⊢
          exact .inl ⟨trivial, started⟩
    | _ => exact .inl ⟨rfl, started⟩
  | deliver =>
    simp only [next] at started ⊢
    split at started
    next => exact .inl ⟨rfl, started⟩
    next => exact .inl (setUdpTask_started rfl (Classical.em _).symm started)
    next => exact .inl ⟨rfl, started⟩
  | clear =>
    simp only [next] at started ⊢
    split at started
    next id sender chore left _ => cases chore <;> exact .inl ⟨rfl, started⟩
    next => exact .inl ⟨rfl, started⟩
  | bindUdp task | failBind task error =>
    have phase : (remote.udpTasks task).phase = .binding := enabled
    exact .inl (setUdpTask_started rfl (.inl (by simp [phase])) started)
  | recvUdp task =>
    have phase : (remote.udpTasks task).phase = .bound := enabled
    exact .inl (setUdpTask_started rfl (.inl (by simp [phase])) started)
  | endUdp task =>
    refine .inl (setUdpTask_started rfl (.inl ?_) started)
    rcases (enabled : _ ∨ _ ∧ _) with phase | ⟨phase, _⟩ <;> simp [phase]
  | _ => exact .inl ⟨rfl, started⟩

theorem mem_send {frame other : Frame} (member : frame ∈ remote.send other) :
    frame = other ∧ remote.writerUp = true := by
  unfold send at member
  split at member
  next up => exact ⟨List.mem_singleton.mp member, up⟩
  next => cases member

inductive Sends (remote : Remote) : RemoteAction → Frame → Prop where
  | refuse (task : Nat) (error : String) :
      Sends remote (.refuse task error) (.openTcpResult (remote.tasks task).id false error)
  | result (task : Nat) : Sends remote (.sendResult task) (.openTcpResult (remote.tasks task).id true "")
  | data (task : Nat) (data : Bytes) : Sends remote (.sendData task data) (.data (remote.tasks task).id data)
  | udpPacket (task : Nat) (datagram : UdpDatagram) : Sends remote (.sendUdp task datagram)
      (.udpPacket (remote.udpTasks task).id datagram.host datagram.port datagram.data)
  | close (action : RemoteAction) (id : UInt32) (reason : String) : Sends remote action (.close id reason)

theorem emits_sends {frame : Frame} (member : frame ∈ remote.emits action) :
    remote.Sends action frame ∧ remote.writerUp = true := by
  unfold emits at member
  split at member
  case h_1 =>
    split at member
    next =>
      obtain ⟨rfl, up⟩ := mem_send member
      exact ⟨.close .., up⟩
    next => cases member
  case h_8 => cases member
  all_goals
    obtain ⟨rfl, up⟩ := mem_send member
    exact ⟨by constructor, up⟩

end Remote
end SshProxy
