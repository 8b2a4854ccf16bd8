import SshProxy.Proofs.RemoteSteps

/-! The helper's own invariant, and its reader as a demultiplexer. -/

namespace SshProxy
open Function Library

namespace Remote
variable {remote : Remote} {action : RemoteAction}

def reader (remote : Remote) : ReaderLoop where
  streams := remote.tcpStreams
  reading := remote.reading
  delivered number := (remote.tasks number).streamRx.delivered

structure Valid (remote : Remote) : Prop where
  known : ∀ number, 0 < (remote.tasks number).phase.rank → number < remote.spawned
  owned : remote.reader.Owned (fun number => (remote.tasks number).id) fun number => 3 ≤ (remote.tasks number).phase.rank

theorem Valid.initial (defaultEgressProxy : Option String) : Valid { defaultEgressProxy } where
  known _ started := absurd started (Nat.lt_irrefl 0)
  owned := ⟨nofun, nofun, fun _ _ => rfl⟩

theorem Valid.advances (valid : remote.Valid) (enabled : remote.enabled action) (number : Nat)
    (started : 0 < (remote.tasks number).phase.rank) :
    (remote.tasks number).Advances (action = .deliver) ((remote.next action).tasks number) := by
  rcases next_advances enabled number with advances | ⟨same, _⟩
  · exact advances
  · exact absurd (valid.known number started) (same ▸ Nat.lt_irrefl _)

theorem insertStream_task (remote : Remote) (number : Nat) :
    (remote.next (.insertStream number)).tasks number = { remote.tasks number with phase := .registered } := by
  simp only [next, addStream, setPhase, setTask, update_self]

theorem sendResult_task (remote : Remote) (number : Nat) :
    ((remote.next (.sendResult number)).tasks number).id = (remote.tasks number).id ∧
      ((remote.next (.sendResult number)).tasks number).phase.answered = true := by
  simp only [next, setPhase, setTask, update_self, true_and]
  rfl

theorem spawn_task (remote : Remote) {id : UInt32} (spawns : Spawns action id) :
    ((remote.next action).tasks remote.spawned).id = id ∧
      ((remote.next action).tasks remote.spawned).phase = .connecting ∧
      ((remote.next action).tasks remote.spawned).streamRx = {} := by
  obtain ⟨host, port, egressProxy, rfl⟩ := spawns
  simp only [next, readFrame, spawnOpenTcp, setTask, update_self, and_self]

theorem Valid.unspawned (valid : remote.Valid) : ¬ 3 ≤ (remote.tasks remote.spawned).phase.rank := by
  intro started
  exact absurd (valid.known _ (Nat.lt_of_lt_of_le (Nat.succ_pos 2) started)) (Nat.lt_irrefl _)

private theorem Valid.delivered_same (valid : remote.Valid) (enabled : remote.enabled action)
    (idle : action ≠ .deliver) : (remote.next action).reader.delivered = remote.reader.delivered := by
  funext number
  rcases next_advances enabled number with advances | ⟨rfl, id, spawns⟩
  · exact advances.delivered.resolve_right idle
  · simp only [reader, (spawn_task remote spawns).2.2]
    exact (valid.owned.undelivered _ valid.unspawned).symm

private theorem delivery_step (remote : Remote) (owner : Nat → UInt32) (registers : Nat → Prop) :
    ReaderLoop.Step owner registers remote.reader [] (remote.next .deliver).reader := by
  cases reading : remote.reading with
  | tcp id slot data =>
    have after : (remote.next .deliver).reader = { remote.reader with
        reading := .idle
        delivered := update remote.reader.delivered slot (remote.reader.delivered slot ++ [data]) } := by
      simp only [reader, next, reading, setTask, ReaderLoop.mk.injEq, true_and]
      funext number
      by_cases same : number = slot
      · simp [same, Channel.send]
      · simp [update_of_ne same]
    exact after ▸ .deliver id slot data reading
  | udp id slot datagram =>
    have after : (remote.next .deliver).reader = { remote.reader with reading := .idle } := by
      simp only [reader, next, reading, setUdpTask]
    exact after ▸ .pass _ rfl (by rw [reader, reading]; rfl) (fun _ => by rw [reader, reading]; rfl) rfl
  | _ =>
    have same : remote.next .deliver = remote := by simp [next, reading]
    rw [same]
    exact .task rfl (fun _ _ found => found) rfl rfl

private theorem Valid.clearing_step (valid : remote.Valid) (enabled : remote.enabled .clear) (owner : Nat → UInt32)
    (registers : Nat → Prop) : ReaderLoop.Step owner registers remote.reader [] (remote.next .clear).reader := by
  cases reading : remote.reading with
  | clearing id sender chore left =>
    have after : (remote.next .clear).reader = { remote.reader with
        reading := .clear id sender left
        streams := if chore = .dropTcp then update remote.tcpStreams id none else remote.tcpStreams } := by
      ext1
      · simp only [reader, Remote.next, reading]
        cases chore <;> rfl
      · simp only [reader, Remote.next, reading]
      · exact valid.delivered_same enabled (by simp)
    exact after ▸ .clear id sender chore left reading
  | _ =>
    rw [Remote.enabled, reading] at enabled
    cases enabled

theorem Valid.reader_step (valid : remote.Valid) (enabled : remote.enabled action) :
    ReaderLoop.Step (fun number => (remote.tasks number).id) (fun number => action = .insertStream number) remote.reader
      action.consumes (remote.next action).reader := by
  have shrinks (registers : ∀ number, action ≠ .insertStream number) (id : UInt32) (number : Nat)
      (found : (remote.next action).tcpStreams id = some number) : remote.tcpStreams id = some number :=
    (next_tcpStreams found).resolve_right fun inserted => registers number inserted.1
  have kept := valid.delivered_same enabled
  cases action with
  | insertStream number =>
    have phase : (remote.tasks number).phase = .connected := enabled
    have after : (remote.next (.insertStream number)).reader = { remote.reader with
        streams := update remote.reader.streams (remote.tasks number).id (some number) } :=
      ReaderLoop.ext rfl rfl (kept (by simp))
    exact after ▸ .insert number rfl (valid.owned.unused (phase ▸ Nat.not_succ_le_self 2))
  | deliver => exact delivery_step remote _ _
  | receiverGone | backpressure => exact .of_giveUp (fun id slot data held => (valid.owned.reading id slot data held).1) _ _
  | clear => exact valid.clearing_step enabled _ _
  | read frame =>
    have idle : remote.reading = .idle := enabled
    cases frame with
    | data id data =>
      have after : (remote.next (.read (.data id data))).reader = { remote.reader with
          reading := (remote.reader.streams id).elim remote.reader.reading (.tcp id · data) } := by
        simp only [reader, Remote.next, readFrame]
        cases remote.tcpStreams id <;> rfl
      exact after ▸ .data id data idle
    | udpPacket id host port data =>
      have after : (remote.next (.read (.udpPacket id host port data))).reader = { remote.reader with
          reading := (remote.next (.read (.udpPacket id host port data))).reading } := by
        simp only [reader, Remote.next, readFrame]
        split <;> rfl
      rw [after]
      refine .of_idle idle rfl ?_
      simp only [Remote.next, readFrame]
      split <;> rfl
    | close => exact .of_idle idle rfl rfl
    | _ => exact .task rfl (shrinks (by simp)) rfl (kept (by simp))
  | stopReader =>
    have idle : remote.reading = .idle := enabled
    exact .of_idle idle rfl rfl
  | _ => exact .task rfl (shrinks (by simp)) rfl (kept (by simp))

theorem Valid.next (valid : remote.Valid) (enabled : remote.enabled action) : (remote.next action).Valid where
  known number started := by
    rcases next_spawned remote action with ⟨same, none⟩ | ⟨more, spawns⟩
    · rcases next_advances enabled number with advances | ⟨_, id, spawns⟩
      · exact same ▸ valid.known number (advances.started started)
      · exact absurd spawns (none id)
    · rcases next_advances enabled number with advances | ⟨fresh, _⟩
      · exact more ▸ Nat.lt_succ_of_lt (valid.known number (advances.started started))
      · exact more ▸ fresh ▸ Nat.lt_succ_self _
  owned := by
    apply (valid.reader_step enabled).owned valid.owned
    intro number started
    rcases started with started | rfl
    · have advances := valid.advances enabled number (Nat.lt_of_lt_of_le (Nat.succ_pos 2) started)
      exact ⟨advances.id, Nat.le_trans started advances.rank⟩
    · rw [insertStream_task]
      exact ⟨rfl, Nat.le_refl 3⟩

theorem Valid.relinks (valid : remote.Valid) (enabled : remote.enabled action) (number : Nat) :
    ((remote.next action).tasks number).id = (remote.tasks number).id ∨ (remote.next action).reader.demux.Unused number := by
  rcases next_advances enabled number with advances | ⟨rfl, id, spawns⟩
  · exact .inl advances.id
  · refine .inr ((valid.next enabled).owned.unused ?_)
    rw [(spawn_task remote spawns).2.1]
    decide

end Remote
end SshProxy
