import SshProxy.Proofs.BridgeSteps
import SshProxy.Proofs.ReaderDemux

/-! The controller's own invariant: ids belong to calls and associations in the order
of their allocation, and a table never holds a sender of a call that has not got
so far. With it the reader refines a demultiplexer. -/

namespace SshProxy
open Function Library

namespace Bridge
variable {bridge : Bridge} {action : BridgeAction}

def reader (bridge : Bridge) : ReaderLoop where
  streams := bridge.tcpStreams
  reading := bridge.reading
  delivered number := (bridge.calls number).dataRx.delivered

structure Valid (bridge : Bridge) : Prop where
  nextId : bridge.nextId = UInt32.ofNat (bridge.allocated + 1)
  known : ∀ number, 0 < (bridge.calls number).phase.rank → number < bridge.allocated
  callId : ∀ number, 0 < (bridge.calls number).phase.rank → (bridge.calls number).id = UInt32.ofNat (number + 1)
  pending : ∀ id number, bridge.pendingTcp id = some number →
    (bridge.calls number).id = id ∧ 2 ≤ (bridge.calls number).phase.rank
  owned : bridge.reader.Owned (fun number => (bridge.calls number).id) fun number => 3 ≤ (bridge.calls number).phase.rank

theorem Valid.initial : Valid {} where
  nextId := rfl
  known _ started := absurd started (Nat.lt_irrefl 0)
  callId _ started := absurd started (Nat.lt_irrefl 0)
  pending _ _ found := by cases found
  owned := ⟨nofun, nofun, fun _ _ => rfl⟩

theorem Valid.advances (valid : bridge.Valid) (enabled : bridge.enabled action) (number : Nat)
    (started : 0 < (bridge.calls number).phase.rank) :
    (bridge.calls number).Advances (bridge.Grants action number) (action = .deliver)
      ((bridge.next action).calls number) := by
  rcases next_advances enabled number with advances | ⟨same, _⟩
  · exact advances
  · exact absurd (valid.known number started) (same ▸ Nat.lt_irrefl _)

theorem insertPending_call (bridge : Bridge) (number : Nat) :
    ((bridge.next (.insertPending number)).calls number).id = (bridge.calls number).id ∧
      ((bridge.next (.insertPending number)).calls number).phase = .pending := by
  simp only [next, addPending, setPhase, setCall, update_self, resolvePending_calls, and_true]
  split <;> rfl

theorem insertStream_call (bridge : Bridge) (number : Nat) :
    (bridge.next (.insertStream number)).calls number = { bridge.calls number with phase := .registered } := by
  simp only [next, addStream, setPhase, setCall, update_self]

theorem sendOpen_call (bridge : Bridge) (number : Nat) :
    4 ≤ ((bridge.next (.sendOpen number)).calls number).phase.rank := by
  simp only [next, setPhase, setCall, update_self]
  split <;> decide

theorem openTcp_call (bridge : Bridge) (host : String) (port : UInt16) (egressProxy : Option String) :
    (bridge.next (.openTcp host port egressProxy)).calls bridge.allocated =
      { id := bridge.nextId, host, port, egressProxy, phase := .allocated } := by
  simp only [next, setCall, update_self]

private theorem Valid.delivered_kept (valid : bridge.Valid) (enabled : bridge.enabled action)
    (idle : action ≠ .deliver) : (bridge.next action).reader.delivered = bridge.reader.delivered := by
  funext number
  rcases next_advances enabled number with advances | ⟨rfl, host, port, egressProxy, rfl⟩
  · exact advances.delivered.resolve_right idle
  · have fresh : ¬ 3 ≤ (bridge.calls bridge.allocated).phase.rank := fun started =>
      absurd (valid.known _ (Nat.lt_of_lt_of_le (Nat.succ_pos 2) started)) (Nat.lt_irrefl _)
    simp only [reader, openTcp_call]
    exact (valid.owned.undelivered _ fresh).symm

private theorem deliver_step (bridge : Bridge) (owner : Nat → UInt32) (registers : Nat → Prop) :
    ReaderLoop.Step owner registers bridge.reader [] (bridge.next .deliver).reader := by
  cases reading : bridge.reading with
  | tcp id slot data =>
    have after : (bridge.next .deliver).reader = { bridge.reader with
        reading := .idle
        delivered := update bridge.reader.delivered slot (bridge.reader.delivered slot ++ [data]) } := by
      simp only [reader, next, reading, setCall, ReaderLoop.mk.injEq, true_and]
      funext number
      by_cases same : number = slot
      · simp [same, Channel.send]
      · simp [update_of_ne same]
    exact after ▸ .deliver id slot data reading
  | udp id slot datagram =>
    have after : (bridge.next .deliver).reader = { bridge.reader with reading := .idle } := by
      simp only [reader, next, reading, setAssoc]
    exact after ▸ .pass _ rfl (by rw [reader, reading]; rfl) (fun _ => by rw [reader, reading]; rfl) rfl
  | _ =>
    have same : bridge.next .deliver = bridge := by simp [next, reading]
    rw [same]
    exact .task rfl (fun _ _ found => found) rfl rfl

private theorem Valid.clear_step (valid : bridge.Valid) (enabled : bridge.enabled .clear) (owner : Nat → UInt32)
    (registers : Nat → Prop) : ReaderLoop.Step owner registers bridge.reader [] (bridge.next .clear).reader := by
  cases reading : bridge.reading with
  | clearing id sender chore left =>
    have after : (bridge.next .clear).reader = { bridge.reader with
        reading := .clear id sender left
        streams := if chore = .dropTcp then update bridge.tcpStreams id none else bridge.tcpStreams } := by
      ext1
      · simp only [reader, Bridge.next, reading]
        cases chore <;> rfl
      · simp only [reader, Bridge.next, reading]
      · exact valid.delivered_kept enabled (by simp)
    exact after ▸ .clear id sender chore left reading
  | _ =>
    rw [Bridge.enabled, reading] at enabled
    cases enabled

theorem Valid.reader_step (valid : bridge.Valid) (enabled : bridge.enabled action) :
    ReaderLoop.Step (fun number => (bridge.calls number).id) (fun number => action = .insertStream number) bridge.reader
      action.consumes (bridge.next action).reader := by
  have shrinks (registers : ∀ number, action ≠ .insertStream number) (id : UInt32) (number : Nat)
      (found : (bridge.next action).tcpStreams id = some number) : bridge.tcpStreams id = some number :=
    (next_tcpStreams found).resolve_right fun inserted => registers number inserted.1
  have kept := valid.delivered_kept enabled
  cases action with
  | insertStream number =>
    have phase : (bridge.calls number).phase = .pending := enabled
    have after : (bridge.next (.insertStream number)).reader = { bridge.reader with
        streams := update bridge.reader.streams (bridge.calls number).id (some number) } :=
      ReaderLoop.ext rfl rfl (kept (by simp))
    exact after ▸ .insert number rfl (valid.owned.unused (phase ▸ Nat.not_succ_le_self 2))
  | deliver => exact deliver_step bridge _ _
  | receiverGone | backpressure => exact .of_giveUp (fun id slot data held => (valid.owned.reading id slot data held).1) _ _
  | clear => exact valid.clear_step enabled _ _
  | read frame =>
    have idle : bridge.reading = .idle := enabled
    cases frame with
    | data id data =>
      have after : (bridge.next (.read (.data id data))).reader = { bridge.reader with
          reading := (bridge.reader.streams id).elim bridge.reader.reading (.tcp id · data) } := by
        simp only [reader, Bridge.next, readFrame]
        cases bridge.tcpStreams id <;> rfl
      exact after ▸ .data id data idle
    | udpPacket id host port data =>
      refine .of_idle idle rfl ?_
      simp only [Bridge.next, readFrame, idle]
      split <;> rfl
    | close => exact .of_idle idle rfl rfl
    | _ => exact .task rfl (shrinks (by simp)) rfl (kept (by simp))
  | stopReader =>
    have idle : bridge.reading = .idle := enabled
    exact .of_idle idle rfl rfl
  | cleanUp call =>
    refine .task rfl (shrinks (by simp)) ?_ (kept (by simp))
    simp only [reader, Bridge.next]
    split <;> rfl
  | _ => exact .task rfl (shrinks (by simp)) rfl (kept (by simp))

theorem Valid.next (valid : bridge.Valid) (enabled : bridge.enabled action) : (bridge.next action).Valid where
  nextId := by
    rcases next_ids bridge action with ⟨same, id⟩ | ⟨more, id, _⟩
    · rw [id, same, valid.nextId]
    · rw [id, more, valid.nextId, UInt32.ofNat_add (bridge.allocated + 1)]
      rfl
  known number started := by
    rcases next_advances enabled number with advances | ⟨rfl, host, port, egressProxy, rfl⟩
    · exact Nat.lt_of_lt_of_le (valid.known number (advances.started started)) (next_allocated bridge action)
    · exact Nat.lt_succ_self _
  callId number started := by
    rcases next_advances enabled number with advances | ⟨rfl, host, port, egressProxy, rfl⟩
    · exact advances.id.trans (valid.callId number (advances.started started))
    · rw [openTcp_call, valid.nextId]
  pending id number found := by
    rcases next_pendingTcp found with kept | ⟨rfl, rfl⟩
    · obtain ⟨own, rank⟩ := valid.pending id number kept
      have advances := valid.advances enabled number (Nat.lt_of_lt_of_le (Nat.succ_pos 1) rank)
      exact ⟨advances.id.trans own, Nat.le_trans rank advances.rank⟩
    · obtain ⟨same, phase⟩ := insertPending_call bridge number
      exact ⟨same, phase ▸ Nat.le_refl 2⟩
  owned := by
    apply (valid.reader_step enabled).owned valid.owned
    intro number started
    rcases started with started | rfl
    · have advances := valid.advances enabled number (Nat.lt_of_lt_of_le (Nat.succ_pos 2) started)
      exact ⟨advances.id, Nat.le_trans started advances.rank⟩
    · rw [insertStream_call]
      exact ⟨rfl, Nat.le_refl 3⟩

theorem Valid.relinks (valid : bridge.Valid) (enabled : bridge.enabled action) (number : Nat) :
    ((bridge.next action).calls number).id = (bridge.calls number).id ∨ (bridge.next action).reader.demux.Unused number := by
  rcases next_advances enabled number with advances | ⟨rfl, host, port, egressProxy, rfl⟩
  · exact .inl advances.id
  · refine .inr ((valid.next enabled).owned.unused ?_)
    rw [openTcp_call]
    exact Nat.not_lt.mpr (Nat.le_succ 1)

end Bridge
end SshProxy
