import SshProxy.Proofs.BridgeValid

/-! The controller's associations. They take their ids from the same counter as the
calls, so an id is never both. -/

namespace SshProxy
open Function Library

def AssocPhase.rank : AssocPhase → Nat
  | .idle => 0
  | .allocated => 1
  | .registered => 2
  | .closing => 3
  | .closed => 4

structure UdpAssociation.Advances (before after : UdpAssociation) : Prop where
  id : after.id = before.id
  rank : before.phase.rank ≤ after.phase.rank
  started : 0 < after.phase.rank → 0 < before.phase.rank

variable (assoc : UdpAssociation)

theorem UdpAssociation.Advances.refl : assoc.Advances assoc :=
  ⟨rfl, Nat.le_refl _, fun started => started⟩

theorem UdpAssociation.Advances.channel (rx : Channel UdpDatagram) :
    assoc.Advances { assoc with rx } :=
  ⟨rfl, Nat.le_refl _, fun started => started⟩

theorem UdpAssociation.Advances.phase (phase : AssocPhase) (started : 0 < assoc.phase.rank)
    (rank : assoc.phase.rank ≤ phase.rank) : assoc.Advances { assoc with phase } :=
  ⟨rfl, rank, fun _ => started⟩

namespace Bridge
variable {bridge : Bridge} {action : BridgeAction}

theorem setAssoc_advances (bridge : Bridge) (number : Nat) {assoc : UdpAssociation}
    (advances : (bridge.assocs number).Advances assoc) (other : Nat) :
    (bridge.assocs other).Advances ((bridge.setAssoc number assoc).assocs other) := by
  by_cases same : other = number
  · subst same
    simpa only [setAssoc, update_self] using advances
  · simpa only [setAssoc, update_of_ne same] using .refl _

theorem next_assoc_advances (enabled : bridge.enabled action) (number : Nat) :
    (bridge.assocs number).Advances ((bridge.next action).assocs number) ∨
      number = bridge.allocated ∧ action = .registerUdp := by
  cases action with
  | registerUdp =>
    by_cases same : number = bridge.allocated
    · exact .inr ⟨same, rfl⟩
    · refine .inl ?_
      simpa only [next, setAssoc, update_of_ne same] using .refl _
  | insertUdp assoc =>
    have phase : (bridge.assocs assoc).phase = .allocated := enabled
    refine .inl (bridge.setAssoc_advances assoc (.phase _ _ ?_ ?_) number) <;> simp [phase, AssocPhase.rank]
  | unregisterUdp assoc =>
    have phase : (bridge.assocs assoc).phase = .registered := enabled
    refine .inl ((bridge.removeUdp _).setAssoc_advances assoc (.phase _ _ ?_ ?_) number) <;>
      simp [removeUdp, phase, AssocPhase.rank]
  | sendUdpClose assoc =>
    have phase : (bridge.assocs assoc).phase = .closing := enabled
    refine .inl (bridge.setAssoc_advances assoc (.phase _ _ ?_ ?_) number) <;> simp [phase, AssocPhase.rank]
  | recvUdp assoc => exact .inl (bridge.setAssoc_advances assoc (.channel _ (Channel.recv _)) number)
  | dropUdpReceiver assoc => exact .inl (bridge.setAssoc_advances assoc (.channel _ (Channel.dropReceiver _)) number)
  | cleanUp call => simp only [next]; split <;> exact .inl (.refl _)
  | read frame => cases frame <;> exact .inl (.refl _)
  | deliver =>
    simp only [next]
    split
    next => exact .inl (.refl _)
    next => exact .inl (bridge.setAssoc_advances _ (.channel _ _) number)
    next => exact .inl (.refl _)
  | clear =>
    simp only [next]
    split
    next id sender chore left _ => cases chore <;> exact .inl (.refl _)
    next => exact .inl (.refl _)
  | _ => exact .inl (.refl _)

variable {id : UInt32} {number : Nat}

theorem next_udpStreams (found : (bridge.next action).udpStreams id = some number) :
    bridge.udpStreams id = some number ∨ action = .insertUdp number ∧ id = (bridge.assocs number).id := by
  cases action with
  | insertUdp assoc =>
    rcases entry_of_insert found with kept | ⟨same, rfl⟩
    · exact .inl kept
    · exact .inr ⟨rfl, same⟩
  | unregisterUdp assoc => exact .inl (entry_of_remove found)
  | cleanUp call | deliver => simp only [next] at found; split at found <;> exact .inl found
  | read frame => cases frame <;> exact .inl found
  | clear =>
    simp only [next] at found
    split at found
    next id sender chore left _ =>
      cases chore with
      | dropUdp => exact .inl (entry_of_remove found)
      | _ => exact .inl found
    next => exact .inl found
  | clearUdp => cases found
  | _ => exact .inl found

structure UdpValid (bridge : Bridge) : Prop where
  known : ∀ number, 0 < (bridge.assocs number).phase.rank → number < bridge.allocated
  assocId : ∀ number, 0 < (bridge.assocs number).phase.rank → (bridge.assocs number).id = UInt32.ofNat (number + 1)
  apart : ∀ number, 0 < (bridge.calls number).phase.rank → (bridge.assocs number).phase.rank = 0
  streams : ∀ id number, bridge.udpStreams id = some number →
    (bridge.assocs number).id = id ∧ 0 < (bridge.assocs number).phase.rank
  reading : ∀ id number datagram, bridge.reading = .udp id number datagram →
    (bridge.assocs number).id = id ∧ 0 < (bridge.assocs number).phase.rank

theorem UdpValid.initial : UdpValid {} where
  known _ started := absurd started (Nat.lt_irrefl 0)
  assocId _ started := absurd started (Nat.lt_irrefl 0)
  apart _ _ := rfl
  streams _ _ found := by cases found
  reading _ _ _ holding := by cases holding

theorem UdpValid.advances (udp : bridge.UdpValid) (enabled : bridge.enabled action)
    (started : 0 < (bridge.assocs number).phase.rank) :
    (bridge.assocs number).Advances ((bridge.next action).assocs number) := by
  rcases next_assoc_advances enabled number with advances | ⟨same, _⟩
  · exact advances
  · exact absurd (udp.known number started) (same ▸ Nat.lt_irrefl _)

theorem UdpValid.keep (udp : bridge.UdpValid) (enabled : bridge.enabled action)
    (held : (bridge.assocs number).id = id ∧ 0 < (bridge.assocs number).phase.rank) :
    ((bridge.next action).assocs number).id = id ∧ 0 < ((bridge.next action).assocs number).phase.rank := by
  have advances := udp.advances enabled held.2
  exact ⟨advances.id.trans held.1, Nat.lt_of_lt_of_le held.2 advances.rank⟩

theorem insertUdp_assoc (bridge : Bridge) (number : Nat) :
    (bridge.next (.insertUdp number)).assocs number = { bridge.assocs number with phase := .registered } := by
  simp only [next, addUdp, setAssoc, update_self]

theorem registerUdp_assoc (bridge : Bridge) :
    (bridge.next .registerUdp).assocs bridge.allocated = { id := bridge.nextId, phase := .allocated } := by
  simp only [next, setAssoc, update_self]

theorem UdpValid.next (udp : bridge.UdpValid) (valid : bridge.Valid) (enabled : bridge.enabled action) :
    (bridge.next action).UdpValid where
  known number started := by
    rcases next_assoc_advances enabled number with advances | ⟨rfl, rfl⟩
    · exact Nat.lt_of_lt_of_le (udp.known number (advances.started started)) (next_allocated bridge action)
    · exact Nat.lt_succ_self _
  assocId number started := by
    rcases next_assoc_advances enabled number with advances | ⟨rfl, rfl⟩
    · exact advances.id.trans (udp.assocId number (advances.started started))
    · rw [registerUdp_assoc, valid.nextId]
  apart number started := by
    apply Nat.eq_zero_of_not_pos
    intro both
    rcases next_assoc_advances enabled number with assoc | ⟨rfl, rfl⟩
    · rcases next_advances enabled number with call | ⟨rfl, _⟩
      · exact Nat.lt_irrefl 0 (udp.apart number (call.started started) ▸ assoc.started both)
      · exact Nat.lt_irrefl _ (udp.known _ (assoc.started both))
    · exact Nat.lt_irrefl _ (valid.known _ started)
  streams id number found := by
    rcases next_udpStreams found with kept | ⟨rfl, rfl⟩
    · exact udp.keep enabled (udp.streams id number kept)
    · rw [insertUdp_assoc]
      exact ⟨rfl, Nat.succ_pos 1⟩
  reading id number datagram holding := by
    rcases next_reading_udp holding with kept | found
    · exact udp.keep enabled (udp.reading id number datagram kept)
    · exact udp.keep enabled (udp.streams id number found)

def IsUdp (bridge : Bridge) (id : UInt32) : Prop :=
  ∃ number, (bridge.assocs number).id = id ∧ 0 < (bridge.assocs number).phase.rank

theorem IsUdp.next (owned : bridge.IsUdp id) (udp : bridge.UdpValid) (enabled : bridge.enabled action) :
    (bridge.next action).IsUdp id := by
  obtain ⟨number, held⟩ := owned
  exact ⟨number, udp.keep enabled held⟩

theorem IsUdp.not_call (owned : bridge.IsUdp id) (udp : bridge.UdpValid) (valid : bridge.Valid)
    (few : bridge.allocated < 2 ^ 32) {call : Nat} (started : 0 < (bridge.calls call).phase.rank) :
    (bridge.calls call).id ≠ id := by
  rintro rfl
  obtain ⟨number, same, registered⟩ := owned
  rw [udp.assocId number registered, valid.callId call started] at same
  have callKnown := valid.known call started
  have assocKnown := udp.known number registered
  have equal := congrArg UInt32.toNat same
  rw [UInt32.toNat_ofNat', UInt32.toNat_ofNat'] at equal
  have equal : number = call := by omega
  subst equal
  exact Nat.ne_of_gt registered (udp.apart number started)

end Bridge
end SshProxy
