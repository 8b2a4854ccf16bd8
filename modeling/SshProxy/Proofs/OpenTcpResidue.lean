import SshProxy.Proofs.PairCoherent

/-! What `open_tcp` leaves behind. A call's phase says which of its two table entries can be
there; the reader and the lifecycle task only ever take entries away, so the phase is an upper
bound at every point of every run. A call that came back has no bound left. -/

namespace SshProxy
open Function Library

def OpenPhase.holds (table : Table) : OpenPhase → Bool
  | .idle | .allocated | .closed => false
  | .pending => decide (table = .pendingTcp)
  | .registered | .waiting => true
  | .failing left _ => decide (table ∈ left)
  | .opened | .closing => decide (table = .tcpStreams)

def OpenPhase.isFailing : OpenPhase → Bool
  | .failing _ _ => true
  | _ => false

def Lifecycle.tcpGone : Lifecycle → Bool
  | .tcpCleared | .udpCleared | .finished => true
  | .watching | .drained => false

structure OpenCall.Answered (call : OpenCall) : Prop where
  fresh : call.phase.rank ≤ 1 → call.pendingRx = .empty
  dropped : call.pendingRx = .dropped → call.phase.isFailing = true
  granted : call.pendingRx = .sent (.ok ()) → 4 ≤ call.phase.rank

theorem OpenCall.Answered.of_empty {call : OpenCall} (empty : call.pendingRx = .empty) : call.Answered where
  fresh _ := empty
  dropped given := by rw [empty] at given; cases given
  granted given := by rw [empty] at given; cases given

namespace Bridge
variable {bridge : Bridge} {action : BridgeAction} {number : Nat}

theorem Moves.isFailing {phase : OpenPhase} (moves : bridge.Moves number action phase)
    (failing : (bridge.calls number).phase.isFailing = true) : phase.isFailing = true := by
  cases moves with
  | cleanUp _ _ _ _ | unavailable _ _ _ | timeOut _ _ => rfl
  | insertPending before | insertStream before | sendOpen before _ | takeAnswer before | close _ before
  | dropStream before =>
    rw [before] at failing
    cases failing

theorem CallStep.parts {after : OpenCall} (step : bridge.CallStep action number after) :
    number = bridge.allocated ∧ after.pendingRx = .empty ∨
      (after.phase = (bridge.calls number).phase ∨ bridge.Moves number action after.phase) ∧
      (after.pendingRx = (bridge.calls number).pendingRx ∨
        ∃ outcome, bridge.Resolves number action outcome ∧
          after.pendingRx = (bridge.calls number).pendingRx.fill outcome) := by
  cases step with
  | same | channel _ _ => exact .inr ⟨.inl rfl, .inl rfl⟩
  | allocate _ _ _ _ fresh => exact .inl ⟨fresh, rfl⟩
  | move _ moves => exact .inr ⟨.inr moves, .inl rfl⟩
  | resolve outcome resolves => exact .inr ⟨.inl rfl, .inr ⟨outcome, resolves, rfl⟩⟩
  | resolveMove outcome _ resolves moves => exact .inr ⟨.inr moves, .inr ⟨outcome, resolves, rfl⟩⟩

/-- The tables hold no more than the phases of the calls say, and a sender in `pending_tcp`
has not been used. -/
structure Held (bridge : Bridge) : Prop where
  few : bridge.allocated < 2 ^ 32
  valid : bridge.Valid
  pending : ∀ id number, bridge.pendingTcp id = some number →
    (bridge.calls number).phase.holds .pendingTcp = true ∧ (bridge.calls number).pendingRx = .empty
  streams : ∀ id number, bridge.tcpStreams id = some number →
    (bridge.calls number).phase.holds .tcpStreams = true
  answered : ∀ number, (bridge.calls number).Answered
  ended : bridge.lifecycle ≠ .watching → bridge.reading = .stopped
  cleared : bridge.lifecycle.tcpGone = true → ∀ id number, bridge.tcpStreams id = some number →
    ¬ (bridge.calls number).Accepted

theorem Resolves.found {outcome : Oneshot} (resolves : bridge.Resolves number action outcome) :
    ∃ id, bridge.pendingTcp id = some number := by
  cases resolves with
  | result _ _ _ found | close _ _ _ _ _ found | replaced _ _ found | cleanUp _ _ _ _ found | drained found =>
    exact ⟨_, found⟩

namespace Held

theorem initial : Held {} where
  few := by decide
  valid := .initial
  pending _ _ found := by cases found
  streams _ _ found := by cases found
  answered _ := .of_empty rfl
  ended watching := absurd rfl watching
  cleared gone := by cases gone

section
variable (held : bridge.Held)
include held

theorem pending_own {call : Nat} (started : 0 < (bridge.calls call).phase.rank)
    (found : bridge.pendingTcp (bridge.calls call).id = some number) : number = call := by
  obtain ⟨same, rank⟩ := held.valid.pending _ number found
  exact held.valid.id_injective held.few (Nat.lt_of_lt_of_le (Nat.succ_pos 1) rank) started same

theorem streams_own {call : Nat} (started : 0 < (bridge.calls call).phase.rank)
    (found : bridge.tcpStreams (bridge.calls call).id = some number) : number = call := by
  obtain ⟨same, rank⟩ := held.valid.owned.streams _ number found
  exact held.valid.id_injective held.few (Nat.lt_of_lt_of_le (Nat.succ_pos 2) rank) started same

theorem not_replaced {call : Nat} (phase : (bridge.calls call).phase = .allocated) :
    bridge.pendingTcp (bridge.calls call).id ≠ some number := by
  intro found
  have same := held.pending_own (phase ▸ Nat.succ_pos 0) found
  have holds := (held.pending _ number found).1
  rw [same, phase] at holds
  cases holds

theorem dropped_failing (resolves : bridge.Resolves number action .dropped) :
    (bridge.calls number).phase.isFailing = true := by
  generalize given : Oneshot.dropped = outcome at resolves
  cases resolves with
  | replaced call phase found => exact absurd found (held.not_replaced phase)
  | cleanUp call left error phase found =>
    rw [held.pending_own (phase ▸ Nat.succ_pos 4) found, phase]
    rfl
  | _ => cases given

theorem resolved {outcome : Oneshot} (resolves : bridge.Resolves number action outcome) :
    2 ≤ (bridge.calls number).phase.rank ∧ (bridge.calls number).pendingRx = .empty := by
  obtain ⟨id, found⟩ := resolves.found
  exact ⟨(held.valid.pending id number found).2, (held.pending id number found).2⟩

theorem answered_next (enabled : bridge.enabled action)
    (asked : bridge.Grants action number → 4 ≤ (bridge.calls number).phase.rank) :
    ((bridge.next action).calls number).Answered := by
  have before := held.answered number
  have step := next_call enabled number
  generalize (bridge.next action).calls number = after at step ⊢
  rcases step.parts with ⟨_, empty⟩ | ⟨phase, answer⟩
  · exact .of_empty empty
  have rank : (bridge.calls number).phase.rank ≤ after.phase.rank := by
    rcases phase with same | moves
    · rw [same]
    · exact moves.rank.2
  have failing (failing : (bridge.calls number).phase.isFailing = true) : after.phase.isFailing = true := by
    rcases phase with same | moves
    · rwa [same]
    · exact moves.isFailing failing
  rcases answer with same | ⟨outcome, resolves, filled⟩
  · refine ⟨fun early => ?_, fun dropped => failing (before.dropped (same ▸ dropped)),
      fun granted => Nat.le_trans (before.granted (same ▸ granted)) rank⟩
    exact same.trans (before.fresh (Nat.le_trans rank early))
  · obtain ⟨late, empty⟩ := held.resolved resolves
    rw [empty] at filled
    change after.pendingRx = outcome at filled
    refine ⟨fun early => absurd (Nat.le_trans rank early) (Nat.not_le_of_lt late), fun dropped => ?_, fun granted => ?_⟩
    · cases filled.symm.trans dropped
      exact failing (held.dropped_failing resolves)
    · cases filled.symm.trans granted
      exact Nat.le_trans (asked resolves.grants) rank

theorem resolved_gone {outcome : Oneshot} (resolves : bridge.Resolves number action outcome) :
    (bridge.next action).pendingTcp (bridge.calls number).id = none := by
  have own {id : UInt32} (found : bridge.pendingTcp id = some number) : (bridge.calls number).id = id :=
    (held.valid.pending id number found).1
  cases resolves with
  | result id ok message found => simp [next, readFrame, resolvePending, own found]
  | close id sender reason left holding found => simp [next, holding, perform, resolvePending, own found]
  | replaced call phase found => exact absurd found (held.not_replaced phase)
  | cleanUp call left error phase found => simp [next, phase, resolvePending, setPhase, setCall, own found]
  | drained found => rfl

theorem pending_next (enabled : bridge.enabled action) {id : UInt32}
    (found : (bridge.next action).pendingTcp id = some number) :
    ((bridge.next action).calls number).phase.holds .pendingTcp = true ∧
      ((bridge.next action).calls number).pendingRx = .empty := by
  have step := (next_call enabled number).parts
  rcases next_pendingTcp found with kept | ⟨rfl, rfl⟩
  · obtain ⟨own, rank⟩ := held.valid.pending id number kept
    obtain ⟨holds, empty⟩ := held.pending id number kept
    have known := held.valid.known number (Nat.lt_of_lt_of_le (Nat.succ_pos 1) rank)
    rcases step with ⟨fresh, _⟩ | ⟨phase, answer⟩
    · exact absurd known (fresh ▸ Nat.lt_irrefl _)
    constructor
    · rcases phase with same | moves
      · rwa [same]
      generalize ((bridge.next action).calls number).phase = after at moves
      cases moves with
      | insertPending before | close _ before | dropStream before =>
        rw [before] at holds
        cases holds
      | insertStream _ | sendOpen _ _ | unavailable _ _ _ | timeOut _ _ => rfl
      | takeAnswer _ => exact absurd (empty ▸ enabled.2) (by decide)
      | cleanUp table left error before =>
        rw [before] at holds
        cases table with
        | pendingTcp => simp [next, before, resolvePending, setPhase, setCall, own] at found
        | tcpStreams => simpa [OpenPhase.holds] using holds
    · rcases answer with same | ⟨outcome, resolves, _⟩
      · exact same.trans empty
      · rw [← own, held.resolved_gone resolves] at found
        cases found
  · have phase : (bridge.calls number).phase = .allocated := enabled
    refine ⟨by rw [(insertPending_call bridge number).2]; rfl, ?_⟩
    rcases step with ⟨_, empty⟩ | ⟨_, same | ⟨outcome, resolves, _⟩⟩
    · exact empty
    · exact same.trans ((held.answered number).fresh (phase ▸ Nat.le_refl 1))
    · have late := (held.resolved resolves).1
      rw [phase] at late
      exact absurd late (by decide)

theorem streams_next (enabled : bridge.enabled action) {id : UInt32}
    (found : (bridge.next action).tcpStreams id = some number) :
    ((bridge.next action).calls number).phase.holds .tcpStreams = true := by
  rcases next_tcpStreams found with kept | ⟨rfl, rfl⟩
  · obtain ⟨own, rank⟩ := held.valid.owned.streams id number kept
    have holds := held.streams id number kept
    have known := held.valid.known number (Nat.lt_of_lt_of_le (Nat.succ_pos 2) rank)
    rcases (next_call enabled number).parts with ⟨fresh, _⟩ | ⟨same | moves, _⟩
    · exact absurd known (fresh ▸ Nat.lt_irrefl _)
    · rwa [same]
    generalize ((bridge.next action).calls number).phase = after at moves
    cases moves with
    | insertPending before | insertStream before =>
      rw [before] at holds
      cases holds
    | sendOpen _ _ | unavailable _ _ _ | timeOut _ _ => rfl
    | takeAnswer before =>
      have waits := enabled.2
      cases answer : (bridge.calls number).pendingRx with
      | empty => exact absurd (answer ▸ waits) (by decide)
      | sent result => cases result <;> rfl
      | dropped =>
        have failing := (held.answered number).dropped answer
        rw [before] at failing
        cases failing
    | cleanUp table left error before =>
      rw [before] at holds
      cases table with
      | tcpStreams => simp [next, before, removeStream, setPhase, setCall, own] at found
      | pendingTcp => simpa [OpenPhase.holds] using holds
    | close reason before => rfl
    | dropStream before => simp [next, removeStream, setPhase, setCall, own] at found
  · rw [insertStream_call]
    rfl

end

theorem tcpGone_before (enabled : bridge.enabled action) (gone : (bridge.next action).lifecycle.tcpGone = true) :
    bridge.lifecycle.tcpGone = true ∨ action = .clearTcp := by
  rcases bridge.next_transport action with still | allocates | ends
  · exact .inl (still.lifecycle ▸ gone)
  · cases action with
    | openTcp | registerUdp => exact .inl gone
    | _ => cases allocates
  · cases action with
    | drainPending => cases gone
    | clearTcp => exact .inr rfl
    | clearUdp | abortWriter =>
      left
      rw [show bridge.lifecycle = _ from enabled]
      rfl
    | failWriter => exact .inl gone
    | _ => cases ends

theorem cleared_next (held : bridge.Held) (enabled : bridge.enabled action)
    (gone : (bridge.next action).lifecycle.tcpGone = true) {id : UInt32}
    (found : (bridge.next action).tcpStreams id = some number) : ¬ ((bridge.next action).calls number).Accepted := by
  intro accepted
  rcases tcpGone_before enabled gone with before | rfl
  · have stopped : bridge.reading = .stopped := by
      apply held.ended
      intro watching
      rw [watching] at before
      cases before
    rcases next_tcpStreams found with kept | ⟨rfl, rfl⟩
    · have started := Nat.lt_of_lt_of_le (Nat.succ_pos 2) (held.valid.owned.streams id number kept).2
      rcases (held.valid.advances enabled number started).accepted accepted with already | ⟨_, _, rfl, _⟩
      · exact held.cleared before id number kept already
      · cases stopped.symm.trans enabled
    · rw [insertStream_call] at accepted
      rcases accepted with returned | granted
      · cases returned
      · have asked := (held.answered number).granted granted
        rw [show (bridge.calls number).phase = .pending from enabled] at asked
        exact absurd asked (by decide)
  · cases found

theorem next (held : bridge.Held) (enabled : bridge.enabled action)
    (room : action.allocates = true → bridge.allocated + 1 < 2 ^ 32)
    (asked : ∀ number, bridge.Grants action number → 4 ≤ (bridge.calls number).phase.rank) :
    (bridge.next action).Held where
  few := next_few held.few room
  valid := held.valid.next enabled
  pending _ _ found := held.pending_next enabled found
  streams _ _ found := held.streams_next enabled found
  answered number := held.answered_next enabled (asked number)
  ended := watched_next held.ended enabled
  cleared gone _ _ found := held.cleared_next enabled gone found

end Held
end Bridge

theorem OpenPhase.inProgress_of_holds {phase : OpenPhase} {table : Table} (holds : phase.holds table = true) :
    phase.inProgress = true ∨ table = .tcpStreams ∧ phase.returned = true := by
  cases phase with
  | idle | allocated | closed => cases holds
  | pending | registered | waiting => exact .inl rfl
  | failing left error =>
    cases left with
    | nil => simp [OpenPhase.holds] at holds
    | cons => exact .inl rfl
  | opened | closing => exact .inr ⟨of_decide_eq_true holds, rfl⟩

namespace Controller
variable {state : Controller} {action : BridgeAction}

/-- The helper answers only what it was asked, and `next_id` does not come round. -/
def Orderly (state : Controller) : BridgeAction → Prop
  | .read (.openTcpResult id _ _) => id ∈ openIds state.requests
  | action => action.allocates = true → state.bridge.allocated + 1 < 2 ^ 32

instance (state : Controller) (action : BridgeAction) : Decidable (state.Orderly action) := by
  rcases action with _ | _ <;> dsimp only [Orderly] <;> try infer_instance
  next frame => rcases frame with _ | _ <;> dsimp only <;> infer_instance

/-- Nothing of a call that came back is left where it could be found. -/
structure NoResidue (state : Controller) : Prop where
  failed : ∀ number error, (state.bridge.calls number).phase = .failing [] error →
    state.bridge.pendingTcp (state.bridge.calls number).id = none ∧
      state.bridge.tcpStreams (state.bridge.calls number).id = none
  opened : ∀ number, (state.bridge.calls number).phase.returned = true →
    state.bridge.pendingTcp (state.bridge.calls number).id = none
  late : ∀ number error ok message, (state.bridge.calls number).phase = .failing [] error →
    state.next (.read (.openTcpResult (state.bridge.calls number).id ok message)) = state
  empty : state.bridge.lifecycle = .finished → (∀ number, (state.bridge.calls number).phase.inProgress = false) →
    ∀ id, state.bridge.pendingTcp id = none ∧ state.bridge.tcpStreams id = none

structure Asked (state : Controller) : Prop where
  held : state.bridge.Held
  requests : ∀ id ∈ openIds state.requests, ∃ number,
    (state.bridge.calls number).id = id ∧ 4 ≤ (state.bridge.calls number).phase.rank

namespace Asked

theorem grants (asked : state.Asked) (orderly : state.Orderly action) (number : Nat)
    (grants : state.bridge.Grants action number) : 4 ≤ (state.bridge.calls number).phase.rank := by
  obtain ⟨id, message, rfl, found⟩ := grants
  obtain ⟨call, same, rank⟩ := asked.requests id orderly
  obtain ⟨own, started⟩ := asked.held.valid.pending id number found
  have equal := asked.held.valid.id_injective asked.held.few (Nat.lt_of_lt_of_le (Nat.succ_pos 1) started)
    (Nat.lt_of_lt_of_le (Nat.succ_pos 3) rank) (own.trans same.symm)
  exact equal ▸ rank

theorem next (asked : state.Asked) (enabled : state.bridge.enabled action) (orderly : state.Orderly action) :
    (state.next action).Asked where
  held := by
    refine asked.held.next enabled (fun allocates => ?_) (asked.grants orderly)
    cases action with
    | openTcp | registerUdp => exact orderly allocates
    | _ => cases allocates
  requests id requested := by
    simp only [Controller.next, openIds_append, List.mem_append] at requested
    have valid := asked.held.valid
    rcases requested with earlier | emitted
    · obtain ⟨number, same, rank⟩ := asked.requests id earlier
      have advances := valid.advances enabled number (Nat.lt_of_lt_of_le (Nat.succ_pos 3) rank)
      exact ⟨number, advances.id.trans same, Nat.le_trans rank advances.rank⟩
    · rcases state.bridge.openIds_emits action with none | ⟨call, rfl, one⟩
      · rw [none] at emitted
        cases emitted
      · rw [one, List.mem_singleton] at emitted
        have started : 0 < (state.bridge.calls call).phase.rank := by
          rw [show (state.bridge.calls call).phase = .registered from enabled]
          decide
        exact ⟨call, (valid.advances enabled call started).id.trans emitted.symm, state.bridge.sendOpen_call call⟩

theorem of_run (run : machine.Run Orderly state) : state.Asked :=
  run.invariant Asked ⟨.initial, nofun⟩ fun _ _ _ asked enabled orderly => asked.next enabled orderly

end Asked

theorem pending_none (asked : state.Asked) (number : Nat) (started : 0 < (state.bridge.calls number).phase.rank)
    (none : (state.bridge.calls number).phase.holds .pendingTcp = false) :
    state.bridge.pendingTcp (state.bridge.calls number).id = .none := by
  apply Option.eq_none_iff_forall_ne_some.mpr
  intro other found
  have holds := (asked.held.pending _ other found).1
  rw [asked.held.pending_own started found, none] at holds
  cases holds

theorem streams_none (asked : state.Asked) (number : Nat) (started : 0 < (state.bridge.calls number).phase.rank)
    (none : (state.bridge.calls number).phase.holds .tcpStreams = false) :
    state.bridge.tcpStreams (state.bridge.calls number).id = .none := by
  apply Option.eq_none_iff_forall_ne_some.mpr
  intro other found
  have holds := asked.held.streams _ other found
  rw [asked.held.streams_own started found, none] at holds
  cases holds

theorem late_result (state : Controller) {id : UInt32} (ok : Bool) (message : String)
    (gone : state.bridge.pendingTcp id = none) : state.next (.read (.openTcpResult id ok message)) = state := by
  have kept : update state.bridge.pendingTcp id none = state.bridge.pendingTcp :=
    update_eq_self_iff.mpr gone.symm
  simp only [next, Bridge.next, Bridge.readFrame, Bridge.resolvePending, Bridge.emits, gone, kept, List.append_nil]

theorem entry_inProgress (asked : state.Asked) (finished : state.bridge.lifecycle = .finished) {id : UInt32}
    {number : Nat} (found : state.bridge.pendingTcp id = some number ∨ state.bridge.tcpStreams id = some number) :
    (state.bridge.calls number).phase.inProgress = true := by
  rcases found with found | found
  · rcases OpenPhase.inProgress_of_holds (asked.held.pending id number found).1 with progress | ⟨other, _⟩
    · exact progress
    · cases other
  · rcases OpenPhase.inProgress_of_holds (asked.held.streams id number found) with progress | ⟨_, returned⟩
    · exact progress
    · exact absurd (.inl returned) (asked.held.cleared (finished ▸ rfl) id number found)

theorem open_tcp_no_residue (run : machine.Run Orderly state) : state.NoResidue := by
  have asked := Asked.of_run run
  have failed (number : Nat) (error : String) (phase : (state.bridge.calls number).phase = .failing [] error) :
      state.bridge.pendingTcp (state.bridge.calls number).id = none ∧
        state.bridge.tcpStreams (state.bridge.calls number).id = none :=
    ⟨pending_none asked number (phase ▸ Nat.succ_pos 4) (phase ▸ rfl),
      streams_none asked number (phase ▸ Nat.succ_pos 4) (phase ▸ rfl)⟩
  refine ⟨failed, fun number returned => ?opened, fun number error ok message phase => ?late,
    fun finished idle id => ?empty⟩
  case opened =>
    have late := OpenPhase.returned_rank returned
    refine pending_none asked number (Nat.lt_of_lt_of_le (Nat.succ_pos 4) late) ?_
    cases phase : (state.bridge.calls number).phase with
    | opened | closing | closed => rfl
    | _ =>
      rw [phase] at returned
      cases returned
  case late => exact late_result state ok message (failed number error phase).1
  case empty =>
    constructor <;> apply Option.eq_none_iff_forall_ne_some.mpr <;> intro number found
    · have progress := entry_inProgress asked finished (.inl found)
      rw [idle number] at progress
      cases progress
    · have progress := entry_inProgress asked finished (.inr found)
      rw [idle number] at progress
      cases progress

/-- The clean-up runs between the two inserts of a call; the writer takes the call's `OpenTcp`
all the same, and the call finds the answer it was given before. -/
theorem open_tcp_no_residue_overtaken : ∃ state, machine.Run Orderly state ∧
    (state.bridge.lifecycle = .finished ∧ (state.bridge.calls 0).phase = .failing [] "remote bridge closed" ∧
      openIds state.requests = [1]) ∧ state.NoResidue := by
  obtain ⟨state, run, ended⟩ := machine.exists_run Orderly
    (fun state => state.bridge.lifecycle = .finished ∧
      (state.bridge.calls 0).phase = .failing [] "remote bridge closed" ∧ openIds state.requests = [1])
    [.openTcp "db" 5432 none, .insertPending 0, .stopReader, .drainPending,
      .clearTcp, .insertStream 0, .clearUdp, .abortWriter, .sendOpen 0,
      .takeAnswer 0, .cleanUp 0, .cleanUp 0]
    (by decide +kernel)
  exact ⟨state, run, ended, open_tcp_no_residue run⟩

end Controller
end SshProxy
