import SshProxy.Proofs.BridgeUdp

/-! Who shares an id with whom. `next_id` comes round after `2 ^ 32` allocations and the
tables take what they are given, so an id is fresh exactly as long as nothing that old is left:
the streams in use then took their ids within one turn of the counter. -/

namespace SshProxy
open Function Library

/-- What has an id of a bridge, by the number of its allocation. -/
inductive IdHolder where
  | tcp (call : Nat)
  | udp (assoc : Nat)
  deriving DecidableEq

def IdHolder.number : IdHolder → Nat
  | .tcp call => call
  | .udp assoc => assoc

theorem OpenPhase.inProgress_rank {phase : OpenPhase} (progress : phase.inProgress = true) : 0 < phase.rank := by
  cases phase with
  | idle => cases progress
  | _ => exact Nat.succ_pos _

namespace Bridge
variable {bridge : Bridge} {action : BridgeAction} {holder : IdHolder}

def idOf (bridge : Bridge) : IdHolder → UInt32
  | .tcp call => (bridge.calls call).id
  | .udp assoc => (bridge.assocs assoc).id

def Registered (bridge : Bridge) : IdHolder → Prop
  | .tcp call => bridge.tcpStreams (bridge.calls call).id = some call
  | .udp assoc => bridge.udpStreams (bridge.assocs assoc).id = some assoc

def Opening (bridge : Bridge) : IdHolder → Prop
  | .tcp call => (bridge.calls call).phase.inProgress = true
  | .udp assoc => (bridge.assocs assoc).phase = .allocated

def Started (bridge : Bridge) : IdHolder → Prop
  | .tcp call => 0 < (bridge.calls call).phase.rank
  | .udp assoc => 0 < (bridge.assocs assoc).phase.rank

def InUse (bridge : Bridge) (holder : IdHolder) : Prop := bridge.Registered holder ∨ bridge.Opening holder

/-- The action makes `open_tcp` or `register_udp` return the holder's id. -/
def Returns (bridge : Bridge) : BridgeAction → IdHolder → Prop
  | .takeAnswer call, holder => (bridge.calls call).pendingRx = .sent (.ok ()) ∧ holder = .tcp call
  | .insertUdp assoc, holder => holder = .udp assoc
  | _, _ => False

theorem Moves.inProgress {number : Nat} {phase : OpenPhase} (moves : bridge.Moves number action phase)
    (progress : phase.inProgress = true) : (bridge.calls number).phase.inProgress = true := by
  cases moves with
  | close _ _ | dropStream _ => cases progress
  | insertPending before | insertStream before | sendOpen before _ | unavailable _ before _ | timeOut _ before
  | takeAnswer before | cleanUp _ _ _ before =>
    rw [before]
    rfl

structure Numbered (bridge : Bridge) : Prop where
  calls : bridge.Valid
  assocs : bridge.UdpValid

namespace Numbered

theorem initial : Numbered {} := ⟨.initial, .initial⟩

variable (numbered : bridge.Numbered)
include numbered

theorem next (enabled : bridge.enabled action) : (bridge.next action).Numbered :=
  ⟨numbered.calls.next enabled, numbered.assocs.next numbered.calls enabled⟩

theorem started (used : bridge.InUse holder) : bridge.Started holder := by
  cases holder with
  | tcp call =>
    rcases used with registered | opening
    · exact Nat.lt_of_lt_of_le (Nat.succ_pos 2) (numbered.calls.owned.streams _ call registered).2
    · exact OpenPhase.inProgress_rank opening
  | udp assoc =>
    rcases used with registered | opening
    · exact (numbered.assocs.streams _ assoc registered).2
    · rw [Started, show (bridge.assocs assoc).phase = .allocated from opening]
      decide

theorem id (started : bridge.Started holder) :
    holder.number < bridge.allocated ∧ bridge.idOf holder = UInt32.ofNat (holder.number + 1) := by
  cases holder with
  | tcp call => exact ⟨numbered.calls.known call started, numbered.calls.callId call started⟩
  | udp assoc => exact ⟨numbered.assocs.known assoc started, numbered.assocs.assocId assoc started⟩

theorem eq_of_number {other : IdHolder} (started : bridge.Started holder) (otherStarted : bridge.Started other)
    (same : other.number = holder.number) : other = holder := by
  cases holder with
  | tcp call =>
    cases other with
    | tcp => exact congrArg IdHolder.tcp same
    | udp assoc =>
      rw [Started, show assoc = call from same, numbered.assocs.apart call started] at otherStarted
      exact absurd otherStarted (Nat.lt_irrefl 0)
  | udp assoc =>
    cases other with
    | udp => exact congrArg IdHolder.udp same
    | tcp call =>
      rw [Started, ← show call = assoc from same, numbered.assocs.apart call otherStarted] at started
      exact absurd started (Nat.lt_irrefl 0)

theorem eq_of_id {other : IdHolder} (started : bridge.Started holder) (otherStarted : bridge.Started other)
    (young : bridge.allocated ≤ holder.number + 2 ^ 32) (otherYoung : bridge.allocated ≤ other.number + 2 ^ 32)
    (same : bridge.idOf other = bridge.idOf holder) : other = holder := by
  obtain ⟨known, id⟩ := numbered.id started
  obtain ⟨otherKnown, otherId⟩ := numbered.id otherStarted
  apply numbered.eq_of_number started otherStarted
  rw [id, otherId] at same
  have equal := congrArg UInt32.toNat same
  rw [UInt32.toNat_ofNat', UInt32.toNat_ofNat'] at equal
  omega

theorem idOf_next (enabled : bridge.enabled action) (started : bridge.Started holder) :
    (bridge.next action).idOf holder = bridge.idOf holder := by
  cases holder with
  | tcp call => exact (numbered.calls.advances enabled call started).id
  | udp assoc => exact (numbered.assocs.advances enabled started).id

theorem call_inUse_before (enabled : bridge.enabled action) {call : Nat} (used : (bridge.next action).InUse (.tcp call)) :
    bridge.InUse (.tcp call) ∨ call = bridge.allocated ∧ action.allocates = true := by
  rcases used with registered | opening
  · rcases next_tcpStreams registered with kept | ⟨rfl, _⟩
    · have started := Nat.lt_of_lt_of_le (Nat.succ_pos 2) (numbered.calls.owned.streams _ call kept).2
      rw [(numbered.calls.advances enabled call started).id] at kept
      exact .inl (.inl kept)
    · refine .inl (.inr ?_)
      rw [Opening, show (bridge.calls call).phase = .pending from enabled]
      rfl
  · have step := next_call enabled call
    rw [Opening] at opening
    generalize (bridge.next action).calls call = after at step opening
    cases step with
    | same | resolve _ _ | channel _ _ => exact .inl (.inr opening)
    | allocate _ _ _ opens fresh => exact .inr ⟨fresh, opens ▸ rfl⟩
    | move _ moves | resolveMove _ _ _ moves => exact .inl (.inr (moves.inProgress opening))

theorem assoc_inUse_before (enabled : bridge.enabled action) {assoc : Nat}
    (used : (bridge.next action).InUse (.udp assoc)) :
    bridge.InUse (.udp assoc) ∨ assoc = bridge.allocated ∧ action.allocates = true := by
  rcases used with registered | opening
  · rcases next_udpStreams registered with kept | ⟨rfl, _⟩
    · rw [(numbered.assocs.advances enabled (numbered.assocs.streams _ assoc kept).2).id] at kept
      exact .inl (.inl kept)
    · exact .inl (.inr enabled)
  · rcases next_assoc_advances enabled assoc with advances | ⟨fresh, rfl⟩
    · have rank := advances.rank
      have started := advances.started
      rw [show ((bridge.next action).assocs assoc).phase = .allocated from opening] at rank started
      refine .inl (.inr ?_)
      rw [Opening]
      cases phase : (bridge.assocs assoc).phase with
      | allocated => rfl
      | idle =>
        rw [phase] at started
        exact absurd (started (Nat.succ_pos 0)) (Nat.lt_irrefl 0)
      | registered | closing | closed =>
        rw [phase] at rank
        exact absurd rank (by decide)
    · exact .inr ⟨fresh, rfl⟩

theorem inUse_before (enabled : bridge.enabled action) (used : (bridge.next action).InUse holder) :
    bridge.InUse holder ∨ holder.number = bridge.allocated ∧ action.allocates = true := by
  cases holder with
  | tcp call => exact numbered.call_inUse_before enabled used
  | udp assoc => exact numbered.assoc_inUse_before enabled used

end Numbered

end Bridge

namespace Controller
variable {state : Controller} {action : BridgeAction}

/-- When an id is taken, whatever is in use took its own less than a turn of the counter ago. -/
def Young (state : Controller) (action : BridgeAction) : Prop :=
  action.allocates = true → ∀ holder, state.bridge.InUse holder → state.bridge.allocated < holder.number + 2 ^ 32

/-- An id in use is registered for nobody else, in particular at the moment it is returned. -/
structure IdsDistinct (state : Controller) : Prop where
  inUse : ∀ holder other, state.bridge.InUse holder → state.bridge.Registered other →
    state.bridge.idOf other = state.bridge.idOf holder → other = holder
  returned : ∀ action holder other, state.enabled action → state.bridge.Returns action holder →
    (state.next action).bridge.Registered other →
    (state.next action).bridge.idOf other = (state.next action).bridge.idOf holder → other = holder

theorem numbered_of_run {allowed : Controller → BridgeAction → Prop} (run : machine.Run allowed state) :
    state.bridge.Numbered :=
  run.invariant (fun state => state.bridge.Numbered) .initial fun _ _ _ numbered enabled _ => numbered.next enabled

structure InTurn (state : Controller) : Prop where
  numbered : state.bridge.Numbered
  young : ∀ holder, state.bridge.InUse holder → state.bridge.allocated ≤ holder.number + 2 ^ 32

namespace InTurn

theorem young_next (turn : state.InTurn) (enabled : state.bridge.enabled action) (young : state.Young action)
    (holder : IdHolder) (used : (state.bridge.next action).InUse holder) :
    (state.bridge.next action).allocated ≤ holder.number + 2 ^ 32 := by
  rcases state.bridge.next_ids action with ⟨same, _⟩ | ⟨more, _, allocates⟩
  · rw [same]
    rcases turn.numbered.inUse_before enabled used with before | ⟨new, _⟩
    · exact turn.young holder before
    · omega
  · rw [more]
    rcases turn.numbered.inUse_before enabled used with before | ⟨new, _⟩
    · exact young allocates holder before
    · omega

theorem of_run (run : machine.Run Young state) : state.InTurn :=
  run.invariant InTurn ⟨.initial, fun _ _ => Nat.zero_le _⟩ fun _ _ _ turn enabled young =>
    ⟨turn.numbered.next enabled, turn.young_next enabled young⟩

theorem distinct (turn : state.InTurn) {holder other : IdHolder} (used : state.bridge.InUse holder)
    (otherUsed : state.bridge.InUse other) (same : state.bridge.idOf other = state.bridge.idOf holder) :
    other = holder :=
  turn.numbered.eq_of_id (turn.numbered.started used) (turn.numbered.started otherUsed) (turn.young holder used)
    (turn.young other otherUsed) same

theorem returned_tcp (turn : state.InTurn) {call : Nat} (enabled : state.bridge.enabled (.takeAnswer call))
    {other : IdHolder} (registered : (state.bridge.next (.takeAnswer call)).Registered other)
    (same : (state.bridge.next (.takeAnswer call)).idOf other = (state.bridge.next (.takeAnswer call)).idOf (.tcp call)) :
    other = .tcp call := by
  have opening : state.bridge.InUse (.tcp call) := by
    refine .inr ?_
    rw [Bridge.Opening, enabled.1]
    rfl
  rcases turn.numbered.inUse_before enabled (.inl registered) with used | ⟨_, allocates⟩
  · rw [turn.numbered.idOf_next enabled (turn.numbered.started used),
      turn.numbered.idOf_next enabled (turn.numbered.started opening)] at same
    exact turn.distinct opening used same
  · cases allocates

theorem returned_udp (turn : state.InTurn) {assoc : Nat} (enabled : state.bridge.enabled (.insertUdp assoc))
    {other : IdHolder} (registered : (state.bridge.next (.insertUdp assoc)).Registered other)
    (same : (state.bridge.next (.insertUdp assoc)).idOf other =
      (state.bridge.next (.insertUdp assoc)).idOf (.udp assoc)) :
    other = .udp assoc := by
  have after : (state.next (.insertUdp assoc)).InTurn :=
    ⟨turn.numbered.next enabled, turn.young_next enabled nofun⟩
  have own : (state.bridge.next (.insertUdp assoc)).Registered (.udp assoc) := by
    rw [Bridge.Registered, Bridge.insertUdp_assoc]
    simp only [Bridge.next, Bridge.addUdp, update_self]
  exact after.distinct (.inl own) (.inl registered) same

end InTurn

theorem stream_ids_distinct (run : machine.Run Young state) : state.IdsDistinct := by
  have turn := InTurn.of_run run
  refine ⟨fun holder other used registered same => turn.distinct used (.inl registered) same,
    fun action holder other enabled returns registered same => ?_⟩
  cases action with
  | takeAnswer call =>
    obtain ⟨_, rfl⟩ := returns
    exact turn.returned_tcp enabled registered same
  | insertUdp assoc =>
    cases returns
    exact turn.returned_udp enabled registered same
  | _ => cases returns

/-- A TCP stream and an association next to each other, and the id the second one is given. -/
theorem stream_ids_distinct_two : ∃ state, machine.Run Young state ∧
    (state.bridge.tcpStreams 1 = some 0 ∧ (state.bridge.calls 0).phase = .opened ∧
      (state.bridge.assocs 1).phase = .allocated) ∧ state.IdsDistinct := by
  obtain ⟨state, run, reached⟩ := machine.exists_run (fun state _ => state.bridge.allocated < 2 ^ 32)
    (fun state => state.bridge.tcpStreams 1 = some 0 ∧ (state.bridge.calls 0).phase = .opened ∧
      (state.bridge.assocs 1).phase = .allocated)
    [.openTcp "db" 5432 none, .insertPending 0, .insertStream 0, .sendOpen 0,
      .read (.openTcpResult 1 true ""), .takeAnswer 0, .registerUdp]
    (by decide +kernel)
  have young : machine.Run Young state :=
    run.weaken fun _ _ few _ _ _ => Nat.lt_of_lt_of_le few (Nat.le_add_left _ _)
  exact ⟨state, young, reached, stream_ids_distinct young⟩

theorem long_lived (more : Nat) : ∃ state, machine.Reachable state ∧ state.bridge.allocated = more + 1 ∧
    state.bridge.tcpStreams 1 = some 0 ∧ (state.bridge.calls 0).id = 1 ∧
    (state.bridge.calls 0).phase = .opened := by
  induction more with
  | zero =>
    exact machine.exists_run (fun _ _ => True)
      (fun state => state.bridge.allocated = 1 ∧ state.bridge.tcpStreams 1 = some 0 ∧
        (state.bridge.calls 0).id = 1 ∧ (state.bridge.calls 0).phase = .opened)
      [.openTcp "db" 5432 none, .insertPending 0, .insertStream 0, .sendOpen 0,
        .read (.openTcpResult 1 true ""), .takeAnswer 0]
      (by decide +kernel)
  | succ more ih =>
    obtain ⟨state, run, allocated, stream, id, phase⟩ := ih
    have enabled : machine.enabled state (.openTcp "db" 5432 none) := trivial
    have other : 0 ≠ state.bridge.allocated := by omega
    refine ⟨_, run.step enabled trivial, congrArg Nat.succ allocated, stream, ?_, ?_⟩
    · simpa only [machine, next, Bridge.next, Bridge.setCall, update_of_ne other] using id
    · simpa only [machine, next, Bridge.next, Bridge.setCall, update_of_ne other] using phase

/-- After `2 ^ 32` allocations `register_udp` returns the id of a stream that is still open. -/
theorem register_udp_shares_id : ∃ state action, machine.Reachable state ∧ state.enabled action ∧
    state.bridge.Returns action (.udp (2 ^ 32)) ∧
    (state.next action).bridge.Registered (.tcp 0) ∧
    ((state.next action).bridge.calls 0).phase = .opened ∧
    (state.next action).bridge.idOf (.tcp 0) = (state.next action).bridge.idOf (.udp (2 ^ 32)) := by
  obtain ⟨state, run, allocated, stream, id, phase⟩ := long_lived (2 ^ 32 - 1)
  have turned : state.bridge.allocated = 2 ^ 32 := allocated
  have nextId : state.bridge.nextId = 1 := by
    rw [(numbered_of_run run).calls.nextId, turned]
    rfl
  have enabled : machine.enabled state .registerUdp := trivial
  have assoc : (state.bridge.next .registerUdp).assocs (2 ^ 32) = { id := 1, phase := .allocated } := by
    rw [← turned, Bridge.registerUdp_assoc, nextId]
  refine ⟨_, .insertUdp (2 ^ 32), run.step enabled trivial, ?enabled, rfl, ?registered, phase, ?same⟩
  case enabled => exact congrArg UdpAssociation.phase assoc
  case registered =>
    change state.bridge.tcpStreams (state.bridge.calls 0).id = some 0
    rw [id, stream]
  case same =>
    change (state.bridge.calls 0).id =
      (((state.bridge.next .registerUdp).next (.insertUdp (2 ^ 32))).assocs (2 ^ 32)).id
    rw [Bridge.insertUdp_assoc, assoc, id]

end Controller
end SshProxy
