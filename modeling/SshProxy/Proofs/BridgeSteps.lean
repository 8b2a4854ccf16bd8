import SshProxy.Bridge

/-! What one action of the controller can do to a call, to a table and to the wire.
The proofs about the pair rest on these facts and do not look at the transition
function again. -/

namespace SshProxy
open Function Library

def BridgeAction.allocates : BridgeAction → Bool
  | .openTcp _ _ _ | .registerUdp => true
  | _ => false

def BridgeAction.ends : BridgeAction → Bool
  | .drainPending | .clearTcp | .clearUdp | .abortWriter | .failWriter => true
  | _ => false

def OpenPhase.rank : OpenPhase → Nat
  | .idle => 0
  | .allocated => 1
  | .pending => 2
  | .registered => 3
  | .waiting => 4
  | .failing _ _ => 5
  | .opened => 5
  | .closing => 6
  | .closed => 7

namespace Reading

def delivers : Reading → Bool
  | .tcp _ _ _ | .udp _ _ _ => true
  | _ => false

theorem delivers_giveUp (tcp udp : List Chore) (reading : Reading) : (reading.giveUp tcp udp).delivers = false := by
  cases reading <;> rfl

theorem delivers_clear (id : UInt32) (sender : Option Nat) (left : List Chore) :
    (clear id sender left).delivers = false := by
  cases left <;> rfl

end Reading

variable {phase : OpenPhase}

theorem OpenPhase.returned_rank (returned : phase.returned = true) : 5 ≤ phase.rank := by
  cases phase <;> simp_all [OpenPhase.returned, OpenPhase.rank]

theorem OpenPhase.rank_pos (started : phase ≠ .idle) : 0 < phase.rank := by
  cases phase <;> first | contradiction | exact Nat.succ_pos _

theorem OpenPhase.ofAnswer_rank (outcome : Oneshot) : (OpenPhase.ofAnswer outcome).rank = 5 := by
  rcases outcome with _ | (_ | ⟨⟨⟩⟩) | _ <;> rfl

variable {outcome : Oneshot}

theorem OpenPhase.ofAnswer_returned (returned : (OpenPhase.ofAnswer outcome).returned = true) :
    outcome = .sent (.ok ()) := by
  rcases outcome with _ | (_ | ⟨⟨⟩⟩) | _ <;> first | rfl | cases returned

namespace Bridge
variable {bridge : Bridge} {action : BridgeAction}

inductive Moves (bridge : Bridge) (number : Nat) : BridgeAction → OpenPhase → Prop where
  | insertPending (phase : (bridge.calls number).phase = .allocated) :
      Moves bridge number (.insertPending number) .pending
  | insertStream (phase : (bridge.calls number).phase = .pending) :
      Moves bridge number (.insertStream number) .registered
  | sendOpen (phase : (bridge.calls number).phase = .registered) (up : bridge.writerUp = true) :
      Moves bridge number (.sendOpen number) .waiting
  | unavailable (error : String) (phase : (bridge.calls number).phase = .registered) (down : bridge.writerUp = false) :
      Moves bridge number (.sendOpen number) (.failing [.pendingTcp, .tcpStreams] error)
  | timeOut (error : String) (phase : (bridge.calls number).phase = .waiting) :
      Moves bridge number (.timeOut number) (.failing [.pendingTcp, .tcpStreams] error)
  | takeAnswer (phase : (bridge.calls number).phase = .waiting) :
      Moves bridge number (.takeAnswer number) (.ofAnswer (bridge.calls number).pendingRx)
  | cleanUp (table : Table) (left : List Table) (error : String)
      (phase : (bridge.calls number).phase = .failing (table :: left) error) :
      Moves bridge number (.cleanUp number) (.failing left error)
  | close (reason : String) (phase : (bridge.calls number).phase = .opened) :
      Moves bridge number (.close number reason) .closing
  | dropStream (phase : (bridge.calls number).phase = .closing) : Moves bridge number (.dropStream number) .closed

inductive Resolves (bridge : Bridge) (number : Nat) : BridgeAction → Oneshot → Prop where
  | result (id : UInt32) (ok : Bool) (message : String) (found : bridge.pendingTcp id = some number) :
      Resolves bridge number (.read (.openTcpResult id ok message)) (.sent (if ok then .ok () else .error message))
  | close (id : UInt32) (sender : Option Nat) (reason : String) (left : List Chore)
      (holding : bridge.reading = .clearing id sender (.answerPending reason) left)
      (found : bridge.pendingTcp id = some number) : Resolves bridge number .clear (.sent (.error reason))
  | replaced (call : Nat) (phase : (bridge.calls call).phase = .allocated)
      (found : bridge.pendingTcp (bridge.calls call).id = some number) :
      Resolves bridge number (.insertPending call) .dropped
  | cleanUp (call : Nat) (left : List Table) (error : String)
      (phase : (bridge.calls call).phase = .failing (.pendingTcp :: left) error)
      (found : bridge.pendingTcp (bridge.calls call).id = some number) :
      Resolves bridge number (.cleanUp call) .dropped
  | drained (found : bridge.pendingTcp (bridge.calls number).id = some number) :
      Resolves bridge number .drainPending (.sent (.error "remote bridge closed"))

inductive Feeds (bridge : Bridge) (number : Nat) : BridgeAction → Channel Bytes → Prop where
  | recv : Feeds bridge number (.recv number) (bridge.calls number).dataRx.recv
  | dropReceiver : Feeds bridge number (.dropReceiver number) (bridge.calls number).dataRx.dropReceiver
  | deliver (data : Bytes) (ready : (bridge.calls number).dataRx.outlet = .ready) :
      Feeds bridge number .deliver ((bridge.calls number).dataRx.send data)

inductive CallStep (bridge : Bridge) (action : BridgeAction) (number : Nat) : OpenCall → Prop where
  | same : CallStep bridge action number (bridge.calls number)
  | allocate (host : String) (port : UInt16) (egressProxy : Option String)
      (opens : action = .openTcp host port egressProxy) (fresh : number = bridge.allocated) :
      CallStep bridge action number { id := bridge.nextId, host, port, egressProxy, phase := .allocated }
  | move (phase : OpenPhase) (moves : bridge.Moves number action phase) :
      CallStep bridge action number { bridge.calls number with phase }
  | resolve (outcome : Oneshot) (resolves : bridge.Resolves number action outcome) :
      CallStep bridge action number ((bridge.calls number).answer outcome)
  | resolveMove (outcome : Oneshot) (phase : OpenPhase) (resolves : bridge.Resolves number action outcome)
      (moves : bridge.Moves number action phase) :
      CallStep bridge action number { (bridge.calls number).answer outcome with phase }
  | channel (dataRx : Channel Bytes) (feeds : bridge.Feeds number action dataRx) :
      CallStep bridge action number { bridge.calls number with dataRx }

variable {number : Nat}

theorem setCall_step {other : Bridge} {call : OpenCall} (calls : other.calls = bridge.calls)
    (step : bridge.CallStep action number call) (target : Nat) :
    bridge.CallStep action target ((other.setCall number call).calls target) := by
  by_cases same : target = number
  · subst same
    simpa only [setCall, update_self] using step
  · simpa only [setCall, update_of_ne same, calls] using .same

theorem resolvePending_calls (bridge : Bridge) (id : UInt32) (outcome : Oneshot) (number : Nat) :
    (bridge.resolvePending id outcome).calls number =
      if bridge.pendingTcp id = some number then (bridge.calls number).answer outcome else bridge.calls number := by
  simp only [resolvePending]
  cases bridge.pendingTcp id with
  | none => simp
  | some other =>
    by_cases same : number = other
    · simp [same]
    · simp [update_of_ne same, Ne.symm same]

theorem resolvePending_step {other : Bridge} {id : UInt32} (number : Nat) (calls : other.calls = bridge.calls)
    (pending : other.pendingTcp = bridge.pendingTcp)
    (resolves : bridge.pendingTcp id = some number → bridge.Resolves number action outcome) :
    bridge.CallStep action number ((other.resolvePending id outcome).calls number) := by
  rw [resolvePending_calls, calls, pending]
  split
  next found => exact .resolve _ (resolves found)
  next => exact .same

theorem resolveMove_step {id : UInt32} {mover : Nat} (number : Nat)
    (resolves : ∀ number, bridge.pendingTcp id = some number → bridge.Resolves number action outcome)
    (moves : bridge.Moves mover action phase) :
    bridge.CallStep action number (((bridge.resolvePending id outcome).setPhase mover phase).calls number) := by
  by_cases same : number = mover
  · subst same
    simp only [setPhase, setCall, update_self, resolvePending_calls]
    split
    next found => exact .resolveMove outcome phase (resolves number found) moves
    next => exact .move phase moves
  · simp only [setPhase, setCall, update_of_ne same]
    exact resolvePending_step number rfl rfl (resolves number)

theorem readFrame_step (bridge : Bridge) (frame : Frame) (number : Nat) :
    bridge.CallStep (.read frame) number ((bridge.readFrame frame).calls number) := by
  cases frame with
  | openTcpResult id ok message => exact resolvePending_step number rfl rfl fun found => .result id ok message found
  | _ => exact .same

theorem next_call (enabled : bridge.enabled action) (number : Nat) :
    bridge.CallStep action number ((bridge.next action).calls number) := by
  cases action with
  | openTcp host port egressProxy =>
    by_cases same : number = bridge.allocated
    · subst same
      simpa only [next, setCall, update_self] using .allocate host port egressProxy rfl rfl
    · simpa only [next, setCall, update_of_ne same] using .same
  | insertPending call => exact resolveMove_step number (fun _ found => .replaced call enabled found) (.insertPending enabled)
  | insertStream call => exact setCall_step rfl (.move _ (.insertStream enabled)) number
  | sendOpen call =>
    simp only [next]
    split
    next up => exact setCall_step rfl (.move _ (.sendOpen enabled up)) number
    next down => exact setCall_step rfl (.move _ (.unavailable _ enabled (Bool.eq_false_iff.mpr down))) number
  | timeOut call => exact setCall_step rfl (.move _ (.timeOut _ enabled.1)) number
  | takeAnswer call => exact setCall_step rfl (.move _ (.takeAnswer enabled.1)) number
  | cleanUp call =>
    simp only [next]
    split
    next left error phase =>
      exact resolveMove_step number (fun _ found => .cleanUp call left error phase found) (.cleanUp _ left error phase)
    next left error phase => exact setCall_step rfl (.move _ (.cleanUp _ left error phase)) number
    next => exact .same
  | close call reason => exact setCall_step rfl (.move _ (.close reason enabled)) number
  | dropStream call => exact setCall_step rfl (.move _ (.dropStream enabled)) number
  | recv call => exact setCall_step rfl (.channel _ .recv) number
  | dropReceiver call => exact setCall_step rfl (.channel _ .dropReceiver) number
  | read frame => exact bridge.readFrame_step frame number
  | deliver =>
    have ready : bridge.outlet = some .ready := enabled
    simp only [next]
    split
    next id slot data holding =>
      simp only [outlet, holding, Option.some.injEq] at ready
      exact setCall_step rfl (.channel _ (.deliver data ready)) number
    next => exact .same
    next => exact .same
  | clear =>
    simp only [next]
    split
    next id sender chore left holding =>
      cases chore with
      | answerPending reason =>
        exact resolvePending_step number rfl rfl fun found => .close id sender reason left holding found
      | _ => exact .same
    next => exact .same
  | drainPending =>
    simp only [next, drain]
    split
    next found => exact .resolve _ (.drained found)
    next => exact .same
  | _ => exact .same

end Bridge

def OpenCall.Accepted (call : OpenCall) : Prop := call.phase.returned = true ∨ call.pendingRx = .sent (.ok ())

theorem OpenCall.answer_accepted {call : OpenCall} (accepted : (call.answer outcome).Accepted) :
    call.Accepted ∨ outcome = .sent (.ok ()) := by
  rcases accepted with returned | given
  · exact .inl (.inl returned)
  · cases rx : call.pendingRx with
    | empty => exact .inr (by simpa only [OpenCall.answer, Oneshot.fill, rx] using given)
    | _ => exact .inl (.inr (by simpa only [OpenCall.answer, Oneshot.fill, rx] using given))

namespace Bridge
variable {bridge : Bridge} {action : BridgeAction} {number : Nat}

theorem Moves.rank (moves : bridge.Moves number action phase) :
    0 < (bridge.calls number).phase.rank ∧ (bridge.calls number).phase.rank ≤ phase.rank := by
  cases moves with
  | takeAnswer phase =>
    rw [phase, OpenPhase.ofAnswer_rank]
    decide
  | cleanUp table left error phase => rw [phase]; exact ⟨Nat.succ_pos 4, Nat.le_refl 5⟩
  | insertPending phase | insertStream phase | sendOpen phase _ | close _ phase | dropStream phase => rw [phase]; decide
  | unavailable error phase => rw [phase]; exact ⟨Nat.succ_pos 2, Nat.le_add_right 3 2⟩
  | timeOut error phase => rw [phase]; exact ⟨Nat.succ_pos 3, Nat.le_succ 4⟩

theorem Moves.returned (moves : bridge.Moves number action phase)
    (returned : (bridge.calls number).phase.returned = true) : phase.returned = true := by
  cases moves with
  | close _ _ | dropStream _ => rfl
  | insertPending phase | insertStream phase | sendOpen phase _ | takeAnswer phase | unavailable _ phase _
  | timeOut _ phase | cleanUp _ _ _ phase => rw [phase] at returned; cases returned

theorem Moves.accepted (moves : bridge.Moves number action phase) (returned : phase.returned = true) :
    (bridge.calls number).Accepted := by
  cases moves with
  | takeAnswer phase => exact .inr (OpenPhase.ofAnswer_returned returned)
  | close _ phase | dropStream phase => exact .inl (by rw [phase]; rfl)
  | _ => cases returned

def Grants (bridge : Bridge) (action : BridgeAction) (number : Nat) : Prop :=
  ∃ id message, action = .read (.openTcpResult id true message) ∧ bridge.pendingTcp id = some number

theorem Resolves.grants (resolves : bridge.Resolves number action (.sent (.ok ()))) : bridge.Grants action number := by
  generalize given : Oneshot.sent (.ok ()) = outcome at resolves
  cases resolves with
  | result id ok message found =>
    cases ok with
    | true => exact ⟨id, message, rfl, found⟩
    | false => simp at given
  | _ => simp at given

end Bridge

/-- What the invariants need to know of a call's step. `granted` is the event that lets
it open, and `fed` the one that puts data into its channel. -/
structure OpenCall.Advances (granted fed : Prop) (before after : OpenCall) : Prop where
  id : after.id = before.id
  rank : before.phase.rank ≤ after.phase.rank
  started : 0 < after.phase.rank → 0 < before.phase.rank
  returned : before.phase.returned = true → after.phase.returned = true
  accepted : after.Accepted → before.Accepted ∨ granted
  delivered : after.dataRx.delivered = before.dataRx.delivered ∨ fed

namespace Bridge
variable {bridge : Bridge} {action : BridgeAction}

theorem next_advances (enabled : bridge.enabled action) (number : Nat) :
    (bridge.calls number).Advances (bridge.Grants action number) (action = .deliver) ((bridge.next action).calls number) ∨
      number = bridge.allocated ∧ ∃ host port egressProxy, action = .openTcp host port egressProxy := by
  have step := next_call enabled number
  generalize (bridge.next action).calls number = after at step ⊢
  cases step with
  | same => exact .inl ⟨rfl, Nat.le_refl _, fun started => started, fun returned => returned, .inl, .inl rfl⟩
  | allocate host port egressProxy opens fresh => exact .inr ⟨fresh, host, port, egressProxy, opens⟩
  | move phase moves =>
    exact .inl ⟨rfl, moves.rank.2, fun _ => moves.rank.1, moves.returned,
      fun accepted => .inl (accepted.elim moves.accepted .inr), .inl rfl⟩
  | resolve outcome resolves =>
    refine .inl ⟨rfl, Nat.le_refl _, fun started => started, fun returned => returned, fun accepted => ?_, .inl rfl⟩
    exact (OpenCall.answer_accepted accepted).imp_right fun given => (given ▸ resolves).grants
  | resolveMove outcome phase resolves moves =>
    refine .inl ⟨rfl, moves.rank.2, fun _ => moves.rank.1, moves.returned, fun accepted => ?_, .inl rfl⟩
    rcases accepted with returned | given
    · exact .inl (moves.accepted returned)
    · exact (OpenCall.answer_accepted (.inr given)).imp_right fun given => (given ▸ resolves).grants
  | channel dataRx feeds =>
    refine .inl ⟨rfl, Nat.le_refl _, fun started => started, fun returned => returned, .inl, ?_⟩
    cases feeds with
    | recv | dropReceiver => exact .inl rfl
    | deliver => exact .inr rfl

/-- What only `next_id` and the end of the transport change. -/
structure Still (before after : Bridge) : Prop where
  allocated : after.allocated = before.allocated
  nextId : after.nextId = before.nextId
  writerUp : after.writerUp = before.writerUp
  lifecycle : after.lifecycle = before.lifecycle

theorem next_transport (bridge : Bridge) (action : BridgeAction) :
    bridge.Still (bridge.next action) ∨ action.allocates = true ∨ action.ends = true := by
  cases action with
  | openTcp | registerUdp => exact .inr (.inl rfl)
  | drainPending | clearTcp | clearUdp | abortWriter | failWriter => exact .inr (.inr rfl)
  | cleanUp | deliver =>
    simp only [next]
    split <;> exact .inl ⟨rfl, rfl, rfl, rfl⟩
  | clear =>
    simp only [next]
    split
    next id sender chore left _ => cases chore <;> exact .inl ⟨rfl, rfl, rfl, rfl⟩
    next => exact .inl ⟨rfl, rfl, rfl, rfl⟩
  | read frame => cases frame <;> exact .inl ⟨rfl, rfl, rfl, rfl⟩
  | _ => exact .inl ⟨rfl, rfl, rfl, rfl⟩

theorem next_ids (bridge : Bridge) (action : BridgeAction) :
    (bridge.next action).allocated = bridge.allocated ∧ (bridge.next action).nextId = bridge.nextId ∨
      (bridge.next action).allocated = bridge.allocated + 1 ∧ (bridge.next action).nextId = bridge.nextId + 1 ∧
        action.allocates = true := by
  rcases bridge.next_transport action with still | allocates | ends
  · exact .inl ⟨still.allocated, still.nextId⟩
  · cases action with
    | openTcp | registerUdp => exact .inr ⟨rfl, rfl, rfl⟩
    | _ => cases allocates
  · cases action with
    | drainPending | clearTcp | clearUdp | abortWriter | failWriter => exact .inl ⟨rfl, rfl⟩
    | _ => cases ends

theorem next_allocated (bridge : Bridge) (action : BridgeAction) :
    bridge.allocated ≤ (bridge.next action).allocated := by
  rcases next_ids bridge action with ⟨same, _⟩ | ⟨more, _, _⟩ <;> omega

theorem next_few (few : bridge.allocated < 2 ^ 32) (room : action.allocates = true → bridge.allocated + 1 < 2 ^ 32) :
    (bridge.next action).allocated < 2 ^ 32 := by
  rcases next_ids bridge action with ⟨same, _⟩ | ⟨more, _, allocates⟩
  · exact same ▸ few
  · exact more ▸ room allocates

theorem next_writerUp {bridge : Bridge} {action : BridgeAction} (up : (bridge.next action).writerUp = true) :
    bridge.writerUp = true := by
  rcases bridge.next_transport action with still | allocates | ends
  · rwa [still.writerUp] at up
  · cases action with
    | openTcp | registerUdp => exact up
    | _ => cases allocates
  · cases action with
    | failWriter => cases up
    | drainPending | clearTcp | clearUdp | abortWriter => exact up
    | _ => cases ends

variable {id : UInt32}

inductive Reads (bridge : Bridge) (action : BridgeAction) (after : Reading) : Prop where
  | same (kept : after = bridge.reading)
  | free (none : after.delivers = false)
  | tcp (id : UInt32) (number : Nat) (data : Bytes) (reads : action = .read (.data id data))
      (found : bridge.tcpStreams id = some number) (holding : after = .tcp id number data)
  | udp (id : UInt32) (number : Nat) (datagram : UdpDatagram) (found : bridge.udpStreams id = some number)
      (holding : after = .udp id number datagram)

theorem next_reads (bridge : Bridge) (action : BridgeAction) : bridge.Reads action (bridge.next action).reading := by
  cases action with
  | read frame =>
    cases frame with
    | data id bytes =>
      simp only [next, readFrame]
      split
      next number found => exact .tcp id number bytes rfl found rfl
      next => exact .same rfl
    | udpPacket id host port bytes =>
      simp only [next, readFrame]
      split
      next number found => exact .udp id number ⟨host, port, bytes⟩ found rfl
      next => exact .same rfl
    | close => exact .free rfl
    | _ => exact .same rfl
  | cleanUp call => simp only [next]; split <;> exact .same rfl
  | deliver =>
    simp only [next]
    split
    · exact .free rfl
    · exact .free rfl
    · exact .same rfl
  | receiverGone | backpressure => exact .free (Reading.delivers_giveUp ..)
  | clear =>
    simp only [next]
    split
    · exact .free (Reading.delivers_clear ..)
    · exact .same rfl
  | stopReader => exact .free rfl
  | _ => exact .same rfl

theorem next_reading_udp {datagram : UdpDatagram}
    (holding : (bridge.next action).reading = .udp id number datagram) :
    bridge.reading = .udp id number datagram ∨ bridge.udpStreams id = some number := by
  have reads := bridge.next_reads action
  rw [holding] at reads
  cases reads with
  | same kept => exact .inl kept.symm
  | udp id number datagram found holding =>
    cases holding
    exact .inr found
  | free none => cases none
  | tcp _ _ _ _ _ holding => cases holding

/-- A reader that neither waits for a frame nor delivers one goes on by `clear` only. -/
theorem parked_next (busy : bridge.reading ≠ .idle) (free : bridge.outlet = none) (enabled : bridge.enabled action) :
    (bridge.next action).reading = bridge.reading ∨ action = .clear := by
  cases action with
  | read | stopReader => exact absurd enabled busy
  | deliver | receiverGone | backpressure => exact absurd (free.symm.trans enabled) nofun
  | clear => exact .inr rfl
  | cleanUp number =>
    simp only [next]
    split <;> exact .inl rfl
  | _ => exact .inl rfl

theorem stopped_next (stopped : bridge.reading = .stopped) (enabled : bridge.enabled action) :
    (bridge.next action).reading = .stopped := by
  rcases parked_next (by simp [stopped]) (by simp [outlet, stopped]) enabled with same | rfl
  · exact same.trans stopped
  · rw [Bridge.enabled, stopped] at enabled
    cases enabled

theorem watched_next (watched : bridge.lifecycle ≠ .watching → bridge.reading = .stopped)
    (enabled : bridge.enabled action) (ended : (bridge.next action).lifecycle ≠ .watching) :
    (bridge.next action).reading = .stopped := by
  have stopped : bridge.reading = .stopped := by
    rcases bridge.next_transport action with still | allocates | ends
    · exact watched (still.lifecycle ▸ ended)
    · cases action with
      | openTcp | registerUdp => exact watched ended
      | _ => cases allocates
    · cases action with
      | drainPending => exact enabled.1
      | clearTcp | clearUdp | abortWriter =>
        apply watched
        intro watching
        exact absurd (watching.symm.trans enabled) nofun
      | failWriter => exact watched ended
      | _ => cases ends
  exact stopped_next stopped enabled

theorem next_tcpStreams (found : (bridge.next action).tcpStreams id = some number) :
    bridge.tcpStreams id = some number ∨ action = .insertStream number ∧ id = (bridge.calls number).id := by
  cases action with
  | insertStream call =>
    rcases entry_of_insert found with kept | ⟨same, rfl⟩
    · exact .inl kept
    · exact .inr ⟨rfl, same⟩
  | cleanUp call =>
    simp only [next] at found
    split at found
    · exact .inl found
    · exact .inl (entry_of_remove found)
    · exact .inl found
  | dropStream call => exact .inl (entry_of_remove found)
  | read frame => cases frame <;> exact .inl found
  | deliver =>
    simp only [next] at found
    split at found <;> exact .inl found
  | clear =>
    simp only [next] at found
    split at found
    next id sender chore left _ =>
      cases chore with
      | dropTcp => exact .inl (entry_of_remove found)
      | _ => exact .inl found
    next => exact .inl found
  | clearTcp => cases found
  | _ => exact .inl found

theorem next_pendingTcp (found : (bridge.next action).pendingTcp id = some number) :
    bridge.pendingTcp id = some number ∨ action = .insertPending number ∧ id = (bridge.calls number).id := by
  cases action with
  | insertPending call =>
    rcases entry_of_insert found with kept | ⟨same, rfl⟩
    · exact .inl (entry_of_remove kept)
    · exact .inr ⟨rfl, same⟩
  | cleanUp call =>
    simp only [next] at found
    split at found
    · exact .inl (entry_of_remove found)
    · exact .inl found
    · exact .inl found
  | read frame =>
    cases frame with
    | openTcpResult => exact .inl (entry_of_remove found)
    | _ => exact .inl found
  | deliver =>
    simp only [next] at found
    split at found <;> exact .inl found
  | clear =>
    simp only [next] at found
    split at found
    next id sender chore left _ =>
      cases chore with
      | answerPending => exact .inl (entry_of_remove found)
      | _ => exact .inl found
    next => exact .inl found
  | drainPending => cases found
  | _ => exact .inl found

theorem mem_send {frame other : Frame} (member : frame ∈ bridge.send other) :
    frame = other ∧ bridge.writerUp = true := by
  unfold send at member
  split at member
  next up => exact ⟨List.mem_singleton.mp member, up⟩
  next => cases member

inductive Sends (bridge : Bridge) : BridgeAction → Frame → Prop where
  | openTcp (call : Nat) : Sends bridge (.sendOpen call)
      (.openTcp (bridge.calls call).id (bridge.calls call).host (bridge.calls call).port (bridge.calls call).egressProxy)
  | data (call : Nat) (data : Bytes) : Sends bridge (.sendData call data) (.data (bridge.calls call).id data)
  | udpPacket (assoc : Nat) (datagram : UdpDatagram) : Sends bridge (.sendUdp assoc datagram)
      (.udpPacket (bridge.assocs assoc).id datagram.host datagram.port datagram.data)
  | log (message : String) : Sends bridge (.sendLog message) (.log message)
  | close (action : BridgeAction) (id : UInt32) (reason : String) : Sends bridge action (.close id reason)

theorem emits_sends {frame : Frame} (member : frame ∈ bridge.emits action) :
    bridge.Sends action frame ∧ bridge.writerUp = true := by
  unfold emits at member
  split at member
  case h_7 =>
    split at member
    next =>
      obtain ⟨rfl, up⟩ := mem_send member
      exact ⟨.close .., up⟩
    next => cases member
  case h_8 => cases member
  all_goals
    obtain ⟨rfl, up⟩ := mem_send member
    exact ⟨by constructor, up⟩

theorem openIds_emits (bridge : Bridge) (action : BridgeAction) : openIds (bridge.emits action) = [] ∨
      ∃ call, action = .sendOpen call ∧ openIds (bridge.emits action) = [(bridge.calls call).id] := by
  by_cases opening : ∃ call, action = .sendOpen call
  · obtain ⟨call, rfl⟩ := opening
    simp only [emits, send]
    split
    · exact .inr ⟨call, rfl, rfl⟩
    · exact .inl rfl
  · refine .inl (List.filterMap_eq_nil_iff.mpr fun frame member => ?_)
    cases (emits_sends member).1 with
    | openTcp call => exact absurd ⟨call, rfl⟩ opening
    | _ => rfl

end Bridge
end SshProxy
