import SshProxy.Frame
import SshProxy.Library.Machine

/-! The controller end of an SPX transport. An action is what one task does between
two points where another task may interleave: one table operation, one frame put on
the writer's queue, or one wait that ends. -/

namespace SshProxy
open Function Library

def openTcpTimeout : Nat := 30

inductive Oneshot where
  | empty
  | sent (result : Except String Unit)
  | dropped

def Oneshot.isEmpty : Oneshot → Bool
  | .empty => true
  | _ => false

/-- A oneshot accepts one value; later ones are discarded. -/
def Oneshot.fill : Oneshot → Oneshot → Oneshot
  | .empty, outcome => outcome
  | current, _ => current

/-- The tables an `open_tcp` call cleans up before it returns an error. -/
inductive Table where
  | pendingTcp
  | tcpStreams
  deriving DecidableEq

/-- Progress of one `open_tcp` call and of the flow it returns. `failing [] error` is a
call that has returned `error`. -/
inductive OpenPhase where
  | idle
  | allocated
  | pending
  | registered
  | waiting
  | failing (left : List Table) (error : String)
  | opened
  | closing
  | closed
  deriving DecidableEq

def OpenPhase.returned : OpenPhase → Bool
  | .opened | .closing | .closed => true
  | _ => false

def OpenPhase.cleaning : OpenPhase → Bool
  | .failing (_ :: _) _ => true
  | _ => false

def OpenPhase.over : OpenPhase → Bool
  | .failing [] _ | .opened | .closing | .closed => true
  | _ => false

def OpenPhase.inProgress : OpenPhase → Bool
  | .allocated | .pending | .registered | .waiting | .failing (_ :: _) _ => true
  | .idle | .failing [] _ | .opened | .closing | .closed => false

def OpenPhase.ofAnswer : Oneshot → OpenPhase
  | .sent (.ok ()) => .opened
  | .sent (.error message) => .failing [.tcpStreams, .pendingTcp] message
  | _ => .failing [] "remote bridge closed before CONNECT completed"

structure OpenCall where
  id : UInt32 := 0
  host : String := ""
  port : UInt16 := 0
  egressProxy : Option String := none
  phase : OpenPhase := .idle
  pendingRx : Oneshot := .empty
  dataRx : Channel Bytes := {}

def OpenCall.answer (call : OpenCall) (outcome : Oneshot) : OpenCall :=
  { call with pendingRx := call.pendingRx.fill outcome }

inductive AssocPhase where
  | idle
  | allocated
  | registered
  | closing
  | closed
  deriving DecidableEq

structure UdpAssociation where
  id : UInt32 := 0
  phase : AssocPhase := .idle
  rx : Channel UdpDatagram := {}

inductive Lifecycle where
  | watching
  | drained
  | tcpCleared
  | udpCleared
  | finished
  deriving DecidableEq

/-- `BridgeInner` with the tasks that work on it. Calls and associations are numbered
by the order in which they took an id from `next_id`; a table maps an id to the
number of the call whose sender it holds. -/
structure Bridge where
  nextId : UInt32 := 1
  allocated : Nat := 0
  calls : Nat → OpenCall := fun _ => {}
  assocs : Nat → UdpAssociation := fun _ => {}
  pendingTcp : UInt32 → Option Nat := fun _ => none
  tcpStreams : UInt32 → Option Nat := fun _ => none
  udpStreams : UInt32 → Option Nat := fun _ => none
  reading : Reading := .idle
  lifecycle : Lifecycle := .watching
  writerUp : Bool := true

inductive BridgeAction where
  | openTcp (host : String) (port : UInt16) (egressProxy : Option String)
  | insertPending (call : Nat)
  | insertStream (call : Nat)
  | sendOpen (call : Nat)
  | timeOut (call : Nat)
  | takeAnswer (call : Nat)
  | cleanUp (call : Nat)
  | sendData (call : Nat) (data : Bytes)
  | close (call : Nat) (reason : String)
  | dropStream (call : Nat)
  | recv (call : Nat)
  | dropReceiver (call : Nat)
  | registerUdp
  | insertUdp (assoc : Nat)
  | sendUdp (assoc : Nat) (datagram : UdpDatagram)
  | unregisterUdp (assoc : Nat)
  | sendUdpClose (assoc : Nat)
  | recvUdp (assoc : Nat)
  | dropUdpReceiver (assoc : Nat)
  | sendLog (message : String)
  | read (frame : Frame)
  | deliver
  | receiverGone
  | backpressure
  | clear
  | stopReader
  | drainPending
  | clearTcp
  | clearUdp
  | abortWriter
  | failWriter
  deriving DecidableEq

def BridgeAction.consumes : BridgeAction → List Frame
  | .read frame => [frame]
  | _ => []

namespace Bridge

def setCall (bridge : Bridge) (number : Nat) (call : OpenCall) : Bridge :=
  { bridge with calls := update bridge.calls number call }

def setPhase (bridge : Bridge) (number : Nat) (phase : OpenPhase) : Bridge :=
  bridge.setCall number { bridge.calls number with phase }

def setAssoc (bridge : Bridge) (number : Nat) (assoc : UdpAssociation) : Bridge :=
  { bridge with assocs := update bridge.assocs number assoc }

def resolvePending (bridge : Bridge) (id : UInt32) (outcome : Oneshot) : Bridge :=
  { bridge with
    pendingTcp := update bridge.pendingTcp id none
    calls := match bridge.pendingTcp id with
      | some number => update bridge.calls number ((bridge.calls number).answer outcome)
      | none => bridge.calls }

def addPending (bridge : Bridge) (id : UInt32) (number : Nat) : Bridge :=
  { bridge with pendingTcp := update bridge.pendingTcp id (some number) }

def addStream (bridge : Bridge) (id : UInt32) (number : Nat) : Bridge :=
  { bridge with tcpStreams := update bridge.tcpStreams id (some number) }

def addUdp (bridge : Bridge) (id : UInt32) (number : Nat) : Bridge :=
  { bridge with udpStreams := update bridge.udpStreams id (some number) }

def removeStream (bridge : Bridge) (id : UInt32) : Bridge :=
  { bridge with tcpStreams := update bridge.tcpStreams id none }

def removeUdp (bridge : Bridge) (id : UInt32) : Bridge :=
  { bridge with udpStreams := update bridge.udpStreams id none }

def send (bridge : Bridge) (frame : Frame) : List Frame := if bridge.writerUp then [frame] else []

/-- One iteration of `reader_loop`, up to the wait inside a delivery. -/
def readFrame (bridge : Bridge) : Frame → Bridge
  | .openTcpResult id ok message => bridge.resolvePending id (.sent (if ok then .ok () else .error message))
  | .data id data =>
    { bridge with
      reading := match bridge.tcpStreams id with
        | some number => .tcp id number data
        | none => bridge.reading }
  | .udpPacket id host port data =>
    { bridge with
      reading := match bridge.udpStreams id with
        | some number => .udp id number ⟨host, port, data⟩
        | none => bridge.reading }
  | .close id reason => { bridge with reading := .clearing id none .dropTcp [.dropUdp, .answerPending reason] }
  | .log _ => bridge
  | .openTcp _ _ _ _ => bridge

def outlet (bridge : Bridge) : Option Outlet :=
  match bridge.reading with
  | .tcp _ number _ => some (bridge.calls number).dataRx.outlet
  | .udp _ number _ => some (bridge.assocs number).rx.outlet
  | _ => none

def perform (bridge : Bridge) (id : UInt32) : Chore → Bridge
  | .dropTcp => bridge.removeStream id
  | .dropUdp => bridge.removeUdp id
  | .answerPending reason => bridge.resolvePending id (.sent (.error reason))
  | .sendClose _ => bridge

def drain (bridge : Bridge) : Bridge :=
  { bridge with
    pendingTcp := fun _ => none
    calls := fun number =>
      if bridge.pendingTcp (bridge.calls number).id = some number then
        (bridge.calls number).answer (.sent (.error "remote bridge closed"))
      else bridge.calls number }

def enabled (bridge : Bridge) : BridgeAction → Prop
  | .openTcp _ _ _ => True
  | .insertPending number => (bridge.calls number).phase = .allocated
  | .insertStream number => (bridge.calls number).phase = .pending
  | .sendOpen number => (bridge.calls number).phase = .registered
  | .timeOut number => (bridge.calls number).phase = .waiting ∧ (bridge.calls number).pendingRx.isEmpty = true
  | .takeAnswer number => (bridge.calls number).phase = .waiting ∧ (bridge.calls number).pendingRx.isEmpty = false
  | .cleanUp number => (bridge.calls number).phase.cleaning = true
  | .sendData number _ => (bridge.calls number).phase.returned = true
  | .close number _ => (bridge.calls number).phase = .opened
  | .dropStream number => (bridge.calls number).phase = .closing
  | .recv number => (bridge.calls number).phase.returned = true
  | .dropReceiver number => (bridge.calls number).phase.over = true
  | .registerUdp => True
  | .insertUdp number => (bridge.assocs number).phase = .allocated
  | .sendUdp number _ => (bridge.assocs number).phase ≠ .idle ∧ (bridge.assocs number).phase ≠ .allocated
  | .unregisterUdp number => (bridge.assocs number).phase = .registered
  | .sendUdpClose number => (bridge.assocs number).phase = .closing
  | .recvUdp number => (bridge.assocs number).phase ≠ .idle
  | .dropUdpReceiver number => (bridge.assocs number).phase ≠ .idle
  | .sendLog _ => True
  | .read _ => bridge.reading = .idle
  | .deliver => bridge.outlet = some .ready
  | .receiverGone => bridge.outlet = some .gone
  | .backpressure => bridge.outlet = some .full
  | .clear => bridge.reading.isClearing = true
  | .stopReader => bridge.reading = .idle
  | .drainPending => bridge.reading = .stopped ∧ bridge.lifecycle = .watching
  | .clearTcp => bridge.lifecycle = .drained
  | .clearUdp => bridge.lifecycle = .tcpCleared
  | .abortWriter => bridge.lifecycle = .udpCleared
  | .failWriter => bridge.writerUp = true

def next (bridge : Bridge) : BridgeAction → Bridge
  | .openTcp host port egressProxy =>
    { bridge.setCall bridge.allocated { id := bridge.nextId, host, port, egressProxy, phase := .allocated } with
      nextId := bridge.nextId + 1, allocated := bridge.allocated + 1 }
  | .insertPending number =>
    ((bridge.resolvePending (bridge.calls number).id .dropped).setPhase number .pending).addPending
      (bridge.calls number).id number
  | .insertStream number => (bridge.setPhase number .registered).addStream (bridge.calls number).id number
  | .sendOpen number =>
    bridge.setPhase number
      (if bridge.writerUp then .waiting else .failing [.pendingTcp, .tcpStreams] "remote bridge is not available")
  | .timeOut number =>
    bridge.setPhase number
      (.failing [.pendingTcp, .tcpStreams] s!"remote TCP open timed out after {openTcpTimeout}s")
  | .takeAnswer number => bridge.setPhase number (.ofAnswer (bridge.calls number).pendingRx)
  | .cleanUp number =>
    match (bridge.calls number).phase with
    | .failing (.pendingTcp :: left) error =>
      (bridge.resolvePending (bridge.calls number).id .dropped).setPhase number (.failing left error)
    | .failing (.tcpStreams :: left) error =>
      (bridge.removeStream (bridge.calls number).id).setPhase number (.failing left error)
    | _ => bridge
  | .sendData _ _ => bridge
  | .close number _ => bridge.setPhase number .closing
  | .dropStream number => (bridge.removeStream (bridge.calls number).id).setPhase number .closed
  | .recv number =>
    bridge.setCall number { bridge.calls number with dataRx := (bridge.calls number).dataRx.recv }
  | .dropReceiver number =>
    bridge.setCall number { bridge.calls number with dataRx := (bridge.calls number).dataRx.dropReceiver }
  | .registerUdp =>
    { bridge.setAssoc bridge.allocated { id := bridge.nextId, phase := .allocated } with
      nextId := bridge.nextId + 1, allocated := bridge.allocated + 1 }
  | .insertUdp number =>
    (bridge.setAssoc number { bridge.assocs number with phase := .registered }).addUdp (bridge.assocs number).id number
  | .sendUdp _ _ => bridge
  | .unregisterUdp number =>
    (bridge.removeUdp (bridge.assocs number).id).setAssoc number { bridge.assocs number with phase := .closing }
  | .sendUdpClose number => bridge.setAssoc number { bridge.assocs number with phase := .closed }
  | .recvUdp number =>
    bridge.setAssoc number { bridge.assocs number with rx := (bridge.assocs number).rx.recv }
  | .dropUdpReceiver number =>
    bridge.setAssoc number { bridge.assocs number with rx := (bridge.assocs number).rx.dropReceiver }
  | .sendLog _ => bridge
  | .read frame => bridge.readFrame frame
  | .deliver =>
    match bridge.reading with
    | .tcp _ number data =>
      { bridge.setCall number { bridge.calls number with dataRx := (bridge.calls number).dataRx.send data } with
        reading := .idle }
    | .udp _ number datagram =>
      { bridge.setAssoc number { bridge.assocs number with rx := (bridge.assocs number).rx.send datagram } with
        reading := .idle }
    | _ => bridge
  | .receiverGone => { bridge with reading := bridge.reading.giveUp [] [] }
  | .backpressure =>
    { bridge with
      reading := bridge.reading.giveUp
        [.sendClose s!"local receiver backpressure timed out after {tcpStreamBackpressureTimeout}s"]
        [.sendClose s!"local UDP receiver backpressure timed out after {udpAssocBackpressureTimeout}s"] }
  | .clear =>
    match bridge.reading with
    | .clearing id sender chore left => { bridge.perform id chore with reading := .clear id sender left }
    | _ => bridge
  | .stopReader => { bridge with reading := .stopped }
  | .drainPending => { bridge.drain with lifecycle := .drained }
  | .clearTcp => { bridge with tcpStreams := fun _ => none, lifecycle := .tcpCleared }
  | .clearUdp => { bridge with udpStreams := fun _ => none, lifecycle := .udpCleared }
  -- Aborting a task only asks for its end, which is `failWriter`.
  | .abortWriter => { bridge with lifecycle := .finished }
  | .failWriter => { bridge with writerUp := false }

def emits (bridge : Bridge) : BridgeAction → List Frame
  | .sendOpen number =>
    bridge.send (.openTcp (bridge.calls number).id (bridge.calls number).host (bridge.calls number).port
      (bridge.calls number).egressProxy)
  | .sendData number data => bridge.send (.data (bridge.calls number).id data)
  | .close number reason => bridge.send (.close (bridge.calls number).id reason)
  | .sendUdp number datagram =>
    bridge.send (.udpPacket (bridge.assocs number).id datagram.host datagram.port datagram.data)
  | .sendUdpClose number => bridge.send (.close (bridge.assocs number).id "udp association closed")
  | .sendLog message => bridge.send (.log message)
  | .clear =>
    match bridge.reading with
    | .clearing id _ (.sendClose reason) _ => bridge.send (.close id reason)
    | _ => []
  | _ => []

instance (bridge : Bridge) (action : BridgeAction) : Decidable (bridge.enabled action) := by
  cases action <;> dsimp only [enabled] <;> infer_instance

end Bridge

/-- The controller on its own. The frames handed to the writer are recorded: a helper has seen no others. -/
structure Controller where
  bridge : Bridge := {}
  requests : List Frame := []

namespace Controller

def enabled (state : Controller) (action : BridgeAction) : Prop := state.bridge.enabled action

def next (state : Controller) (action : BridgeAction) : Controller where
  bridge := state.bridge.next action
  requests := state.requests ++ state.bridge.emits action

def machine : Machine Controller BridgeAction where
  initial := {}
  enabled := enabled
  next := next

instance (state : Controller) (action : BridgeAction) : Decidable (machine.enabled state action) :=
  inferInstanceAs (Decidable (state.bridge.enabled action))

end Controller
end SshProxy
