import SshProxy.Frame

/-! The helper end of an SPX transport. Actions are cut as in `Bridge`. What the
target of a stream does, and when, is up to the environment. -/

namespace SshProxy
open Function

/-- Progress of one `handle_open_tcp` task. The stream is in the table from
`registered` on, until something removes it. -/
inductive TaskPhase where
  | idle
  | connecting
  | connected
  | registered
  | relaying
  | closing
  | finished
  | refused
  deriving DecidableEq

/-- `OpenTcpResult` with `ok` set has been sent. Aborting the copy tasks does not stop
the poll they are in, so they may act a little longer than the task. -/
def TaskPhase.answered : TaskPhase → Bool
  | .relaying | .closing | .finished => true
  | _ => false

structure OpenTask where
  id : UInt32 := 0
  host : String := ""
  port : UInt16 := 0
  egressProxy : Option String := none
  phase : TaskPhase := .idle
  streamRx : Channel Bytes := {}

inductive UdpPhase where
  | idle
  | binding
  | bound
  | failed
  | ended
  deriving DecidableEq

structure UdpTask where
  id : UInt32 := 0
  phase : UdpPhase := .idle
  rx : Channel UdpDatagram := {}

/-- The tables of `run_transport_with_egress_proxy` with the tasks it spawned, which
are numbered in the order of their spawning. -/
structure Remote where
  defaultEgressProxy : Option String := none
  spawned : Nat := 0
  tasks : Nat → OpenTask := fun _ => {}
  spawnedUdp : Nat := 0
  udpTasks : Nat → UdpTask := fun _ => {}
  tcpStreams : UInt32 → Option Nat := fun _ => none
  udpStreams : UInt32 → Option Nat := fun _ => none
  reading : Reading := .idle
  writerUp : Bool := true

inductive RemoteAction where
  | read (frame : Frame)
  | deliver
  | receiverGone
  | backpressure
  | clear
  | connect (task : Nat)
  | refuse (task : Nat) (error : String)
  | insertStream (task : Nat)
  | sendResult (task : Nat)
  | sendData (task : Nat) (data : Bytes)
  | recv (task : Nat)
  | dropReceiver (task : Nat)
  | finish (task : Nat)
  | sendClose (task : Nat)
  | bindUdp (task : Nat)
  | failBind (task : Nat) (error : String)
  | sendUdp (task : Nat) (datagram : UdpDatagram)
  | recvUdp (task : Nat)
  | endUdp (task : Nat)
  | stopReader
  | failWriter
  deriving DecidableEq

def RemoteAction.consumes : RemoteAction → List Frame
  | .read frame => [frame]
  | _ => []

namespace Remote

def setTask (remote : Remote) (number : Nat) (task : OpenTask) : Remote :=
  { remote with tasks := update remote.tasks number task }

def setPhase (remote : Remote) (number : Nat) (phase : TaskPhase) : Remote :=
  remote.setTask number { remote.tasks number with phase }

def setUdpTask (remote : Remote) (number : Nat) (task : UdpTask) : Remote :=
  { remote with udpTasks := update remote.udpTasks number task }

def addStream (remote : Remote) (id : UInt32) (number : Nat) : Remote :=
  { remote with tcpStreams := update remote.tcpStreams id (some number) }

def removeStream (remote : Remote) (id : UInt32) : Remote :=
  { remote with tcpStreams := update remote.tcpStreams id none }

def removeUdp (remote : Remote) (id : UInt32) : Remote :=
  { remote with udpStreams := update remote.udpStreams id none }

def send (remote : Remote) (frame : Frame) : List Frame := if remote.writerUp then [frame] else []

def spawnOpenTcp (remote : Remote) (id : UInt32) (host : String) (port : UInt16) (egressProxy : Option String) :
    Remote :=
  { remote.setTask remote.spawned
      { id, host, port, egressProxy := egressProxy <|> remote.defaultEgressProxy, phase := .connecting } with
    spawned := remote.spawned + 1 }

def spawnUdpAssoc (remote : Remote) (id : UInt32) : Remote :=
  { remote.setUdpTask remote.spawnedUdp { id, phase := .binding } with
    spawnedUdp := remote.spawnedUdp + 1
    udpStreams := update remote.udpStreams id (some remote.spawnedUdp) }

def readFrame (remote : Remote) : Frame → Remote
  | .openTcp id host port egressProxy => remote.spawnOpenTcp id host port egressProxy
  | .data id data =>
    { remote with
      reading := match remote.tcpStreams id with
        | some number => .tcp id number data
        | none => remote.reading }
  | .close id _ => { remote with reading := .clearing id none .dropTcp [.dropUdp] }
  | .udpPacket id host port data =>
    match remote.udpStreams id with
    | some number => { remote with reading := .udp id number ⟨host, port, data⟩ }
    | none => { remote.spawnUdpAssoc id with reading := .udp id remote.spawnedUdp ⟨host, port, data⟩ }
  | .log _ => remote
  | .openTcpResult _ _ _ => remote

def outlet (remote : Remote) : Option Outlet :=
  match remote.reading with
  | .tcp _ number _ => some (remote.tasks number).streamRx.outlet
  | .udp _ number _ => some (remote.udpTasks number).rx.outlet
  | _ => none

def perform (remote : Remote) (id : UInt32) : Chore → Remote
  | .dropTcp => remote.removeStream id
  | .dropUdp => remote.removeUdp id
  | .answerPending _ | .sendClose _ => remote

def udpSenderAlive (remote : Remote) (number : Nat) : Bool :=
  remote.udpStreams (remote.udpTasks number).id == some number ||
    match remote.reading with
    | .udp _ other _ | .clearing _ (some other) _ _ => other == number
    | _ => false

def enabled (remote : Remote) : RemoteAction → Prop
  | .read _ => remote.reading = .idle
  | .deliver => remote.outlet = some .ready
  | .receiverGone => remote.outlet = some .gone
  | .backpressure => remote.outlet = some .full
  | .clear => remote.reading.isClearing = true
  | .connect number => (remote.tasks number).phase = .connecting
  | .refuse number _ => (remote.tasks number).phase = .connecting
  | .insertStream number => (remote.tasks number).phase = .connected
  | .sendResult number => (remote.tasks number).phase = .registered
  | .sendData number _ => (remote.tasks number).phase.answered = true
  | .recv number => (remote.tasks number).phase.answered = true
  | .dropReceiver number => (remote.tasks number).phase.answered = true
  | .finish number => (remote.tasks number).phase = .relaying
  | .sendClose number => (remote.tasks number).phase = .closing
  | .bindUdp number => (remote.udpTasks number).phase = .binding
  | .failBind number _ => (remote.udpTasks number).phase = .binding
  | .sendUdp number _ => (remote.udpTasks number).phase = .bound ∨ (remote.udpTasks number).phase = .ended
  | .recvUdp number => (remote.udpTasks number).phase = .bound
  | .endUdp number =>
    (remote.udpTasks number).phase = .failed ∨ (remote.udpTasks number).phase = .bound ∧
      (remote.udpTasks number).rx.queue.isEmpty = true ∧ remote.udpSenderAlive number = false
  | .stopReader => remote.reading = .idle
  | .failWriter => remote.writerUp = true

def next (remote : Remote) : RemoteAction → Remote
  | .read frame => remote.readFrame frame
  | .deliver =>
    match remote.reading with
    | .tcp _ number data =>
      { remote.setTask number { remote.tasks number with streamRx := (remote.tasks number).streamRx.send data } with
        reading := .idle }
    | .udp _ number datagram =>
      { remote.setUdpTask number { remote.udpTasks number with rx := (remote.udpTasks number).rx.send datagram } with
        reading := .idle }
    | _ => remote
  | .receiverGone => { remote with reading := remote.reading.giveUp [] [] }
  | .backpressure =>
    { remote with
      reading := remote.reading.giveUp
        [.sendClose s!"remote receiver backpressure timed out after {tcpStreamBackpressureTimeout}s"]
        [.sendClose s!"remote UDP receiver backpressure timed out after {udpAssocBackpressureTimeout}s"] }
  | .clear =>
    match remote.reading with
    | .clearing id sender chore left => { remote.perform id chore with reading := .clear id sender left }
    | _ => remote
  | .connect number => remote.setPhase number .connected
  | .refuse number _ => remote.setPhase number .refused
  | .insertStream number => (remote.setPhase number .registered).addStream (remote.tasks number).id number
  | .sendResult number => remote.setPhase number .relaying
  | .sendData _ _ => remote
  | .recv number =>
    remote.setTask number { remote.tasks number with streamRx := (remote.tasks number).streamRx.recv }
  | .dropReceiver number =>
    remote.setTask number { remote.tasks number with streamRx := (remote.tasks number).streamRx.dropReceiver }
  | .finish number => (remote.removeStream (remote.tasks number).id).setPhase number .closing
  | .sendClose number => remote.setPhase number .finished
  | .bindUdp number => remote.setUdpTask number { remote.udpTasks number with phase := .bound }
  | .failBind number _ => remote.setUdpTask number { remote.udpTasks number with phase := .failed }
  | .sendUdp _ _ => remote
  | .recvUdp number =>
    remote.setUdpTask number { remote.udpTasks number with rx := (remote.udpTasks number).rx.recv }
  | .endUdp number =>
    remote.setUdpTask number
      { remote.udpTasks number with phase := .ended, rx := (remote.udpTasks number).rx.dropReceiver }
  -- At the end of the stream the writer is asked to end, after an error it is not.
  | .stopReader => { remote with reading := .stopped }
  | .failWriter => { remote with writerUp := false }

def emits (remote : Remote) : RemoteAction → List Frame
  | .clear =>
    match remote.reading with
    | .clearing id _ (.sendClose reason) _ => remote.send (.close id reason)
    | _ => []
  | .refuse number error => remote.send (.openTcpResult (remote.tasks number).id false error)
  | .sendResult number => remote.send (.openTcpResult (remote.tasks number).id true "")
  | .sendData number data => remote.send (.data (remote.tasks number).id data)
  | .sendClose number => remote.send (.close (remote.tasks number).id "tcp closed")
  | .failBind number error => remote.send (.close (remote.udpTasks number).id s!"udp bind failed: {error}")
  | .sendUdp number datagram =>
    remote.send (.udpPacket (remote.udpTasks number).id datagram.host datagram.port datagram.data)
  | _ => []

instance (remote : Remote) (action : RemoteAction) : Decidable (remote.enabled action) := by
  cases action <;> dsimp only [enabled] <;> infer_instance

end Remote
end SshProxy
