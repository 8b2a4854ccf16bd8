import Mathlib.Algebra.Ring.Nat
import SshProxy.Library.Demux

/-! The frames of the SPX protocol and the bounded channels both ends queue stream
data in. Frames are values here; `FrameCodec` gives their bytes. -/

namespace SshProxy
open Library

abbrev Bytes := List UInt8

def tcpStreamChannelCapacity : Nat := 64

def tcpStreamBackpressureTimeout : Nat := 30
def udpAssocBackpressureTimeout : Nat := 10

structure UdpDatagram where
  host : String
  port : UInt16
  data : Bytes
  deriving DecidableEq, Repr

inductive Frame where
  | openTcp (id : UInt32) (host : String) (port : UInt16) (egressProxy : Option String)
  | openTcpResult (id : UInt32) (ok : Bool) (message : String)
  | data (id : UInt32) (data : Bytes)
  | close (id : UInt32) (reason : String)
  | udpPacket (id : UInt32) (host : String) (port : UInt16) (data : Bytes)
  | log (message : String)
  deriving DecidableEq, Repr

def Frame.data? : Frame → Option (UInt32 × Bytes)
  | .data id bytes => some (id, bytes)
  | _ => none

def streamData (frames : List Frame) : List (UInt32 × Bytes) := frames.filterMap Frame.data?

def payloads (id : UInt32) (frames : List Frame) : List Bytes := itemsOf id (streamData frames)

@[simp] theorem streamData_append (left right : List Frame) :
    streamData (left ++ right) = streamData left ++ streamData right :=
  List.filterMap_append

theorem streamData_eq_nil {frames : List Frame} (silent : ∀ id data, .data id data ∉ frames) : streamData frames = [] := by
  refine List.filterMap_eq_nil_iff.mpr fun frame member => ?_
  cases frame with
  | data id bytes => exact absurd member (silent id bytes)
  | _ => rfl

theorem streamData_split {consumed queue : List Frame} (arrived : consumed <+: queue) :
    streamData queue = streamData consumed ++ streamData (queue.drop consumed.length) := by
  obtain ⟨rest, rfl⟩ := arrived
  rw [List.drop_left, streamData_append]

def Frame.opens? : Frame → Option UInt32
  | .openTcp id _ _ _ => some id
  | _ => none

def openIds (frames : List Frame) : List UInt32 := frames.filterMap Frame.opens?

inductive Outlet where
  | ready
  | full
  | gone
  deriving DecidableEq

/-- One `mpsc` channel of a stream, seen from its receiver. `delivered` remembers
everything that was ever queued. -/
structure Channel (α : Type) where
  queue : List α := []
  delivered : List α := []
  alive : Bool := true

namespace Channel
variable {α : Type}

/-- What a `send` under a timeout can do: a sender waits only at a full queue. -/
def outlet (channel : Channel α) : Outlet :=
  if channel.alive = false then .gone
  else if channel.queue.length < tcpStreamChannelCapacity then .ready
  else .full

def send (channel : Channel α) (item : α) : Channel α :=
  { channel with queue := channel.queue ++ [item], delivered := channel.delivered ++ [item] }

def recv (channel : Channel α) : Channel α := { channel with queue := channel.queue.tail }

def dropReceiver (channel : Channel α) : Channel α := { channel with queue := [], alive := false }

end Channel

/-- What the arm of one frame still has to do for its id: entries that it removes, and the answer or the
`Close` behind that. Other tasks may run before each. -/
inductive Chore where
  | dropTcp
  | dropUdp
  | answerPending (reason : String)
  | sendClose (reason : String)
  deriving DecidableEq

/-- Where the loop that reads a transport stands. Between taking a sender out of the
stream table and the end of `send` under its timeout other tasks may run, and the
table may change under it. `slot` names the channel the taken sender belongs to;
`sender` is that of an association whose delivery has failed. -/
inductive Reading where
  | idle
  | tcp (id : UInt32) (slot : Nat) (data : Bytes)
  | udp (id : UInt32) (slot : Nat) (datagram : UdpDatagram)
  | clearing (id : UInt32) (sender : Option Nat) (chore : Chore) (left : List Chore)
  | stopped
  deriving DecidableEq

namespace Reading

def isClearing : Reading → Bool
  | .clearing _ _ _ _ => true
  | _ => false

def clear (id : UInt32) (sender : Option Nat) : List Chore → Reading
  | [] => .idle
  | chore :: left => .clearing id sender chore left

/-- The delivery has failed: its entry goes first, `tcp` or `udp` is what follows. -/
def giveUp (tcp udp : List Chore) : Reading → Reading
  | .tcp id _ _ => .clearing id none .dropTcp tcp
  | .udp id slot _ => .clearing id (some slot) .dropUdp udp
  | other => other

end Reading
end SshProxy
