import SshProxy.Bridge
import SshProxy.FrameStream
import SshProxy.SharedState
import SshProxy.Socks5

/-! A bridge with the tasks `connect_io` spawns for it, in the slot of the worker that
connected it. The channel between the callers of the bridge and its writer task holds frames;
the writer takes them off, encodes them and puts them on the transport. -/

namespace SshProxy
open Library

def frameChannelCapacity : Nat := 256

def frameWriteBatchLimit : Nat := 32

/-- The writer task: in `rx.recv()`, or in `write_frame_batch` behind some frames. -/
inductive WriterTask where
  | receiving
  | batching (framesWritten : Nat) (scratch : FrameWriteScratch)
  | stopped

namespace WriterTask

def isRunning : WriterTask → Bool
  | .receiving | .batching .. => true
  | .stopped => false

def mayTake : WriterTask → Bool
  | .receiving => true
  | .batching framesWritten _ => framesWritten < frameWriteBatchLimit
  | .stopped => false

theorem isRunning_of_mayTake {writer : WriterTask} (taking : writer.mayTake = true) : writer.isRunning = true := by
  cases writer with
  | receiving | batching => rfl
  | stopped => cases taking

def framesWritten : WriterTask → Nat
  | .batching framesWritten _ => framesWritten
  | .receiving | .stopped => 0

def scratch : WriterTask → FrameWriteScratch
  | .batching _ scratch => scratch
  | .receiving | .stopped => { header := List.replicate 9 0, payload := [], whole := rfl }

def mayFlush (queue : List Frame) : WriterTask → Prop
  | .batching framesWritten _ => queue = [] ∨ frameWriteBatchLimit ≤ framesWritten
  | .receiving | .stopped => False

end WriterTask

/-- `handed` and `written` record the frames that were put on the channel and that the writer
has put on the transport. -/
structure BridgeTasks where
  bridge : Bridge := {}
  queue : List Frame := []
  writer : WriterTask := .receiving
  sink : Sink String UInt8
  slot : BridgeSlot := { bridge := some 0, connected := true, phase := .serving }
  handed : List Frame := []
  written : List Frame := []

inductive BridgeTasksAction where
  | request (reads : List Bytes)
  | task (action : BridgeAction)
  | write
  | flush
  | writerEnds
  | recordDisconnected
  | shutDown

namespace BridgeTasks

/-- The socket's reads fill a buffer of one KiB. -/
def isCut (reads : List Bytes) : Prop := ∀ chunk ∈ reads, chunk ≠ [] ∧ chunk.length ≤ 1024

def isTask : BridgeAction → Bool
  | .openTcp .. | .failWriter => false
  | _ => true

def enabled (text : IpText) (state : BridgeTasks) : BridgeTasksAction → Prop
  | .request reads => isCut reads ∧ ∃ request, handleClient text reads = .ok (.tunnel request)
  | .task action =>
    isTask action = true ∧ state.bridge.enabled action ∧
      state.queue.length + (state.bridge.emits action).length ≤ frameChannelCapacity
  | .write => state.writer.mayTake = true ∧ state.queue ≠ []
  | .flush => state.writer.mayFlush state.queue
  | .writerEnds => state.bridge.lifecycle = .finished ∧ state.writer.isRunning = true
  | .recordDisconnected => state.slot.phase = .serving ∧ state.bridge.lifecycle = .finished
  | .shutDown => state.slot.phase = .serving

/-- A frame that cannot be written ends the writer, and the channel with it. -/
def write (state : BridgeTasks) : BridgeTasks :=
  match state.queue with
  | [] => state
  | frame :: rest =>
    match frame.writeToWithScratch state.sink state.writer.scratch with
    | .ok (_, sink, scratch) =>
      { state with
        queue := rest
        written := state.written ++ [frame]
        sink
        writer := .batching (state.writer.framesWritten + 1) scratch }
    | .error _ => { state with bridge := state.bridge.next .failWriter, queue := [], writer := .stopped }

def disconnect (state : BridgeTasks) : BridgeTasks :=
  { state with slot := { state.slot with connected := false, activeStreams := 0, phase := .dropped } }

def next (text : IpText) (egressProxy : Option String) (state : BridgeTasks) : BridgeTasksAction → BridgeTasks
  | .request reads =>
    match handleClient text reads with
    | .ok (.tunnel request) =>
      { state with bridge := state.bridge.next (.openTcp request.host request.port egressProxy) }
    | _ => state
  | .task action =>
    { state with
      bridge := state.bridge.next action
      queue := state.queue ++ state.bridge.emits action
      handed := state.handed ++ state.bridge.emits action }
  | .write => state.write
  | .flush => { state with writer := .receiving }
  | .writerEnds => { state with bridge := state.bridge.next .failWriter, queue := [], writer := .stopped }
  | .recordDisconnected | .shutDown => state.disconnect

def machine (text : IpText) (egressProxy : Option String) (transport : Sink String UInt8) :
    Machine BridgeTasks BridgeTasksAction where
  initial := { sink := transport }
  enabled := enabled text
  next := next text egressProxy

end BridgeTasks
end SshProxy
