import SshProxy.QuicNative
import SshProxy.Library.Incremental
import SshProxy.Library.Machine

/-! The control loop of a QUIC-native connection, `run_control_loop`. Each turn of the loop
starts a frame read and a wait for the next keepalive tick, and drops the one that comes in
second; a dropped read forgets the bytes it has taken. -/

namespace SshProxy
open Library

def controlKeepaliveTimeout : Nat := 45

def writeJsonControlFrame (magic : Bytes) (version : UInt16) (maxLen : Nat) (label : String) (payload : Bytes) :
    Except String Bytes :=
  if maxLen < payload.length then .error s!"{label} too large: {payload.length}"
  else .ok (magic ++ (bigEndian 2 version.toNat ++ (bigEndian 4 payload.length ++ payload)))

/-- `read_json_control_frame` after some bytes: its four exact reads, one after the other. -/
def jsonControlProgress {α : Type} (magic : Bytes) (expectedVersion : UInt16) (maxLen : Nat) (label : String)
    (decode : Bytes → Option α) (consumed : Bytes) : Progress String α :=
  if consumed.length < 4 then .needs (4 - consumed.length)
  else if consumed.take 4 ≠ magic then .failed s!"invalid {label} magic"
  else if consumed.length < 6 then .needs (6 - consumed.length)
  else
    let version := ofBigEndian ((consumed.drop 4).take 2)
    if version ≠ expectedVersion.toNat then
      .failed s!"unsupported {label} version {version}; expected {expectedVersion}"
    else if consumed.length < 10 then .needs (10 - consumed.length)
    else
      let count := ofBigEndian ((consumed.drop 6).take 4)
      if maxLen < count then .failed s!"{label} too large: {count}"
      else if consumed.length < 10 + count then .needs (10 + count - consumed.length)
      else (decode ((consumed.drop 10).take count)).elim (.failed s!"failed to decode {label}") .done

namespace RouteControlFrame

def writeTo (json : ControlJson) (frame : RouteControlFrame) : Except String Bytes :=
  writeJsonControlFrame controlFrameMagic controlFrameVersion maxControlFrame "QUIC-native control frame" (json.encode frame)

def progress (json : ControlJson) : Bytes → Progress String RouteControlFrame :=
  jsonControlProgress controlFrameMagic controlFrameVersion maxControlFrame "QUIC-native control frame" json.decode

end RouteControlFrame

inductive ControlError where
  | readFailed (error : String)
  | writeFailed (error : String)
  | badFrame (error : String)
  | pongOverdue (seq : UInt64)
  deriving DecidableEq

def ControlError.text : ControlError → String
  | .readFailed error | .writeFailed error | .badFrame error => error
  | .pongOverdue seq => s!"QUIC-native control pong {seq} timed out after {controlKeepaliveTimeout}s"

/-- The loop with the stream that feeds it: the frames the peer has written, their bytes that
no read has taken yet, and those that the read in progress has. Times are in seconds. -/
structure ControlLoop where
  sent : List RouteControlFrame := []
  stream : Bytes := []
  consumed : Bytes := []
  decoded : List RouteControlFrame := []
  written : List RouteControlFrame := []
  now : Nat := 0
  nextPing : UInt64 := 1
  pendingPing : Option (UInt64 × Nat) := none
  controlPingsSent : Nat := 0
  controlPongsReceived : Nat := 0
  ended : Option ControlError := none
  deriving DecidableEq

/-- `failure` is the error of the write that a turn of the loop may make. -/
inductive ControlAction where
  | send (frame : RouteControlFrame)
  | take (count : Nat) (failure : Option String)
  | readFails (error : String)
  | tick (failure : Option String)
  | advance (seconds : Nat)
  deriving DecidableEq

namespace ControlLoop

def handle (state : ControlLoop) (failure : Option String) : RouteControlFrame → ControlLoop
  | .ping seq =>
    match failure with
    | none => { state with written := state.written ++ [.pong seq] }
    | some error => { state with ended := some (.writeFailed error) }
  | .pong seq =>
    match state.pendingPing with
    | some (pending, _) =>
      if pending = seq then
        { state with pendingPing := none, controlPongsReceived := state.controlPongsReceived + 1 }
      else state
    | none => state
  | .hello _ | .welcome _ => state

def saturatingSucc (value : UInt64) : UInt64 := if value = 0xffffffffffffffff then value else value + 1

def onTick (state : ControlLoop) (failure : Option String) : ControlLoop :=
  match state.pendingPing with
  | some (seq, sentAt) =>
    if controlKeepaliveTimeout ≤ state.now - sentAt then { state with ended := some (.pongOverdue seq) } else state
  | none =>
    let seq := state.nextPing
    let state := { state with nextPing := saturatingSucc seq }
    match failure with
    | some error => { state with ended := some (.writeFailed error) }
    | none =>
      { state with
        written := state.written ++ [.ping seq]
        controlPingsSent := state.controlPingsSent + 1
        pendingPing := some (seq, state.now) }

def onBytes (json : ControlJson) (state : ControlLoop) (count : Nat) (failure : Option String) : ControlLoop :=
  let consumed := state.consumed ++ state.stream.take count
  let state := { state with consumed, stream := state.stream.drop count }
  match RouteControlFrame.progress json consumed with
  | .needs _ => state
  | .failed error => { state with ended := some (.badFrame error) }
  | .done frame => { state with consumed := [], decoded := state.decoded ++ [frame] }.handle failure frame

/-- A read takes what has arrived, but no more than the part of the frame it is at. -/
def mayTake (json : ControlJson) (state : ControlLoop) (count : Nat) : Prop :=
  0 < count ∧ count ≤ state.stream.length ∧
    match RouteControlFrame.progress json state.consumed with
    | .needs wanted => count ≤ wanted
    | _ => False

def enabled (json : ControlJson) (state : ControlLoop) : ControlAction → Prop
  | .send frame => (json.encode frame).length ≤ maxControlFrame
  | .take count _ => state.ended = none ∧ state.mayTake json count
  | .readFails _ | .tick _ => state.ended = none
  | .advance _ => True

def next (json : ControlJson) (state : ControlLoop) : ControlAction → ControlLoop
  | .send frame =>
    match frame.writeTo json with
    | .ok bytes => { state with sent := state.sent ++ [frame], stream := state.stream ++ bytes }
    | .error _ => state
  | .take count failure => state.onBytes json count failure
  | .readFails error => { state with ended := some (.readFailed error) }
  | .tick failure => { state with consumed := [] }.onTick failure
  | .advance seconds => { state with now := state.now + seconds }

instance (json : ControlJson) (state : ControlLoop) (count : Nat) : Decidable (state.mayTake json count) := by
  unfold mayTake
  cases RouteControlFrame.progress json state.consumed <;> infer_instance

instance decidableEnabled (json : ControlJson) (state : ControlLoop) (action : ControlAction) :
    Decidable (state.enabled json action) := by
  cases action <;> dsimp only [enabled] <;> infer_instance

abbrev machine (json : ControlJson) : Machine ControlLoop ControlAction where
  initial := {}
  enabled := enabled json
  next := next json

end ControlLoop
end SshProxy
