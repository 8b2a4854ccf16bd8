import SshProxy.QuicNative
import SshProxy.Library.Machine

/-! A QUIC-native flow from its open to its end, on the controller (`relay_quic_native_tcp`)
and on the daemon (`handle_native_quic_stream`). Both copy under a `select!` with the
receiver of a watch channel, whose sender belongs to the watchdog task. Byte counters and
latencies are left out. -/

namespace SshProxy
open Library

/-- In seconds, as in the texts. -/
def quicNativeFirstByteTimeout : Nat := 15

def quicNativeBackpressureTimeout : Nat := 120

/-- The controller may have client bytes to send first, the daemon serves one route. -/
inductive FlowSide where
  | controller (initialRemote : Bytes)
  | daemon (routeId : String)
  deriving DecidableEq

inductive FlowOutcome where
  | completed (clientToRemote remoteToClient : Nat)
  | firstByteTimeout
  | copyFailed (error : String)
  deriving DecidableEq

/-- What can go wrong before the copy starts: the first two on the controller, the others
on the daemon. -/
inductive OpenFailure where
  | initialWriteFailed (error : String)
  | initialWriteTimedOut
  | headerTimedOut
  | headerInvalid (error : String)
  | routeMismatch (expected got : String)
  | egressTimedOut
  | egressFailed (target : StreamTarget)
  deriving DecidableEq

def OpenFailure.text : OpenFailure → String
  | .initialWriteFailed error | .headerInvalid error => error
  | .initialWriteTimedOut => s!"initial client bytes write timed out after {quicNativeBackpressureTimeout}s"
  | .headerTimedOut => "node QUIC-native flow header timed out"
  | .routeMismatch expected got => s!"node QUIC-native route mismatch: expected {expected}, got {got}"
  | .egressTimedOut => "node QUIC-native egress open timed out"
  | .egressFailed target =>
    s!"failed to open egress tcp {target.host}:{target.port} for node QUIC-native stream"

/-- What is done to the QUIC stream, with the reason where one is recorded, and to the
daemon's connection to the target. -/
inductive FlowAct where
  | reset (reason : Option String)
  | finish (reason : Option String)
  | shutdownRemote
  deriving DecidableEq

/-- Neither a timeout on the daemon nor an invalid header resets the stream. -/
def OpenFailure.acts : OpenFailure → List FlowAct
  | .initialWriteFailed error => [.reset (some s!"initial client bytes write failed: {error}")]
  | .initialWriteTimedOut => [.reset (some (text .initialWriteTimedOut))]
  | .routeMismatch .. | .egressFailed _ => [.reset none]
  | .headerTimedOut | .headerInvalid _ | .egressTimedOut => []

inductive FlowEnding where
  | running
  | ok
  | err (error : String)
  deriving DecidableEq

/-- The watchdog task. From the end of its sleep on it runs without waiting, so an abort
reaches it only while it sleeps. It drops `cancel_tx` when it ends. -/
inductive Watchdog where
  | unspawned
  | sleeping
  | awake
  | firing
  | leaving (fired : Bool)
  | ended
  | aborted
  deriving DecidableEq

namespace Watchdog

def abort : Watchdog → Watchdog
  | .sleeping => .aborted
  | watchdog => watchdog

def expired : Watchdog → Bool
  | .unspawned | .sleeping | .aborted => false
  | .awake | .firing | .leaving _ | .ended => true

end Watchdog

/-- `cancelSent` is the new value of the watch channel. `recordedAtExpiry` remembers for the
statements what `first_byte_recorded` was when the sleep expired. -/
structure Flow where
  opened : Bool := false
  firstByteRecorded : Bool := false
  watchdog : Watchdog := .unspawned
  cancelSent : Bool := false
  outcome : Option FlowOutcome := none
  ending : FlowEnding := .running
  acts : List FlowAct := []
  copyFailures : Nat := 0
  recordedAtExpiry : Option Bool := none
  deriving DecidableEq

inductive FlowAction where
  | openFailed (failure : OpenFailure)
  | opened
  | recordFirstByte
  | sleepExpires
  | loadFlag
  | sendCancel
  | watchdogEnds
  | copyCompleted (clientToRemote remoteToClient : Nat)
  | copyFailed (error : String)
  | selectCancel
  | conclude
  deriving DecidableEq

namespace FlowSide

def firstByteText : FlowSide → String
  | .controller _ => s!"QUIC-native first byte timed out after {quicNativeFirstByteTimeout}s"
  | .daemon _ => s!"node QUIC-native first byte timed out after {quicNativeFirstByteTimeout}s"

def timeoutActs (side : FlowSide) : List FlowAct :=
  match side with
  | .controller _ => [.reset (some side.firstByteText)]
  | .daemon _ => [.reset none, .shutdownRemote]

def endActs : FlowSide → FlowOutcome → List FlowAct
  | .controller _, .completed .. => [.finish (some "tcp relay completed")]
  | .controller _, .copyFailed error => [.reset (some s!"copy failed: {error}")]
  | .daemon _, .completed .. => [.finish none, .shutdownRemote]
  | .daemon _, .copyFailed _ => [.reset none]
  | _, .firstByteTimeout => []

def ending (side : FlowSide) : FlowOutcome → FlowEnding
  | .completed .. => .ok
  | .firstByteTimeout => .err side.firstByteText
  | .copyFailed error =>
    match side with
    | .controller _ => .err error
    | .daemon _ => .err "node QUIC-native stream copy failed"

def counted (side : FlowSide) (failed : Bool) : Nat :=
  match side, failed with
  | .controller _, true => 1
  | _, _ => 0

/-- A daemon reads the flow header from the stream first, and reading it records the first
byte. -/
def readsHeader : FlowSide → Bool
  | .controller _ => false
  | .daemon _ => true

def possible (recorded : Bool) : FlowSide → OpenFailure → Bool
  | .controller initialRemote, .initialWriteFailed _ | .controller initialRemote, .initialWriteTimedOut =>
    initialRemote ≠ []
  | .daemon _, .headerTimedOut | .daemon _, .headerInvalid _ => true
  | .daemon routeId, .routeMismatch expected got => recorded && expected = routeId && got ≠ routeId
  | .daemon _, .egressTimedOut | .daemon _, .egressFailed _ => recorded
  | _, _ => false

end FlowSide

namespace Flow

/-- `cancel_rx.changed()` resolves on a new value and on the end of the sender. -/
def cancelReady (flow : Flow) : Prop := flow.cancelSent = true ∨ flow.watchdog = .ended

def enabled (side : FlowSide) (flow : Flow) : FlowAction → Prop
  | .openFailed failure =>
    flow.opened = false ∧ flow.ending = .running ∧ side.possible flow.firstByteRecorded failure = true
  | .opened =>
    flow.opened = false ∧ flow.ending = .running ∧ (side.readsHeader = true → flow.firstByteRecorded = true)
  | .recordFirstByte =>
    flow.ending = .running ∧ flow.outcome = none ∧ (flow.opened = true ∨ side.readsHeader = true)
  | .sleepExpires => flow.watchdog = .sleeping
  | .loadFlag => flow.watchdog = .awake
  | .sendCancel => flow.watchdog = .firing
  | .watchdogEnds => flow.watchdog = .leaving true ∨ flow.watchdog = .leaving false
  | .copyCompleted .. | .copyFailed _ => flow.opened = true ∧ flow.outcome = none
  | .selectCancel => flow.opened = true ∧ flow.outcome = none ∧ flow.cancelReady
  | .conclude => flow.outcome ≠ none ∧ flow.ending = .running

def next (side : FlowSide) (flow : Flow) : FlowAction → Flow
  | .openFailed failure =>
    { flow with
      ending := .err failure.text
      acts := flow.acts ++ failure.acts
      copyFailures := flow.copyFailures + side.counted true }
  | .opened => { flow with opened := true, watchdog := .sleeping }
  | .recordFirstByte => { flow with firstByteRecorded := true }
  | .sleepExpires => { flow with watchdog := .awake, recordedAtExpiry := some flow.firstByteRecorded }
  | .loadFlag => { flow with watchdog := if flow.firstByteRecorded then .leaving false else .firing }
  | .sendCancel => { flow with watchdog := .leaving true, cancelSent := true }
  | .watchdogEnds =>
    { flow with
      watchdog := .ended
      copyFailures := flow.copyFailures + side.counted (flow.watchdog = .leaving true) }
  | .copyCompleted clientToRemote remoteToClient =>
    { flow with outcome := some (.completed clientToRemote remoteToClient) }
  | .copyFailed error => { flow with outcome := some (.copyFailed error) }
  | .selectCancel => { flow with outcome := some .firstByteTimeout, acts := flow.acts ++ side.timeoutActs }
  | .conclude =>
    match flow.outcome with
    | none => flow
    | some outcome =>
      { flow with
        watchdog := flow.watchdog.abort
        ending := side.ending outcome
        acts := flow.acts ++ side.endActs outcome
        copyFailures := flow.copyFailures + side.counted (outcome matches .copyFailed _) }

instance (flow : Flow) : Decidable flow.cancelReady := inferInstanceAs (Decidable (_ ∨ _))

instance (side : FlowSide) (flow : Flow) (action : FlowAction) : Decidable (flow.enabled side action) := by
  cases action <;> dsimp only [enabled] <;> infer_instance

abbrev machine (side : FlowSide) : Machine Flow FlowAction where
  initial := {}
  enabled := enabled side
  next := next side

end Flow
end SshProxy
