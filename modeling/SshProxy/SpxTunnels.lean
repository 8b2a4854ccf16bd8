import SshProxy.Library.Tally
import SshProxy.SharedState

/-! The tunnels of an SPX route over its pool of bridges: `open_tunnel` from the bridge that
`bridge()` selects to the end of the relay. The slots, their workers and the calls of `bridge()`
are those of `SharedState`; `active_streams` is changed by the tunnels and reset by the workers. -/

namespace SshProxy
open Library

inductive SpxTunnel (pool : Nat) where
  /-- Not called, or in `bridge()`. -/
  | selecting
  /-- In `link.open_tcp`. -/
  | opening (selection : BridgeSelection pool)
  | opened (selection : BridgeSelection pool)
  /-- After `record_worker_tcp_open`; the reply to the client is being written. -/
  | recorded (selection : BridgeSelection pool)
  | relaying (selection : BridgeSelection pool)
  /-- The relay is over; the flow is about to be closed. -/
  | closing (selection : BridgeSelection pool)
  /-- The flow is closed; `record_worker_tcp_close` comes next. -/
  | closed (selection : BridgeSelection pool)
  /-- Without a flow, or with one that was closed or was not. -/
  | returned (flowClosed : Option Bool)
  deriving DecidableEq

inductive TunnelMove where
  | take
  | giveUp
  | openFails
  | opens
  | recordOpen
  | replies
  /-- `reply` or `write_all` fails, and `?` leaves `open_tunnel`. -/
  | replyFails
  | relayEnds
  | closeFlow
  | recordClose
  deriving DecidableEq

structure SpxPool (pool tunnels : Nat) where
  shared : SharedState pool tunnels := {}
  tunnels : Fin tunnels → SpxTunnel pool := fun _ => .selecting

inductive SpxAction (pool tunnels : Nat) where
  | shared (action : SharedAction pool tunnels)
  | tunnel (tunnel : Fin tunnels) (move : TunnelMove)
  deriving DecidableEq

def CallerPhase.outcome {pool : Nat} : CallerPhase pool → Option (Except BridgeError (BridgeSelection pool))
  | .selected selection => some (.ok selection)
  | .failed error => some (.error error)
  | _ => none

def SpxTunnel.after {pool : Nat} (outcome : Option (Except BridgeError (BridgeSelection pool))) :
    SpxTunnel pool → TunnelMove → Option (SpxTunnel pool)
  | .selecting, .take =>
    match outcome with
    | some (.ok selection) => some (.opening selection)
    | _ => none
  | .selecting, .giveUp =>
    match outcome with
    | some (.error _) => some (.returned none)
    | _ => none
  | .opening _, .openFails => some (.returned none)
  | .opening selection, .opens => some (.opened selection)
  | .opened selection, .recordOpen => some (.recorded selection)
  | .recorded selection, .replies => some (.relaying selection)
  | .recorded _, .replyFails => some (.returned (some false))
  | .relaying selection, .relayEnds => some (.closing selection)
  | .closing selection, .closeFlow => some (.closed selection)
  | .closed _, .recordClose => some (.returned (some true))
  | _, _ => none

namespace SharedState
variable {pool callers : Nat}

def recordWorkerTcpOpen (state : SharedState pool callers) (slot : Fin pool) : SharedState pool callers :=
  state.setSlot slot { state.slots slot with activeStreams := ((state.slots slot).activeStreams + 1) % 2 ^ 64 }

/-- The counter is lowered with `checked_sub`, which leaves zero as it is. -/
def recordWorkerTcpClose (state : SharedState pool callers) (slot : Fin pool) : SharedState pool callers :=
  state.setSlot slot { state.slots slot with activeStreams := (state.slots slot).activeStreams - 1 }

def onMove (state : SharedState pool callers) (tunnel : Fin callers) : TunnelMove → SpxTunnel pool → SharedState pool callers
  | .take, _ => state.setCaller tunnel {}
  | .recordOpen, .opened selection => state.recordWorkerTcpOpen selection.slot
  | .recordClose, .closed selection => state.recordWorkerTcpClose selection.slot
  | _, _ => state

end SharedState

namespace SpxPool
variable {pool tunnels : Nat}

def moved (state : SpxPool pool tunnels) (tunnel : Fin tunnels) (move : TunnelMove) : Option (SpxTunnel pool) :=
  (state.tunnels tunnel).after (state.shared.callers tunnel).phase.outcome move

/-- Which steps of `SharedState` are taken: a tunnel calls `bridge()` once and is not cancelled,
and the counters are left to the tunnels. -/
def takes (state : SpxPool pool tunnels) : SharedAction pool tunnels → Prop
  | .call caller => state.tunnels caller = .selecting ∧ (state.shared.callers caller).phase = .idle
  | .cancel _ | .setActive .. => False
  | _ => True

def enabled (state : SpxPool pool tunnels) : SpxAction pool tunnels → Prop
  | .shared action => state.shared.enabled action ∧ state.takes action
  | .tunnel tunnel move => (state.moved tunnel move).isSome

def next (reconnect : Bool) (state : SpxPool pool tunnels) : SpxAction pool tunnels → SpxPool pool tunnels
  | .shared action => { state with shared := state.shared.next reconnect action }
  | .tunnel tunnel move =>
    match state.moved tunnel move with
    | none => state
    | some after =>
      { shared := state.shared.onMove tunnel move (state.tunnels tunnel)
        tunnels := Function.update state.tunnels tunnel after }

abbrev machine (reconnect : Bool) (pool tunnels : Nat) : Machine (SpxPool pool tunnels) (SpxAction pool tunnels) where
  initial := {}
  enabled := enabled
  next := next reconnect

instance (state : SpxPool pool tunnels) (action : SharedAction pool tunnels) : Decidable (state.takes action) := by
  rcases action with _ | _ <;> dsimp only [takes] <;> infer_instance

instance (state : SpxPool pool tunnels) (action : SpxAction pool tunnels) : Decidable (state.enabled action) := by
  cases action <;> dsimp only [enabled] <;> infer_instance

end SpxPool
end SshProxy
