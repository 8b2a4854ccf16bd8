import SshProxy.Frame
import SshProxy.Library.Machine

/-! One open SPX tunnel in `Raw` mode, from the client's socket to the target's. The
controller's `relay_spx_tcp` and the helper's `handle_open_tcp` run the same pair of
copy tasks under the same `select!`, with the roles of socket and stream exchanged,
so both are an `Endpoint`. Errors, timeouts and the loss of the bridge are left out. -/

namespace SshProxy
open Library

/-- A spawned copy task. An abort takes effect at the task's next poll, until then it
may still act. -/
inductive CopyTask where
  | running
  | finished
  | aborting
  | cancelled
  deriving DecidableEq

def CopyTask.live : CopyTask → Bool
  | .running | .aborting => true
  | .finished | .cancelled => false

def CopyTask.abort : CopyTask → CopyTask
  | .running => .aborting
  | task => task

/-- Before the `select!`, between it and the close of the stream, and after. -/
inductive RelayPhase where
  | relaying
  | closing
  | closed
  deriving DecidableEq

inductive StreamFrame where
  | data (payload : Bytes)
  | close
  deriving DecidableEq

/-- `copyOut` reads the socket and sends `Data`; `copyIn` takes from the stream's channel
and writes the socket. `unread` is what the socket's peer sends before it closes, in
the pieces in which it will be read. `hand` is the payload the frame reader waits to
deliver. -/
structure Endpoint where
  unread : List Bytes
  written : List Bytes := []
  entry : Bool := true
  hand : Option Bytes := none
  queue : List Bytes := []
  copyOut : CopyTask := .running
  copyIn : CopyTask := .running
  phase : RelayPhase := .relaying
  deriving DecidableEq

inductive EndpointAction where
  | send
  | eof
  | recv
  | shutdown
  | cancelOut
  | cancelIn
  | selectOut
  | selectIn
  | close
  | read
  | deliver
  | receiverGone
  deriving DecidableEq

namespace Endpoint

def enabled (endpoint : Endpoint) (incoming : List StreamFrame) : EndpointAction → Prop
  | .send => endpoint.copyOut.live = true ∧ endpoint.unread ≠ []
  | .eof => endpoint.copyOut.live = true ∧ endpoint.unread = []
  | .recv => endpoint.copyIn.live = true ∧ endpoint.queue ≠ []
  | .shutdown => endpoint.copyIn.live = true ∧ endpoint.entry = false ∧ endpoint.hand = none ∧ endpoint.queue = []
  | .cancelOut => endpoint.copyOut = .aborting
  | .cancelIn => endpoint.copyIn = .aborting
  | .selectOut => endpoint.phase = .relaying ∧ endpoint.copyOut = .finished
  | .selectIn => endpoint.phase = .relaying ∧ endpoint.copyIn = .finished
  | .close => endpoint.phase = .closing
  | .read => endpoint.hand = none ∧ incoming ≠ []
  | .deliver =>
    endpoint.hand ≠ none ∧ endpoint.copyIn.live = true ∧ endpoint.queue.length < tcpStreamChannelCapacity
  | .receiverGone => endpoint.hand ≠ none ∧ endpoint.copyIn.live = false

/-- The frame reader looks the stream up before it waits for the receiver. -/
def readFrame (endpoint : Endpoint) : StreamFrame → Endpoint
  | .data payload => if endpoint.entry then { endpoint with hand := some payload } else endpoint
  | .close => { endpoint with entry := false }

def next (endpoint : Endpoint) (incoming : List StreamFrame) : EndpointAction → Endpoint
  | .send => { endpoint with unread := endpoint.unread.tail }
  | .eof => { endpoint with copyOut := .finished }
  | .recv => { endpoint with written := endpoint.written ++ endpoint.queue.take 1, queue := endpoint.queue.tail }
  | .shutdown => { endpoint with copyIn := .finished }
  | .cancelOut => { endpoint with copyOut := .cancelled }
  | .cancelIn => { endpoint with copyIn := .cancelled, queue := [] }
  | .selectOut => { endpoint with copyIn := endpoint.copyIn.abort, phase := .closing }
  | .selectIn => { endpoint with copyOut := endpoint.copyOut.abort, phase := .closing }
  | .close => { endpoint with entry := false, phase := .closed }
  | .read =>
    match incoming with
    | frame :: _ => endpoint.readFrame frame
    | [] => endpoint
  | .deliver => { endpoint with queue := endpoint.queue ++ endpoint.hand.toList, hand := none }
  | .receiverGone => { endpoint with entry := false, hand := none }

def emits (endpoint : Endpoint) : EndpointAction → List StreamFrame
  | .send => (endpoint.unread.take 1).map .data
  | .close => [.close]
  | _ => []

instance (endpoint : Endpoint) (incoming : List StreamFrame) (action : EndpointAction) :
    Decidable (endpoint.enabled incoming action) := by
  cases action <;> dsimp only [enabled] <;> infer_instance

end Endpoint

def EndpointAction.consumes : EndpointAction → Nat
  | .read => 1
  | _ => 0

structure Tunnel where
  controller : Endpoint
  helper : Endpoint
  toHelper : List StreamFrame := []
  toController : List StreamFrame := []
  deriving DecidableEq

inductive TunnelAction where
  | controller (action : EndpointAction)
  | helper (action : EndpointAction)
  deriving DecidableEq

namespace Tunnel

def enabled (tunnel : Tunnel) : TunnelAction → Prop
  | .controller action => tunnel.controller.enabled tunnel.toController action
  | .helper action => tunnel.helper.enabled tunnel.toHelper action

def next (tunnel : Tunnel) : TunnelAction → Tunnel
  | .controller action =>
    { controller := tunnel.controller.next tunnel.toController action
      helper := tunnel.helper
      toController := tunnel.toController.drop action.consumes
      toHelper := tunnel.toHelper ++ tunnel.controller.emits action }
  | .helper action =>
    { controller := tunnel.controller
      helper := tunnel.helper.next tunnel.toHelper action
      toHelper := tunnel.toHelper.drop action.consumes
      toController := tunnel.toController ++ tunnel.helper.emits action }

/-- The first bytes of the client, if the proxy handshake left any, are sent ahead. -/
def clientPieces (initialRemote : Bytes) (request : List Bytes) : List Bytes :=
  if initialRemote.isEmpty then request else initialRemote :: request

/-- A tunnel just opened. The client will send `request` and the target `reply`, and each
closes its direction after that. -/
abbrev machine (initialRemote : Bytes) (request reply : List Bytes) : Machine Tunnel TunnelAction where
  initial :=
    { controller := { unread := clientPieces initialRemote request }
      helper := { unread := reply } }
  enabled := enabled
  next := next

instance (tunnel : Tunnel) (action : TunnelAction) : Decidable (tunnel.enabled action) := by
  cases action <;> dsimp only [enabled] <;> infer_instance

end Tunnel

/-- `relay_ssh_native_tcp`: after the initial bytes `copy_bidirectional` forwards each
direction until that direction's own end. -/
structure NativeRelay where
  clientUnread : List Bytes
  targetUnread : List Bytes
  toTarget : List Bytes := []
  toClient : List Bytes := []
  requestDone : Bool := false
  replyDone : Bool := false

inductive NativeAction where
  | forwardRequest
  | endRequest
  | forwardReply
  | endReply

namespace NativeRelay

def enabled (relay : NativeRelay) : NativeAction → Prop
  | .forwardRequest => relay.clientUnread ≠ []
  | .endRequest => relay.clientUnread = [] ∧ relay.requestDone = false
  | .forwardReply => relay.targetUnread ≠ []
  | .endReply => relay.targetUnread = [] ∧ relay.replyDone = false

def next (relay : NativeRelay) : NativeAction → NativeRelay
  | .forwardRequest =>
    { relay with clientUnread := relay.clientUnread.tail, toTarget := relay.toTarget ++ relay.clientUnread.take 1 }
  | .endRequest => { relay with requestDone := true }
  | .forwardReply =>
    { relay with targetUnread := relay.targetUnread.tail, toClient := relay.toClient ++ relay.targetUnread.take 1 }
  | .endReply => { relay with replyDone := true }

abbrev machine (initialRemote : Bytes) (request reply : List Bytes) : Machine NativeRelay NativeAction where
  initial := { clientUnread := Tunnel.clientPieces initialRemote request, targetUnread := reply }
  enabled := enabled
  next := next

end NativeRelay
end SshProxy
