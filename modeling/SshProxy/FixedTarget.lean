import SshProxy.Http
import SshProxy.Library.Conduit
import SshProxy.Pair

/-! Tunnels to a fixed target: `handle_fixed_target` and its two siblings run `open_tunnel` over
an SPX bridge, an SSH channel or a QUIC flow. The three differ in how the stream to the target
is opened and in what carries it; what they write to the client's socket is the same code. Only
the direction from the target to the client is followed. -/

namespace SshProxy
open Function Library

def httpError (status : Nat) (reason : String) : Bytes :=
  let body := s!"{status} {reason}\n"
  utf8 (s!"HTTP/1.1 {status} {reason}\r\ncontent-length: {body.utf8ByteSize}\r\n" ++
    "connection: close\r\n\r\n" ++ body)

def socksReply (code : UInt8) : Bytes := [5, code, 0, 1, 0, 0, 0, 0, 0, 0]

/-- What `write_tunnel_open_error` writes. `None` is also the response of a forwarded HTTP request. -/
def tunnelOpenError : TunnelResponse → Bytes
  | .socksSuccess => socksReply 4
  | .httpConnect | .none => httpError 502 "Bad Gateway"

def tunnelOpenReply : TunnelResponse → Bytes
  | .socksSuccess => socksReply 0
  | .httpConnect => utf8 "HTTP/1.1 200 Connection Established\r\n\r\n"
  | .none => []

def handleFixedTarget (host : String) (port : UInt16) : TunnelRequest where
  host := host
  port := port
  response := .none
  initialRemote := []
  mode := .raw
  unread := []

/-- `open_tunnel` seen from the client's socket, with the bytes that a write still has to put
there. -/
inductive ClientPhase where
  | opening
  | refusing (left : Bytes)
  | greeting (left : Bytes)
  | relaying (left : Bytes)
  | over
  deriving DecidableEq

namespace ClientPhase

def left : ClientPhase → Bytes
  | .refusing left | .greeting left | .relaying left => left
  | .opening | .over => []

def wrote (count : Nat) : ClientPhase → ClientPhase
  | .refusing left => .refusing (left.drop count)
  | .greeting left => .greeting (left.drop count)
  | .relaying left => .relaying (left.drop count)
  | .opening => .opening
  | .over => .over

end ClientPhase

structure TunnelClient where
  phase : ClientPhase := .opening
  written : Bytes := []
  received : Bytes := []
  up : Bool := true
  deriving DecidableEq

/-- A write takes any number of bytes at a time. The handler may leave at any point: a write
that fails, a relay that ends or is aborted. -/
inductive ClientMove where
  | write (count : Nat)
  | relay
  | gone
  | leave
  deriving DecidableEq

namespace TunnelClient

def opens (client : TunnelClient) (response : TunnelResponse) : TunnelClient :=
  { client with phase := .greeting (tunnelOpenReply response) }

def refuses (client : TunnelClient) (response : TunnelResponse) : TunnelClient :=
  { client with phase := .refusing (tunnelOpenError response) }

def receives (client : TunnelClient) (data : Bytes) : TunnelClient :=
  { client with phase := .relaying (client.phase.left ++ data), received := client.received ++ data }

def isRelaying (client : TunnelClient) : Bool := client.phase matches .relaying _

def enabled (client : TunnelClient) : ClientMove → Prop
  | .write count => client.up = true ∧ 0 < count ∧ count ≤ client.phase.left.length
  | .relay => client.phase = .greeting []
  | .gone => client.up = true
  | .leave => client.phase ≠ .over

def next (client : TunnelClient) : ClientMove → TunnelClient
  | .write count =>
    { client with phase := client.phase.wrote count, written := client.written ++ client.phase.left.take count }
  | .relay => { client with phase := .relaying [] }
  | .gone => { client with up := false }
  | .leave => { client with phase := .over }

instance (client : TunnelClient) (move : ClientMove) : Decidable (client.enabled move) := by
  cases move <;> dsimp only [enabled] <;> infer_instance

end TunnelClient

/-- The tunnel over the bridge that `bridge()` selected, which serves other calls as well.
`targets` is what the helper's tasks have read from their targets. -/
structure SpxFixedTunnel where
  pair : Pair := {}
  targets : Nat → Bytes := fun _ => []
  call : Option Nat := none
  client : TunnelClient := {}

inductive SpxFixedAction where
  | pair (action : PairAction)
  | noBridge
  | openTcp
  | openFailed
  | opened
  | recv
  | client (move : ClientMove)
  deriving DecidableEq

namespace SpxFixedTunnel

def isOwnRecv (state : SpxFixedTunnel) : PairAction → Bool
  | .bridge (.recv call) => state.call = some call
  | _ => false

def readTargets (targets : Nat → Bytes) : PairAction → Nat → Bytes
  | .remote (.sendData task data) => update targets task (targets task ++ data)
  | _ => targets

def phase (state : SpxFixedTunnel) : OpenPhase :=
  match state.call with
  | some call => (state.pair.bridge.calls call).phase
  | none => .idle

def queue (state : SpxFixedTunnel) : List Bytes :=
  match state.call with
  | some call => (state.pair.bridge.calls call).dataRx.queue
  | none => []

def enabled (state : SpxFixedTunnel) : SpxFixedAction → Prop
  | .pair action => state.pair.enabled action ∧ state.isOwnRecv action = false
  | .noBridge | .openTcp => state.client.phase = .opening ∧ state.call = none
  | .openFailed => state.client.phase = .opening ∧ state.phase.over = true ∧ state.phase.returned = false
  | .opened => state.client.phase = .opening ∧ state.phase = .opened
  | .recv => state.client.phase = .relaying [] ∧ state.phase.returned = true ∧ state.queue ≠ []
  | .client move => state.client.enabled move

def next (request : TunnelRequest) (egressProxy : Option String) (state : SpxFixedTunnel) :
    SpxFixedAction → SpxFixedTunnel
  | .pair action => { state with pair := state.pair.next action, targets := readTargets state.targets action }
  | .noBridge | .openFailed => { state with client := state.client.refuses request.response }
  | .openTcp =>
    { state with
      pair := state.pair.next (.bridge (.openTcp request.host request.port egressProxy))
      call := some state.pair.bridge.allocated }
  | .opened => { state with client := state.client.opens request.response }
  | .recv =>
    match state.call with
    | some call =>
      { state with
        pair := state.pair.next (.bridge (.recv call))
        client := state.client.receives (state.queue.headD []) }
    | none => state
  | .client move => { state with client := state.client.next move }

instance (state : SpxFixedTunnel) (action : SpxFixedAction) : Decidable (state.enabled action) := by
  cases action <;> dsimp only [enabled] <;> infer_instance

abbrev machine (request : TunnelRequest) (egressProxy defaultEgressProxy : Option String) :
    Machine SpxFixedTunnel SpxFixedAction where
  initial := { pair := { remote := { defaultEgressProxy } } }
  enabled := enabled
  next := next request egressProxy

end SpxFixedTunnel

/-- A tunnel over a stream of its own, which `copy_bidirectional` reads. The chain from the target to the
relay is a conduit: an SSH channel is one buffer of it, a QUIC flow three. -/
structure NativeTunnel where
  conduit : Conduit UInt8
  client : TunnelClient := {}

inductive NativeMove where
  | targetSends (data : Bytes)
  | pass (index count : Nat)
  | lost (index keep : Nat)
  | openFailed
  | opened
  | recv (count : Nat)
  | client (move : ClientMove)
  deriving DecidableEq

namespace NativeTunnel

def enabled (state : NativeTunnel) : NativeMove → Prop
  | .targetSends _ | .pass _ _ | .lost _ _ => True
  | .openFailed | .opened => state.client.phase = .opening
  | .recv count => state.client.isRelaying = true ∧ 0 < count ∧ count ≤ state.conduit.front.length
  | .client move => state.client.enabled move

def next (request : TunnelRequest) (state : NativeTunnel) : NativeMove → NativeTunnel
  | .targetSends data => { state with conduit := state.conduit.feed data }
  | .pass index count => { state with conduit := state.conduit.pass index count }
  | .lost index keep => { state with conduit := state.conduit.cut index keep }
  | .openFailed => { state with client := state.client.refuses request.response }
  | .opened => { state with client := state.client.opens request.response }
  | .recv count =>
    { conduit := state.conduit.emit count, client := state.client.receives (state.conduit.front.take count) }
  | .client move => { state with client := state.client.next move }

instance (state : NativeTunnel) (move : NativeMove) : Decidable (state.enabled move) := by
  cases move <;> dsimp only [enabled] <;> infer_instance

abbrev sshMachine (request : TunnelRequest) : Machine NativeTunnel NativeMove where
  initial := { conduit := { stages := [[]] } }
  enabled := enabled
  next := next request

end NativeTunnel

inductive DaemonFlow where
  | connecting
  | copying
  | ended
  deriving DecidableEq

/-- `open_tunnel_quic_native`. The buffers of the conduit are the QUIC stream, the daemon's copy
buffer and its socket to the target. -/
structure QuicFixedTunnel where
  tunnel : NativeTunnel := { conduit := { stages := [[], [], []] } }
  daemon : DaemonFlow := .connecting

inductive QuicFixedAction where
  | tunnel (move : NativeMove)
  | daemonConnects
  | daemonEnds
  deriving DecidableEq

namespace QuicFixedTunnel

/-- The daemon moves bytes only while it copies, and nothing comes from a target before it is
connected. -/
def admits : DaemonFlow → NativeMove → Bool
  | daemon, .targetSends _ => daemon ≠ .connecting
  | daemon, .pass _ _ => daemon = .copying
  | _, _ => true

def enabled (state : QuicFixedTunnel) : QuicFixedAction → Prop
  | .tunnel move => state.tunnel.enabled move ∧ admits state.daemon move = true
  | .daemonConnects => state.daemon = .connecting
  | .daemonEnds => state.daemon ≠ .ended

def next (request : TunnelRequest) (state : QuicFixedTunnel) : QuicFixedAction → QuicFixedTunnel
  | .tunnel move => { state with tunnel := state.tunnel.next request move }
  | .daemonConnects => { state with daemon := .copying }
  | .daemonEnds => { state with daemon := .ended }

instance (state : QuicFixedTunnel) (action : QuicFixedAction) : Decidable (state.enabled action) := by
  cases action <;> dsimp only [enabled] <;> infer_instance

abbrev machine (request : TunnelRequest) : Machine QuicFixedTunnel QuicFixedAction where
  initial := {}
  enabled := enabled
  next := next request

end QuicFixedTunnel
end SshProxy
