import SshProxy.FrameCodec
import SshProxy.Peer
import SshProxy.QuicNative

/-! The transport listeners of the node daemon, from the accept of a client to the frames
and flow headers that are acted on for it. Certificates, sockets and JSON belong to
libraries and are parameters; a client is what it sends, and a read of bytes that it
never sends does not return. -/

namespace SshProxy
open Library

structure QuicTransportOptions where
  maxBidiStreams : UInt32 := 256
  streamReceiveWindow : UInt32 := 2097152
  receiveWindow : UInt32 := 16777216
  keepAliveIntervalSecs : UInt64 := 10
  idleTimeoutSecs : UInt64 := 60
  deriving DecidableEq

def QuicTransportOptions.validate (options : QuicTransportOptions) : Except String QuicTransportOptions :=
  if options.maxBidiStreams = 0 then .error "quic_max_bidi_streams must be greater than zero"
  else if options.streamReceiveWindow = 0 then .error "quic_stream_receive_window must be greater than zero"
  else if options.receiveWindow = 0 then .error "quic_receive_window must be greater than zero"
  else if options.keepAliveIntervalSecs = 0 then .error "quic_keep_alive_interval_secs must be greater than zero"
  else if options.idleTimeoutSecs = 0 then .error "quic_idle_timeout_secs must be greater than zero"
  else .ok {
    maxBidiStreams := min options.maxBidiStreams 4096
    streamReceiveWindow := min options.streamReceiveWindow 67108864
    receiveWindow := min options.receiveWindow 268435456
    keepAliveIntervalSecs := min options.keepAliveIntervalSecs 300
    idleTimeoutSecs := min options.idleTimeoutSecs 3600 }

/-- The parts of the daemon's state that its listeners read. Addresses and paths are
handed on as they are. -/
structure NodeManager where
  name : String
  transport : Option String := none
  tlsTransport : Option String := none
  quicTransport : Option String := none
  quicOptions : QuicTransportOptions := {}
  tlsCert : Option String := none
  tlsKey : Option String := none
  tlsClientCa : Option String := none
  token : Option String := none

/-- The libraries and the machine under the daemon. `accepts roots certificate` is the
verdict of the client verifier built from `roots`. -/
structure Env (Certificate Key : Type) where
  loadCertChain : String → Except String (List Certificate)
  loadPrivateKey : String → Except String Key
  withSingleCert : List Certificate → Key → Except String Unit
  buildVerifier : List Certificate → Except String Unit
  accepts : List Certificate → Certificate → Bool
  binds : String → Bool
  peer : PeerJson
  control : ControlJson

structure ServerConfig (Certificate : Type) where
  clientRoots : Option (List Certificate)

inductive Act where
  | frame (frame : Frame)
  | flow (header : StreamHeader)
  deriving DecidableEq

/-- A TLS client may present a certificate. A QUIC client opens streams, the first of
which the daemon takes for control. -/
inductive Client (Certificate : Type) where
  | plain (input : Bytes)
  | tls (certificate : Option Certificate) (input : Bytes)
  | quic (streams : List Bytes)

section
variable {Certificate Key : Type} (env : Env Certificate Key)

def tlsServerConfig (certs : List Certificate) (key : Key) : Except String (ServerConfig Certificate) := do
  env.withSingleCert certs key
  return { clientRoots := none }

def tlsServerConfigWithClientAuth (certs : List Certificate) (key : Key) (clientRoots : List Certificate) :
    Except String (ServerConfig Certificate) := do
  env.buildVerifier clientRoots
  env.withSingleCert certs key
  return { clientRoots := some clientRoots }

def tlsAcceptor (certs : List Certificate) (key : Key) : Option String → Except String (ServerConfig Certificate)
  | some clientCa => do
    let clientRoots ← env.loadCertChain clientCa
    tlsServerConfigWithClientAuth env certs key clientRoots
  | none => tlsServerConfig env certs key

def quicServerConfig (certs : List Certificate) (key : Key) (options : QuicTransportOptions) :
    Except String (ServerConfig Certificate) := do
  env.withSingleCert certs key
  let _ ← options.validate
  return { clientRoots := none }

def ServerConfig.admits (config : ServerConfig Certificate) (certificate : Option Certificate) : Bool :=
  match config.clientRoots with
  | none => true
  | some roots => certificate.any (env.accepts roots)

def serveFrames (input : Bytes) : List Act := (FrameReader.readAll input).map .frame

def whenOk {α : Type} (result : Except String α) (serve : α → List Act) : List Act :=
  match result with
  | .ok value => serve value
  | .error _ => []

def supportedQuicProtocols : List PeerProtocol := [.quicNative, .quic]

def acceptQuicPeerControl (json : PeerJson) (node : String) (supported : List PeerProtocol) :
    Reader String PeerProtocol := do
  let hello ← serverHandshake json node supported
  match selectSupportedProtocol hello.protocols supported with
  | some accepted => return accepted
  | none => throw "accepted QUIC protocol is missing after handshake"

/-- `handle_native_quic_stream` up to the connection it opens. -/
def handleNativeQuicStream (routeId : String) (stream : Bytes) : List Act :=
  whenOk (readFlowHeader stream) fun (header, _) => if header.routeId = routeId then [.flow header] else []

namespace NodeManager
variable (manager : NodeManager)

def runTlsTransportListener (addr : String) : Except String (ServerConfig Certificate) := do
  let certPath ← manager.tlsCert.elim (.error "--tls-cert is required with --tls-transport") .ok
  let keyPath ← manager.tlsKey.elim (.error "--tls-key is required with --tls-transport") .ok
  let certs ← env.loadCertChain certPath
  let key ← env.loadPrivateKey keyPath
  let config ← tlsAcceptor env certs key manager.tlsClientCa
  if env.binds addr then return config
  throw s!"failed to bind node TLS transport listener {addr}"

def runQuicTransportListener (addr : String) : Except String (ServerConfig Certificate) := do
  let certPath ← manager.tlsCert.elim (.error "--tls-cert is required with --quic-transport") .ok
  let keyPath ← manager.tlsKey.elim (.error "--tls-key is required with --quic-transport") .ok
  let certs ← env.loadCertChain certPath
  let key ← env.loadPrivateKey keyPath
  let config ← quicServerConfig env certs key manager.quicOptions
  if env.binds addr then return config
  throw s!"failed to bind node QUIC transport listener {addr}"

def plainListener : Bool := manager.transport.any env.binds

def tlsListener : Option (ServerConfig Certificate) :=
  manager.tlsTransport.bind fun addr => (manager.runTlsTransportListener env addr).toOption

def quicListener : Option (ServerConfig Certificate) :=
  manager.quicTransport.bind fun addr => (manager.runQuicTransportListener env addr).toOption

def servePlain (input : Bytes) : List Act :=
  let accept : Reader String PeerHello := do
    verifyToken manager.token
    serverHandshake env.peer manager.name [.sshDirect, .tcp]
  whenOk (accept input) fun (_, rest) => serveFrames rest

def serveTls (input : Bytes) : List Act :=
  whenOk (serverHandshake env.peer manager.name [.tlsTcp] input) fun (_, rest) => serveFrames rest

/-- `run_native_quic` on the rest of the control stream and the other streams. -/
def runNativeQuic (control : Bytes) (flows : List Bytes) : List Act :=
  whenOk (serverAccept env.control nativeWelcome control) fun (hello, _) =>
    flows.flatMap (handleNativeQuicStream hello.routeId)

def serveQuic : List Bytes → List Act
  | [] => []
  | control :: flows =>
    whenOk (acceptQuicPeerControl env.peer manager.name supportedQuicProtocols control) fun
      | (.quic, rest) => serveFrames rest
      | (.quicNative, rest) => runNativeQuic env rest flows
      | _ => []

def acts : Client Certificate → List Act
  | .plain input => if manager.plainListener env then manager.servePlain env input else []
  | .tls certificate input =>
    match manager.tlsListener env with
    | some config => if config.admits env certificate then manager.serveTls env input else []
    | none => []
  | .quic streams =>
    match manager.quicListener env with
    | some config => if config.admits env none then manager.serveQuic env streams else []
    | none => []

end NodeManager
end
end SshProxy
