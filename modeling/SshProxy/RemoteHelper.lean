import SshProxy.Peer
import SshProxy.ProxyConfig

/-! Opening the transport to a remote helper, `open_auto_transport`. What is tried and how it turns
out is recorded attempt by attempt; the network, the certificate files and the SSH session
decide how, and may do so by everything that was tried before. -/

namespace SshProxy
open Library

def PeerProtocol.display : PeerProtocol → String
  | .sshNative => "ssh-native"
  | .quicNative => "quic-native"
  | .quic => "quic"
  | .tlsTcp => "tls-tcp"
  | .tcp => "tcp"
  | .sshDirect => "ssh-direct"
  | .sshExec => "ssh-exec"

structure PeerEndpoint where
  protocol : PeerProtocol
  addr : Option SocketAddr
  deriving DecidableEq

structure NetworkHints where
  peerAddr : Option SocketAddr
  sshAvailable : Bool
  allowPlainTcp : Bool
  preferLowLatency : Bool

def autoCandidates (hints : NetworkHints) : List PeerEndpoint :=
  (match hints.peerAddr with
    | none => []
    | some addr =>
      (if hints.preferLowLatency then [⟨.quic, some addr⟩] else []) ++ [⟨.tlsTcp, some addr⟩] ++
        (if hints.allowPlainTcp then [⟨.tcp, some addr⟩] else [])) ++
    if hints.sshAvailable then [⟨.sshDirect, hints.peerAddr⟩] else []

def implementedAutoCandidates (hints : NetworkHints) : List PeerEndpoint :=
  (autoCandidates hints).filter fun candidate => candidate.protocol ∈ [.quic, .tlsTcp, .tcp, .sshDirect]

structure RemoteHelperOpenIntent where
  transport : TransportMode
  remoteTcp : SocketAddr
  remoteQuic : Option SocketAddr := none
  remoteTls : Option SocketAddr := none
  remoteCa : Option String := none
  remoteClientCert : Option String := none
  remoteClientKey : Option String := none
  remoteToken : Option String := none
  allowPlainTcp : Bool := false

namespace RemoteHelperOpenIntent

def networkHints (intent : RemoteHelperOpenIntent) : NetworkHints where
  peerAddr := (intent.remoteQuic.or intent.remoteTls).or (some intent.remoteTcp)
  sshAvailable := true
  allowPlainTcp := intent.allowPlainTcp
  preferLowLatency := true

def candidateProtocols (intent : RemoteHelperOpenIntent) : List PeerProtocol :=
  match intent.transport with
  | .auto => (implementedAutoCandidates intent.networkHints).map PeerEndpoint.protocol
  | .sshNative => [.sshNative]
  | .quicNative => [.quicNative]
  | .quic => [.quic]
  | .tlsTcp => [.tlsTcp]
  | .plainTcp => [.tcp]
  | .exec => [.sshExec]
  | .tcp => [.sshDirect]

end RemoteHelperOpenIntent

/-- A connection that is asked for. A plain one carries SPX frames in the clear. -/
inductive Dial where
  | quic (addr : SocketAddr)
  | tls (addr : SocketAddr)
  | plainTcp (addr : SocketAddr)
  | sshDirect (addr : SocketAddr)
  | sshExec
  deriving DecidableEq

/-- What the attempts depend on. `connect` and `handshake` answer for the dial they are given, at
the end of what was dialled before. -/
structure HelperNet where
  loadPem : String → Except String Unit
  connect : List Dial → Dial → Except String Unit
  handshake : List Dial → Dial → Except String Unit

def sendTransportToken (token : Option String) : Except String Unit :=
  match token with
  | some token => if 65535 < token.utf8ByteSize then .error "remote token is too long" else .ok ()
  | none => .ok ()

/-- An attempt: the connection it dials, if it gets so far, and its outcome. -/
structure Attempt where
  dialled : Option Dial
  outcome : Except String Unit

namespace Attempt

def refused (error : String) : Attempt where
  dialled := none
  outcome := .error error

def dial (net : HelperNet) (before : List Dial) (dial : Dial) (onStream : Except String Unit) : Attempt where
  dialled := some dial
  outcome := do
    net.connect before dial
    onStream

end Attempt

section
variable (net : HelperNet) (intent : RemoteHelperOpenIntent) (before : List Dial)

def openQuicTransport : Attempt :=
  match intent.remoteQuic, intent.remoteCa with
  | none, _ => .refused "--remote-quic is required for quic transport"
  | some _, none => .refused "--remote-ca is required for quic transport"
  | some addr, some ca =>
    if intent.remoteClientCert.isSome ∨ intent.remoteClientKey.isSome then
      .refused "QUIC mTLS is not implemented yet; use tls-tcp for mTLS"
    else
      match net.loadPem ca with
      | .error error => .refused error
      | .ok () => .dial net before (.quic addr) (net.handshake before (.quic addr))

/-- The certificates of the client, which come as a pair or not at all. -/
def loadClientAuth : Except String Unit :=
  match intent.remoteClientCert, intent.remoteClientKey with
  | some cert, some key => do
    net.loadPem cert
    net.loadPem key
  | none, none => .ok ()
  | _, _ => .error "--remote-client-cert and --remote-client-key must be used together"

def openTlsTransport : Attempt :=
  match intent.remoteTls, intent.remoteCa with
  | none, _ => .refused "--remote-tls is required for tls-tcp transport"
  | some _, none => .refused "--remote-ca is required for tls-tcp transport"
  | some addr, some ca =>
    match (do net.loadPem ca; loadClientAuth net intent : Except String Unit) with
    | .error error => .refused error
    | .ok () => .dial net before (.tls addr) (net.handshake before (.tls addr))

def openWithToken (dial : Dial) : Attempt :=
  .dial net before dial do
    sendTransportToken intent.remoteToken
    net.handshake before dial

def openPlainTcpTransport : Attempt := openWithToken net intent before (.plainTcp intent.remoteTcp)

def openSshDirectTransport : Attempt := openWithToken net intent before (.sshDirect intent.remoteTcp)

def openExecHelper : Attempt := .dial net before .sshExec (.ok ())

/-- What `open_auto_transport` does for one candidate; those it passes over are not tried. -/
def openCandidate : PeerProtocol → Option Attempt
  | .sshNative | .quicNative => none
  | .quic => if intent.remoteQuic.isNone then none else some (openQuicTransport net intent before)
  | .tlsTcp => if intent.remoteTls.isNone then none else some (openTlsTransport net intent before)
  | .tcp => if !intent.allowPlainTcp then none else some (openPlainTcpTransport net intent before)
  | .sshDirect => some (openSshDirectTransport net intent before)
  | .sshExec => some (openExecHelper net before)

end

structure TransportCandidateFailure where
  protocol : String
  error : String
  deriving DecidableEq

/-- The attempts so far. -/
abbrev OpenLog := List (PeerProtocol × Attempt)

def OpenLog.dials (log : OpenLog) : List Dial := log.filterMap (·.2.dialled)

def openCandidates (net : HelperNet) (intent : RemoteHelperOpenIntent) :
    List PeerProtocol → OpenLog → List TransportCandidateFailure →
      Except (List TransportCandidateFailure) PeerProtocol × OpenLog
  | [], log, failures => (.error failures, log)
  | protocol :: rest, log, failures =>
    match openCandidate net intent log.dials protocol with
    | none => openCandidates net intent rest log failures
    | some attempt =>
      match attempt.outcome with
      | .ok () => (.ok protocol, log ++ [(protocol, attempt)])
      | .error error =>
        openCandidates net intent rest (log ++ [(protocol, attempt)]) (failures ++ [⟨protocol.display, error⟩])

def openAutoTransport (net : HelperNet) (intent : RemoteHelperOpenIntent) :
    Except (List TransportCandidateFailure) PeerProtocol × OpenLog :=
  openCandidates net intent intent.candidateProtocols [] []

end SshProxy
