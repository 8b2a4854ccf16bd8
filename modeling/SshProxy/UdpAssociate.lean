import SshProxy.Address
import SshProxy.Frame
import SshProxy.Library.Machine
import SshProxy.Library.Wire

/-! A SOCKS UDP association, `handle_udp_associate`. One task receives the datagrams of the
client and notes where the last one came from; another sends what comes back over the bridge
to the noted address. They share it under a mutex, so every turn of either task may come
between two of the other. -/

namespace SshProxy
open Library

namespace UdpPacket

def readHost (text : IpText) : Reader String String := do
  match ← Reader.number "missing UDP address type" 1 with
  | 1 =>
    let octets ← Reader.number "truncated IPv4 address" 4
    return text.display (.v4 (BitVec.ofNat 32 octets))
  | 3 =>
    let count ← Reader.number "truncated domain length" 1
    let name ← Reader.exactly "truncated domain name" count
    Reader.lift ((ofUtf8 name).elim (.error "UDP domain name is not utf-8") .ok)
  | 4 =>
    let octets ← Reader.number "truncated IPv6 address" 16
    return text.display (.v6 (BitVec.ofNat 128 octets))
  | other => throw s!"unsupported UDP address type {other}"

def parse (text : IpText) (bytes : Bytes) : Except String UdpDatagram :=
  if bytes.length < 4 ∨ bytes.take 2 ≠ [0, 0] then .error "invalid SOCKS UDP packet"
  else if (bytes.drop 2).take 1 ≠ [0] then .error "fragmented SOCKS UDP packets are not supported"
  else
    let rest : Reader String UdpDatagram := do
      let host ← readHost text
      let port ← Reader.number "truncated UDP port" 2
      let data ← get
      return { host, port := UInt16.ofNat port, data }
    rest.parse (bytes.drop 3)

def hostField (text : IpText) (host : String) : Except String Bytes :=
  match text.parse host with
  | some (.v4 bits) => .ok (1 :: bigEndian 4 bits.toNat)
  | some (.v6 bits) => .ok (4 :: bigEndian 16 bits.toNat)
  | none =>
    if 255 < (utf8 host).length then .error "UDP response hostname too long"
    else .ok (3 :: UInt8.ofNat (utf8 host).length :: utf8 host)

def build (text : IpText) (packet : UdpDatagram) : Except String Bytes := do
  let host ← hostField text packet.host
  return [0, 0, 0] ++ (host ++ (bigEndian 2 packet.port.toNat ++ packet.data))

end UdpPacket

/-- The task `udp_to_remote`: behind `recv_from`, or with a datagram for the bridge. -/
inductive UdpToRemote where
  | receiving
  | received (source : SocketAddr) (bytes : Bytes)
  | sending (source : SocketAddr) (datagram : UdpDatagram)
  | ended
  deriving DecidableEq

/-- The task `remote_to_udp`: with a response, before and after it has read `client_addr`. -/
inductive RemoteToUdp where
  | waiting
  | built (response : Bytes)
  | addressed (response : Bytes) (addr : SocketAddr)
  | ended
  deriving DecidableEq

/-- `forwarded` and `replied` record what the two tasks sent, and for whom. -/
structure UdpAssociate where
  boundTo : IpAddr
  clientAddr : Option SocketAddr
  udpToRemote : UdpToRemote := .receiving
  remoteToUdp : RemoteToUdp := .waiting
  forwarded : List (SocketAddr × UdpDatagram) := []
  replied : List (SocketAddr × Bytes) := []
  deriving DecidableEq

inductive UdpAssociateAction where
  | arrive (source : SocketAddr) (datagram : Bytes)
  | receiveFails
  | record
  | forward
  | forwardFails
  | reply (packet : UdpDatagram)
  | bridgeEnds
  | readAddr
  | sendTo
  | sendFails
  | controlEnds
  deriving DecidableEq

namespace UdpAssociate

def bindIp : IpAddr → IpAddr
  | .v4 bits => if bits ≠ 0 then .v4 bits else .v4 0x7f000001
  | .v6 bits => if bits ≠ 0 then .v6 bits else .v4 0x7f000001

/-- The client's address is that of the control connection until its first datagram. -/
def start (controlAddr : IpAddr) (peer : SocketAddr) : UdpAssociate :=
  { boundTo := bindIp controlAddr, clientAddr := some peer }

def udpBuffer : Nat := 65535

def isReceived : UdpToRemote → Bool
  | .received .. => true
  | _ => false

def isSending : UdpToRemote → Bool
  | .sending .. => true
  | _ => false

def isBuilt : RemoteToUdp → Bool
  | .built _ => true
  | _ => false

def isAddressed : RemoteToUdp → Bool
  | .addressed .. => true
  | _ => false

def enabled (state : UdpAssociate) : UdpAssociateAction → Prop
  | .arrive .. | .receiveFails => state.udpToRemote = .receiving
  | .record => isReceived state.udpToRemote = true
  | .forward | .forwardFails => isSending state.udpToRemote = true
  | .reply _ | .bridgeEnds => state.remoteToUdp = .waiting
  | .readAddr => isBuilt state.remoteToUdp = true
  | .sendTo | .sendFails => isAddressed state.remoteToUdp = true
  | .controlEnds => True

/-- The source of a datagram is noted before the datagram is looked at. Any error ends the
task it happens in, and the end of the control connection aborts both. -/
def next (text : IpText) (state : UdpAssociate) : UdpAssociateAction → UdpAssociate
  | .arrive source datagram => { state with udpToRemote := .received source (datagram.take udpBuffer) }
  | .receiveFails | .forwardFails => { state with udpToRemote := .ended }
  | .record =>
    match state.udpToRemote with
    | .received source bytes =>
      { state with
        clientAddr := some source
        udpToRemote := match UdpPacket.parse text bytes with
          | .ok datagram => .sending source datagram
          | .error _ => .ended }
    | _ => state
  | .forward =>
    match state.udpToRemote with
    | .sending source datagram =>
      { state with udpToRemote := .receiving, forwarded := state.forwarded ++ [(source, datagram)] }
    | _ => state
  | .reply packet =>
    { state with
      remoteToUdp := match UdpPacket.build text packet with
        | .ok response => .built response
        | .error _ => .ended }
  | .bridgeEnds | .sendFails => { state with remoteToUdp := .ended }
  | .readAddr =>
    match state.remoteToUdp with
    | .built response =>
      { state with remoteToUdp := match state.clientAddr with
          | some addr => .addressed response addr
          | none => .waiting }
    | _ => state
  | .sendTo =>
    match state.remoteToUdp with
    | .addressed response addr =>
      { state with remoteToUdp := .waiting, replied := state.replied ++ [(addr, response)] }
    | _ => state
  | .controlEnds => { state with udpToRemote := .ended, remoteToUdp := .ended }

instance decidableEnabled (state : UdpAssociate) (action : UdpAssociateAction) : Decidable (state.enabled action) := by
  cases action <;> dsimp only [enabled] <;> infer_instance

abbrev machine (text : IpText) (controlAddr : IpAddr) (peer : SocketAddr) : Machine UdpAssociate UdpAssociateAction where
  initial := start controlAddr peer
  enabled := enabled
  next := next text

end UdpAssociate
end SshProxy
