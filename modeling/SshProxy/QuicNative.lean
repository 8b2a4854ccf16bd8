import SshProxy.Frame
import SshProxy.Library.Wire

/-! The control session and the flow headers of QUIC-native routes. -/

namespace SshProxy
open Library Reader Encoder

def controlFrameMagic : Bytes := [81, 78, 67, 49]

def controlFrameVersion : UInt16 := 1

def maxControlFrame : Nat := 64 * 1024

structure RouteControlHello where
  version : UInt16
  routeId : String
  node : String
  deriving DecidableEq

structure RouteControlWelcome where
  version : UInt16
  routeId : String
  accepted : Bool
  selectedProtocol : Option String
  message : String
  deriving DecidableEq

inductive RouteControlFrame where
  | hello (hello : RouteControlHello)
  | welcome (welcome : RouteControlWelcome)
  | ping (seq : UInt64)
  | pong (seq : UInt64)
  deriving DecidableEq

structure ControlJson where
  decode : Bytes → Option RouteControlFrame
  encode : RouteControlFrame → Bytes

def readJsonControlFrame {α : Type} (magic : Bytes) (expectedVersion : UInt16) (maxLen : Nat) (label : String)
    (decode : Bytes → Option α) : Reader String α := do
  let actualMagic ← exactly s!"failed to read {label} magic" 4
  require (actualMagic = magic) s!"invalid {label} magic"
  let version ← number s!"failed to read {label} version" 2
  require (version = expectedVersion.toNat) s!"unsupported {label} version {version}; expected {expectedVersion}"
  let count ← number s!"failed to read {label} length" 4
  require (count ≤ maxLen) s!"{label} too large: {count}"
  let payload ← exactly s!"failed to read {label} payload" count
  lift ((decode payload).elim (.error s!"failed to decode {label}") .ok)

def RouteControlFrame.readFrom (json : ControlJson) : Reader String RouteControlFrame :=
  readJsonControlFrame controlFrameMagic controlFrameVersion maxControlFrame "QUIC-native control frame" json.decode

def serverAccept (json : ControlJson) (respond : RouteControlHello → RouteControlWelcome) :
    Reader String RouteControlHello := do
  match ← RouteControlFrame.readFrom json with
  | .hello hello =>
    let welcome := respond hello
    require (welcome.routeId = hello.routeId)
      s!"QUIC-native welcome route id mismatch: expected {hello.routeId}, got {welcome.routeId}"
    let written := (json.encode (.welcome welcome)).length
    require (written ≤ maxControlFrame) s!"QUIC-native control frame too large: {written}"
    return hello
  | _ => throw "expected QUIC-native route hello frame"

def nativeWelcome (hello : RouteControlHello) : RouteControlWelcome :=
  { version := controlFrameVersion
    routeId := hello.routeId
    accepted := true
    selectedProtocol := some "quic-native"
    message := "quic-native control session ready" }

def streamHeaderMagic : Bytes := [81, 78, 84, 49]

def streamHeaderVersion : UInt16 := 1

def maxStreamHeader : Nat := 64 * 1024

inductive TargetKind where
  | tcpConnect
  | fixedTcp
  deriving DecidableEq, Repr

structure StreamTarget where
  kind : TargetKind
  host : String
  port : UInt16
  deriving DecidableEq, Repr

structure StreamHeader where
  routeId : String
  streamId : UInt64
  target : StreamTarget
  egressProxy : Option String
  flags : UInt32
  deriving DecidableEq, Repr

def TargetKind.toWire : TargetKind → UInt8
  | .tcpConnect => 1
  | .fixedTcp => 2

def TargetKind.fromWire : Nat → Except String TargetKind
  | 1 => .ok .tcpConnect
  | 2 => .ok .fixedTcp
  | other => .error s!"unknown QUIC-native target kind {other}"

namespace StreamHeader

def truncated : String := "QUIC-native stream header payload truncated"

def readString : Reader String String := text truncated "invalid utf-8 in QUIC-native header"

def writeString (value : String) : Encoder String Unit := text "QUIC-native header string too long" value

def writeEgressProxy (egressProxy : Option String) : Encoder String Unit :=
  optional "QUIC-native header string too long" egressProxy

/-- The length goes in last, over the two bytes left free for it, and as far as two bytes hold it. -/
def encodeInto (header : StreamHeader) : Encoder String Unit := do
  clear
  put streamHeaderMagic
  put (bigEndian 2 streamHeaderVersion.toNat)
  put (bigEndian 2 0)
  let bodyStart := (← get).length
  put (bigEndian 4 header.flags.toNat)
  put (bigEndian 8 header.streamId.toNat)
  put [header.target.kind.toWire]
  writeString header.routeId
  writeString header.target.host
  put (bigEndian 2 header.target.port.toNat)
  writeEgressProxy header.egressProxy
  let bodyLen := (← get).length - bodyStart
  require (bodyLen ≤ maxStreamHeader) s!"QUIC-native stream header too large: {bodyLen}"
  modify fun out => copyInto out 6 (bigEndian 2 bodyLen)

def encode (header : StreamHeader) : Except String Bytes := do
  let ((), out) ← header.encodeInto []
  return out

def encodedCapacityHint (header : StreamHeader) : Nat :=
  let egressLen := header.egressProxy.elim 0 fun proxy => 2 + (utf8 proxy).length
  8 + 4 + 8 + 1 + 2 + (utf8 header.routeId).length + 2 + (utf8 header.target.host).length + 2 + 1 + egressLen

/-- Unlike `OpenTcp`, a header always has the marker of its proxy, and it is 0 or 1. -/
def readEgressProxy : Reader String (Option String) := do
  match ← number truncated 1 with
  | 0 => return none
  | 1 => return some (← readString)
  | other => throw s!"invalid QUIC-native egress proxy marker {other}"

def body : Reader String StreamHeader := do
  let flags ← number truncated 4
  let streamId ← number truncated 8
  let wire ← number truncated 1
  let kind ← lift (TargetKind.fromWire wire)
  let routeId ← readString
  let host ← readString
  let port ← number truncated 2
  let egressProxy ← readEgressProxy
  ensureEmpty fun count => s!"QUIC-native stream header has {count} trailing bytes"
  return {
    routeId
    streamId := UInt64.ofNat streamId
    target := { kind, host, port := UInt16.ofNat port }
    egressProxy
    flags := UInt32.ofNat flags }

/-- The header at the front of a byte string, with its length. -/
def decode (bytes : Bytes) : Except String (StreamHeader × Nat) :=
  if bytes.length < 8 then .error "QUIC-native stream header is truncated"
  else if bytes.take 4 ≠ streamHeaderMagic then .error "invalid QUIC-native stream header magic"
  else
    let version := ofBigEndian ((bytes.drop 4).take 2)
    if version ≠ streamHeaderVersion.toNat then
      .error s!"unsupported QUIC-native stream header version {version}; expected {streamHeaderVersion}"
    else
      let count := ofBigEndian ((bytes.drop 6).take 2)
      if count > maxStreamHeader then .error s!"QUIC-native stream header too large: {count}"
      else if bytes.length < 8 + count then .error "QUIC-native stream header payload is truncated"
      else (body.parse ((bytes.drop 8).take count)).map (·, 8 + count)

end StreamHeader

def readFlowHeader : Reader String StreamHeader := do
  let front ← exactly "failed to read QUIC-native flow header prefix" 8
  let count := ofBigEndian (front.drop 6)
  require (count ≤ maxStreamHeader) s!"QUIC-native flow header too large: {count}"
  let rest ← exactly "failed to read QUIC-native flow header body" count
  let (header, consumed) ← lift (StreamHeader.decode (front ++ rest))
  require (consumed = (front ++ rest).length)
    s!"QUIC-native flow header decoder consumed {consumed} bytes from {(front ++ rest).length} bytes"
  return header

end SshProxy
