import SshProxy.Frame
import SshProxy.Library.Wire

/-! The peer handshake at the start of every transport, and the token that the plain
listener reads before it. The JSON library is a parameter. -/

namespace SshProxy
open Library Reader

inductive PeerProtocol where
  | sshNative
  | quicNative
  | quic
  | tlsTcp
  | tcp
  | sshDirect
  | sshExec
  deriving DecidableEq, Repr

def peerVersion : UInt16 := 1

def handshakeMagic : Bytes := [83, 80, 88, 49]

def maxHandshake : Nat := 64 * 1024

structure PeerHello where
  version : UInt16
  node : String
  protocols : List PeerProtocol
  deriving DecidableEq

structure PeerWelcome where
  version : UInt16
  node : String
  accepted : Option PeerProtocol
  message : String
  deriving DecidableEq

structure PeerJson where
  decodeHello : Bytes → Option PeerHello
  encodeWelcome : PeerWelcome → Bytes

def selectSupportedProtocol (requested supported : List PeerProtocol) : Option PeerProtocol :=
  requested.find? (supported.contains ·)

def readHandshake {α : Type} (decode : Bytes → Option α) : Reader String α := do
  let magic ← exactly "failed to read peer handshake magic" 4
  require (magic = handshakeMagic) "invalid peer handshake magic"
  let count ← number "failed to read peer handshake length" 4
  require (count ≤ maxHandshake) s!"peer handshake too large: {count}"
  let payload ← exactly "failed to read peer handshake payload" count
  lift ((decode payload).elim (.error "failed to decode peer handshake") .ok)

def PeerWelcome.answer (node : String) (supported : List PeerProtocol) (hello : PeerHello) : PeerWelcome :=
  let accepted :=
    if hello.version = peerVersion then selectSupportedProtocol hello.protocols supported else none
  { version := peerVersion
    node
    accepted
    message :=
      if hello.version ≠ peerVersion then s!"unsupported peer version {hello.version}; expected {peerVersion}"
      else if accepted = none then "no mutually supported peer protocol"
      else "ok" }

/-- The welcome is written before it is known whether the peer is accepted, and one that
does not fit fails the handshake. -/
def serverHandshake (json : PeerJson) (node : String) (supported : List PeerProtocol) : Reader String PeerHello := do
  let hello ← readHandshake json.decodeHello
  let welcome := PeerWelcome.answer node supported hello
  let written := (json.encodeWelcome welcome).length
  require (written ≤ maxHandshake) s!"peer handshake too large: {written}"
  require (welcome.accepted ≠ none) s!"peer handshake rejected: {welcome.message}"
  return hello

def verifyToken : Option String → Reader String Unit
  | none => return ()
  | some expected => do
    let count ← number "early eof" 2
    let token ← exactly "early eof" count
    require (token = utf8 expected) "invalid token"

def tokenBytes (token : String) : Bytes := bigEndian 2 (utf8 token).length ++ utf8 token

theorem verifyToken_eq_ok {expected : String} {input rest : Bytes} {done : Unit}
    (verified : verifyToken (some expected) input = .ok (done, rest)) : input = tokenBytes expected ++ rest := by
  simp only [verifyToken, bind_eq_ok, number_eq_ok, exactly_eq_ok, require_eq_ok] at verified
  obtain ⟨count, _, ⟨rfl, _⟩, token, _, ⟨rfl, rfl⟩, rfl, rfl⟩ := verified
  simp [tokenBytes]

def handshakeBytes (payload : Bytes) : Bytes := handshakeMagic ++ (bigEndian 4 payload.length ++ payload)

theorem readHandshake_append {α : Type} {decode : Bytes → Option α} {payload : Bytes} {value : α}
    (fits : payload.length ≤ maxHandshake) (decoded : decode payload = some value) (rest : Bytes) :
    readHandshake decode (handshakeBytes payload ++ rest) = .ok (value, rest) := by
  have count : payload.length < 256 ^ 4 := Nat.lt_of_le_of_lt fits (by decide)
  simp only [readHandshake, bind_eq_ok, number_eq_ok, exactly_eq_ok, require_eq_ok,
    lift_eq_ok]
  refine ⟨handshakeMagic, bigEndian 4 payload.length ++ (payload ++ rest), ⟨?_, rfl⟩, (), _, ⟨rfl, rfl⟩, payload.length,
    payload ++ rest, ⟨rfl, count⟩, (), _, ⟨fits, rfl⟩, payload, rest, ⟨rfl, rfl⟩, ?_, rfl⟩
  · simp [handshakeBytes]
  · rw [decoded]
    rfl

end SshProxy
