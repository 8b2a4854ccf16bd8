import SshProxy.Library.Duplex
import SshProxy.RemoteHelper

/-! Transport set-up as a dialogue: what the two ends of a new connection write to each other and
wait for, the token first and the handshake after it. -/

namespace SshProxy
open Library Dialogue

structure SetupJson extends PeerJson where
  encodeHello : PeerHello → Bytes
  decodeWelcome : Bytes → Option PeerWelcome

/-- The two messages of a handshake are read as they were written. -/
structure SetupJson.Lossless (json : SetupJson) (hello : PeerHello) (welcome : PeerWelcome) : Prop where
  hello : json.decodeHello (json.encodeHello hello) = some hello
  welcome : json.decodeWelcome (json.encodeWelcome welcome) = some welcome

namespace Setup

def sendTransportToken : Option String → Dialogue String Unit
  | none => return ()
  | some token => do
    require ((utf8 token).length ≤ 65535) "remote token is too long"
    send (bigEndian 2 (utf8 token).length)
    send (utf8 token)

def verifyToken : Option String → Dialogue String Unit
  | none => return ()
  | some expected => do
    let count ← number "early eof" 2
    let token ← exactly "early eof" count
    require (token = utf8 expected) "invalid token"

def writeHandshake (payload : Bytes) : Dialogue String Unit := do
  let count := payload.length
  require (count ≤ maxHandshake) s!"peer handshake too large: {count}"
  send handshakeMagic
  send (bigEndian 4 count)
  send payload

def readHandshake {α : Type} (decode : Bytes → Option α) : Dialogue String α := do
  let magic ← exactly "failed to read peer handshake magic" 4
  require (magic = handshakeMagic) "invalid peer handshake magic"
  let count ← number "failed to read peer handshake length" 4
  require (count ≤ maxHandshake) s!"peer handshake too large: {count}"
  let payload ← exactly "failed to read peer handshake payload" count
  lift ((decode payload).elim (.error "failed to decode peer handshake") .ok)

def accepts (protocol : PeerProtocol) (welcome : PeerWelcome) : Except String PeerWelcome :=
  let remote := welcome.version
  if remote ≠ peerVersion then .error s!"peer version mismatch: local={peerVersion}, remote={remote}"
  else
    match welcome.accepted with
    | some accepted =>
      let label := accepted.display
      if accepted = protocol then .ok welcome else .error s!"peer accepted unexpected protocol {label}"
    | none =>
      let message := welcome.message
      .error s!"peer rejected handshake: {message}"

def hello (node : String) (protocol : PeerProtocol) : PeerHello := { version := peerVersion, node, protocols := [protocol] }

def clientHandshake (json : SetupJson) (node : String) (protocol : PeerProtocol) : Dialogue String PeerWelcome := do
  writeHandshake (json.encodeHello (hello node protocol))
  let welcome ← readHandshake json.decodeWelcome
  lift (accepts protocol welcome)

/-- The welcome is written also to a client that is turned away. -/
def answers (json : SetupJson) (hello : PeerHello) (welcome : PeerWelcome) : Dialogue String PeerHello := do
  writeHandshake (json.encodeWelcome welcome)
  require (welcome.accepted ≠ none) s!"peer handshake rejected: {welcome.message}"
  return hello

def serverHandshake (json : SetupJson) (node : String) (supported : List PeerProtocol) : Dialogue String PeerHello := do
  let hello ← readHandshake json.decodeHello
  answers json hello (PeerWelcome.answer node supported hello)

def client (json : SetupJson) (token : Option String) (node : String) (protocol : PeerProtocol) :
    Dialogue String PeerWelcome := do
  sendTransportToken token
  clientHandshake json node protocol

def server (json : SetupJson) (token : Option String) (node : String) (supported : List PeerProtocol) :
    Dialogue String PeerHello := do
  verifyToken token
  serverHandshake json node supported

end Setup
end SshProxy
