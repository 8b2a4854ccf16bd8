import SshProxy.Http
import SshProxy.UdpAssociate

/-! The SOCKS front of the local proxy, and `handle_client`, which tells a SOCKS client from
an HTTP one by its first byte. A SOCKS client's bytes are read one field after the other, so
it does not matter in which reads they come. -/

namespace SshProxy
open Library Reader

namespace Socks5

def socksVersion : Nat := 5

def negotiateNoAuth : Reader String Unit := do
  let version ← number "early eof" 1
  require (version = socksVersion) s!"invalid SOCKS version {version}"
  let methodsLen ← number "early eof" 1
  let methods ← exactly "early eof" methodsLen
  require (0 ∈ methods) "SOCKS client did not offer no-auth method"

inductive Command where
  | connect
  | bind
  | udpAssociate
  deriving DecidableEq

structure Request where
  command : Command
  host : String
  port : UInt16
  deriving DecidableEq

def readCommand : Reader String Command := do
  match ← number "early eof" 1 with
  | 1 => return .connect
  | 2 => return .bind
  | 3 => return .udpAssociate
  | other => throw s!"unsupported SOCKS command {other}"

def readAddr (text : IpText) : Reader String String := do
  match ← number "early eof" 1 with
  | 1 =>
    let octets ← number "early eof" 4
    return text.display (.v4 (BitVec.ofNat 32 octets))
  | 3 =>
    let count ← number "early eof" 1
    let name ← exactly "early eof" count
    lift ((ofUtf8 name).elim (.error "SOCKS domain name is not utf-8") .ok)
  | 4 =>
    let octets ← number "early eof" 16
    return text.display (.v6 (BitVec.ofNat 128 octets))
  | other => throw s!"unsupported SOCKS address type {other}"

def Request.readFrom (text : IpText) : Reader String Request := do
  let version ← number "early eof" 1
  require (version = socksVersion) s!"invalid SOCKS request version {version}"
  let command ← readCommand
  let reserved ← number "early eof" 1
  require (reserved = 0) s!"invalid SOCKS reserved field {reserved}"
  let host ← readAddr text
  let port ← number "early eof" 2
  return { command, host, port := UInt16.ofNat port }

end Socks5

inductive ClientRequest where
  | tunnel (request : TunnelRequest)
  | udpAssociate
  deriving DecidableEq

def handleSocks (text : IpText) : Reader String ClientRequest := do
  Socks5.negotiateNoAuth
  let request ← Socks5.Request.readFrom text
  match request.command with
  | .connect =>
    let unread ← get
    return .tunnel
      { host := request.host, port := request.port, response := .socksSuccess, initialRemote := [], mode := .raw,
        unread := [unread] }
  | .udpAssociate => return .udpAssociate
  | .bind => throw "SOCKS BIND is not supported"

/-- `handle_client`, up to the point where the request is known. -/
def handleClient (text : IpText) (reads : List Bytes) : Except String ClientRequest :=
  if reads.flatten.head? = some 5 then (handleSocks text).parse reads.flatten
  else (handleHttpProxy reads).map .tunnel

end SshProxy
