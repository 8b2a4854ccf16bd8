import SshProxy.Frame
import SshProxy.Library.Scan
import SshProxy.Library.Text
import SshProxy.Library.Wire

/-! The HTTP front of the local proxy: reading a request off the client's socket, and the
rewriting of heads on the way to and from the target. Bytes that are not part of a head
are never looked at. -/

namespace SshProxy
open Library

def httpHeaderEnd (bytes : Bytes) : Option Nat := endOf [13, 10, 13, 10] bytes

def textOf (bytes : Bytes) : Option Text := (ofUtf8 bytes).map String.toList

def textBytes (text : Text) : Bytes := utf8 (String.ofList text)

def crlf : Text := ['\r', '\n']

def splitLines (text : Text) : List Text := splitOnPair '\r' '\n' text

def splitHeader (line : Text) : Option (Text × Text) :=
  (line.splitOnce ':').map fun (name, value) => (name.trim, value.trim)

def isStaticHopByHopHeader (name : Text) : Bool :=
  ["connection", "keep-alive", "proxy-authenticate", "proxy-authorization", "proxy-connection", "te", "trailer",
    "upgrade"].any fun header => name.eqIgnoreCase header.toList

def connectionHeaderTokens (headers : List Text) : List Text :=
  ((headers.filterMap splitHeader).filter fun (name, _) => name.eqIgnoreCase "connection".toList).flatMap
    fun (_, value) => ((value.splitOnP (· == ',')).map Text.trim).filter (· ≠ []) |>.map Text.lower

def shouldSkipForwardHeader (line : Text) (connectionTokens : List Text) : Bool :=
  match splitHeader line with
  | none => false
  | some (name, _) => isStaticHopByHopHeader name || connectionTokens.any fun token => name.eqIgnoreCase token

def forwardedHeaders (headerLines : List Text) : Text :=
  (headerLines.filter fun line => !shouldSkipForwardHeader line (connectionHeaderTokens headerLines)).flatMap (· ++ crlf)

def parsePort (port : Text) : Except String UInt16 :=
  match port.parseUnsigned 65535 with
  | some value => .ok (UInt16.ofNat value)
  | none => .error ("invalid HTTP authority port " ++ (String.ofList port).quote)

def parseHostPort (authority : Text) (defaultPort : UInt16) : Except String (String × UInt16) :=
  match authority with
  | [] => .error "empty HTTP authority"
  | '[' :: rest =>
    match Text.splitOnce ']' rest with
    | none => .error "invalid bracketed IPv6 authority"
    | some (host, tail) => do
      let port ← match tail with
        | ':' :: port => parsePort port
        | [] => .ok defaultPort
        | _ => .error ("invalid HTTP authority suffix " ++ (String.ofList tail).quote)
      return (String.ofList host, port)
  | _ =>
    match authority.splitLast ':' with
    | some (host, port) =>
      if host.contains ':' then .ok (String.ofList authority, defaultPort)
      else (parsePort port).map (String.ofList host, ·)
    | none => .ok (String.ofList authority, defaultPort)

structure AbsoluteTarget where
  host : String
  port : UInt16
  path : Text

def parseAbsoluteHttpTarget (target : Text) : Option AbsoluteTarget := do
  let rest ← "http://".toList.isPrefixOf? target
  let authority := rest.takeWhile fun char => char != '/' && char != '?'
  let path := match rest.drop authority.length with
    | [] => ['/']
    | '?' :: query => '/' :: '?' :: query
    | path => path
  let (host, port) ← (parseHostPort authority 80).toOption
  return { host, port, path }

inductive HttpRequestKind where
  | connect (host : String) (port : UInt16)
  | forward (host : String) (port : UInt16) (request : Bytes)
  deriving DecidableEq

namespace HttpRequest

/-- The reads up to the one that completes the head, with the head's end and the reads
that are left. A read of nothing is the end of the client's stream. -/
def readHead (bytes : Bytes) : List Bytes → Except String (Bytes × Nat × List Bytes)
  | [] => .error "HTTP proxy request closed before headers"
  | chunk :: rest =>
    if chunk = [] then .error "HTTP proxy request closed before headers"
    else
      match httpHeaderEnd (bytes ++ chunk) with
      | some headerEnd => .ok (bytes ++ chunk, headerEnd, rest)
      | none =>
        if (bytes ++ chunk).length > 64 * 1024 then .error "HTTP proxy request headers too large"
        else readHead (bytes ++ chunk) rest

/-- A request from its head and what was read beyond it. A `CONNECT` has no use for the
latter. -/
def parse (head beyond : Bytes) : Except String HttpRequestKind :=
  match textOf head with
  | none => .error "HTTP proxy headers are not utf-8"
  | some headers =>
    match splitLines headers with
    | [] => .error "missing HTTP request line"
    | requestLine :: lines =>
      match requestLine.words with
      | [] => .error "missing HTTP method"
      | [_] => .error "missing HTTP target"
      | [_, _] => .error "missing HTTP version"
      | method :: target :: version :: more =>
        if more ≠ [] ∨ !"HTTP/".toList.isPrefixOf version then .error "invalid HTTP request line"
        else if method.eqIgnoreCase "CONNECT".toList then
          (parseHostPort target 443).map fun (host, port) => .connect host port
        else
          match parseAbsoluteHttpTarget target with
          | none => .error "HTTP proxy only supports CONNECT or absolute-form URLs"
          | some absolute =>
            let headerLines := lines.takeWhile (· ≠ [])
            .ok (.forward absolute.host absolute.port (textBytes (method ++ ' ' :: absolute.path ++ ' ' :: version ++ crlf ++
              forwardedHeaders headerLines ++ "connection: close\r\n\r\n".toList) ++ beyond))

def readFrom (reads : List Bytes) : Except String (HttpRequestKind × List Bytes) := do
  let (bytes, headerEnd, unread) ← readHead [] reads
  let kind ← parse (bytes.take headerEnd) (bytes.drop headerEnd)
  return (kind, unread)

end HttpRequest

inductive TunnelResponse where
  | none
  | socksSuccess
  | httpConnect
  deriving DecidableEq

inductive RelayMode where
  | raw
  | httpForward
  deriving DecidableEq

/-- The arguments of `open_tunnel`, with what is still unread on the client's socket. -/
structure TunnelRequest where
  host : String
  port : UInt16
  response : TunnelResponse
  initialRemote : Bytes
  mode : RelayMode
  unread : List Bytes
  deriving DecidableEq

def TunnelRequest.sent (request : TunnelRequest) : Bytes := request.initialRemote ++ request.unread.flatten

def handleHttpProxy (reads : List Bytes) : Except String TunnelRequest := do
  let (kind, unread) ← HttpRequest.readFrom reads
  match kind with
  | .connect host port =>
    return { host, port, response := .httpConnect, initialRemote := [], mode := .raw, unread }
  | .forward host port request =>
    return { host, port, response := .none, initialRemote := request, mode := .httpForward, unread }

inductive HttpResponseBodyMode where
  | contentLength (length : Nat)
  | chunked
  | closeDelimited
  | noBody
  deriving DecidableEq

def parseResponseStatus (statusLine : Text) : Except String Nat :=
  match statusLine.words with
  | [] => .error "missing HTTP response version"
  | version :: rest =>
    if !"HTTP/".toList.isPrefixOf version then .error "invalid HTTP response status line"
    else
      match rest with
      | [] => .error "missing HTTP response status"
      | status :: _ => (status.parseUnsigned 65535).elim (.error "invalid HTTP response status") .ok

def responseStatusHasNoBody (status : Nat) : Bool :=
  (100 ≤ status && status < 200) || status == 204 || status == 304

/-- The first length that parses, of all headers that give one. -/
def contentLength? (headerLines : List Text) : Option Nat :=
  headerLines.findSome? fun line => (splitHeader line).bind fun (name, value) =>
    if name.eqIgnoreCase "content-length".toList then value.parseUnsigned (2 ^ 64 - 1) else none

def isChunked (headerLines : List Text) : Bool :=
  (headerLines.filterMap splitHeader).any fun (name, value) =>
    name.eqIgnoreCase "transfer-encoding".toList &&
      (value.splitOnP (· == ',')).any fun token => (Text.trim token).eqIgnoreCase "chunked".toList

def responseBodyMode (status : Nat) (headerLines : List Text) : HttpResponseBodyMode :=
  if responseStatusHasNoBody status then .noBody
  else if isChunked headerLines then .chunked
  else
    match contentLength? headerLines with
    | some length => .contentLength length
    | none => .closeDelimited

def rewriteResponseHeadForProxyClose (head : Bytes) : Except String (Bytes × HttpResponseBodyMode) :=
  match textOf head with
  | none => .error "HTTP proxy response headers are not utf-8"
  | some headers =>
    match splitLines headers with
    | [] => .error "missing HTTP response status line"
    | statusLine :: lines => do
      let status ← parseResponseStatus statusLine
      let headerLines := lines.takeWhile (· ≠ [])
      return (textBytes (statusLine ++ crlf ++ forwardedHeaders headerLines ++ "connection: close\r\n\r\n".toList),
        responseBodyMode status headerLines)

end SshProxy
