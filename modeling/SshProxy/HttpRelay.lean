import SshProxy.Http

/-! The relay of HTTP responses to a client whose request was forwarded. A `Data` chunk is
one step; what `write_all` is called with is recorded call by call. -/

namespace SshProxy
open Library

def httpResponseHeaderLimit : Nat := 64 * 1024

inductive HttpForwardResponseState where
  | readingHead (buffer : Bytes)
  | contentLength (remaining : Nat)
  | chunked
  | closeDelimited
  | done
  deriving DecidableEq

namespace HttpForwardResponseState

def fromBodyMode : HttpResponseBodyMode → HttpForwardResponseState
  | .contentLength 0 | .noBody => .done
  | .contentLength length => .contentLength length
  | .chunked => .chunked
  | .closeDelimited => .closeDelimited

def usesIdleClose : HttpForwardResponseState → Bool
  | .closeDelimited => true
  | _ => false

def isDone : HttpForwardResponseState → Bool
  | .done => true
  | _ => false

end HttpForwardResponseState

def writeHttpForwardBodyChunk (state : HttpForwardResponseState) (data : Bytes) :
    List Bytes × HttpForwardResponseState :=
  match state with
  | .contentLength remaining =>
    let take := min data.length remaining
    (if take > 0 then [data.take take] else [], if remaining - take = 0 then .done else .contentLength (remaining - take))
  | .chunked | .closeDelimited => (if data = [] then [] else [data], state)
  | .readingHead _ | .done => ([], state)

/-- The limit is checked before the head is looked for. An error writes nothing. -/
def writeHttpForwardResponseChunk (state : HttpForwardResponseState) (data : Bytes) :
    Except String (List Bytes × HttpForwardResponseState) :=
  match state with
  | .readingHead buffer =>
    if (buffer ++ data).length > httpResponseHeaderLimit then .error "HTTP proxy response headers too large"
    else
      match httpHeaderEnd (buffer ++ data) with
      | none => .ok ([], .readingHead (buffer ++ data))
      | some headerEnd =>
        (rewriteResponseHeadForProxyClose ((buffer ++ data).take headerEnd)).map fun (head, bodyMode) =>
          let (writes, after) := writeHttpForwardBodyChunk (.fromBodyMode bodyMode) ((buffer ++ data).drop headerEnd)
          (head :: writes, after)
  | .contentLength _ | .chunked | .closeDelimited => .ok (writeHttpForwardBodyChunk state data)
  | .done => .ok ([], .done)

def foldChunks (state : HttpForwardResponseState) : List Bytes → List Bytes × Except String HttpForwardResponseState
  | [] => ([], .ok state)
  | chunk :: rest =>
    match writeHttpForwardResponseChunk state chunk with
    | .error error => ([], .error error)
    | .ok (writes, after) => (writes ++ (foldChunks after rest).1, (foldChunks after rest).2)

/-- What the relay can meet while it waits: a chunk, the idle timeout, and the end of the
upstream's stream. -/
inductive RelayEvent where
  | data (chunk : Bytes)
  | idle
  | closed
  deriving DecidableEq

/-- A relay that has not ended, or has shut its client's connection down in order, or has
given up. -/
inductive RelayEnd where
  | waiting
  | shutdown
  | failed (error : String)
  deriving DecidableEq

/-- `relay_http_forward_spx_response`. The idle timeout runs for a close-delimited body
only; in other states time passes without effect. -/
def relayHttpForwardSpxResponse (state : HttpForwardResponseState) : List RelayEvent → List Bytes × RelayEnd
  | [] => ([], .waiting)
  | .idle :: rest => if state.usesIdleClose then ([], .shutdown) else relayHttpForwardSpxResponse state rest
  | .closed :: _ => ([], .shutdown)
  | .data chunk :: rest =>
    match writeHttpForwardResponseChunk state chunk with
    | .error error => ([], .failed error)
    | .ok (writes, after) =>
      if after.isDone then (writes, .shutdown)
      else (writes ++ (relayHttpForwardSpxResponse after rest).1, (relayHttpForwardSpxResponse after rest).2)

end SshProxy
