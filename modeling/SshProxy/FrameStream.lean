import SshProxy.FrameCodec
import SshProxy.Library.Transport

/-! SPX frames on a transport that moves bytes in pieces, with the buffers that both
ends keep from one frame to the next. -/

namespace SshProxy
open Library Encoder

def writeString (value : String) : Encoder String Unit := text "string too long" value

def writeEgressProxy (egressProxy : Option String) : Encoder String Unit := optional "string too long" egressProxy

def Frame.encodeInto (frame : Frame) : Encoder String (UInt8 × UInt32) := do
  clear
  match frame with
  | .openTcp id host port egressProxy =>
    writeString host
    put (bigEndian 2 port.toNat)
    writeEgressProxy egressProxy
    return (1, id)
  | .openTcpResult id ok message =>
    put [if ok then 1 else 0]
    writeString message
    return (2, id)
  | .data id bytes =>
    put bytes
    return (3, id)
  | .close id reason =>
    writeString reason
    return (4, id)
  | .udpPacket id host port bytes =>
    writeString host
    put (bigEndian 2 port.toNat)
    put (bigEndian 4 bytes.length)
    put bytes
    return (5, id)
  | .log message =>
    writeString message
    return (6, 0)

/-- The slices of a vectored write: the header while some of it is left, and the payload. -/
def slices (header payload : Bytes) (headerOffset payloadOffset : Nat) : Bytes :=
  if headerOffset < header.length ∧ payloadOffset < payload.length then
    header.drop headerOffset ++ payload.drop payloadOffset
  else if headerOffset < header.length then header.drop headerOffset
  else payload.drop payloadOffset

/-- `write_all_vectored_payload`, with the offsets its loop keeps. -/
def writeAllVectoredPayload (header payload : Bytes) (headerOffset payloadOffset writes : Nat) (sink : Sink String UInt8) :
    Except String (Nat × Sink String UInt8) :=
  if _unfinished : headerOffset < header.length ∨ payloadOffset < payload.length then
    match sink.write (slices header payload headerOffset payloadOffset) with
    | .error error => .error error
    | .ok (written, sink) =>
      if _zero : written = 0 then .error "failed to write frame"
      else
        let headerRemaining := header.length - headerOffset
        if written < headerRemaining then
          writeAllVectoredPayload header payload (headerOffset + written) payloadOffset (writes + 1) sink
        else
          writeAllVectoredPayload header payload header.length (payloadOffset + (written - headerRemaining)) (writes + 1)
            sink
  else .ok (writes, sink)
termination_by (header.length - headerOffset) + (payload.length - payloadOffset)

structure FrameWriteScratch where
  header : Bytes
  payload : Bytes
  whole : header.length = 9

def frameHeader (ty : UInt8) (id : UInt32) (count : Nat) : Bytes := [ty] ++ (bigEndian 4 id.toNat ++ bigEndian 4 count)

theorem copyInto_header {header : Bytes} (whole : header.length = 9) (ty : UInt8) (id : UInt32) (count : Nat) :
    copyInto (copyInto (copyInto header 0 [ty]) 1 (bigEndian 4 id.toNat)) 5 (bigEndian 4 count) =
      frameHeader ty id count := by
  match header, whole with
  | [_, _, _, _, _, _, _, _, _], _ => simp [copyInto, frameHeader, bigEndian]

theorem length_frameHeader (ty : UInt8) (id : UInt32) (count : Nat) : (frameHeader ty id count).length = 9 := by
  simp [frameHeader]

def FrameWriteScratch.stamp (scratch : FrameWriteScratch) (ty : UInt8) (id : UInt32) (count : Nat) : FrameWriteScratch :=
  { scratch with
    header := copyInto (copyInto (copyInto scratch.header 0 [ty]) 1 (bigEndian 4 id.toNat)) 5 (bigEndian 4 count)
    whole := by rw [copyInto_header scratch.whole, length_frameHeader] }

@[simp] theorem FrameWriteScratch.stamp_header (scratch : FrameWriteScratch) (ty : UInt8) (id : UInt32) (count : Nat) :
    (scratch.stamp ty id count).header = frameHeader ty id count := copyInto_header scratch.whole ty id count

def writePayload (sink : Sink String UInt8) (scratch : FrameWriteScratch) (ty : UInt8) (id : UInt32) (payload : Bytes) :
    Except String (Nat × Sink String UInt8 × FrameWriteScratch) :=
  if maxFrame < payload.length then .error s!"frame too large: {payload.length}"
  else
    let scratch := scratch.stamp ty id payload.length
    (writeAllVectoredPayload scratch.header payload 0 0 0 sink).map fun (writes, sink) => (writes, sink, scratch)

/-- A `Data` payload goes out from where it is; the others pass through the scratch buffer. -/
def Frame.writeToWithScratch (frame : Frame) (sink : Sink String UInt8) (scratch : FrameWriteScratch) :
    Except String (Nat × Sink String UInt8 × FrameWriteScratch) :=
  match frame with
  | .data id bytes => writePayload sink scratch 3 id bytes
  | _ => do
    let ((ty, id), payload) ← frame.encodeInto scratch.payload
    writePayload sink { scratch with payload } ty id payload

namespace FrameReader

structure Buffers where
  header : Bytes
  structuredPayload : Bytes
  dataPayload : Bytes
  whole : header.length = 9

def readExact (source : Source UInt8) (buffer : Bytes) : Bool × Bytes × Source UInt8 :=
  let (found, source) := source.fill buffer.length
  (found.length = buffer.length, found ++ buffer.drop found.length, source)

theorem length_readExact (source : Source UInt8) (buffer : Bytes) :
    (readExact source buffer).2.1.length = buffer.length := by
  simp only [readExact, (source.fill_eq buffer.length).1, List.length_append, List.length_take, List.length_drop]
  omega

def resize (buffer : Bytes) (count : Nat) : Bytes := buffer.take count ++ List.replicate (count - buffer.length) 0

/-- The loop of `read_data_frame`. -/
def readData (count : Nat) (payload : Bytes) (source : Source UInt8) : Except String Unit × Bytes × Source UInt8 :=
  if _room : payload.length < count then
    let (read, source) := source.read (count - payload.length)
    if _zero : read.length = 0 then (.error "failed to read frame payload: early eof", payload, source)
    else readData count (payload ++ read) source
  else (.ok (), payload, source)
termination_by count - payload.length
decreasing_by simp only [List.length_append]; omega

def Buffers.readDataFrame (buffers : Buffers) (source : Source UInt8) (id : UInt32) (count : Nat) :
    Except String Frame × Buffers × Source UInt8 :=
  let (finished, payload, source) := readData count [] source
  (finished.map fun _ => .data id (payload.take count),
    { buffers with dataPayload := if finished.isOk then payload.drop count else payload }, source)

def Buffers.readHeader (buffers : Buffers) (source : Source UInt8) : Bool × Buffers × Source UInt8 :=
  let read := readExact source buffers.header
  (read.1, { buffers with header := read.2.1, whole := (length_readExact ..).trans buffers.whole }, read.2.2)

def Buffers.readPayload (buffers : Buffers) (source : Source UInt8) (ty id count : Nat) :
    Except String (Option Frame) × Buffers × Source UInt8 :=
  if maxFrame < count then (.error s!"frame too large: {count}", buffers, source)
  else if ty = 3 then
    let (frame, buffers, source) := buffers.readDataFrame source (UInt32.ofNat id) count
    (frame.map some, buffers, source)
  else
    let (whole, payload, source) := readExact source (resize buffers.structuredPayload count)
    let buffers := { buffers with structuredPayload := payload }
    if whole then ((Frame.decode (UInt8.ofNat ty) (UInt32.ofNat id) payload).map some, buffers, source)
    else (.error "failed to read frame payload", buffers, source)

def Buffers.readFrom (buffers : Buffers) (source : Source UInt8) :
    Except String (Option Frame) × Buffers × Source UInt8 :=
  let (whole, buffers, source) := buffers.readHeader source
  if whole then
    buffers.readPayload source (ofBigEndian (buffers.header.take 1)) (ofBigEndian ((buffers.header.drop 1).take 4))
      (ofBigEndian ((buffers.header.drop 5).take 4))
  else (.ok none, buffers, source)

def Buffers.readCalls : Nat → Buffers → Source UInt8 → List (Except String (Option Frame)) × Source UInt8
  | 0, _, source => ([], source)
  | calls + 1, buffers, source =>
    let (result, buffers, source) := buffers.readFrom source
    let (results, source) := readCalls calls buffers source
    (result :: results, source)

end FrameReader
end SshProxy
