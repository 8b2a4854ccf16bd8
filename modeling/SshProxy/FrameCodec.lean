import SshProxy.Frame
import SshProxy.Library.Wire

/-! Reading SPX frames off a transport. A frame is its type, its stream id and the length
of its payload, and then the payload. -/

namespace SshProxy
open Library Reader

def maxFrame : Nat := 16 * 1024 * 1024

namespace Cursor

def readU8 : Reader String UInt8 := UInt8.ofNat <$> number "payload truncated" 1

def readU16 : Reader String UInt16 := UInt16.ofNat <$> number "payload truncated" 2

def readString : Reader String String := text "payload truncated" "invalid utf-8 string in frame"

def ensureEmpty : Reader String Unit := Reader.ensureEmpty fun count => s!"frame payload has {count} trailing bytes"

end Cursor

/-- The optional proxy at the end of an `OpenTcp`. Older peers leave it out. -/
def Cursor.readEgressProxy : Reader String (Option String) := do
  if ← atEnd then return none
  if (← readU8) = 0 then return none
  return some (← readString)

def Frame.decode (ty : UInt8) (id : UInt32) (payload : Bytes) : Except String Frame :=
  let reader : Reader String Frame := match ty with
    | 1 => do
      let host ← Cursor.readString
      let port ← Cursor.readU16
      let egressProxy ← Cursor.readEgressProxy
      Cursor.ensureEmpty
      return .openTcp id host port egressProxy
    | 2 => do
      let ok ← Cursor.readU8
      let message ← Cursor.readString
      Cursor.ensureEmpty
      return .openTcpResult id (ok != 0) message
    | 3 => return .data id payload
    | 4 => do
      let reason ← Cursor.readString
      Cursor.ensureEmpty
      return .close id reason
    | 5 => do
      let host ← Cursor.readString
      let port ← Cursor.readU16
      let count ← number "payload truncated" 4
      let data ← exactly "payload truncated" count
      Cursor.ensureEmpty
      return .udpPacket id host port data
    | 6 => do
      let message ← Cursor.readString
      Cursor.ensureEmpty
      return .log message
    | _ => throw s!"unknown frame type {ty}"
  reader.parse payload

namespace FrameReader

/-- One frame. A `Data` payload is read in pieces, which shows only in the error. -/
def frame : Reader String Frame := do
  let ty ← number "failed to read frame header" 1
  let id ← number "failed to read frame header" 4
  let count ← number "failed to read frame header" 4
  require (count ≤ maxFrame) s!"frame too large: {count}"
  let payload ← exactly
    (if ty = 3 then "failed to read frame payload: early eof" else "failed to read frame payload") count
  lift (Frame.decode (UInt8.ofNat ty) (UInt32.ofNat id) payload)

/-- The end of the transport is clean anywhere in a header. -/
def readFrom (input : Bytes) : Except String (Option (Frame × Bytes)) :=
  if input.length < 9 then .ok none else (frame input).map some

theorem frame_eq_ok {input rest : Bytes} {decoded : Frame} : frame input = .ok (decoded, rest) ↔
      ∃ ty < 256, ∃ id < 256 ^ 4, ∃ payload : Bytes, payload.length ≤ maxFrame ∧
        input = bigEndian 1 ty ++ (bigEndian 4 id ++ (bigEndian 4 payload.length ++ (payload ++ rest))) ∧
        Frame.decode (UInt8.ofNat ty) (UInt32.ofNat id) payload = .ok decoded := by
  simp only [frame, bind_eq_ok, number_eq_ok, require_eq_ok, exactly_eq_ok, lift_eq_ok]
  constructor
  · rintro ⟨ty, _, ⟨rfl, small⟩, id, _, ⟨rfl, bounded⟩, count, _, ⟨rfl, _⟩, _, _, ⟨fits, rfl⟩, payload, _, ⟨rfl, rfl⟩,
      decode, rfl⟩
    exact ⟨ty, small, id, bounded, payload, fits, rfl, decode⟩
  · rintro ⟨ty, small, id, bounded, payload, fits, rfl, decode⟩
    have count : payload.length < 256 ^ 4 := Nat.lt_of_le_of_lt fits (by decide)
    exact ⟨ty, _, ⟨rfl, small⟩, id, _, ⟨rfl, bounded⟩, payload.length, _, ⟨rfl, count⟩, (), _, ⟨fits, rfl⟩, payload, _,
      ⟨rfl, rfl⟩, decode, rfl⟩

theorem readFrom_shorter {input rest : Bytes} {decoded : Frame} (read : readFrom input = .ok (some (decoded, rest))) :
    rest.length < input.length := by
  unfold readFrom at read
  split at read
  case isTrue => cases read
  case isFalse =>
    cases found : frame input with
    | error error =>
      rw [found] at read
      cases read
    | ok result =>
      rw [found] at read
      cases read
      obtain ⟨ty, _, id, _, payload, _, rfl, _⟩ := frame_eq_ok.mp found
      simp only [List.length_append, length_bigEndian]
      omega

def readAll (input : Bytes) : List Frame :=
  match _read : readFrom input with
  | .ok (some (decoded, rest)) => decoded :: readAll rest
  | _ => []
termination_by input.length
decreasing_by exact readFrom_shorter _read

theorem readAll_append (ty id : Nat) {payload : Bytes} {decoded : Frame} (small : ty < 256) (bounded : id < 256 ^ 4)
    (fits : payload.length ≤ maxFrame) (decode : Frame.decode (UInt8.ofNat ty) (UInt32.ofNat id) payload = .ok decoded)
    (rest : Bytes) : readAll (bigEndian 1 ty ++ (bigEndian 4 id ++ (bigEndian 4 payload.length ++ (payload ++ rest)))) =
      decoded :: readAll rest := by
  have read : readFrom (bigEndian 1 ty ++ (bigEndian 4 id ++ (bigEndian 4 payload.length ++ (payload ++ rest)))) =
      .ok (some (decoded, rest)) := by
    rw [readFrom, if_neg, frame_eq_ok.mpr ⟨ty, small, id, bounded, payload, fits, rfl, decode⟩]
    · rfl
    · simp only [List.length_append, length_bigEndian]
      omega
  rw [readAll]
  split
  next found =>
    rw [read] at found
    cases found
    rfl
  next other => exact absurd read (other _ _)

end FrameReader
end SshProxy
