import SshProxy.FrameStream

/-! Frames survive the transport. Both ends are compared with one layout per frame: the
writer puts exactly that layout out, in whatever pieces, and the reader takes exactly one
layout off the front, whatever its buffers held. -/

namespace SshProxy
open Library List Reader SshProxy.Frame Cursor

/-- The texts of a frame, each of which goes out behind its length in two bytes. -/
def Frame.texts : Frame → List String
  | .openTcp _ host _ egressProxy => host :: egressProxy.toList
  | .openTcpResult _ _ message => [message]
  | .data _ _ => []
  | .close _ reason => [reason]
  | .udpPacket _ host _ _ => [host]
  | .log message => [message]

def Frame.payload : Frame → Bytes
  | .openTcp _ host port egressProxy => counted host ++ (bigEndian 2 port.toNat ++ marked egressProxy)
  | .openTcpResult _ ok message => [if ok then 1 else 0] ++ counted message
  | .data _ bytes => bytes
  | .close _ reason => counted reason
  | .udpPacket _ host port bytes =>
    counted host ++ (bigEndian 2 port.toNat ++ (bigEndian 4 bytes.length ++ bytes))
  | .log message => counted message

def Frame.wireType : Frame → UInt8
  | .openTcp .. => 1
  | .openTcpResult .. => 2
  | .data .. => 3
  | .close .. => 4
  | .udpPacket .. => 5
  | .log .. => 6

def Frame.wireId : Frame → UInt32
  | .openTcp id .. | .openTcpResult id .. | .data id .. | .close id .. | .udpPacket id .. => id
  | .log _ => 0

structure Frame.Fits (frame : Frame) : Prop where
  texts : ∀ text ∈ frame.texts, (utf8 text).length ≤ 65535
  payload : frame.payload.length ≤ maxFrame

def Frame.layout (frame : Frame) : Bytes :=
  frameHeader frame.wireType frame.wireId frame.payload.length ++ frame.payload

theorem Frame.encodeInto_eq_ok {frame : Frame} {out payload : Bytes} {ty : UInt8} {id : UInt32} :
    frame.encodeInto out = .ok ((ty, id), payload) ↔
      (∀ text ∈ frame.texts, (utf8 text).length ≤ 65535) ∧
        (frame.wireType, frame.wireId) = (ty, id) ∧ frame.payload = payload := by
  cases frame with
  | openTcp stream host port egressProxy =>
    simp only [encodeInto, Encoder.clear_bind, Encoder.put_bind, writeString, Encoder.text_bind_eq_ok,
      writeEgressProxy, Encoder.optional_bind_eq_ok, Encoder.pure_eq_ok]
    simp [texts, wireType, wireId, Frame.payload, and_assoc]
  | openTcpResult stream ok message | udpPacket stream host port bytes =>
    simp only [encodeInto, Encoder.clear_bind, Encoder.put_bind, writeString, Encoder.text_bind_eq_ok, Encoder.pure_eq_ok]
    simp [texts, wireType, wireId, Frame.payload]
  | data stream bytes =>
    simp only [encodeInto, Encoder.clear_bind, Encoder.put_bind, Encoder.pure_eq_ok]
    simp [texts, wireType, wireId, Frame.payload]
  | close stream message | log message =>
    simp only [encodeInto, Encoder.clear_bind, writeString, Encoder.text_bind_eq_ok, Encoder.pure_eq_ok]
    simp [texts, wireType, wireId, Frame.payload]

variable (header payload : Bytes)

theorem slices_eq (headerOffset payloadOffset : Nat) :
    slices header payload headerOffset payloadOffset = header.drop headerOffset ++ payload.drop payloadOffset := by
  unfold slices
  split
  · rfl
  · split
    case isTrue inHeader =>
      have sent : payload.drop payloadOffset = [] := drop_eq_nil_of_le (by omega)
      rw [sent, append_nil]
    case isFalse pastHeader =>
      have sent : header.drop headerOffset = [] := drop_eq_nil_of_le (by omega)
      rw [sent, nil_append]

theorem drop_slices (headerOffset payloadOffset written : Nat) :
    (header.drop headerOffset ++ payload.drop payloadOffset).drop written =
      if written < header.length - headerOffset then
        header.drop (headerOffset + written) ++ payload.drop payloadOffset
      else header.drop header.length ++ payload.drop (payloadOffset + (written - (header.length - headerOffset))) := by
  rw [drop_append, drop_drop, drop_drop, length_drop]
  split
  case isTrue inHeader =>
    have none : written - (header.length - headerOffset) = 0 := by omega
    rw [none, Nat.add_zero]
  case isFalse pastHeader =>
    have sent : header.drop (headerOffset + written) = [] := drop_eq_nil_of_le (by omega)
    rw [sent, drop_length]

variable {sink final : Sink String UInt8}

theorem writeAllVectoredPayload_eq_ok {header payload : Bytes} {headerOffset payloadOffset writes total : Nat}
    (done : writeAllVectoredPayload header payload headerOffset payloadOffset writes sink = .ok (total, final)) :
    final.written = sink.written ++ (header.drop headerOffset ++ payload.drop payloadOffset) := by
  fun_induction writeAllVectoredPayload header payload headerOffset payloadOffset writes sink with
  | case1 | case2 => cases done
  | case3 headerOffset payloadOffset writes sink unfinished written next wrote nonzero headerRemaining inHeader ih =>
    have left := drop_slices header payload headerOffset payloadOffset written
    rw [if_pos inHeader] at left
    rw [ih done, (Sink.write_eq_ok wrote).2, ← left, slices_eq, append_assoc, take_append_drop]
  | case4 headerOffset payloadOffset writes sink unfinished written next wrote nonzero headerRemaining pastHeader ih =>
    have left := drop_slices header payload headerOffset payloadOffset written
    rw [if_neg pastHeader] at left
    rw [ih done, (Sink.write_eq_ok wrote).2, ← left, slices_eq, append_assoc, take_append_drop]
  | case5 headerOffset payloadOffset writes sink finished =>
    cases done
    have header_sent : header.drop headerOffset = [] := drop_eq_nil_of_le (by omega)
    have payload_sent : payload.drop payloadOffset = [] := drop_eq_nil_of_le (by omega)
    rw [header_sent, payload_sent, append_nil, append_nil]

variable {sink : Sink String UInt8}

theorem writeAllVectoredPayload_steady (headerOffset payloadOffset writes : Nat)
    (steady : sink.Steady) :
    ∃ total final, writeAllVectoredPayload header payload headerOffset payloadOffset writes sink = .ok (total, final) ∧
      final.Steady := by
  fun_induction writeAllVectoredPayload header payload headerOffset payloadOffset writes sink with
  | case1 headerOffset payloadOffset writes sink unfinished error failed =>
    obtain ⟨_, _, took, _⟩ := steady.write (slices header payload headerOffset payloadOffset)
    rw [took] at failed
    cases failed
  | case2 headerOffset payloadOffset writes sink unfinished next wrote =>
    obtain ⟨_, _, took, _, moves⟩ := steady.write (slices header payload headerOffset payloadOffset)
    rw [took] at wrote
    cases wrote
    have something : slices header payload headerOffset payloadOffset ≠ [] := by
      rw [slices_eq]
      apply ne_nil_of_length_pos
      simp only [length_append, length_drop]
      omega
    exact absurd (moves something) (Nat.lt_irrefl 0)
  | case3 headerOffset payloadOffset writes sink unfinished written next wrote nonzero headerRemaining inHeader ih
  | case4 headerOffset payloadOffset writes sink unfinished written next wrote nonzero headerRemaining pastHeader ih =>
    obtain ⟨_, _, took, still, _⟩ := steady.write (slices header payload headerOffset payloadOffset)
    rw [took] at wrote
    cases wrote
    exact ih still
  | case5 headerOffset payloadOffset writes sink finished => exact ⟨_, _, rfl, steady⟩

variable {scratch after : FrameWriteScratch}

theorem writePayload_eq_ok {ty : UInt8} {id : UInt32} {payload : Bytes}
    {writes : Nat} (done : writePayload sink scratch ty id payload = .ok (writes, final, after)) :
    payload.length ≤ maxFrame ∧ final.written = sink.written ++ (frameHeader ty id payload.length ++ payload) := by
  unfold writePayload at done
  split at done
  case isTrue => cases done
  case isFalse fits =>
    obtain ⟨⟨total, sent⟩, wrote, same⟩ := attempt_map_eq_ok.mp done
    cases same
    rw [FrameWriteScratch.stamp_header] at wrote
    exact ⟨by omega, writeAllVectoredPayload_eq_ok wrote⟩

theorem writePayload_steady (steady : sink.Steady) (scratch : FrameWriteScratch) (ty : UInt8) (id : UInt32)
    {payload : Bytes} (fits : payload.length ≤ maxFrame) :
    ∃ writes final after, writePayload sink scratch ty id payload = .ok (writes, final, after) ∧ final.Steady := by
  obtain ⟨total, final, wrote, still⟩ :=
    writeAllVectoredPayload_steady (scratch.stamp ty id payload.length).header payload 0 0 0 steady
  rw [writePayload, if_neg (by omega)]
  exact ⟨total, final, _, attempt_map_eq_ok.mpr ⟨_, wrote, rfl⟩, still⟩

theorem Frame.writeToWithScratch_eq_ok {frame : Frame} {writes : Nat}
    (done : frame.writeToWithScratch sink scratch = .ok (writes, final, after)) :
    frame.Fits ∧ final.written = sink.written ++ frame.layout := by
  have encoded : (∀ text ∈ frame.texts, (utf8 text).length ≤ 65535) ∧
      ∃ scratch, writePayload sink scratch frame.wireType frame.wireId frame.payload = .ok (writes, final, after) := by
    cases frame with
    | data id bytes => exact ⟨nofun, scratch, done⟩
    | _ =>
      obtain ⟨⟨⟨ty, id⟩, payload⟩, encode, write⟩ := attempt_bind_eq_ok.mp done
      obtain ⟨short, named, rfl⟩ := encodeInto_eq_ok.mp encode
      cases named
      exact ⟨short, _, write⟩
  obtain ⟨short, _, write⟩ := encoded
  obtain ⟨fits, written⟩ := writePayload_eq_ok write
  exact ⟨⟨short, fits⟩, written⟩

theorem Frame.writeToWithScratch_steady {frame : Frame} (fits : frame.Fits) (steady : sink.Steady)
    (scratch : FrameWriteScratch) :
    ∃ writes final after, frame.writeToWithScratch sink scratch = .ok (writes, final, after) ∧ final.Steady := by
  cases frame with
  | data id bytes => exact writePayload_steady steady scratch 3 id fits.payload
  | _ =>
    rw [writeToWithScratch, encodeInto_eq_ok.mpr ⟨fits.texts, rfl, rfl⟩]
    exact writePayload_steady steady _ _ _ fits.payload
    nofun

def Frame.WrittenAs (frame : Frame) (bytes : Bytes) : Prop :=
  ∃ sink scratch writes final after, frame.writeToWithScratch sink scratch = .ok (writes, final, after) ∧
    final.written = sink.written ++ bytes

theorem Frame.writtenAs_iff {frame : Frame} {bytes : Bytes} : frame.WrittenAs bytes ↔ frame.Fits ∧ bytes = frame.layout := by
  constructor
  · rintro ⟨sink, scratch, writes, final, after, done, written⟩
    obtain ⟨fits, layout⟩ := writeToWithScratch_eq_ok done
    exact ⟨fits, append_cancel_left (written.symm.trans layout)⟩
  · rintro ⟨fits, rfl⟩
    let blank : FrameWriteScratch := { header := replicate 9 0, payload := [], whole := rfl }
    obtain ⟨writes, final, after, done, _⟩ := writeToWithScratch_steady fits (Sink.eager_steady [] Nat.one_pos) blank
    exact ⟨_, blank, writes, final, after, done, (writeToWithScratch_eq_ok done).2⟩

theorem Frame.writtenAs_all {frames : List Frame} {encodings : List Bytes}
    (written : List.Forall₂ Frame.WrittenAs frames encodings) :
    (∀ frame ∈ frames, frame.Fits) ∧ encodings = frames.map layout := by
  induction written with
  | nil => exact ⟨nofun, rfl⟩
  | cons encoded _ ih =>
    obtain ⟨fits, rfl⟩ := writtenAs_iff.mp encoded
    obtain ⟨others, rfl⟩ := ih
    exact ⟨forall_mem_cons.mpr ⟨fits, others⟩, rfl⟩

namespace Cursor

theorem readU8_cons (byte : UInt8) (rest : Bytes) : readU8 (byte :: rest) = .ok (byte, rest) := by
  rw [readU8, map_of_ok (number_cons byte rest), UInt8.ofNat_toNat]

theorem readU16_append (value : UInt16) (rest : Bytes) :
    readU16 (bigEndian 2 value.toNat ++ rest) = .ok (value, rest) := by
  rw [readU16, map_of_ok (number_append value.toNat_lt rest), UInt16.ofNat_toNat]

theorem readString_counted {value : String} (short : (utf8 value).length ≤ 65535) (rest : Bytes) :
    readString (counted value ++ rest) = .ok (value, rest) := text_counted short rest

theorem readString_last {value : String} (short : (utf8 value).length ≤ 65535) :
    readString (counted value) = .ok (value, []) := by
  simpa using readString_counted short []

theorem readEgressProxy_field {egressProxy : Option String}
    (short : ∀ text ∈ egressProxy.toList, (utf8 text).length ≤ 65535) :
    readEgressProxy (marked egressProxy) = .ok (egressProxy, []) := by
  cases egressProxy with
  | none => rfl
  | some proxy =>
    have read := readString_last (short proxy (by simp))
    have more : atEnd (1 :: counted proxy) = (.ok (false, 1 :: counted proxy) : Except String _) := rfl
    rw [readEgressProxy, marked, bind_of_ok more]
    simp only [Bool.false_eq_true, if_false]
    rw [bind_of_ok (readU8_cons 1 _), if_neg (by decide), bind_of_ok read]
    rfl

end Cursor

/-- Every part of the frame is as long as its length prefix can say. -/
structure Frame.Measured (frame : Frame) : Prop where
  texts : ∀ text ∈ frame.texts, (utf8 text).length ≤ 65535
  data : ∀ id host port bytes, frame = .udpPacket id host port bytes → bytes.length < 256 ^ 4

theorem Frame.Fits.measured {frame : Frame} (fits : frame.Fits) : frame.Measured where
  texts := fits.texts
  data id host port bytes same := by
    have bounded := fits.payload
    simp only [same, Frame.payload, length_append, maxFrame] at bounded
    omega

theorem Frame.decode_payload {frame : Frame} (measured : frame.Measured) :
    decode frame.wireType frame.wireId frame.payload = .ok frame := by
  obtain ⟨short, bounded⟩ := measured
  cases frame with
  | openTcp id host port egressProxy =>
    have first : (utf8 host).length ≤ 65535 := short host (by simp [texts])
    have second : ∀ text ∈ egressProxy.toList, (utf8 text).length ≤ 65535 := by
      intro text member
      exact short text (mem_cons_of_mem _ member)
    apply parse_of_ok
    show (readString >>= _) (counted host ++ (bigEndian 2 port.toNat ++ marked egressProxy)) = .ok (_, [])
    rw [bind_of_ok (readString_counted first _), bind_of_ok (readU16_append port _),
      bind_of_ok (readEgressProxy_field second)]
    rfl
  | openTcpResult id ok message =>
    apply parse_of_ok
    show (readU8 >>= _) ((if ok then 1 else 0) :: counted message) = .ok (_, [])
    rw [bind_of_ok (readU8_cons _ _), bind_of_ok (readString_last (short message (by simp [texts])))]
    cases ok <;> rfl
  | data id bytes => rfl
  | close id reason =>
    apply parse_of_ok
    show (readString >>= _) (counted reason) = .ok (_, [])
    rw [bind_of_ok (readString_last (short reason (by simp [texts])))]
    rfl
  | udpPacket id host port bytes =>
    have count := bounded id host port bytes rfl
    apply parse_of_ok
    show (readString >>= _) (counted host ++ (bigEndian 2 port.toNat ++ (bigEndian 4 bytes.length ++ bytes))) = .ok (_, [])
    rw [bind_of_ok (readString_counted (short host (by simp [texts])) _),
      bind_of_ok (readU16_append port _), bind_of_ok (number_eq_ok.mpr ⟨rfl, count⟩),
      bind_of_ok (exactly_eq_ok.mpr ⟨(append_nil bytes).symm, rfl⟩)]
    rfl
  | log message =>
    apply parse_of_ok
    show (readString >>= _) (counted message) = .ok (_, [])
    rw [bind_of_ok (readString_last (short message (by simp [texts])))]
    rfl

namespace FrameReader

def payloadFrame (ty id count : Nat) (input : Bytes) : Except String (Frame × Bytes) :=
  if maxFrame < count then .error s!"frame too large: {count}"
  else if count ≤ input.length then
    (decode (UInt8.ofNat ty) (UInt32.ofNat id) (input.take count)).map (·, input.drop count)
  else .error (if ty = 3 then "failed to read frame payload: early eof" else "failed to read frame payload")

theorem payloadFrame_eq (ty id count : Nat) (input : Bytes) : (do
      require (count ≤ maxFrame) s!"frame too large: {count}"
      let payload ← exactly
        (if ty = 3 then "failed to read frame payload: early eof" else "failed to read frame payload") count
      lift (decode (UInt8.ofNat ty) (UInt32.ofNat id) payload) : Reader String Frame) input =
      payloadFrame ty id count input := by
  unfold payloadFrame
  by_cases fits : count ≤ maxFrame
  · have notLarge : ¬maxFrame < count := by omega
    have passed : require (count ≤ maxFrame) s!"frame too large: {count}" input = .ok ((), input) :=
      require_eq_ok.mpr ⟨fits, rfl⟩
    rw [if_neg notLarge, bind_of_ok passed]
    show Except.bind (exactly _ _ input) _ = _
    unfold exactly
    by_cases enough : count ≤ input.length
    · rw [if_pos enough, if_pos enough]
      rfl
    · rw [if_neg enough, if_neg enough]
      rfl
  · have large : maxFrame < count := by omega
    rw [if_pos large, require, if_neg fits]
    rfl

theorem frame_of_header {input : Bytes} (whole : 9 ≤ input.length) :
    frame input = payloadFrame (ofBigEndian (input.take 1)) (ofBigEndian ((input.drop 1).take 4))
      (ofBigEndian ((input.drop 5).take 4)) (input.drop 9) := by
  rw [frame, bind_of_ok (number_of_le (by omega)),
    bind_of_ok (number_of_le (by rw [length_drop]; omega)),
    bind_of_ok (number_of_le (by rw [length_drop, length_drop]; omega)), payloadFrame_eq]
  simp only [drop_drop]

theorem readExact_eq (source : Source UInt8) (buffer : Bytes) :
    (readExact source buffer).1 = decide (buffer.length ≤ source.input.length) ∧
      (buffer.length ≤ source.input.length → (readExact source buffer).2.1 = source.input.take buffer.length) ∧
      (readExact source buffer).2.2.input = source.input.drop buffer.length := by
  obtain ⟨found, left⟩ := source.fill_eq buffer.length
  refine ⟨?_, ?_, left⟩
  · simp only [readExact, found, length_take]
    exact decide_eq_decide.mpr (by omega)
  · intro enough
    have used : buffer.drop (source.input.take buffer.length).length = [] :=
      drop_eq_nil_of_le (by rw [length_take_of_le enough])
    simp only [readExact, found, used, append_nil]

theorem readData_eq (count : Nat) (payload : Bytes) (source : Source UInt8) (room : payload.length ≤ count) :
    if count - payload.length ≤ source.input.length then
      (readData count payload source).1 = .ok () ∧
        (readData count payload source).2.1 = payload ++ source.input.take (count - payload.length) ∧
        (readData count payload source).2.2.input = source.input.drop (count - payload.length)
    else (readData count payload source).1 = .error "failed to read frame payload: early eof" := by
  fun_induction readData count payload source with
  | case1 payload source unfilled read rest call zero =>
    obtain ⟨_, _, atEnd⟩ := Source.read_cases call
    have ended := atEnd (by omega) (length_eq_zero_iff.mp zero)
    rw [if_neg]
    rw [ended, length_nil]
    omega
  | case2 payload source unfilled read rest call nonzero ih =>
    obtain ⟨whole, bound, _⟩ := Source.read_cases call
    have shorter : count - (payload ++ read).length = count - payload.length - read.length := by
      rw [length_append]
      omega
    specialize ih (by rw [length_append]; omega)
    rw [shorter] at ih
    have more : (count - payload.length ≤ source.input.length) =
        (count - payload.length - read.length ≤ rest.input.length) := by
      rw [whole, length_append]
      exact propext (by omega)
    rw [if_congr (iff_of_eq more) rfl rfl]
    split
    case isTrue enough =>
      rw [if_pos enough] at ih
      obtain ⟨finished, gathered, left⟩ := ih
      rw [whole, take_append, drop_append, take_of_length_le bound, drop_of_length_le bound]
      exact ⟨finished, by rw [gathered, append_assoc], left⟩
    case isFalse short =>
      rw [if_neg short] at ih
      exact ih
  | case3 payload source filled =>
    have exact : count - payload.length = 0 := by omega
    simp [exact]

theorem length_resize (buffer : Bytes) (count : Nat) : (resize buffer count).length = count := by
  simp only [resize, length_append, length_take, length_replicate]
  omega

theorem Buffers.readPayload_eq (buffers : Buffers) (source : Source UInt8) (ty id count : Nat) :
    (buffers.readPayload source ty id count).1 = (payloadFrame ty id count source.input).map (fun read => some read.1) ∧
      ∀ frame rest, payloadFrame ty id count source.input = .ok (frame, rest) →
        (buffers.readPayload source ty id count).2.2.input = rest := by
  unfold Buffers.readPayload payloadFrame
  by_cases large : maxFrame < count
  · simp only [if_pos large]
    exact ⟨rfl, nofun⟩
  simp only [if_neg large]
  by_cases data : ty = 3
  · have gathered := readData_eq count [] source (Nat.zero_le _)
    simp only [if_pos data, Buffers.readDataFrame]
    by_cases enough : count ≤ source.input.length
    · rw [if_pos (by simpa using enough)] at gathered
      obtain ⟨finished, payload, left⟩ := gathered
      have decoded : decode (UInt8.ofNat ty) (UInt32.ofNat id) (source.input.take count) =
          .ok (.data (UInt32.ofNat id) (source.input.take count)) := by
        rw [data]
        rfl
      simp only [if_pos enough, finished, payload, left, decoded, nil_append, length_nil, Nat.sub_zero,
        take_take, Nat.min_self]
      refine ⟨rfl, ?_⟩
      intro frame rest same
      cases same
      rfl
    · rw [if_neg (by simpa using enough)] at gathered
      simp only [if_neg enough, gathered]
      exact ⟨rfl, nofun⟩
  · obtain ⟨whole, payload, left⟩ := readExact_eq source (resize buffers.structuredPayload count)
    rw [length_resize] at whole payload left
    simp only [if_neg data]
    by_cases enough : count ≤ source.input.length
    · rw [decide_eq_true enough] at whole
      simp only [whole, if_pos enough, if_true, payload enough, left]
      constructor
      · cases decode (UInt8.ofNat ty) (UInt32.ofNat id) (source.input.take count) <;> rfl
      · intro frame rest decoded
        obtain ⟨_, _, same⟩ := attempt_map_eq_ok.mp decoded
        cases same
        rfl
    · rw [decide_eq_false enough] at whole
      simp only [whole, if_neg enough, Bool.false_eq_true, if_false]
      exact ⟨rfl, nofun⟩

theorem Buffers.readFrom_eq (buffers : Buffers) (source : Source UInt8) :
    (buffers.readFrom source).1 = (FrameReader.readFrom source.input).map (Option.map Prod.fst) ∧
      (∀ frame rest, FrameReader.readFrom source.input = .ok (some (frame, rest)) →
        (buffers.readFrom source).2.2.input = rest) ∧
      (source.input.length < 9 → (buffers.readFrom source).2.2.input = []) := by
  obtain ⟨whole, header, left⟩ := readExact_eq source buffers.header
  rw [buffers.whole] at whole header left
  unfold Buffers.readFrom FrameReader.readFrom
  by_cases short : source.input.length < 9
  · have eof : (buffers.readHeader source).1 = false := whole.trans (decide_eq_false (by omega))
    simp only [eof, if_pos short, Bool.false_eq_true, if_false]
    refine ⟨rfl, nofun, ?_⟩
    intro _
    exact left.trans (drop_eq_nil_of_le (by omega))
  · have read : (buffers.readHeader source).1 = true := whole.trans (decide_eq_true (by omega))
    have payload := (buffers.readHeader source).2.1.readPayload_eq (buffers.readHeader source).2.2
      (ofBigEndian (source.input.take 1)) (ofBigEndian ((source.input.drop 1).take 4))
      (ofBigEndian ((source.input.drop 5).take 4))
    have start : (buffers.readHeader source).2.1.header = source.input.take 9 := header (by omega)
    have rest : (buffers.readHeader source).2.2.input = source.input.drop 9 := left
    rw [if_neg short, frame_of_header (by omega)]
    simp only [read, if_true, start, drop_take, take_take]
    rw [rest] at payload
    refine ⟨?_, ?_, fun few => absurd few short⟩
    · apply payload.1.trans
      cases payloadFrame _ _ _ _ <;> rfl
    · intro frame rest found
      obtain ⟨_, found, same⟩ := attempt_map_eq_ok.mp found
      cases same
      exact payload.2 frame rest found

theorem readFrom_layout {frame : Frame} (fits : frame.Fits) (rest : Bytes) :
    readFrom (frame.layout ++ rest) = .ok (some (frame, rest)) := by
  have read : FrameReader.frame (frame.layout ++ rest) = .ok (frame, rest) := by
    refine frame_eq_ok.mpr ⟨frame.wireType.toNat, frame.wireType.toNat_lt, frame.wireId.toNat, frame.wireId.toNat_lt,
      frame.payload, fits.payload, ?_, ?_⟩
    · simp [layout, frameHeader, bigEndian]
    · rw [UInt8.ofNat_toNat, UInt32.ofNat_toNat]
      exact frame.decode_payload fits.measured
  have whole : ¬(frame.layout ++ rest).length < 9 := by
    simp only [layout, length_append, length_frameHeader]
    omega
  rw [readFrom, if_neg whole, read]
  rfl

theorem Buffers.readCalls_layouts (frames : List Frame) (fits : ∀ frame ∈ frames, frame.Fits) (buffers : Buffers)
    (source : Source UInt8) (input : source.input = (frames.map layout).flatten) :
    (buffers.readCalls (frames.length + 1) source).1 = frames.map (fun frame => .ok (some frame)) ++ [.ok none] ∧
      (buffers.readCalls (frames.length + 1) source).2.input = [] := by
  induction frames generalizing buffers source with
  | nil =>
    obtain ⟨result, _, left⟩ := buffers.readFrom_eq source
    rw [input] at result left
    exact ⟨congrArg (· :: []) result, left (by decide)⟩
  | cons frame frames ih =>
    rw [map_cons, flatten_cons] at input
    have layout := readFrom_layout (fits frame mem_cons_self) (frames.map layout).flatten
    rw [← input] at layout
    obtain ⟨result, left, _⟩ := buffers.readFrom_eq source
    rw [layout] at result
    obtain ⟨results, ended⟩ := ih (fun other member => fits other (mem_cons_of_mem _ member))
      (buffers.readFrom source).2.1 (buffers.readFrom source).2.2 (left _ _ layout)
    exact ⟨congr (congrArg cons result) results, ended⟩

end FrameReader

/-- Frames written one by one, each over whatever transport and scratch buffers accepted it, are read back in order
by one reader, whatever its buffers held and however the bytes arrive; then the transport is at its clean end. A frame
is accepted exactly when its texts and its payload are within the limits. -/
theorem frames_round_trip : (∀ frame : Frame, (∃ bytes, frame.WrittenAs bytes) ↔ frame.Fits) ∧
      ∀ (frames : List Frame) (encodings : List Bytes), List.Forall₂ Frame.WrittenAs frames encodings →
        ∀ (buffers : FrameReader.Buffers) (pieces : Nat → Nat),
          (buffers.readCalls (frames.length + 1) { input := encodings.flatten, pieces }).1 =
              frames.map (fun frame => .ok (some frame)) ++ [.ok none] ∧
            (buffers.readCalls (frames.length + 1) { input := encodings.flatten, pieces }).2.input = [] := by
  refine ⟨?_, ?_⟩
  · intro frame
    constructor
    · rintro ⟨bytes, written⟩
      exact (writtenAs_iff.mp written).1
    · intro fits
      exact ⟨frame.layout, writtenAs_iff.mpr ⟨fits, rfl⟩⟩
  · intro frames encodings written buffers pieces
    obtain ⟨fits, rfl⟩ := writtenAs_all written
    exact buffers.readCalls_layouts frames fits _ rfl

/-- A request and an empty chunk, arriving byte by byte at a reader that still holds other frames. -/
theorem request_round_trip :
    let frames : List Frame := [.openTcp 1 "a" 80 none, .openTcp 3 "b" 443 (some "p"), .data 1 []]
    let buffers : FrameReader.Buffers :=
      { header := replicate 9 7, structuredPayload := [1, 2, 3], dataPayload := [4], whole := rfl }
    (buffers.readCalls 4 { input := (frames.map layout).flatten, pieces := fun _ => 0 }).1 =
      frames.map (fun frame => .ok (some frame)) ++ [.ok none] := by
  intro frames buffers
  have fits : ∀ frame ∈ frames, frame.Fits := by
    intro frame member
    constructor
    · revert frame
      decide
    · revert frame
      decide
  have written : List.Forall₂ Frame.WrittenAs frames (frames.map layout) :=
    forall₂_map_right_iff.mpr (forall₂_same.mpr fun frame member =>
      writtenAs_iff.mpr ⟨fits frame member, rfl⟩)
  exact (frames_round_trip.2 frames _ written buffers _).1

end SshProxy
