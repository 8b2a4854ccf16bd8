import SshProxy.Proofs.FrameRoundTrip

/-! Decoding is a normalisation. It accepts more than the encoder writes: a proxy without its
marker, any byte but zero for true, any id on a log line. What it accepts is spelled out here
byte for byte, and each frame has one spelling that the encoder writes. -/

namespace SshProxy
open Library Cursor List SshProxy.Frame
open Reader (bind_eq_ok pure_eq_ok)

namespace Cursor

theorem readU8_eq_ok {input rest : Bytes} {byte : UInt8} : readU8 input = .ok (byte, rest) ↔ input = byte :: rest := by
  constructor
  · intro read
    obtain ⟨value, number, rfl⟩ := Reader.map_eq_ok.mp read
    obtain ⟨rfl, _⟩ := Reader.number_eq_ok.mp number
    rfl
  · rintro rfl
    exact readU8_cons byte rest

theorem readU16_eq_ok {input rest : Bytes} {value : UInt16} :
    readU16 input = .ok (value, rest) ↔ input = bigEndian 2 value.toNat ++ rest := by
  constructor
  · intro read
    obtain ⟨number, found, rfl⟩ := Reader.map_eq_ok.mp read
    obtain ⟨rfl, small⟩ := Reader.number_eq_ok.mp found
    rw [UInt16.toNat_ofNat_of_lt' small]
  · rintro rfl
    exact readU16_append value rest

theorem readString_eq_ok {input rest : Bytes} {value : String} :
    readString input = .ok (value, rest) ↔ input = counted value ++ rest ∧ (utf8 value).length ≤ 65535 :=
  Reader.text_eq_ok

theorem ensureEmpty_eq_ok {input rest : Bytes} {done : Unit} :
    ensureEmpty input = .ok (done, rest) ↔ input = [] ∧ rest = [] := Reader.ensureEmpty_eq_ok

end Cursor

/-- The ways to spell the proxy at the end of an `OpenTcp`. -/
def SpellsProxy : Option String → Bytes → Prop
  | none, bytes => bytes = [] ∨ bytes = [0]
  | some proxy, bytes => ∃ marker, marker ≠ 0 ∧ bytes = marker :: counted proxy

theorem Cursor.readEgressProxy_eq_ok {input : Bytes} {egressProxy : Option String}
    (read : readEgressProxy input = .ok (egressProxy, [])) :
    SpellsProxy egressProxy input ∧ ∀ text ∈ egressProxy.toList, (utf8 text).length ≤ 65535 := by
  obtain ⟨atEnd, _, looked, rest⟩ := bind_eq_ok.mp read
  cases looked
  cases input with
  | nil =>
    cases rest
    exact ⟨.inl rfl, nofun⟩
  | cons marker tail =>
    obtain ⟨_, _, first, rest⟩ := bind_eq_ok.mp rest
    cases readU8_eq_ok.mp first
    split at rest
    case isTrue zero =>
      cases rest
      rw [zero]
      exact ⟨.inr rfl, nofun⟩
    case isFalse nonzero =>
      obtain ⟨proxy, _, text, rest⟩ := bind_eq_ok.mp rest
      cases rest
      obtain ⟨rfl, short⟩ := readString_eq_ok.mp text
      refine ⟨⟨marker, nonzero, by rw [append_nil]⟩, ?_⟩
      intro text member
      rw [mem_singleton.mp member]
      exact short

/-- The frame is what the id and the payload say, with every byte of the payload in one of its
parts. Only the marker of a proxy, the flag of a result and the id of a log line leave a choice. -/
def Frame.Spells : Frame → UInt32 → Bytes → Prop
  | .openTcp stream host port egressProxy, id, payload =>
    stream = id ∧ ∃ tail, payload = counted host ++ (bigEndian 2 port.toNat ++ tail) ∧ SpellsProxy egressProxy tail
  | .openTcpResult stream ok message, id, payload =>
    stream = id ∧ ∃ flag, payload = flag :: counted message ∧ ok = (flag != 0)
  | .data stream bytes, id, payload => stream = id ∧ payload = bytes
  | .close stream reason, id, payload => stream = id ∧ payload = counted reason
  | .udpPacket stream host port bytes, id, payload =>
    stream = id ∧ payload = counted host ++ (bigEndian 2 port.toNat ++ (bigEndian 4 bytes.length ++ bytes))
  | .log message, _, payload => payload = counted message

section
variable {ty : UInt8} {id : UInt32} {payload : Bytes} {frame : Frame}

private theorem measured_of_texts (texts : ∀ text ∈ frame.texts, (utf8 text).length ≤ 65535)
    (short : ∀ id host port bytes, frame ≠ .udpPacket id host port bytes) : frame.Measured :=
  ⟨texts, fun id host port bytes same => absurd same (short id host port bytes)⟩

theorem Frame.decode_spells (accepted : decode ty id payload = .ok frame) :
    frame.wireType = ty ∧ frame.Spells id payload ∧ frame.Measured := by
  obtain ⟨left, read⟩ := Reader.parse_eq_ok.mp accepted
  split at read
  · obtain ⟨host, _, first, read⟩ := bind_eq_ok.mp read
    obtain ⟨port, _, second, read⟩ := bind_eq_ok.mp read
    obtain ⟨egressProxy, _, third, read⟩ := bind_eq_ok.mp read
    obtain ⟨_, _, last, read⟩ := bind_eq_ok.mp read
    obtain ⟨rfl, rfl⟩ := pure_eq_ok.mp read
    obtain ⟨rfl, rfl⟩ := ensureEmpty_eq_ok.mp last
    obtain ⟨spells, proxyShort⟩ := readEgressProxy_eq_ok third
    obtain rfl := readU16_eq_ok.mp second
    obtain ⟨rfl, hostShort⟩ := readString_eq_ok.mp first
    refine ⟨rfl, ⟨rfl, _, rfl, spells⟩, measured_of_texts ?_ nofun⟩
    exact forall_mem_cons.mpr ⟨hostShort, proxyShort⟩
  · obtain ⟨flag, _, first, read⟩ := bind_eq_ok.mp read
    obtain ⟨message, _, second, read⟩ := bind_eq_ok.mp read
    obtain ⟨_, _, last, read⟩ := bind_eq_ok.mp read
    obtain ⟨rfl, rfl⟩ := pure_eq_ok.mp read
    obtain ⟨rfl, rfl⟩ := ensureEmpty_eq_ok.mp last
    obtain ⟨rfl, short⟩ := readString_eq_ok.mp second
    obtain rfl := readU8_eq_ok.mp first
    refine ⟨rfl, ⟨rfl, flag, by rw [append_nil], rfl⟩, measured_of_texts ?_ nofun⟩
    exact forall_mem_singleton.mpr short
  · obtain ⟨rfl, rfl⟩ := pure_eq_ok.mp read
    exact ⟨rfl, ⟨rfl, rfl⟩, measured_of_texts nofun nofun⟩
  · obtain ⟨reason, _, first, read⟩ := bind_eq_ok.mp read
    obtain ⟨_, _, last, read⟩ := bind_eq_ok.mp read
    obtain ⟨rfl, rfl⟩ := pure_eq_ok.mp read
    obtain ⟨rfl, rfl⟩ := ensureEmpty_eq_ok.mp last
    obtain ⟨rfl, short⟩ := readString_eq_ok.mp first
    refine ⟨rfl, ⟨rfl, append_nil _⟩, measured_of_texts ?_ nofun⟩
    exact forall_mem_singleton.mpr short
  · obtain ⟨host, _, first, read⟩ := bind_eq_ok.mp read
    obtain ⟨port, _, second, read⟩ := bind_eq_ok.mp read
    obtain ⟨count, _, third, read⟩ := bind_eq_ok.mp read
    obtain ⟨bytes, _, fourth, read⟩ := bind_eq_ok.mp read
    obtain ⟨_, _, last, read⟩ := bind_eq_ok.mp read
    obtain ⟨rfl, rfl⟩ := pure_eq_ok.mp read
    obtain ⟨rfl, rfl⟩ := ensureEmpty_eq_ok.mp last
    obtain ⟨rfl, rfl⟩ := Reader.exactly_eq_ok.mp fourth
    obtain ⟨rfl, small⟩ := Reader.number_eq_ok.mp third
    obtain rfl := readU16_eq_ok.mp second
    obtain ⟨rfl, short⟩ := readString_eq_ok.mp first
    refine ⟨rfl, ⟨rfl, by rw [append_nil]⟩, forall_mem_singleton.mpr short, ?_⟩
    intro stream host port data same
    cases same
    exact small
  · obtain ⟨message, _, first, read⟩ := bind_eq_ok.mp read
    obtain ⟨_, _, last, read⟩ := bind_eq_ok.mp read
    obtain ⟨rfl, rfl⟩ := pure_eq_ok.mp read
    obtain ⟨rfl, rfl⟩ := ensureEmpty_eq_ok.mp last
    obtain ⟨rfl, short⟩ := readString_eq_ok.mp first
    refine ⟨rfl, append_nil _, measured_of_texts ?_ nofun⟩
    exact forall_mem_singleton.mpr short
  · cases read

theorem Frame.Spells.payload_fits (spells : frame.Spells id payload) (measured : frame.Measured)
    (fits : payload.length ≤ maxFrame) : frame.payload.length ≤ maxFrame := by
  cases frame with
  | openTcp stream host port egressProxy =>
    have hostShort := measured.texts host mem_cons_self
    cases egressProxy with
    | none =>
      simp only [Frame.payload, marked, length_append, length_counted, length_bigEndian, length_singleton, maxFrame]
      omega
    | some proxy =>
      have proxyShort := measured.texts proxy (mem_cons_of_mem _ mem_cons_self)
      simp only [Frame.payload, marked, length_append, length_cons, length_counted, length_bigEndian, maxFrame]
      omega
  | openTcpResult stream ok message =>
    obtain ⟨_, flag, rfl, _⟩ := spells
    exact fits
  | data stream bytes | close stream bytes | udpPacket stream host port bytes =>
    obtain ⟨_, rfl⟩ := spells
    exact fits
  | log message =>
    obtain rfl := spells
    exact fits

/-- Whatever is accepted as a frame is a spelling of it with no byte left over. The encoder writes
the frame in one way, whatever its buffer held, within the limit of the transport if the accepted
payload was; and decoding that gives the frame again. -/
theorem decoding_normalises (accepted : decode ty id payload = .ok frame) :
    frame.Spells id payload ∧ ∃ canonicalId canonical,
      (∀ buffer, frame.encodeInto buffer = .ok ((ty, canonicalId), canonical)) ∧
        decode ty canonicalId canonical = .ok frame ∧
        (payload.length ≤ maxFrame → canonical.length ≤ maxFrame) := by
  obtain ⟨rfl, spells, measured⟩ := decode_spells accepted
  refine ⟨spells, frame.wireId, frame.payload, ?_, frame.decode_payload measured, spells.payload_fits measured⟩
  intro buffer
  exact encodeInto_eq_ok.mpr ⟨measured.texts, rfl, rfl⟩

end

/-- An `OpenTcp` of an older peer, which has no marker, and one with a proxy behind an odd marker. -/
theorem decoding_normalises_odd : decode 1 7 (counted "a" ++ [0, 80]) = .ok (.openTcp 7 "a" 80 none) ∧
      decode 1 7 (counted "a" ++ ([0, 80] ++ 9 :: counted "p")) = .ok (.openTcp 7 "a" 80 (some "p")) ∧
      ∃ canonicalId canonical,
        (∀ buffer, (openTcp 7 "a" 80 none).encodeInto buffer = .ok ((1, canonicalId), canonical)) ∧
        decode 1 canonicalId canonical = .ok (.openTcp 7 "a" 80 none) := by
  have older : decode 1 7 (counted "a" ++ [0, 80]) = .ok (.openTcp 7 "a" 80 none) := by decide +kernel
  obtain ⟨_, canonicalId, canonical, encoded, decoded, _⟩ := decoding_normalises older
  exact ⟨older, by decide +kernel, canonicalId, canonical, encoded, decoded⟩

end SshProxy
