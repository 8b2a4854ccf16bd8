import SshProxy.QuicNative

/-! Flow headers survive the stream, except at one length: the largest body the encoder
lets through is one byte more than its length field can say, so it is announced as empty. -/

namespace SshProxy.StreamHeader
open Library Reader List Encoder

def texts (header : StreamHeader) : List String := header.routeId :: header.target.host :: header.egressProxy.toList

def bodyLayout (header : StreamHeader) : Bytes :=
  bigEndian 4 header.flags.toNat ++ (bigEndian 8 header.streamId.toNat ++ (header.target.kind.toWire ::
    (counted header.routeId ++ (counted header.target.host ++
      (bigEndian 2 header.target.port.toNat ++ marked header.egressProxy)))))

def start (count : Nat) : Bytes := streamHeaderMagic ++ (bigEndian 2 streamHeaderVersion.toNat ++ bigEndian 2 count)

theorem encodedCapacityHint_eq (header : StreamHeader) : header.encodedCapacityHint = 8 + header.bodyLayout.length := by
  cases proxy : header.egressProxy <;>
    simp only [encodedCapacityHint, bodyLayout, marked, proxy, length_append, length_cons, length_bigEndian,
      length_counted, Option.elim, length_nil] <;>
    omega

theorem copyInto_start (count : Nat) (rest : Bytes) :
    copyInto (start 0 ++ rest) 6 (bigEndian 2 count) = start count ++ rest := by
  simp [copyInto, start, streamHeaderMagic, bigEndian]

variable {header : StreamHeader}

theorem encodeInto_eq_ok {out bytes : Bytes} {done : Unit} : header.encodeInto out = .ok (done, bytes) ↔
      (∀ text ∈ header.texts, (utf8 text).length ≤ 65535) ∧ header.bodyLayout.length ≤ maxStreamHeader ∧
        start header.bodyLayout.length ++ header.bodyLayout = bytes := by
  simp only [encodeInto, clear_bind, put_bind, get_bind, writeString, text_bind_eq_ok,
    writeEgressProxy, optional_bind_eq_ok, require_bind_eq_ok, modify_eq_ok]
  have begun : [] ++ streamHeaderMagic ++ bigEndian 2 streamHeaderVersion.toNat ++ bigEndian 2 0 = start 0 := rfl
  have body : start 0 ++ bigEndian 4 header.flags.toNat ++ bigEndian 8 header.streamId.toNat ++
      [header.target.kind.toWire] ++ counted header.routeId ++ counted header.target.host ++
      bigEndian 2 header.target.port.toNat ++ marked header.egressProxy = start 0 ++ header.bodyLayout := by
    simp only [bodyLayout, append_assoc, cons_append, nil_append]
  rw [begun, body, length_append, Nat.add_sub_cancel_left, copyInto_start, texts, forall_mem_cons,
    forall_mem_cons]
  simp only [and_assoc]

theorem encode_eq_ok {bytes : Bytes} : header.encode = .ok bytes ↔
      (∀ text ∈ header.texts, (utf8 text).length ≤ 65535) ∧ header.bodyLayout.length ≤ maxStreamHeader ∧
        start header.bodyLayout.length ++ header.bodyLayout = bytes := by
  rw [encode, attempt_bind_eq_ok]
  constructor
  · rintro ⟨⟨⟨⟩, out⟩, encoded, same⟩
    cases same
    exact encodeInto_eq_ok.mp encoded
  · intro fits
    exact ⟨((), bytes), encodeInto_eq_ok.mpr fits, rfl⟩

theorem fromWire_toWire (kind : TargetKind) : TargetKind.fromWire kind.toWire.toNat = .ok kind := by
  cases kind <;> rfl

theorem readEgressProxy_marked {egressProxy : Option String}
    (short : ∀ text ∈ egressProxy.toList, (utf8 text).length ≤ 65535) :
    readEgressProxy (marked egressProxy) = .ok (egressProxy, []) := by
  cases egressProxy with
  | none => rfl
  | some proxy =>
    have read : readString (counted proxy ++ []) = .ok (proxy, []) := text_counted (short proxy (by simp)) []
    rw [append_nil] at read
    rw [readEgressProxy, marked, bind_of_ok (number_cons 1 _)]
    show (readString >>= _) (counted proxy) = _
    rw [bind_of_ok read]
    rfl

theorem body_layout (short : ∀ text ∈ header.texts, (utf8 text).length ≤ 65535) :
    body header.bodyLayout = .ok (header, []) := by
  obtain ⟨route, host, proxy⟩ : (utf8 header.routeId).length ≤ 65535 ∧ (utf8 header.target.host).length ≤ 65535 ∧
      ∀ text ∈ header.egressProxy.toList, (utf8 text).length ≤ 65535 := by
    rwa [texts, forall_mem_cons, forall_mem_cons] at short
  have routeId : ∀ rest, readString (counted header.routeId ++ rest) = .ok (header.routeId, rest) :=
    text_counted route
  have target : ∀ rest, readString (counted header.target.host ++ rest) = .ok (header.target.host, rest) :=
    text_counted host
  rw [body, bodyLayout, bind_of_ok (number_eq_ok.mpr ⟨rfl, header.flags.toNat_lt⟩),
    bind_of_ok (number_eq_ok.mpr ⟨rfl, header.streamId.toNat_lt⟩), bind_of_ok (number_cons _ _),
    bind_of_ok (lift_eq_ok.mpr ⟨fromWire_toWire _, rfl⟩), bind_of_ok (routeId _),
    bind_of_ok (target _), bind_of_ok (number_eq_ok.mpr ⟨rfl, header.target.port.toNat_lt⟩),
    bind_of_ok (readEgressProxy_marked proxy), UInt32.ofNat_toNat, UInt64.ofNat_toNat, UInt16.ofNat_toNat]
  rfl

theorem length_start (count : Nat) : (start count).length = 8 := by
  simp [start, streamHeaderMagic]

theorem decode_start {count : Nat} (small : count < 65536) {rest : Bytes} (enough : count ≤ rest.length) :
    decode (start count ++ rest) = (body.parse (rest.take count)).map (·, 8 + count) := by
  have magic : (start count ++ rest).take 4 = streamHeaderMagic := by simp [start, streamHeaderMagic]
  have version : ((start count ++ rest).drop 4).take 2 = bigEndian 2 streamHeaderVersion.toNat := by
    simp [start, streamHeaderMagic, bigEndian]
  have field : ((start count ++ rest).drop 6).take 2 = bigEndian 2 count := by
    simp [start, streamHeaderMagic, bigEndian]
  have after : (start count ++ rest).drop 8 = rest := drop_left' (length_start count)
  have length : (start count ++ rest).length = 8 + rest.length := by rw [length_append, length_start]
  have said : ofBigEndian (bigEndian 2 count) = count := ofBigEndian_bigEndian (by omega)
  have current : ofBigEndian (bigEndian 2 streamHeaderVersion.toNat) = streamHeaderVersion.toNat := by decide
  have bounded : ¬maxStreamHeader < count := by
    unfold maxStreamHeader
    omega
  simp only [decode, magic, version, field, after, length, said, current, ne_eq, not_true, if_false, gt_iff_lt,
    if_neg bounded]
  rw [if_neg (by omega), if_neg (by omega)]

theorem readFlowHeader_start {content : Bytes} (small : content.length < 65536)
    (decoded : decode (start content.length ++ content) = .ok (header, 8 + content.length)) (rest : Bytes) :
    readFlowHeader (start content.length ++ (content ++ rest)) = .ok (header, rest) := by
  have field : (start content.length).drop 6 = bigEndian 2 content.length := by
    simp [start, streamHeaderMagic, bigEndian]
  have said : ofBigEndian (bigEndian 2 content.length) = content.length := ofBigEndian_bigEndian (by omega)
  have bounded : content.length ≤ maxStreamHeader := by
    unfold maxStreamHeader
    omega
  have consumed : 8 + content.length = (start content.length ++ content).length := by
    rw [length_append, length_start]
  rw [readFlowHeader, bind_of_ok (exactly_eq_ok.mpr ⟨rfl, length_start _⟩)]
  simp only [field, said]
  rw [require_bind_eq_ok, bind_of_ok (exactly_eq_ok.mpr ⟨rfl, rfl⟩),
    bind_of_ok (lift_eq_ok.mpr ⟨decoded, rfl⟩)]
  refine ⟨by rwa [field, said], ?_⟩
  show (require _ _ >>= _) rest = _
  rw [require_bind_eq_ok]
  exact ⟨consumed, rfl⟩

/-- What the round trip asks of a header and of what follows it on the stream. -/
def RoundTrips (header : StreamHeader) (rest : Bytes) : Prop :=
  ∀ bytes, header.encode = .ok bytes →
    decode (bytes ++ rest) = .ok (header, bytes.length) ∧ readFlowHeader (bytes ++ rest) = .ok (header, rest)

theorem roundTrips_of_lt (small : header.bodyLayout.length < 65536) (rest : Bytes) : header.RoundTrips rest := by
  intro bytes encoded
  obtain ⟨short, _, rfl⟩ := encode_eq_ok.mp encoded
  have decoded (more : Bytes) : decode (start header.bodyLayout.length ++ (header.bodyLayout ++ more)) =
      .ok (header, 8 + header.bodyLayout.length) := by
    rw [decode_start small (by simp), take_left, parse_of_ok (body_layout short)]
    rfl
  have alone := decoded []
  rw [append_nil] at alone
  rw [append_assoc, decoded rest, length_append, length_start]
  exact ⟨rfl, readFlowHeader_start small alone rest⟩

theorem decode_largest {bytes : Bytes} (largest : header.bodyLayout.length = 65536)
    (encoded : header.encode = .ok bytes) (rest : Bytes) : decode (bytes ++ rest) = .error truncated := by
  obtain ⟨_, _, rfl⟩ := encode_eq_ok.mp encoded
  have wrapped : start 65536 = start 0 := by decide
  rw [largest, wrapped, append_assoc, decode_start (by decide) (Nat.zero_le _)]
  rfl

/-- The round trip fails exactly for the accepted headers whose body has the largest length. -/
theorem roundTrips_iff (header : StreamHeader) (rest : Bytes) : header.RoundTrips rest ↔
      header.encodedCapacityHint ≠ 8 + maxStreamHeader ∨ ∃ text ∈ header.texts, 65535 < (utf8 text).length := by
  rw [encodedCapacityHint_eq]
  constructor
  · intro survives
    by_contra neither
    push Not at neither
    obtain ⟨largest, short⟩ := neither
    have length : header.bodyLayout.length = 65536 := by
      unfold maxStreamHeader at largest
      omega
    have encoded : header.encode = .ok (start header.bodyLayout.length ++ header.bodyLayout) :=
      encode_eq_ok.mpr ⟨short, by omega, rfl⟩
    have decoded := (survives _ encoded).1
    rw [decode_largest length encoded] at decoded
    cases decoded
  · intro condition bytes encoded
    obtain ⟨short, bounded, _⟩ := encode_eq_ok.mp encoded
    rcases condition with other | ⟨text, member, long⟩
    · have small : header.bodyLayout.length < 65536 := by
        unfold maxStreamHeader at other bounded
        omega
      exact roundTrips_of_lt small rest bytes encoded
    · exact absurd (short text member) (by omega)

def headerTo (host : String) : StreamHeader :=
  { routeId := "", streamId := 1, target := { kind := .tcpConnect, host, port := 443 }, egressProxy := none, flags := 0 }

theorem length_headerTo (host : String) : (headerTo host).bodyLayout.length = 20 + (utf8 host).length := by
  have hint : (headerTo host).encodedCapacityHint = 8 + 4 + 8 + 1 + 2 + 0 + 2 + (utf8 host).length + 2 + 1 + 0 := rfl
  rw [encodedCapacityHint_eq] at hint
  omega

/-- A host of 65516 bytes makes the largest body, which is sent and cannot be read. -/
theorem largest_header_lost : ∃ bytes, (headerTo (String.ofList (replicate 65516 'a'))).encode = .ok bytes ∧
      decode bytes = .error truncated ∧ ¬(headerTo (String.ofList (replicate 65516 'a'))).RoundTrips [] := by
  have host : (utf8 (String.ofList (replicate 65516 'a'))).length = 65516 := by
    have one : (utf8 (String.ofList ['a'])).length = 1 := by decide
    rw [length_utf8_replicate, one]
  generalize String.ofList (replicate 65516 'a') = name at host
  have largest : (headerTo name).bodyLayout.length = 65536 := by rw [length_headerTo, host]
  have short : ∀ text ∈ (headerTo name).texts, (utf8 text).length ≤ 65535 := by
    intro text member
    rcases mem_cons.mp member with rfl | member
    · exact Nat.zero_le _
    · rcases mem_singleton.mp member with rfl
      omega
  have bounded : (headerTo name).bodyLayout.length ≤ maxStreamHeader := by rw [largest, maxStreamHeader]
  have encoded := encode_eq_ok.mpr ⟨short, bounded, rfl⟩
  have lost := decode_largest largest encoded []
  refine ⟨_, encoded, by rwa [append_nil] at lost, ?_⟩
  intro survives
  rw [(survives _ encoded).1] at lost
  cases lost

end SshProxy.StreamHeader
