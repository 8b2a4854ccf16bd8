import SshProxy.Proofs.FrameRoundTrip

/-! How reading ends. The reader takes frames off the transport until one call returns no
frame, and what that call returns is compared with where in a frame the transport ended. -/

namespace SshProxy
open Library List

namespace FrameReader

/-- What the call returns that finds no frame on a transport that moves everything at once, and
the bytes it starts from. -/
def stop (input : Bytes) : Except String Unit × Bytes :=
  match _read : readFrom input with
  | .ok (some (_, rest)) => stop rest
  | .ok none => (.ok (), input)
  | .error error => (.error error, input)
termination_by input.length
decreasing_by exact readFrom_shorter _read

theorem Buffers.readFrom_some {buffers : Buffers} {source : Source UInt8} {frame : Frame}
    (read : (buffers.readFrom source).1 = .ok (some frame)) :
    FrameReader.readFrom source.input = .ok (some (frame, (buffers.readFrom source).2.2.input)) := by
  obtain ⟨result, left, _⟩ := buffers.readFrom_eq source
  rw [read] at result
  obtain ⟨found, pure, same⟩ := attempt_map_eq_ok.mp result.symm
  cases found with
  | none => cases same
  | some pair =>
    obtain ⟨decoded, rest⟩ := pair
    cases same
    rw [left decoded rest pure, pure]

/-- `while let Some(frame) = frame_reader.read_from(&mut reader).await?`, with what ends it. -/
def Buffers.readToEnd (buffers : Buffers) (source : Source UInt8) : List Frame × Except String Unit :=
  match _read : (buffers.readFrom source).1 with
  | .ok (some frame) =>
    let (frames, ending) := (buffers.readFrom source).2.1.readToEnd (buffers.readFrom source).2.2
    (frame :: frames, ending)
  | .ok none => ([], .ok ())
  | .error error => ([], .error error)
termination_by source.input.length
decreasing_by exact readFrom_shorter (Buffers.readFrom_some _read)

theorem stop_of_some {input rest : Bytes} {frame : Frame} (read : readFrom input = .ok (some (frame, rest))) :
    stop input = stop rest := by
  rw [stop]
  split
  next found =>
    rw [read] at found
    cases found
    rfl
  next found =>
    rw [read] at found
    cases found
  next found =>
    rw [read] at found
    cases found

theorem stop_of_none {input : Bytes} (read : readFrom input = .ok none) : stop input = (.ok (), input) := by
  rw [stop]
  split
  next found =>
    rw [read] at found
    cases found
  next => rfl
  next found =>
    rw [read] at found
    cases found

theorem stop_of_error {input : Bytes} {error : String} (read : readFrom input = .error error) :
    stop input = (.error error, input) := by
  rw [stop]
  split
  next found =>
    rw [read] at found
    cases found
  next found =>
    rw [read] at found
    cases found
  next found =>
    rw [read] at found
    cases found
    rfl

theorem Buffers.readToEnd_eq (buffers : Buffers) (source : Source UInt8) :
    (buffers.readToEnd source).2 = (stop source.input).1 := by
  fun_induction Buffers.readToEnd buffers source with
  | case1 buffers source frame read frames ending rest ih =>
    rw [rest] at ih
    rw [stop_of_some (Buffers.readFrom_some read)]
    exact ih
  | case2 buffers source read =>
    have result := (buffers.readFrom_eq source).1
    rw [read] at result
    obtain ⟨found, pure, same⟩ := attempt_map_eq_ok.mp result.symm
    rw [Option.map_eq_none_iff.mp same] at pure
    rw [stop_of_none pure]
  | case3 buffers source error read =>
    have result := (buffers.readFrom_eq source).1
    rw [read] at result
    cases pure : FrameReader.readFrom source.input with
    | ok found =>
      rw [pure] at result
      cases result
    | error other =>
      rw [pure] at result
      cases result
      rw [stop_of_error pure]

end FrameReader

/-- The bytes of one frame: a whole header, and the payload it announces. -/
def IsFrame (bytes : Bytes) : Prop :=
  ∃ ty id payload frame, bytes = frameHeader ty id payload.length ++ payload ∧ payload.length ≤ maxFrame ∧
    Frame.decode ty id payload = .ok frame

def Complete (bytes : Bytes) : Prop := ∃ frames : List Bytes, (∀ frame ∈ frames, IsFrame frame) ∧ bytes = frames.flatten

/-- Complete frames, and behind them some bytes of a frame but not all of them. -/
def EndsInside (bytes : Bytes) : Prop :=
  ∃ front tail ty id payload, Complete front ∧ bytes = front ++ tail ∧ payload.length < 256 ^ 4 ∧
    tail <+: frameHeader ty id payload.length ++ payload ∧ tail ≠ [] ∧ tail.length < 9 + payload.length

def EndsInHeader (bytes : Bytes) : Prop :=
  ∃ front tail, Complete front ∧ bytes = front ++ tail ∧ 0 < tail.length ∧ tail.length < 9

theorem frameHeader_append (ty : UInt8) (id : UInt32) (count : Nat) (rest : Bytes) :
    frameHeader ty id count ++ rest = bigEndian 1 ty.toNat ++ (bigEndian 4 id.toNat ++ (bigEndian 4 count ++ rest)) := by
  simp [frameHeader, bigEndian]

theorem drop_frameHeader (ty : UInt8) (id : UInt32) (count : Nat) (rest : Bytes) :
    (frameHeader ty id count ++ rest).drop 5 = bigEndian 4 count ++ rest := by
  rw [frameHeader, ← append_assoc, append_assoc ([ty] ++ _), drop_left']
  rw [length_append, length_bigEndian]
  rfl

namespace FrameReader

theorem readFrom_of_isFrame {bytes : Bytes} (whole : IsFrame bytes) (rest : Bytes) :
    ∃ frame, readFrom (bytes ++ rest) = .ok (some (frame, rest)) := by
  obtain ⟨ty, id, payload, decoded, rfl, fits, decode⟩ := whole
  have read : frame (frameHeader ty id payload.length ++ payload ++ rest) = .ok (decoded, rest) := by
    refine frame_eq_ok.mpr ⟨ty.toNat, ty.toNat_lt, id.toNat, id.toNat_lt, payload, fits, ?_, ?_⟩
    · rw [append_assoc, frameHeader_append]
    · rw [UInt8.ofNat_toNat, UInt32.ofNat_toNat]
      exact decode
  have long : ¬(frameHeader ty id payload.length ++ payload ++ rest).length < 9 := by
    simp only [length_append, length_frameHeader]
    omega
  rw [readFrom, if_neg long, read]
  exact ⟨decoded, rfl⟩

theorem isFrame_of_readFrom {input rest : Bytes} {decoded : Frame} (read : readFrom input = .ok (some (decoded, rest))) :
    ∃ bytes, IsFrame bytes ∧ input = bytes ++ rest := by
  unfold readFrom at read
  split at read
  case isTrue => cases read
  case isFalse =>
    obtain ⟨_, found, same⟩ := attempt_map_eq_ok.mp read
    cases same
    obtain ⟨ty, small, id, bounded, payload, fits, rfl, decode⟩ := frame_eq_ok.mp found
    refine ⟨frameHeader (UInt8.ofNat ty) (UInt32.ofNat id) payload.length ++ payload,
      ⟨UInt8.ofNat ty, UInt32.ofNat id, payload, decoded, rfl, fits, decode⟩, ?_⟩
    rw [append_assoc, frameHeader_append, UInt8.toNat_ofNat_of_lt' small, UInt32.toNat_ofNat_of_lt' bounded]

theorem stop_append {front : Bytes} (complete : Complete front) (tail : Bytes) : stop (front ++ tail) = stop tail := by
  obtain ⟨frames, whole, rfl⟩ := complete
  induction frames with
  | nil => rfl
  | cons first frames ih =>
    obtain ⟨others, rest⟩ := forall_mem_cons.mp whole
    obtain ⟨frame, read⟩ := readFrom_of_isFrame others (frames.flatten ++ tail)
    rw [flatten_cons, append_assoc, stop_of_some read]
    exact ih rest

theorem stop_short {tail : Bytes} (short : tail.length < 9) : stop tail = (.ok (), tail) := by
  apply stop_of_none
  rw [readFrom, if_pos short]

theorem stop_complete {bytes : Bytes} (complete : Complete bytes) : stop bytes = (.ok (), []) := by
  have ended := stop_append complete []
  rw [append_nil] at ended
  rw [ended]
  exact stop_short (by decide)

theorem stop_cases (input : Bytes) :
    ∃ front, Complete front ∧ input = front ++ (stop input).2 ∧ ((stop input).1 = .ok () → (stop input).2.length < 9) := by
  fun_induction stop input with
  | case1 input frame rest read ih =>
    obtain ⟨bytes, whole, same⟩ := isFrame_of_readFrom read
    obtain ⟨_, ⟨frames, all, rfl⟩, split, short⟩ := ih
    refine ⟨bytes ++ frames.flatten, ⟨bytes :: frames, forall_mem_cons.mpr ⟨whole, all⟩, rfl⟩, ?_, short⟩
    rw [append_assoc, ← split, same]
  | case2 input read =>
    refine ⟨[], ⟨[], nofun, rfl⟩, rfl, ?_⟩
    intro _
    unfold readFrom at read
    split at read
    case isTrue short => exact short
    case isFalse =>
      obtain ⟨_, _, never⟩ := attempt_map_eq_ok.mp read
      cases never
  | case3 input error read => exact ⟨[], ⟨[], nofun, rfl⟩, rfl, nofun⟩

theorem stop_cut {tail payload : Bytes} {ty : UInt8} {id : UInt32} (counted : payload.length < 256 ^ 4)
    (cut : tail <+: frameHeader ty id payload.length ++ payload) (whole : 9 ≤ tail.length)
    (short : tail.length < 9 + payload.length) : ∃ error, stop tail = (.error error, tail) := by
  have count : ofBigEndian ((tail.drop 5).take 4) = payload.length := by
    rw [prefix_iff_eq_take.mp cut, drop_take, take_take, Nat.min_eq_left (by omega), drop_frameHeader,
      take_left' (length_bigEndian ..), ofBigEndian_bigEndian counted]
  have failed : ∃ error, frame tail = .error error := by
    rw [frame_of_header whole, count, payloadFrame]
    have missing : ¬ payload.length ≤ (tail.drop 9).length := by
      rw [length_drop]
      omega
    rw [if_neg missing]
    split
    next => exact ⟨_, rfl⟩
    next => exact ⟨_, rfl⟩
  obtain ⟨error, failed⟩ := failed
  refine ⟨error, stop_of_error ?_⟩
  rw [readFrom, if_neg (by omega), failed]
  rfl

end FrameReader

open FrameReader

/-- However the bytes arrive, reading tells a clean end from a truncated one, if and only if the
bytes do not end inside a header. -/
theorem clean_end_iff (buffers : Buffers) (input : Bytes) (pieces : Nat → Nat) :
    (((buffers.readToEnd { input, pieces }).2 = .ok () ↔ Complete input) ∧
        (EndsInside input → ∃ error, (buffers.readToEnd { input, pieces }).2 = .error error)) ↔
      ¬ EndsInHeader input := by
  rw [Buffers.readToEnd_eq]
  constructor
  · rintro ⟨told, _⟩ ⟨front, tail, complete, rfl, some, short⟩
    have stopped : stop (front ++ tail) = (.ok (), tail) := (stop_append complete tail).trans (stop_short short)
    have ended := stop_complete (told.mp (congrArg Prod.fst stopped))
    rw [stopped] at ended
    cases ended
    exact absurd some (Nat.lt_irrefl 0)
  · intro outside
    refine ⟨⟨?_, ?_⟩, ?_⟩
    · intro ended
      obtain ⟨front, complete, split, short⟩ := stop_cases input
      have nothing : (stop input).2 = [] := by
        by_contra some
        exact outside ⟨front, _, complete, split, length_pos_iff.mpr some, short ended⟩
      rw [nothing, append_nil] at split
      rw [split]
      exact complete
    · intro complete
      rw [stop_complete complete]
    · rintro ⟨front, tail, ty, id, payload, complete, rfl, counted, cut, some, short⟩
      have whole : 9 ≤ tail.length := by
        by_contra early
        exact outside ⟨front, tail, complete, rfl, length_pos_iff.mpr some, by omega⟩
      obtain ⟨error, failed⟩ := stop_cut counted cut whole short
      exact ⟨error, by rw [stop_append complete, failed]⟩

/-- One byte of a header arrives, and the reader takes that for a clean end. -/
theorem truncated_header_clean :
    let buffers : Buffers := { header := replicate 9 0, structuredPayload := [], dataPayload := [], whole := rfl }
    (buffers.readToEnd { input := [3], pieces := fun _ => 0 }).2 = .ok () ∧ ¬ Complete [3] ∧ EndsInside [3] := by
  have stopped : stop [3] = (.ok (), [3]) := stop_short (by decide)
  refine ⟨?_, ?_, ?_⟩
  · rw [Buffers.readToEnd_eq, stopped]
  · intro complete
    rw [stop_complete complete] at stopped
    cases stopped
  · exact ⟨[], [3], 3, 0, [], ⟨[], nofun, rfl⟩, rfl, by decide, by decide, by decide, by decide⟩

end SshProxy
