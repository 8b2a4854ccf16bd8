import SshProxy.ControlLoop

/-! What the control loop makes of the frames its peer writes. As long as a tick finds no
frame partly read, the bytes of the frames still to come start where the read stands, and it
decodes them in order. A tick in the middle of a frame drops the bytes already taken, and the
next read starts inside it. -/

namespace SshProxy
open Library List RouteControlFrame List.Subset ControlLoop

section Frame
variable {α : Type} {magic payload : Bytes} {version : UInt16} {maxLen : Nat} {label : String} {decode : Bytes → Option α}
  {value : α}

theorem jsonControl_spells (tag : magic.length = 4) (small : maxLen < 256 ^ 4) (fits : payload.length ≤ maxLen)
    (decoded : decode payload = some value) : Spells (jsonControlProgress magic version maxLen label decode)
      (magic ++ (bigEndian 2 version.toNat ++ (bigEndian 4 payload.length ++ payload))) value := by
  generalize framed : magic ++ (bigEndian 2 version.toNat ++ (bigEndian 4 payload.length ++ payload)) = bytes
  have length : bytes.length = 10 + payload.length := by
    rw [← framed]
    simp only [length_append, length_bigEndian, tag]
    omega
  have front : bytes.take 4 = magic := by rw [← framed, take_left' tag]
  have versioned : (bytes.drop 4).take 2 = bigEndian 2 version.toNat := by
    rw [← framed, drop_left' tag, take_left' (length_bigEndian ..)]
  have counted : (bytes.drop 6).take 4 = bigEndian 4 payload.length := by
    have split : bytes.drop 6 = (bytes.drop 4).drop 2 := by rw [drop_drop]
    rw [split, ← framed, drop_left' tag, drop_left' (length_bigEndian ..), take_left' (length_bigEndian ..)]
  have body : bytes.drop 10 = payload := by
    have split : bytes.drop 10 = ((bytes.drop 4).drop 2).drop 4 := by rw [drop_drop, drop_drop]
    rw [split, ← framed, drop_left' tag, drop_left' (length_bigEndian ..), drop_left' (length_bigEndian ..)]
  have current : ofBigEndian (bigEndian 2 version.toNat) = version.toNat := ofBigEndian_bigEndian version.toNat_lt
  have said : ofBigEndian (bigEndian 4 payload.length) = payload.length := ofBigEndian_bigEndian (by omega)
  constructor
  · intro part inside proper
    have shorter : part.length < 10 + payload.length := by
      rw [← length]
      exact lt_of_le_of_ne inside.length_le fun same => proper (inside.eq_of_length same)
    unfold jsonControlProgress
    by_cases inMagic : part.length < 4
    · exact ⟨_, if_pos inMagic, by omega, by omega⟩
    have tagged : part.take 4 = magic := by
      have slice := slice_eq inside (show 0 + 4 ≤ part.length by omega)
      rwa [drop_zero, drop_zero, front] at slice
    rw [if_neg inMagic, if_neg (by simp [tagged])]
    by_cases inVersion : part.length < 6
    · exact ⟨_, if_pos inVersion, by omega, by omega⟩
    simp only [if_neg inVersion, slice_eq inside (show 4 + 2 ≤ part.length by omega), versioned, current, ne_eq, not_true,
      if_false]
    by_cases inCount : part.length < 10
    · exact ⟨_, if_pos inCount, by omega, by omega⟩
    simp only [if_neg inCount, slice_eq inside (show 6 + 4 ≤ part.length by omega), counted, said]
    rw [if_neg (by omega)]
    exact ⟨_, if_pos shorter, by omega, by omega⟩
  · unfold jsonControlProgress
    rw [if_neg (by omega), if_neg (by simp [front]), if_neg (by omega)]
    simp only [versioned, current, ne_eq, not_true, if_false, counted, said, body, take_length, decoded]
    rw [if_neg (by omega), if_neg (by omega), if_neg (by omega)]
    rfl

end Frame

namespace RouteControlFrame

def layout (json : ControlJson) (frame : RouteControlFrame) : Bytes :=
  controlFrameMagic ++ (bigEndian 2 controlFrameVersion.toNat ++
    (bigEndian 4 (json.encode frame).length ++ json.encode frame))

variable {frame : RouteControlFrame}

theorem spells {json : ControlJson} (fits : (json.encode frame).length ≤ maxControlFrame)
    (lossless : json.decode (json.encode frame) = some frame) : Spells (progress json) (frame.layout json) frame :=
  jsonControl_spells rfl (by decide) fits lossless

theorem writeTo_eq {json : ControlJson} (fits : (json.encode frame).length ≤ maxControlFrame) :
    frame.writeTo json = .ok (frame.layout json) :=
  if_neg (by omega)

end RouteControlFrame

namespace ControlLoop
variable {json : ControlJson} {state : ControlLoop}

/-- The frames that are sent and not decoded lie on the stream behind what the read has taken,
which is less than the first of them. -/
structure Aligned (json : ControlJson) (state : ControlLoop) (rest : List RouteControlFrame) : Prop where
  sent : state.sent = state.decoded ++ rest
  bytes : state.consumed ++ state.stream = (rest.map (layout json)).flatten
  partly : ∀ frame ∈ rest.head?, state.consumed <+: frame.layout json ∧ state.consumed ≠ frame.layout json

def SameStream (after before : ControlLoop) : Prop :=
  after.sent = before.sent ∧ after.decoded = before.decoded ∧ after.consumed = before.consumed ∧
    after.stream = before.stream

variable {rest : List RouteControlFrame}

theorem Aligned.of_same {after : ControlLoop} (aligned : state.Aligned json rest) (same : after.SameStream state) :
    after.Aligned json rest := by
  obtain ⟨sent, decoded, consumed, stream⟩ := same
  exact ⟨by rw [sent, decoded]; exact aligned.sent, by rw [consumed, stream]; exact aligned.bytes,
    by rw [consumed]; exact aligned.partly⟩

theorem handle_same (state : ControlLoop) (failure : Option String) (frame : RouteControlFrame) :
    (state.handle failure frame).SameStream state := by
  cases frame with
  | ping seq => cases failure <;> exact ⟨rfl, rfl, rfl, rfl⟩
  | pong seq =>
    simp only [handle]
    split
    · split <;> exact ⟨rfl, rfl, rfl, rfl⟩
    · exact ⟨rfl, rfl, rfl, rfl⟩
  | hello | welcome => exact ⟨rfl, rfl, rfl, rfl⟩

theorem onTick_same (state : ControlLoop) (failure : Option String) : (state.onTick failure).SameStream state := by
  unfold onTick
  split
  · split <;> exact ⟨rfl, rfl, rfl, rfl⟩
  · cases failure <;> exact ⟨rfl, rfl, rfl, rfl⟩

theorem layout_ne_nil (json : ControlJson) (frame : RouteControlFrame) : frame.layout json ≠ [] := nofun

theorem partly_nil (json : ControlJson) (rest : List RouteControlFrame) :
    ∀ frame ∈ rest.head?, [] <+: frame.layout json ∧ [] ≠ frame.layout json := by
  intro frame _
  exact ⟨List.nil_prefix, (layout_ne_nil json frame).symm⟩

theorem Aligned.send (aligned : state.Aligned json rest) (fits : (json.encode frame).length ≤ maxControlFrame) :
    (state.next json (.send frame)).Aligned json (rest ++ [frame]) := by
  simp only [next, writeTo_eq fits]
  refine ⟨?_, ?_, ?_⟩
  · simp only [aligned.sent, append_assoc]
  · simp only [map_append, flatten_append, map_cons, map_nil, flatten_cons, flatten_nil,
      append_nil, ← aligned.bytes, append_assoc]
  · cases rest with
    | nil =>
      -- nothing was outstanding, so nothing is partly read
      have empty : state.consumed = [] := (append_eq_nil_iff.mp aligned.bytes).1
      show ∀ other ∈ _, state.consumed <+: _ ∧ state.consumed ≠ _
      rw [empty]
      exact partly_nil json _
    | cons first others => exact aligned.partly

def took (state : ControlLoop) (count : Nat) : ControlLoop :=
  { state with consumed := state.consumed ++ state.stream.take count, stream := state.stream.drop count }

def returned (state : ControlLoop) (count : Nat) (frame : RouteControlFrame) : ControlLoop :=
  { state.took count with consumed := [], decoded := state.decoded ++ [frame] }

theorem onBytes_of_needs {count wanted : Nat} (failure : Option String)
    (wants : progress json (state.took count).consumed = .needs wanted) :
    state.onBytes json count failure = state.took count := by
  unfold onBytes
  simp only [show progress json (state.consumed ++ state.stream.take count) = _ from wants]
  rfl

theorem onBytes_of_done {count : Nat} (failure : Option String)
    (read : progress json (state.took count).consumed = .done frame) :
    state.onBytes json count failure = (state.returned count frame).handle failure frame := by
  unfold onBytes
  simp only [show progress json (state.consumed ++ state.stream.take count) = _ from read]
  rfl

theorem Aligned.take (aligned : state.Aligned json rest) {count : Nat} (failure : Option String)
    (takes : state.mayTake json count) (fits : ∀ frame ∈ rest, (json.encode frame).length ≤ maxControlFrame)
    (lossless : ∀ frame ∈ rest, json.decode (json.encode frame) = some frame) :
    (state.onBytes json count failure = state.took count ∧ (state.took count).Aligned json rest) ∨
      ∃ frame others, state.onBytes json count failure = (state.returned count frame).handle failure frame ∧
        (state.returned count frame).Aligned json others := by
  obtain ⟨positive, arrived, wants⟩ := takes
  cases rest with
  | nil =>
    have empty : state.stream = [] := (append_eq_nil_iff.mp aligned.bytes).2
    rw [empty, length_nil] at arrived
    omega
  | cons frame others =>
    have spells := spells (fits frame (.head _)) (lossless frame (.head _))
    obtain ⟨inside, -⟩ := aligned.partly frame rfl
    split at wants
    next wanted needs =>
      obtain ⟨still, input⟩ := spells.within inside needs wants aligned.bytes
      by_cases all : (state.took count).consumed = frame.layout json
      · refine .inr ⟨frame, others, onBytes_of_done failure (by rw [all, spells.whole]), ?_, ?_, partly_nil json others⟩
        · simpa only [returned, took, append_assoc, singleton_append] using aligned.sent
        · rw [show state.consumed ++ state.stream.take count = _ from all] at input
          exact append_cancel_left input
      · obtain ⟨more, more_needs, -⟩ := spells.short _ still all
        refine .inl ⟨onBytes_of_needs failure more_needs, aligned.sent, input, ?_⟩
        rintro _ ⟨⟩
        exact ⟨still, all⟩
    next => exact wants.elim

/-- The loop may end because its stream failed, or with a pong that is overdue. -/
def Excused (state : ControlLoop) : Prop :=
  match state.ended with
  | none | some (.readFailed _) | some (.writeFailed _) => True
  | some (.badFrame _) => False
  | some (.pongOverdue seq) =>
    ∃ sentAt, state.pendingPing = some (seq, sentAt) ∧ controlKeepaliveTimeout ≤ state.now - sentAt

def Paired (state : ControlLoop) : Prop :=
  state.controlPingsSent = state.controlPongsReceived + state.pendingPing.toList.length

theorem Excused.of_running (running : state.ended = none) : state.Excused := by
  unfold Excused
  rw [running]
  trivial

theorem Excused.later (excused : state.Excused) (seconds : Nat) :
    { state with now := state.now + seconds }.Excused := by
  unfold Excused at excused ⊢
  simp only
  cases ended : state.ended with
  | none => trivial
  | some error =>
    cases error with
    | readFailed | writeFailed => trivial
    | badFrame =>
      rw [ended] at excused
      exact excused
    | pongOverdue seq =>
      rw [ended] at excused
      obtain ⟨sentAt, pending, overdue⟩ := excused
      exact ⟨sentAt, pending, by omega⟩

theorem handle_excused (running : state.ended = none) (failure : Option String) (frame : RouteControlFrame) :
    (state.handle failure frame).Excused := by
  cases frame with
  | ping seq =>
    cases failure with
    | none => exact .of_running running
    | some error => trivial
  | pong seq =>
    apply Excused.of_running
    simp only [handle]
    split
    · split <;> exact running
    · exact running
  | hello | welcome => exact .of_running running

theorem handle_paired (paired : state.Paired) (failure : Option String) (frame : RouteControlFrame) :
    (state.handle failure frame).Paired := by
  cases frame with
  | ping seq => cases failure <;> exact paired
  | pong seq =>
    simp only [handle]
    split
    next pending sentAt waiting =>
      split
      · simpa only [Paired, waiting, Option.toList_some, length_singleton, Option.toList_none, length_nil] using paired
      · exact paired
    next => exact paired
  | hello | welcome => exact paired

theorem onTick_excused (running : state.ended = none) (failure : Option String) : (state.onTick failure).Excused := by
  unfold onTick
  split
  next seq sentAt pending =>
    split
    next overdue => exact ⟨sentAt, pending, overdue⟩
    next => exact .of_running running
  next =>
    cases failure with
    | none => exact .of_running running
    | some error => trivial

theorem onTick_paired (paired : state.Paired) (failure : Option String) : (state.onTick failure).Paired := by
  unfold onTick
  split
  · split <;> exact paired
  next idle =>
    cases failure with
    | none =>
      -- a ping is sent only when none is pending
      simp only [Paired, idle, Option.toList_none, length_nil] at paired
      simp only [Paired, Option.toList_some, length_singleton, paired, Nat.add_zero]
    | some error => exact paired

structure Regular (json : ControlJson) (state : ControlLoop) : Prop where
  fits : ∀ frame ∈ state.sent, (json.encode frame).length ≤ maxControlFrame
  aligned : ∃ rest, state.Aligned json rest
  excused : state.Excused
  paired : state.Paired

theorem Regular.initial (json : ControlJson) : Regular json {} :=
  ⟨nofun, ⟨[], rfl, rfl, nofun⟩, trivial, rfl⟩

theorem Regular.send (regular : state.Regular json) (fits : (json.encode frame).length ≤ maxControlFrame) :
    (state.next json (.send frame)).Regular json := by
  obtain ⟨rest, aligned⟩ := regular.aligned
  have moved := aligned.send fits
  simp only [next, writeTo_eq fits] at moved ⊢
  refine ⟨?_, ⟨_, moved⟩, regular.excused, regular.paired⟩
  intro other sent
  rcases mem_append.mp sent with earlier | last
  · exact regular.fits other earlier
  · rw [mem_singleton.mp last]
    exact fits

theorem Regular.take (regular : state.Regular json) {count : Nat} {failure : Option String} (running : state.ended = none)
    (takes : state.mayTake json count) (lossless : ∀ frame ∈ state.sent, json.decode (json.encode frame) = some frame) :
    (state.onBytes json count failure).Regular json := by
  obtain ⟨rest, aligned⟩ := regular.aligned
  have outstanding : ∀ frame ∈ rest, frame ∈ state.sent := by
    intro frame mem
    rw [aligned.sent]
    exact mem_append_right _ mem
  have result := aligned.take failure takes (fun frame mem => regular.fits frame (outstanding frame mem))
    fun frame mem => lossless frame (outstanding frame mem)
  rcases result with ⟨same, moved⟩ | ⟨frame, others, same, moved⟩
  · rw [same]
    exact ⟨regular.fits, ⟨_, moved⟩, .of_running running, regular.paired⟩
  · rw [same]
    have stream := handle_same (state.returned count frame) failure frame
    refine ⟨?_, ⟨_, moved.of_same stream⟩, handle_excused (show (state.returned count frame).ended = none from running) ..,
      handle_paired (show (state.returned count frame).Paired from regular.paired) ..⟩
    rw [stream.1]
    exact regular.fits

theorem Regular.tick (regular : state.Regular json) (failure : Option String) (running : state.ended = none)
    (between : state.consumed = []) : (state.next json (.tick failure)).Regular json := by
  have same : { state with consumed := [] } = state := by rw [← between]
  obtain ⟨rest, aligned⟩ := regular.aligned
  simp only [next, same]
  have stream := onTick_same state failure
  refine ⟨?_, ⟨_, aligned.of_same stream⟩, onTick_excused running failure, onTick_paired regular.paired failure⟩
  rw [stream.1]
  exact regular.fits

theorem Regular.advance (regular : state.Regular json) (seconds : Nat) :
    (state.next json (.advance seconds)).Regular json := by
  obtain ⟨rest, aligned⟩ := regular.aligned
  exact ⟨regular.fits, ⟨rest, aligned.of_same ⟨rfl, rfl, rfl, rfl⟩⟩, regular.excused.later seconds, regular.paired⟩

def betweenFrames (state : ControlLoop) : ControlAction → Prop
  | .tick _ => state.consumed = []
  | .send _ | .take .. | .readFails _ | .advance _ => True

theorem Regular.next (regular : state.Regular json) {action : ControlAction} (enabled : state.enabled json action)
    (guarded : state.betweenFrames action)
    (lossless : ∀ frame ∈ state.sent, json.decode (json.encode frame) = some frame) :
    (state.next json action).Regular json := by
  cases action with
  | send frame => exact regular.send enabled
  | take count failure => exact regular.take enabled.1 enabled.2 lossless
  | readFails error =>
    obtain ⟨rest, aligned⟩ := regular.aligned
    exact ⟨regular.fits, ⟨rest, aligned.of_same ⟨rfl, rfl, rfl, rfl⟩⟩, trivial, regular.paired⟩
  | tick failure => exact regular.tick failure enabled guarded
  | advance seconds => exact regular.advance seconds

theorem sent_next (json : ControlJson) (state : ControlLoop) (action : ControlAction) :
    state.sent ⊆ (state.next json action).sent := by
  cases action with
  | send frame =>
    simp only [next]
    split
    · exact subset_append_left ..
    · exact refl _
  | take count failure =>
    simp only [next, onBytes]
    split
    · exact refl _
    · exact refl _
    next frame _ =>
      rw [(handle_same _ failure frame).1]
      exact refl _
  | tick failure =>
    simp only [next]
    rw [(onTick_same _ failure).1]
    exact refl _
  | readFails | advance => exact refl _

/-- The frames that the loop decodes are the first that the peer has sent, an error that ends
it is excused, and one ping at most waits for its pong. -/
def ReadsInOrder (state : ControlLoop) : Prop :=
  state.decoded <+: state.sent ∧ state.Excused ∧ state.controlPingsSent ≤ state.controlPongsReceived + 1

theorem Regular.readsInOrder (regular : state.Regular json) : state.ReadsInOrder := by
  obtain ⟨rest, aligned⟩ := regular.aligned
  refine ⟨⟨rest, aligned.sent.symm⟩, regular.excused, ?_⟩
  have paired := regular.paired
  have pending : state.pendingPing.toList.length ≤ 1 := by cases state.pendingPing <;> simp
  unfold Paired at paired
  omega

theorem frames_read_in_order (json : ControlJson) (state : ControlLoop) (run : (machine json).Run betweenFrames state)
    (lossless : ∀ frame ∈ state.sent, json.decode (json.encode frame) = some frame) : state.ReadsInOrder := by
  have regular : (∀ frame ∈ state.sent, json.decode (json.encode frame) = some frame) → state.Regular json := by
    apply run.invariant fun state =>
      (∀ frame ∈ state.sent, json.decode (json.encode frame) = some frame) → state.Regular json
    · intro _
      exact .initial json
    · intro state action _ regular enabled guarded lossless
      -- what is lossless for the frames sent so far was so for those sent before
      have before : ∀ frame ∈ state.sent, json.decode (json.encode frame) = some frame :=
        fun frame sent => lossless frame (sent_next json state action sent)
      exact (regular before).next enabled guarded before
  exact (regular lossless).readsInOrder

instance (state : ControlLoop) (action : ControlAction) : Decidable (state.betweenFrames action) := by
  rcases action with _ | _ <;> dsimp only [betweenFrames] <;> infer_instance

def pingJson : ControlJson where
  decode payload := if payload = utf8 "\x7b\"kind\":\"ping\",\"seq\":1\x7d" then some (.ping 1) else none
  encode
    | .ping seq => utf8 ("\x7b\"kind\":\"ping\",\"seq\":" ++ toString seq.toNat ++ "\x7d")
    | .pong seq => utf8 ("\x7b\"kind\":\"pong\",\"seq\":" ++ toString seq.toNat ++ "\x7d")
    | .hello _ | .welcome _ => []

theorem whole_ping_read :
    ∃ state, (machine pingJson).Run betweenFrames state ∧ state.sent = [.ping 1] ∧ state.decoded = [.ping 1] ∧
      state.written = [.pong 1, .ping 1] ∧ state.ReadsInOrder := by
  obtain ⟨state, run, sent, decoded, written⟩ := Machine.exists_run (machine pingJson) betweenFrames
    (fun state => state.sent = [.ping 1] ∧ state.decoded = [.ping 1] ∧ state.written = [.pong 1, .ping 1])
    [.send (.ping 1), .take 3 none, .take 1 none, .take 2 none, .take 4 none, .take 5 none, .advance 15, .take 18 none,
      .tick none]
    (by decide +kernel)
  refine ⟨state, run, sent, decoded, written, frames_read_in_order pingJson state run ?_⟩
  rw [sent]
  decide +kernel

/-- The tick drops the first two bytes of the ping, and the read after it finds the wrong magic. -/
theorem cut_ping_misread : ∃ state, (machine pingJson).Reachable state ∧ state.sent = [.ping 1] ∧
      (∀ frame ∈ state.sent, pingJson.decode (pingJson.encode frame) = some frame) ∧
      state.ended = some (.badFrame "invalid QUIC-native control frame magic") ∧ ¬state.ReadsInOrder := by
  obtain ⟨state, run, sent, ended⟩ := Machine.exists_reachable (machine pingJson)
    (fun state => state.sent = [.ping 1] ∧ state.ended = some (.badFrame "invalid QUIC-native control frame magic"))
    [.send (.ping 1), .take 2 none, .tick none, .take 4 none] (by decide +kernel)
  refine ⟨state, run, sent, ?_, ended, ?_⟩
  · rw [sent]
    decide +kernel
  · rintro ⟨-, excused, -⟩
    rw [Excused, ended] at excused
    exact excused

end ControlLoop
end SshProxy
