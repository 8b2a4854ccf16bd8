import SshProxy.Proofs.HttpRelayFold

/-! Bodies that end with the upstream's stream. The relay does not wait for that end longer
than its idle timeout: a client gets what arrived before the first timeout behind the
head, and an orderly end of its connection either way. -/

namespace SshProxy
open Library HttpForwardResponseState List

def RelayEvent.chunk? : RelayEvent → Option Bytes
  | .data chunk => some chunk
  | .idle | .closed => none

def chunksOf (events : List RelayEvent) : List Bytes := events.filterMap RelayEvent.chunk?

def upstream (events : List RelayEvent) : Bytes := (chunksOf events).flatten

/-- The timeout does not fire once `count` bytes have arrived. -/
def Quiet (count : Nat) (events : List RelayEvent) : Prop :=
  ∀ before after, events = before ++ .idle :: after → (upstream before).length < count

/-- The events before the first timeout that fires once `count` bytes have arrived. -/
def untilIdle (count : Nat) : List RelayEvent → List RelayEvent
  | [] => []
  | .idle :: rest => if count = 0 then [] else .idle :: untilIdle count rest
  | .data chunk :: rest => .data chunk :: untilIdle (count - chunk.length) rest
  | .closed :: rest => .closed :: untilIdle count rest

@[simp] theorem upstream_nil : upstream [] = [] := rfl

@[simp] theorem upstream_data (chunk : Bytes) (rest : List RelayEvent) :
    upstream (.data chunk :: rest) = chunk ++ upstream rest := rfl

@[simp] theorem upstream_idle (rest : List RelayEvent) : upstream (.idle :: rest) = upstream rest := rfl

@[simp] theorem upstream_closed (rest : List RelayEvent) : upstream (.closed :: rest) = upstream rest := rfl

theorem upstream_append (front rest : List RelayEvent) :
    upstream (front ++ rest) = upstream front ++ upstream rest := by
  simp [upstream, chunksOf]

theorem untilIdle_quiet {count : Nat} {events : List RelayEvent} (quiet : Quiet count events) :
    untilIdle count events = events := by
  induction events generalizing count with
  | nil => rfl
  | cons event rest ih =>
    have shifted : Quiet (count - (upstream [event]).length) rest := by
      intro before after split
      have early := quiet (event :: before) after (by rw [split]; rfl)
      rw [show event :: before = [event] ++ before from rfl, upstream_append, length_append] at early
      omega
    cases event with
    | idle =>
      have first : 0 < count := quiet [] rest rfl
      rw [untilIdle, if_neg (Nat.ne_of_gt first)]
      exact congrArg (RelayEvent.idle :: ·) (ih shifted)
    | data chunk =>
      rw [upstream_data, upstream_nil, append_nil] at shifted
      rw [untilIdle, ih shifted]
    | closed => exact congrArg (RelayEvent.closed :: ·) (ih shifted)

theorem untilIdle_length (count : Nat) (events : List RelayEvent) :
    (upstream (untilIdle count events)).length ≤ (upstream events).length := by
  fun_induction untilIdle count events with
  | case1 => exact Nat.le_refl _
  | case2 => exact Nat.zero_le _
  | case3 count rest positive ih => exact ih
  | case4 count chunk rest ih =>
    rw [upstream_data, upstream_data, length_append, length_append]
    exact Nat.add_le_add_left ih _
  | case5 count rest ih => exact ih

theorem untilIdle_append {count : Nat} {front : List RelayEvent} (early : (upstream front).length < count)
    (rest : List RelayEvent) :
    untilIdle count (front ++ rest) = front ++ untilIdle (count - (upstream front).length) rest := by
  induction front generalizing count with
  | nil => rfl
  | cons event front ih =>
    cases event with
    | idle =>
      rw [upstream_idle] at early
      rw [cons_append, untilIdle, if_neg (by omega), ih early]
      rfl
    | data chunk =>
      rw [upstream_data, length_append] at early
      have shorter : (upstream front).length < count - chunk.length := by omega
      rw [cons_append, untilIdle, ih shorter, upstream_data, length_append, Nat.sub_add_eq]
      rfl
    | closed =>
      rw [upstream_closed] at early
      rw [cons_append, untilIdle, ih early]
      rfl

theorem exists_event {events : List RelayEvent} {front rest : List Bytes} {chunk : Bytes}
    (split : chunksOf events = front ++ chunk :: rest) :
    ∃ before after, events = before ++ .data chunk :: after ∧ chunksOf before = front := by
  obtain ⟨first, second, rfl, same, tail⟩ := filterMap_eq_append_iff.mp split
  obtain ⟨silent, event, after, rfl, none, found, -⟩ := filterMap_eq_cons_iff.mp tail
  have here : event = .data chunk := by
    cases event with
    | data other => exact congrArg RelayEvent.data (Option.some.inj found)
    | idle | closed => cases found
  refine ⟨first ++ silent, after, by rw [here, append_assoc], ?_⟩
  rw [chunksOf, filterMap_append, filterMap_eq_nil_iff.mpr none, append_nil]
  exact same

theorem relay_reading {buffer : Bytes} {front : List RelayEvent} (running : .closed ∉ front)
    (open_head : httpHeaderEnd (buffer ++ upstream front) = none)
    (small : (buffer ++ upstream front).length ≤ httpResponseHeaderLimit) (tail : List RelayEvent) :
    relayHttpForwardSpxResponse (.readingHead buffer) (front ++ tail) =
      relayHttpForwardSpxResponse (.readingHead (buffer ++ upstream front)) tail := by
  induction front generalizing buffer with
  | nil => simp
  | cons event rest ih =>
    have later : .closed ∉ rest := fun member => running (mem_cons_of_mem _ member)
    cases event with
    | closed => exact absurd mem_cons_self running
    | idle => exact ih later open_head small
    | data chunk =>
      rw [upstream_data, ← append_assoc] at open_head small ⊢
      rw [cons_append, relayHttpForwardSpxResponse, writeChunk_reading open_head small, ← ih later open_head small]
      rfl

/-- How an exchange ends for the client if nothing but the upstream's end follows. -/
def Delivered (state : HttpForwardResponseState) (events : List RelayEvent) (bytes : Bytes) : Prop :=
  (relayHttpForwardSpxResponse state (events ++ [.closed])).1.flatten = bytes ∧
    (relayHttpForwardSpxResponse state (events ++ [.closed])).2 = .shutdown

theorem Delivered.cons {state after : HttpForwardResponseState} {chunk : Bytes} {rest : List RelayEvent}
    {writes : List Bytes} {bytes : Bytes} (written : writeHttpForwardResponseChunk state chunk = .ok (writes, after))
    (running : after.isDone = false) (later : Delivered after rest bytes) :
    Delivered state (.data chunk :: rest) (writes.flatten ++ bytes) := by
  obtain ⟨passed, ended⟩ := later
  unfold Delivered
  rw [cons_append, relayHttpForwardSpxResponse, written]
  simp [running, passed, ended]

theorem closeDelimited_written (data : Bytes) : (writeHttpForwardBodyChunk .closeDelimited data).1.flatten = data :=
  (@writeBody_spec .closeDelimited trivial data).1

theorem closeDelimited_delivered {events : List RelayEvent} (running : .closed ∉ events) :
    Delivered .closeDelimited events (upstream (untilIdle 0 events)) := by
  induction events with
  | nil => exact ⟨rfl, rfl⟩
  | cons event rest ih =>
    have later : .closed ∉ rest := fun member => running (mem_cons_of_mem _ member)
    cases event with
    | closed => exact absurd mem_cons_self running
    | idle => exact ⟨rfl, rfl⟩
    | data chunk =>
      have delivered : Delivered .closeDelimited (.data chunk :: rest)
          ((writeHttpForwardBodyChunk .closeDelimited chunk).1.flatten ++ upstream (untilIdle 0 rest)) :=
        .cons rfl rfl (ih later)
      rw [closeDelimited_written] at delivered
      rwa [untilIdle, Nat.zero_sub, upstream_data]

section
variable {events : List RelayEvent} {count : Nat} {head : Bytes} {mode : HttpResponseBodyMode}

theorem exists_head_event (running : .closed ∉ events) (found : httpHeaderEnd (upstream events) = some count)
    (small : ¬ Overflows (chunksOf events) count)
    (accepted : rewriteResponseHeadForProxyClose ((upstream events).take count) = .ok (head, mode)) :
    ∃ front chunk rest, events = front ++ .data chunk :: rest ∧ (upstream front).length < count ∧
      count ≤ (upstream front ++ chunk).length ∧
      relayHttpForwardSpxResponse (.readingHead []) (events ++ [.closed]) =
        relayHttpForwardSpxResponse (.readingHead (upstream front)) (.data chunk :: rest ++ [.closed]) ∧
      writeHttpForwardResponseChunk (.readingHead (upstream front)) chunk =
        .ok (head :: (writeHttpForwardBodyChunk (fromBodyMode mode) ((upstream front ++ chunk).drop count)).1,
          (writeHttpForwardBodyChunk (fromBodyMode mode) ((upstream front ++ chunk).drop count)).2) := by
  obtain ⟨whole, positive⟩ := headerEnd_bounds found
  obtain ⟨chunks, chunk, others, completing, bounded⟩ := completing_small whole positive small
  obtain ⟨seen, same, _⟩ := headerEnd_completing found completing
  obtain ⟨front, rest, rfl, rfl⟩ := exists_event completing.split
  refine ⟨front, chunk, rest, rfl, completing.before, completing.reached, ?_, ?_⟩
  · have begun : .closed ∉ front := fun member => running (mem_append_left _ member)
    have open_head : httpHeaderEnd ([] ++ upstream front) = none := by
      have early : ¬ count ≤ (upstream front).length := Nat.not_le.mpr completing.before
      have seen := endOf_take found (upstream front).length
      rwa [upstream_append, take_left, if_neg early] at seen
    have within : ([] ++ upstream front).length ≤ httpResponseHeaderLimit := by
      have shorter : (upstream front).length ≤ (upstream front ++ chunk).length := by simp
      exact Nat.le_trans shorter (Nat.le_of_not_gt bounded)
    rw [append_assoc, relay_reading begun open_head within]
    rfl
  · unfold upstream at accepted ⊢
    rw [← same] at accepted
    rw [writeHttpForwardResponseChunk, if_neg bounded, seen]
    simp [accepted, Except.map]

theorem drop_untilIdle {front rest : List RelayEvent} {chunk : Bytes} (early : (upstream front).length < count)
    (reached : count ≤ (upstream front ++ chunk).length) :
    (upstream (untilIdle count (front ++ .data chunk :: rest))).drop count =
      (upstream front ++ chunk).drop count ++ upstream (untilIdle 0 rest) := by
  have none_left : count - (upstream front).length - chunk.length = 0 := by
    rw [length_append] at reached
    omega
  rw [untilIdle_append early, untilIdle, none_left, upstream_append, upstream_data, ← append_assoc,
    drop_append_of_le_length reached]

/-- A response whose head announces no end of its body is delivered up to the first timeout
that fires behind the head, and completely if none does. -/
theorem unframed_delivered (events : List RelayEvent) (count : Nat) (head : Bytes) (mode : HttpResponseBodyMode)
    (running : .closed ∉ events) (found : httpHeaderEnd (upstream events) = some count)
    (small : ¬ Overflows (chunksOf events) count)
    (accepted : rewriteResponseHeadForProxyClose ((upstream events).take count) = .ok (head, mode)) :
    (mode = .closeDelimited →
      Delivered (.readingHead []) events (head ++ (upstream (untilIdle count events)).drop count) ∧
      (Quiet count events → Delivered (.readingHead []) events (head ++ (upstream events).drop count))) ∧
    (mode = .noBody → Delivered (.readingHead []) events head) := by
  obtain ⟨front, chunk, rest, rfl, early, reached, same, written⟩ := exists_head_event running found small accepted
  have later : .closed ∉ rest := fun member =>
    running (mem_append_right _ (mem_cons_of_mem _ member))
  constructor
  · rintro rfl
    have delivered := Delivered.cons written rfl (closeDelimited_delivered later)
    rw [flatten_cons, fromBodyMode, closeDelimited_written, append_assoc, ← drop_untilIdle early reached, Delivered,
      ← same] at delivered
    refine ⟨delivered, ?_⟩
    intro quiet
    rwa [untilIdle_quiet quiet] at delivered
  · rintro rfl
    unfold Delivered
    rw [same, cons_append, relayHttpForwardSpxResponse, written]
    simp [fromBodyMode, writeHttpForwardBodyChunk, isDone]

end

def pausing : List RelayEvent := [.idle, .data okHead, .data [97], .idle, .data [98]]

theorem rewrite_pausing : rewriteResponseHeadForProxyClose ((upstream pausing).take 19) =
    .ok (okRewritten, .closeDelimited) :=
  rewrite_okHead

theorem unframed_delivered_pausing : Delivered (.readingHead []) pausing (okRewritten ++ [97]) :=
  ((unframed_delivered pausing 19 okRewritten .closeDelimited (by decide) (by decide)
    (not_overflows_of_small (by decide)) rewrite_pausing).1 rfl).1

/-- The client's connection ends in order without the end of the body. -/
theorem body_cut_short : .closed ∉ pausing ∧ httpHeaderEnd (upstream pausing) = some 19 ∧
    rewriteResponseHeadForProxyClose ((upstream pausing).take 19) = .ok (okRewritten, .closeDelimited) ∧
    (upstream pausing).drop 19 = [97, 98] ∧ Delivered (.readingHead []) pausing (okRewritten ++ [97]) := by
  refine ⟨by decide, by decide, rewrite_pausing, by decide, ?_, ?_⟩
  · decide +kernel
  · decide +kernel

end SshProxy
