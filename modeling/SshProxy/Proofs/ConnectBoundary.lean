import SshProxy.Http
import SshProxy.Library.Chunks

/-! What a `CONNECT` leaves of the bytes behind its head. The head is read in blocks, and
what the last block holds beyond it is dropped: nothing is lost exactly if some read
ends where the head ends. -/

namespace SshProxy
open Library List

structure Cut (reads : List Bytes) (stream : Bytes) : Prop where
  whole : reads.flatten = stream
  sized : ∀ chunk ∈ reads, chunk ≠ [] ∧ chunk.length ≤ 1024

/-- A head that ends at its first blank line and asks for a tunnel. -/
def IsConnectHead (head : Bytes) : Prop :=
  httpHeaderEnd head = some head.length ∧ ∃ host port, HttpRequest.parse head [] = .ok (.connect host port)

def WithinLimit (reads : List Bytes) (count : Nat) : Prop :=
  ∀ front rest, reads = front ++ rest → front.flatten.length < count → front.flatten.length ≤ 64 * 1024

def Aligned (reads : List Bytes) (head : Bytes) : Prop := ∃ front rest, reads = front ++ rest ∧ front.flatten = head

/-- Whatever is sent into the tunnel of this client is the payload. -/
def LosesNothing (reads : List Bytes) (payload : Bytes) : Prop :=
  ∀ request, handleHttpProxy reads = .ok request → request.sent = payload

theorem HttpRequest.parse_connect {head : Bytes} {host : String} {port : UInt16}
    (parsed : parse head [] = .ok (.connect host port)) (beyond : Bytes) :
    parse head beyond = .ok (.connect host port) := by
  unfold parse at parsed ⊢
  cases headers : textOf head with
  | none => simp [headers] at parsed
  | some text =>
    simp only [headers] at parsed ⊢
    split at parsed
    next => cases parsed
    next =>
      split at parsed
      next => cases parsed
      next => cases parsed
      next => cases parsed
      next =>
        split at parsed
        next => cases parsed
        next valid =>
          rw [if_neg valid]
          split at parsed
          next connect =>
            rw [if_pos connect]
            exact parsed
          next => split at parsed <;> cases parsed

theorem headerEnd_step {bytes chunk later : Bytes} {count : Nat}
    (found : httpHeaderEnd (bytes ++ (chunk ++ later)) = some count) :
    httpHeaderEnd (bytes ++ chunk) = if count ≤ (bytes ++ chunk).length then some count else none := by
  have taken := endOf_take found (bytes ++ chunk).length
  rwa [← append_assoc, take_left'] at taken
  rfl

theorem HttpRequest.readHead_spec {bytes : Bytes} {reads : List Bytes} {count : Nat}
    (found : httpHeaderEnd (bytes ++ reads.flatten) = some count) (unfinished : bytes.length < count)
    (filled : ∀ chunk ∈ reads, chunk ≠ []) :
    (∃ front chunk rest, reads = front ++ chunk :: rest ∧ (bytes ++ front.flatten).length < count ∧
      (front = [] ∨ (bytes ++ front.flatten).length ≤ 64 * 1024) ∧ count ≤ (bytes ++ front.flatten ++ chunk).length ∧
      readHead bytes reads = .ok (bytes ++ front.flatten ++ chunk, count, rest)) ∨
    (∃ front rest, reads = front ++ rest ∧ (bytes ++ front.flatten).length < count ∧
      64 * 1024 < (bytes ++ front.flatten).length ∧
      readHead bytes reads = .error "HTTP proxy request headers too large") := by
  induction reads generalizing bytes with
  | nil =>
    have bounds := endOf_le found
    simp only [flatten_nil, append_nil] at bounds
    omega
  | cons chunk rest ih =>
    have seen := headerEnd_step found
    have some_read : chunk ≠ [] := filled chunk (mem_cons_self ..)
    unfold readHead
    rw [if_neg some_read, seen]
    by_cases complete : count ≤ (bytes ++ chunk).length
    · rw [if_pos complete]
      exact .inl ⟨[], chunk, rest, rfl, by simpa using unfinished, .inl rfl, by simpa using complete, by simp⟩
    · rw [if_neg complete]
      dsimp only
      by_cases large : (bytes ++ chunk).length > 64 * 1024
      · rw [if_pos large]
        refine .inr ⟨[chunk], rest, rfl, ?_, ?_, rfl⟩
        · simpa using complete
        · simpa using large
      · rw [if_neg large]
        rw [flatten_cons, ← append_assoc] at found
        have later := ih found (by omega) fun other member => filled other (mem_cons_of_mem _ member)
        rcases later with ⟨front, last, after, rfl, before, small, complete, read⟩ |
          ⟨front, after, rfl, before, large, read⟩
        · refine .inl ⟨chunk :: front, last, after, rfl, by simpa using before, .inr ?_, by simpa using complete,
            by simpa using read⟩
          rcases small with rfl | small
          · simpa using large
          · simpa using small
        · exact .inr ⟨chunk :: front, after, rfl, by simpa using before, by simpa using large, read⟩

variable {head payload : Bytes} {reads : List Bytes}

theorem handleHttpProxy_connect (isConnect : IsConnectHead head) (cut : Cut reads (head ++ payload)) :
    (WithinLimit reads head.length ∧ ∃ front chunk rest request, Completing reads head.length front chunk rest ∧
      handleHttpProxy reads = .ok request ∧ request.sent = rest.flatten) ∨
    (¬ WithinLimit reads head.length ∧ handleHttpProxy reads = .error "HTTP proxy request headers too large") := by
  obtain ⟨complete, host, port, parsed⟩ := isConnect
  have found : httpHeaderEnd ([] ++ reads.flatten) = some head.length := by
    rw [nil_append, cut.whole]
    exact endOf_append complete payload
  have nonempty : ([] : Bytes).length < head.length := (endOf_le complete).1.trans_lt' (by decide)
  rcases HttpRequest.readHead_spec found nonempty fun chunk member => (cut.sized chunk member).1 with
    ⟨front, chunk, rest, rfl, before, small, reached, read⟩ | ⟨front, rest, rfl, before, large, read⟩
  · left
    simp only [nil_append] at before small reached read
    have small : front.flatten.length ≤ 64 * 1024 := by
      rcases small with rfl | small
      · simp
      · exact small
    have front_head : (front.flatten ++ chunk).take head.length = head := by
      have whole := cut.whole
      rw [flatten_append, flatten_cons, ← append_assoc] at whole
      have longer : ((front.flatten ++ chunk) ++ rest.flatten).take head.length =
          (front.flatten ++ chunk).take head.length :=
        take_append_of_le_length reached
      rw [← longer, whole, take_left]
    have completing : Completing (front ++ chunk :: rest) head.length front chunk rest := ⟨rfl, before, reached⟩
    refine ⟨?_, front, chunk, rest,
      { host, port, response := .httpConnect, initialRemote := [], mode := .raw, unread := rest }, completing, ?_, rfl⟩
    · intro other after same short
      have shorter := (completing.stop same).resolve_right (completing.not_beyond short)
      exact Nat.le_trans (flatten_length_le shorter) small
    · rw [handleHttpProxy, HttpRequest.readFrom, read]
      simp only [bind, Except.bind, front_head, HttpRequest.parse_connect parsed]
      rfl
  · right
    simp only [nil_append] at before large read
    refine ⟨?_, ?_⟩
    · intro within
      have bound := within front rest rfl before
      omega
    · rw [handleHttpProxy, HttpRequest.readFrom, read]
      rfl

/-- Which `CONNECT`s get a tunnel, and which tunnels carry all of the payload. -/
theorem connect_payload_iff (head payload : Bytes) (reads : List Bytes) (isConnect : IsConnectHead head)
    (cut : Cut reads (head ++ payload)) :
    ((∃ request, handleHttpProxy reads = .ok request) ↔ WithinLimit reads head.length) ∧
      (LosesNothing reads payload ↔ (WithinLimit reads head.length → Aligned reads head)) := by
  rcases handleHttpProxy_connect isConnect cut with
    ⟨within, front, chunk, rest, request, completing, opened, sent⟩ | ⟨outside, refused⟩
  · have whole : (front ++ [chunk]).flatten ++ rest.flatten = head ++ payload := by
      simpa [completing.split] using cut.whole
    refine ⟨⟨fun _ => within, fun _ => ⟨request, opened⟩⟩, ?_, ?_⟩
    · intro lossless _
      have same : rest.flatten = payload := sent.symm.trans (lossless request opened)
      refine ⟨front ++ [chunk], rest, by simp [completing.split], ?_⟩
      rw [same] at whole
      exact append_cancel_right whole
    · intro aligned other opened'
      obtain rfl : request = other := by simpa [opened] using opened'
      obtain ⟨first, later, same, exact_head⟩ := aligned within
      have before := completing.before
      have reached := completing.reached
      rw [sent]
      rcases completing.stop same with shorter | longer
      · have bound := flatten_length_le shorter
        rw [exact_head] at bound
        omega
      · have bound := flatten_length_le longer
        rw [exact_head] at bound
        refine (append_inj whole ?_).2
        simp only [flatten_append, flatten_singleton] at bound ⊢
        omega
  · refine ⟨⟨?_, fun within => absurd within outside⟩, ?_, ?_⟩
    · rintro ⟨request, opened⟩
      simp [refused] at opened
    · intro _ within
      exact absurd within outside
    · intro _ request opened
      simp [refused] at opened

def connectHead : Bytes := utf8 "CONNECT a:443 HTTP/1.1\r\n\r\n"

theorem connect_payload_iff_separate : LosesNothing [connectHead, [22, 3]] [22, 3] := by
  have isConnect : IsConnectHead connectHead := ⟨by decide, "a", 443, by rfl⟩
  apply (connect_payload_iff connectHead [22, 3] [connectHead, [22, 3]] isConnect ⟨by decide, by decide⟩).2.mpr
  intro _
  exact ⟨[connectHead], [[22, 3]], rfl, by simp⟩

/-- Sent in one piece, the same two bytes never reach the tunnel. -/
theorem connect_payload_dropped : IsConnectHead connectHead ∧ Cut [connectHead ++ [22, 3]] (connectHead ++ [22, 3]) ∧
    ∃ request, handleHttpProxy [connectHead ++ [22, 3]] = .ok request ∧ request.sent ≠ [22, 3] := by
  refine ⟨⟨by decide, "a", 443, by rfl⟩, ⟨by decide, by decide⟩, ?_⟩
  exact ⟨{ host := "a", port := 443, response := .httpConnect, initialRemote := [], mode := .raw, unread := [] }, by rfl,
    by decide⟩

end SshProxy
