import SshProxy.HttpRelay
import SshProxy.Library.Chunks

/-! What the relay makes of a response, from all its bytes instead of chunk by chunk. Body
bytes are treated alike however they are cut. The head is not: the limit on its size is
checked on everything that arrived with its end. -/

namespace SshProxy
open Library List

namespace HttpForwardResponseState

/-- The head has been dealt with. A length of zero is never waited for. -/
def InBody : HttpForwardResponseState → Prop
  | .readingHead _ => False
  | .contentLength remaining => 0 < remaining
  | .chunked | .closeDelimited | .done => True

def bodyWritten : HttpForwardResponseState → Bytes → Bytes
  | .contentLength remaining, data => data.take remaining
  | .chunked, data | .closeDelimited, data => data
  | .readingHead _, _ | .done, _ => []

def afterBody : HttpForwardResponseState → Bytes → HttpForwardResponseState
  | .contentLength remaining, data =>
    if remaining ≤ data.length then .done else .contentLength (remaining - data.length)
  | state, _ => state

variable {state : HttpForwardResponseState}

theorem fromBodyMode_inBody (mode : HttpResponseBodyMode) : (fromBodyMode mode).InBody := by
  cases mode with
  | contentLength length =>
    cases length with
    | zero => trivial
    | succ length => exact Nat.succ_pos length
  | chunked | closeDelimited | noBody => trivial

variable (inBody : state.InBody)
include inBody

variable (data : Bytes)

theorem writeBody_spec : (writeHttpForwardBodyChunk state data).1.flatten = state.bodyWritten data ∧
      (writeHttpForwardBodyChunk state data).2 = state.afterBody data := by
  cases state with
  | readingHead buffer => exact inBody.elim
  | contentLength remaining =>
    have positive : 0 < remaining := inBody
    by_cases enough : remaining ≤ data.length
    · simp [writeHttpForwardBodyChunk, bodyWritten, afterBody, enough, positive]
    · have short : data.length ≤ remaining := Nat.le_of_not_le enough
      have left : remaining - data.length ≠ 0 := by omega
      by_cases empty : data = []
      · simp [writeHttpForwardBodyChunk, bodyWritten, afterBody, empty, Nat.ne_of_gt positive]
      · have filled : 0 < data.length := length_pos_iff.mpr empty
        simp [writeHttpForwardBodyChunk, bodyWritten, afterBody, short, enough, left, filled]
  | chunked | closeDelimited =>
    simp only [writeHttpForwardBodyChunk, bodyWritten, afterBody]
    split
    next empty => simp [empty]
    next => simp
  | done => exact ⟨rfl, rfl⟩

theorem afterBody_inBody : (state.afterBody data).InBody := by
  cases state with
  | readingHead buffer => exact inBody.elim
  | contentLength remaining =>
    simp only [afterBody]
    split
    next => trivial
    next more => exact Nat.sub_pos_of_lt (Nat.lt_of_not_le more)
  | chunked | closeDelimited | done => trivial

theorem bodyWritten_append (first second : Bytes) :
    state.bodyWritten (first ++ second) = state.bodyWritten first ++ (state.afterBody first).bodyWritten second := by
  cases state with
  | readingHead buffer => exact inBody.elim
  | contentLength remaining =>
    by_cases enough : remaining ≤ first.length
    · simp [bodyWritten, afterBody, take_append, enough]
    · simp [bodyWritten, afterBody, take_append, enough]
  | chunked | closeDelimited | done => rfl

theorem afterBody_append (first second : Bytes) :
    state.afterBody (first ++ second) = (state.afterBody first).afterBody second := by
  cases state with
  | readingHead buffer => exact inBody.elim
  | contentLength remaining =>
    by_cases enough : remaining ≤ first.length
    · have more : remaining ≤ first.length + second.length := by omega
      simp [afterBody, enough, more]
    · by_cases more : remaining ≤ first.length + second.length
      · simp [afterBody, enough, more]
        omega
      · simp [afterBody, enough, more, Nat.sub_sub]
        omega
  | chunked | closeDelimited | done => rfl

theorem writeChunk_body :
    writeHttpForwardResponseChunk state data = .ok (writeHttpForwardBodyChunk state data) := by
  cases state with
  | readingHead buffer => exact inBody.elim
  | contentLength | chunked | closeDelimited | done => rfl

theorem fold_body (chunks : List Bytes) : (foldChunks state chunks).1.flatten = state.bodyWritten chunks.flatten ∧
      (foldChunks state chunks).2 = .ok (state.afterBody chunks.flatten) := by
  induction chunks generalizing state with
  | nil =>
    cases state with
    | readingHead buffer => exact inBody.elim
    | contentLength remaining =>
      have positive : 0 < remaining := inBody
      simp [foldChunks, bodyWritten, afterBody, Nat.ne_of_gt positive]
    | chunked | closeDelimited | done => exact ⟨rfl, rfl⟩
  | cons chunk rest ih =>
    obtain ⟨written, after⟩ := writeBody_spec inBody chunk
    obtain ⟨later, final⟩ := ih (afterBody_inBody inBody chunk)
    rw [foldChunks, writeChunk_body inBody, flatten_cons, bodyWritten_append inBody, afterBody_append inBody]
    simp only [after, flatten_append, written, later, final, and_self]

end HttpForwardResponseState

open HttpForwardResponseState

theorem fold_append {state middle : HttpForwardResponseState} {front : List Bytes} {writes : List Bytes}
    (folded : foldChunks state front = (writes, .ok middle)) (rest : List Bytes) :
    foldChunks state (front ++ rest) = (writes ++ (foldChunks middle rest).1, (foldChunks middle rest).2) := by
  induction front generalizing state writes with
  | nil =>
    cases folded
    rfl
  | cons chunk front ih =>
    rw [foldChunks] at folded
    rw [cons_append, foldChunks]
    cases written : writeHttpForwardResponseChunk state chunk with
    | error error =>
      rw [written] at folded
      cases folded
    | ok result =>
      rw [written] at folded
      obtain ⟨first, second⟩ := Prod.mk.inj folded
      dsimp only
      rw [ih (show foldChunks result.2 front = (_, _) from Prod.ext rfl second), ← first, append_assoc]

theorem writeChunk_reading {buffer chunk more : Bytes} (open_head : httpHeaderEnd (buffer ++ chunk ++ more) = none)
    (small : (buffer ++ chunk ++ more).length ≤ httpResponseHeaderLimit) :
    writeHttpForwardResponseChunk (.readingHead buffer) chunk = .ok ([], .readingHead (buffer ++ chunk)) := by
  have still : httpHeaderEnd (buffer ++ chunk) = none := by
    cases found : httpHeaderEnd (buffer ++ chunk) with
    | none => rfl
    | some count => exact absurd ((endOf_append found more).symm.trans open_head) (by simp)
  have fits : ¬ (buffer ++ chunk).length > httpResponseHeaderLimit := by
    rw [length_append] at small
    omega
  rw [writeHttpForwardResponseChunk, if_neg fits, still]

theorem fold_reading {buffer : Bytes} {chunks : List Bytes}
    (open_head : httpHeaderEnd (buffer ++ chunks.flatten) = none)
    (small : (buffer ++ chunks.flatten).length ≤ httpResponseHeaderLimit) :
    foldChunks (.readingHead buffer) chunks = ([], .ok (.readingHead (buffer ++ chunks.flatten))) := by
  induction chunks generalizing buffer with
  | nil => simp [foldChunks]
  | cons chunk rest ih =>
    rw [flatten_cons, ← append_assoc] at open_head small ⊢
    rw [foldChunks, writeChunk_reading open_head small]
    dsimp only
    rw [ih open_head small]
    rfl

section
variable {chunks front rest : List Bytes} {chunk : Bytes} {count : Nat}

theorem front_within (fits : count ≤ httpResponseHeaderLimit) (completing : Completing chunks count front chunk rest) :
    ([] ++ front.flatten).length ≤ httpResponseHeaderLimit := by
  have before := completing.before
  rw [nil_append]
  omega

theorem fold_front (found : httpHeaderEnd chunks.flatten = some count) (fits : count ≤ httpResponseHeaderLimit)
    (completing : Completing chunks count front chunk rest) :
    foldChunks (.readingHead []) front = ([], .ok (.readingHead front.flatten)) := by
  have whole : chunks.flatten = front.flatten ++ (chunk ++ rest.flatten) := by simp [completing.split]
  have open_head : httpHeaderEnd ([] ++ front.flatten) = none := by
    have seen := endOf_take found front.flatten.length
    rw [whole, take_left, if_neg (Nat.not_le.mpr completing.before)] at seen
    exact seen
  exact fold_reading open_head (front_within fits completing)

theorem headerEnd_completing (found : httpHeaderEnd chunks.flatten = some count)
    (completing : Completing chunks count front chunk rest) : httpHeaderEnd (front.flatten ++ chunk) = some count ∧
      (front.flatten ++ chunk).take count = chunks.flatten.take count ∧
      chunks.flatten.drop count = (front.flatten ++ chunk).drop count ++ rest.flatten := by
  have whole : chunks.flatten = (front.flatten ++ chunk) ++ rest.flatten := by simp [completing.split]
  refine ⟨?_, ?_, ?_⟩
  · have seen := endOf_take found (front.flatten ++ chunk).length
    rwa [whole, take_left, if_pos completing.reached] at seen
  · rw [whole, take_append_of_le_length completing.reached]
  · rw [whole, drop_append_of_le_length completing.reached]

def relayed (chunks : List Bytes) : Bytes × Except String HttpForwardResponseState :=
  ((foldChunks (.readingHead []) chunks).1.flatten, (foldChunks (.readingHead []) chunks).2)

/-- The chunk that completes the head lifts what has arrived above the limit. -/
def Overflows (chunks : List Bytes) (count : Nat) : Prop :=
  ∃ front chunk rest, Completing chunks count front chunk rest ∧
    httpResponseHeaderLimit < (front.flatten ++ chunk).length

theorem fold_overflow (found : httpHeaderEnd chunks.flatten = some count) (fits : count ≤ httpResponseHeaderLimit)
    (overflows : Overflows chunks count) :
    foldChunks (.readingHead []) chunks = ([], .error "HTTP proxy response headers too large") := by
  obtain ⟨front, chunk, rest, completing, large⟩ := overflows
  rw [completing.split, fold_append (fold_front found fits completing), foldChunks, writeHttpForwardResponseChunk,
    if_pos large]
  rfl

theorem completing_small (whole : count ≤ chunks.flatten.length) (positive : 0 < count)
    (small : ¬ Overflows chunks count) : ∃ front chunk rest, Completing chunks count front chunk rest ∧
      ¬ (front.flatten ++ chunk).length > httpResponseHeaderLimit := by
  obtain ⟨front, chunk, rest, completing⟩ := exists_completing positive whole
  exact ⟨front, chunk, rest, completing, fun large => small ⟨front, chunk, rest, completing, large⟩⟩

theorem headerEnd_bounds (found : httpHeaderEnd chunks.flatten = some count) :
    count ≤ chunks.flatten.length ∧ 0 < count := by
  have bounds := endOf_le found
  simp only [length_cons, length_nil] at bounds
  omega

variable (found : httpHeaderEnd chunks.flatten = some count) (fits : count ≤ httpResponseHeaderLimit)
  (small : ¬ Overflows chunks count)
include found fits small

theorem fold_rejected {error : String}
    (rejected : rewriteResponseHeadForProxyClose (chunks.flatten.take count) = .error error) :
    foldChunks (.readingHead []) chunks = ([], .error error) := by
  obtain ⟨whole, positive⟩ := headerEnd_bounds found
  obtain ⟨front, chunk, rest, completing, bounded⟩ := completing_small whole positive small
  obtain ⟨seen, head, _⟩ := headerEnd_completing found completing
  rw [← head] at rejected
  rw [completing.split, fold_append (fold_front found fits completing), foldChunks, writeHttpForwardResponseChunk,
    if_neg bounded, seen]
  simp [rejected, Except.map]

theorem fold_accepted {head : Bytes} {mode : HttpResponseBodyMode}
    (accepted : rewriteResponseHeadForProxyClose (chunks.flatten.take count) = .ok (head, mode)) :
    ∃ writes, foldChunks (.readingHead []) chunks =
        (head :: writes, .ok ((fromBodyMode mode).afterBody (chunks.flatten.drop count))) ∧
      writes.flatten = (fromBodyMode mode).bodyWritten (chunks.flatten.drop count) := by
  obtain ⟨whole, positive⟩ := headerEnd_bounds found
  obtain ⟨front, chunk, rest, completing, bounded⟩ := completing_small whole positive small
  obtain ⟨seen, same, beyond⟩ := headerEnd_completing found completing
  have inBody := fromBodyMode_inBody mode
  obtain ⟨written, after⟩ := writeBody_spec inBody ((front.flatten ++ chunk).drop count)
  obtain ⟨later, final⟩ := fold_body (afterBody_inBody inBody ((front.flatten ++ chunk).drop count)) rest
  rw [← same] at accepted
  rw [beyond, bodyWritten_append inBody, afterBody_append inBody]
  refine ⟨(writeHttpForwardBodyChunk (fromBodyMode mode) ((front.flatten ++ chunk).drop count)).1 ++
    (foldChunks ((fromBodyMode mode).afterBody ((front.flatten ++ chunk).drop count)) rest).1, ?_, ?_⟩
  · rw [completing.split, fold_append (fold_front found fits completing), foldChunks, writeHttpForwardResponseChunk,
      if_neg bounded, seen]
    simp [accepted, Except.map, after, final]
  · rw [flatten_append, written, later]

end

def Agree : Except String HttpForwardResponseState → Except String HttpForwardResponseState → Prop
  | .ok state, .ok other => state = other
  | .error _, .error _ => True
  | _, _ => False

variable {cut : List Bytes}

theorem relayed_failed {count : Nat} (found : httpHeaderEnd cut.flatten = some count)
    (fits : count ≤ httpResponseHeaderLimit) (failing : Overflows cut count ∨
      ∃ error, rewriteResponseHeadForProxyClose (cut.flatten.take count) = .error error) :
    ∃ error, relayed cut = ([], .error error) := by
  by_cases overflows : Overflows cut count
  · exact ⟨_, by rw [relayed, fold_overflow found fits overflows]; rfl⟩
  · obtain ⟨error, rejected⟩ := failing.resolve_left overflows
    exact ⟨error, by rw [relayed, fold_rejected found fits overflows rejected]; rfl⟩

theorem relayed_accepted {count : Nat} (found : httpHeaderEnd cut.flatten = some count)
    (fits : count ≤ httpResponseHeaderLimit) (small : ¬ Overflows cut count) {head : Bytes}
    {mode : HttpResponseBodyMode}
    (accepted : rewriteResponseHeadForProxyClose (cut.flatten.take count) = .ok (head, mode)) :
    relayed cut = (head ++ (fromBodyMode mode).bodyWritten (cut.flatten.drop count),
      .ok ((fromBodyMode mode).afterBody (cut.flatten.drop count))) := by
  obtain ⟨writes, folded, written⟩ := fold_accepted found fits small accepted
  rw [relayed, folded, flatten_cons, written]

/-- Two cuts of a response come to the same for the client and the relay exactly if the
limit stops both or neither, or if the head is rejected anyway. -/
theorem cuts_agree_iff (response : Bytes) (count : Nat) (found : httpHeaderEnd response = some count)
    (fits : count ≤ 64 * 1024) (cut cut' : List Bytes) (whole : cut.flatten = response)
    (whole' : cut'.flatten = response) : ((relayed cut).1 = (relayed cut').1 ∧ Agree (relayed cut).2 (relayed cut').2) ↔
      ((Overflows cut count ↔ Overflows cut' count) ∨
        ∃ error, rewriteResponseHeadForProxyClose (response.take count) = .error error) := by
  have foundCut : httpHeaderEnd cut.flatten = some count := by rw [whole]; exact found
  have foundCut' : httpHeaderEnd cut'.flatten = some count := by rw [whole']; exact found
  cases rewritten : rewriteResponseHeadForProxyClose (response.take count) with
  | error error =>
    obtain ⟨_, failed⟩ := relayed_failed foundCut fits (.inr ⟨error, by rw [whole]; exact rewritten⟩)
    obtain ⟨_, failed'⟩ := relayed_failed foundCut' fits (.inr ⟨error, by rw [whole']; exact rewritten⟩)
    rw [failed, failed']
    simp [Agree]
  | ok result =>
    obtain ⟨head, mode⟩ := result
    have accepted : rewriteResponseHeadForProxyClose (cut.flatten.take count) = .ok (head, mode) := by
      rw [whole]
      exact rewritten
    have accepted' : rewriteResponseHeadForProxyClose (cut'.flatten.take count) = .ok (head, mode) := by
      rw [whole']
      exact rewritten
    by_cases overflows : Overflows cut count
    · obtain ⟨_, failed⟩ := relayed_failed foundCut fits (.inl overflows)
      by_cases overflows' : Overflows cut' count
      · obtain ⟨_, failed'⟩ := relayed_failed foundCut' fits (.inl overflows')
        rw [failed, failed']
        simp [Agree, overflows, overflows']
      · rw [failed, relayed_accepted foundCut' fits overflows' accepted']
        simp [Agree, overflows, overflows']
    · rw [relayed_accepted foundCut fits overflows accepted]
      by_cases overflows' : Overflows cut' count
      · obtain ⟨_, failed'⟩ := relayed_failed foundCut' fits (.inl overflows')
        rw [failed']
        simp [Agree, overflows, overflows']
      · rw [relayed_accepted foundCut' fits overflows' accepted', whole, whole']
        simp [Agree, overflows, overflows']

theorem not_overflows_of_small {count : Nat} (small : cut.flatten.length ≤ httpResponseHeaderLimit) :
    ¬ Overflows cut count := by
  rintro ⟨front, chunk, rest, completing, large⟩
  have whole : cut.flatten = (front.flatten ++ chunk) ++ rest.flatten := by simp [completing.split]
  rw [whole, length_append] at small
  omega

def okHead : Bytes := utf8 "HTTP/1.1 200 OK\r\n\r\n"

def okRewritten : Bytes := utf8 "HTTP/1.1 200 OK\r\nconnection: close\r\n\r\n"

theorem rewrite_okHead : rewriteResponseHeadForProxyClose okHead = .ok (okRewritten, .closeDelimited) := by
  rfl

theorem cuts_agree_iff_okHead : (relayed [okHead ++ [120]]).1 = (relayed [okHead, [120]]).1 ∧
    Agree (relayed [okHead ++ [120]]).2 (relayed [okHead, [120]]).2 := by
  apply (cuts_agree_iff (okHead ++ [120]) 19 (by decide) (by decide) [okHead ++ [120]] [okHead, [120]] (by simp)
    (by simp)).mpr
  left
  have small : ¬ Overflows [okHead ++ [120]] 19 := not_overflows_of_small (by decide)
  have small' : ¬ Overflows [okHead, [120]] 19 := not_overflows_of_small (by decide)
  simp [small, small']

def longBody : Bytes := replicate 65536 120

/-- With its body in the same chunk the head counts as too large. -/
theorem cuts_disagree : httpHeaderEnd (okHead ++ longBody) = some 19 ∧
    (okHead ++ longBody).length ≤ 128 * 1024 ∧ (∃ error, relayed [okHead ++ longBody] = ([], .error error)) ∧
    relayed [okHead, longBody] = (okRewritten ++ longBody, .ok .closeDelimited) := by
  have found : httpHeaderEnd (okHead ++ longBody) = some 19 := endOf_append (by decide) longBody
  have length : (okHead ++ longBody).length = 65555 := by
    rw [length_append, show longBody.length = 65536 from length_replicate]
    rfl
  refine ⟨found, by omega, ?_, ?_⟩
  · have whole : [okHead ++ longBody].flatten = okHead ++ longBody := by simp only [flatten_singleton]
    refine relayed_failed (by rw [whole]; exact found) (by decide) (.inl ?_)
    refine ⟨[], okHead ++ longBody, [], ⟨rfl, by decide, ?_⟩, ?_⟩
    · rw [flatten_nil, nil_append, length]
      decide
    · rw [flatten_nil, nil_append, length]
      decide
  · have whole : [okHead, longBody].flatten = okHead ++ longBody := by
      simp only [flatten_cons, flatten_nil, append_nil]
    have small : ¬ Overflows [okHead, longBody] 19 := by
      rintro ⟨front, chunk, rest, completing, large⟩
      obtain ⟨rfl, rfl⟩ := completing.unique ⟨show _ = [] ++ okHead :: [longBody] from rfl, by decide, by decide⟩
      revert large
      decide
    have head : [okHead, longBody].flatten.take 19 = okHead := by
      rw [whole]
      exact take_left' rfl
    have body : [okHead, longBody].flatten.drop 19 = longBody := by
      rw [whole]
      exact drop_left' rfl
    have accepted : rewriteResponseHeadForProxyClose ([okHead, longBody].flatten.take 19) =
        .ok (okRewritten, .closeDelimited) := by
      rw [head]
      exact rewrite_okHead
    rw [relayed_accepted (by rw [whole]; exact found) (by decide) small accepted, body]
    rfl

end SshProxy
