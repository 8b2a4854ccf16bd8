import SshProxy.Proofs.HttpRelayIdle

/-! Interim responses. The relay takes the first head with a 1xx status for a response
without a body and ends, so the final response reaches the client only if there is no
interim one before it. It also has to have a head that the relay can read, no part of its body
may count against the limit on heads, and a body without an announced end may not pause. -/

namespace SshProxy
open Library HttpForwardResponseState List

def responseStatus (head : Bytes) : Option Nat := do
  let text ← textOf head
  let line ← (splitLines text).head?
  (parseResponseStatus line).toOption

structure IsHead (head : Bytes) : Prop where
  complete : httpHeaderEnd head = some head.length
  fits : head.length ≤ 64 * 1024

/-- A head whose status, if it can be read, is a 1xx. -/
structure IsInterim (head : Bytes) : Prop extends IsHead head where
  status : ∀ status, responseStatus head = some status → 100 ≤ status ∧ status < 200

/-- A body as long as its head says. A body of the other modes ends with the stream. -/
def Framed : HttpResponseBodyMode → Bytes → Prop
  | .contentLength length, body => body.length = length
  | .noBody, body => body = []
  | .chunked, _ | .closeDelimited, _ => True

structure IsFinal (head body : Bytes) : Prop extends IsHead head where
  status : ∀ status, responseStatus head = some status → ¬ (100 ≤ status ∧ status < 200)
  framed : ∀ rewritten mode, rewriteResponseHeadForProxyClose head = .ok (rewritten, mode) → Framed mode body

theorem Framed.written {mode : HttpResponseBodyMode} {body : Bytes} (framed : Framed mode body) :
    (fromBodyMode mode).bodyWritten body = body := by
  cases mode with
  | contentLength length =>
    cases length with
    | zero => exact (eq_nil_of_length_eq_zero framed).symm
    | succ length => exact take_of_length_le (Nat.le_of_eq framed)
  | noBody => exact framed.symm
  | chunked | closeDelimited => rfl

theorem textBytes_injective {text other : Text} (same : textBytes text = textBytes other) : text = other := by
  have arrays := Array.toList_inj.mp same
  exact String.ofList_injective (String.toByteArray_inj.mp (ByteArray.ext arrays))

theorem rewrite_line {head rewritten : Bytes} {mode : HttpResponseBodyMode}
    (accepted : rewriteResponseHeadForProxyClose head = .ok (rewritten, mode)) :
    ∃ line rest status, rewritten = textBytes (line ++ '\r' :: '\n' :: rest) ∧
      (splitLines (line ++ '\r' :: '\n' :: rest)).head? = some line ∧ parseResponseStatus line = .ok status ∧
      responseStatus head = some status ∧ (responseStatusHasNoBody status = true → mode = .noBody) := by
  unfold rewriteResponseHeadForProxyClose at accepted
  cases read : textOf head with
  | none => simp [read] at accepted
  | some text =>
    cases lines : splitLines text with
    | nil => exact absurd lines (splitOnPair_ne_nil _ _ _)
    | cons line more =>
      simp only [read, lines] at accepted
      cases parsed : parseResponseStatus line with
      | error error => simp [parsed, bind, Except.bind] at accepted
      | ok status =>
        simp only [parsed, bind, Except.bind, pure, Except.pure, Except.ok.injEq, Prod.mk.injEq] at accepted
        obtain ⟨written, chosen⟩ := accepted
        refine ⟨line, forwardedHeaders (more.takeWhile (· ≠ [])) ++ "connection: close\r\n\r\n".toList, status, ?_, ?_,
          parsed, ?_, ?_⟩
        · rw [← written]
          simp [crlf]
        · rw [splitLines, splitOnPair_first (by decide) lines]
          rfl
        · simp [responseStatus, read, lines, parsed, Except.toOption]
        · intro silent
          rw [← chosen, responseBodyMode, if_pos silent]

theorem rewritten_ne_nil {head rewritten : Bytes} {mode : HttpResponseBodyMode}
    (accepted : rewriteResponseHeadForProxyClose head = .ok (rewritten, mode)) : rewritten ≠ [] := by
  obtain ⟨line, rest, _, written, _⟩ := rewrite_line accepted
  intro empty
  have same : textBytes (line ++ '\r' :: '\n' :: rest) = textBytes [] := written.symm.trans empty
  simpa using textBytes_injective same

theorem rewrite_of_status {head : Bytes} {status : Nat} (announced : responseStatus head = some status) :
    ∃ rewritten mode, rewriteResponseHeadForProxyClose head = .ok (rewritten, mode) := by
  obtain ⟨text, read, announced⟩ := Option.bind_eq_some_iff.mp announced
  obtain ⟨line, first, announced⟩ := Option.bind_eq_some_iff.mp announced
  cases lines : splitLines text with
  | nil => exact absurd lines (splitOnPair_ne_nil _ _ _)
  | cons first_line more =>
    rw [lines] at first
    cases first
    cases parsed : parseResponseStatus line with
    | error error => simp [parsed, Except.toOption] at announced
    | ok found => exact ⟨_, _, by simp only [rewriteResponseHeadForProxyClose, read, lines, parsed]; rfl⟩

theorem rewrite_status {head other rewritten : Bytes} {mode mode' : HttpResponseBodyMode}
    (accepted : rewriteResponseHeadForProxyClose head = .ok (rewritten, mode))
    (accepted' : rewriteResponseHeadForProxyClose other = .ok (rewritten, mode')) :
    responseStatus head = responseStatus other := by
  obtain ⟨line, rest, status, written, first, parsed, announced, _⟩ := rewrite_line accepted
  obtain ⟨line', rest', status', written', first', parsed', announced', _⟩ := rewrite_line accepted'
  have same := textBytes_injective (written.symm.trans written')
  rw [same, first'] at first
  cases first
  rw [announced, announced']
  rw [parsed'] at parsed
  cases parsed
  rfl

/-- Whatever is written was written for one of the chunks. -/
theorem relay_writes {state : HttpForwardResponseState} {events : List RelayEvent} (running : .closed ∉ events) {bytes : Bytes}
    (written : bytes ∈ (relayHttpForwardSpxResponse state (events ++ [.closed])).1) :
    bytes ∈ (foldChunks state (chunksOf events)).1 := by
  induction events generalizing state with
  | nil => cases written
  | cons event rest ih =>
    have later : .closed ∉ rest := fun member => running (mem_cons_of_mem _ member)
    cases event with
    | closed => exact absurd mem_cons_self running
    | idle =>
      rw [cons_append, relayHttpForwardSpxResponse] at written
      split at written
      next => cases written
      next => exact ih later written
    | data chunk =>
      change bytes ∈ (foldChunks state (chunk :: chunksOf rest)).1
      rw [cons_append, relayHttpForwardSpxResponse] at written
      rw [foldChunks]
      split at written
      next => cases written
      next writes after _ =>
        split at written
        next => exact mem_append_left _ written
        next =>
          rcases mem_append.mp written with now | next
          · exact mem_append_left _ now
          · exact mem_append_right _ (ih later next)

theorem afterBody_usesIdleClose (state : HttpForwardResponseState) (data : Bytes) :
    (state.afterBody data).usesIdleClose = state.usesIdleClose := by
  unfold afterBody
  split
  next => split <;> rfl
  next => rfl

theorem bodyWritten_of_done {state : HttpForwardResponseState} (done : state.isDone = true) (data : Bytes) :
    state.bodyWritten data = [] := by
  cases state <;> simp [isDone] at done
  rfl

/-- A body with an announced end is passed on whatever the pauses. -/
theorem relay_body {state : HttpForwardResponseState} (inBody : state.InBody) (patient : state.usesIdleClose = false)
    {events : List RelayEvent} (running : .closed ∉ events) :
    (relayHttpForwardSpxResponse state (events ++ [.closed])).1.flatten = state.bodyWritten (upstream events) := by
  induction events generalizing state with
  | nil => exact ((fold_body inBody []).1).symm ▸ rfl
  | cons event rest ih =>
    have later : .closed ∉ rest := fun member => running (mem_cons_of_mem _ member)
    cases event with
    | closed => exact absurd mem_cons_self running
    | idle =>
      rw [cons_append, relayHttpForwardSpxResponse, patient, if_neg Bool.false_ne_true]
      exact ih inBody patient later
    | data chunk =>
      obtain ⟨written, after⟩ := writeBody_spec inBody chunk
      have next := ih (afterBody_inBody inBody chunk) ((afterBody_usesIdleClose state chunk).trans patient) later
      rw [cons_append, relayHttpForwardSpxResponse, writeChunk_body inBody, upstream_data, bodyWritten_append inBody]
      dsimp only
      rw [after]
      split
      next done => rw [written, bodyWritten_of_done done, append_nil]
      next => rw [flatten_append, written, next]

/-- Some call of `write_all` hands the rewritten head over, and the calls after it the body. -/
def Reaches (writes : List Bytes) (rewritten body : Bytes) : Prop :=
  ∃ before after, writes = before ++ rewritten :: after ∧ after.flatten = body

theorem Reaches.mem {writes : List Bytes} {rewritten body : Bytes} (reaches : Reaches writes rewritten body) :
    rewritten ∈ writes := by
  obtain ⟨before, after, rfl, _⟩ := reaches
  exact mem_append_right _ mem_cons_self

/-- The client gets the head of the response, rewritten, and its body. -/
def Answered (events : List RelayEvent) (head body : Bytes) : Prop :=
  ∃ rewritten mode, rewriteResponseHeadForProxyClose head = .ok (rewritten, mode) ∧
    Reaches (relayHttpForwardSpxResponse (.readingHead []) (events ++ [.closed])).1 rewritten body

/-- The timeout does not fire between the byte `count` and the last one. -/
def Uninterrupted (count : Nat) (events : List RelayEvent) : Prop :=
  ∀ before after, events = before ++ .idle :: after → (upstream before).length < count ∨ upstream after = []

theorem uninterrupted_nil (count : Nat) : Uninterrupted count [] := by
  intro before after split
  cases (append_eq_nil_iff.mp split.symm).2

theorem uninterrupted_cons {count : Nat} {event : RelayEvent} {rest : List RelayEvent} :
    Uninterrupted count (event :: rest) ↔ (event = .idle → 0 < count ∨ upstream rest = []) ∧
      Uninterrupted (count - (upstream [event]).length) rest := by
  have joined (before : List RelayEvent) :
      (upstream (event :: before)).length = (upstream [event]).length + (upstream before).length := by
    rw [← singleton_append, upstream_append, length_append]
  constructor
  · intro uninterrupted
    refine ⟨fun idle => uninterrupted [] rest (by rw [idle]; rfl), ?_⟩
    intro before after split
    refine (uninterrupted (event :: before) after (by rw [split]; rfl)).imp_left fun early => ?_
    rw [joined] at early
    omega
  · rintro ⟨first, later⟩ before after split
    cases before with
    | nil =>
      obtain ⟨idle, rfl⟩ := cons.inj split
      exact first idle
    | cons other before =>
      obtain ⟨rfl, rest⟩ := cons.inj split
      refine (later before after rest).imp_left fun early => ?_
      rw [joined]
      omega

/-- Everything behind byte `count` is heard exactly if there is no such pause. -/
theorem heard_iff (count : Nat) (events : List RelayEvent) :
    (upstream (untilIdle count events)).drop count = (upstream events).drop count ↔ Uninterrupted count events := by
  induction events generalizing count with
  | nil => exact iff_of_true rfl (uninterrupted_nil count)
  | cons event rest ih =>
    rw [uninterrupted_cons]
    cases event with
    | closed => simpa [untilIdle] using ih count
    | data chunk =>
      rw [untilIdle, upstream_data, upstream_data, drop_append, drop_append, append_cancel_left_eq, ih]
      simp
    | idle =>
      by_cases none : count = 0
      · subst none
        simp only [untilIdle, if_true, upstream_nil, upstream_idle, drop_nil, drop_zero, Nat.lt_irrefl, false_or,
          forall_const, length_nil, Nat.sub_zero]
        refine ⟨fun empty => ⟨empty.symm, ?_⟩, fun both => both.1.symm⟩
        intro before after split
        rw [split, upstream_append, upstream_idle] at empty
        exact .inr (append_eq_nil_iff.mp empty.symm).2
      · have positive : 0 < count := Nat.pos_of_ne_zero none
        rw [untilIdle, if_neg none, upstream_idle, upstream_idle, ih]
        simp [positive]

/-- What a response has to be like for the relay to pass it on. -/
structure Deliverable (events : List RelayEvent) (head : Bytes) : Prop where
  small : ¬ Overflows (chunksOf events) head.length
  readable : ∃ status, responseStatus head = some status
  quiet : ∀ rewritten, rewriteResponseHeadForProxyClose head = .ok (rewritten, .closeDelimited) →
    Uninterrupted head.length events

variable {events : List RelayEvent} {interims : List Bytes} {head body rewritten first : Bytes} {mode : HttpResponseBodyMode}

theorem final_writes (final : IsFinal head body) (running : .closed ∉ events) (whole : upstream events = head ++ body)
    (small : ¬ Overflows (chunksOf events) head.length)
    (accepted : rewriteResponseHeadForProxyClose head = .ok (rewritten, mode)) :
    ∃ more, (relayHttpForwardSpxResponse (.readingHead []) (events ++ [.closed])).1 = rewritten :: more ∧
      (mode ≠ .closeDelimited → more.flatten = body) ∧
      (mode = .closeDelimited → more.flatten = (upstream (untilIdle head.length events)).drop head.length) := by
  have found : httpHeaderEnd (upstream events) = some head.length := by
    rw [whole]
    exact endOf_append final.complete body
  have taken : rewriteResponseHeadForProxyClose ((upstream events).take head.length) = .ok (rewritten, mode) := by
    rw [whole, take_left]
    exact accepted
  obtain ⟨front, chunk, rest, rfl, early, reached, same, written⟩ := exists_head_event running found small taken
  have later : .closed ∉ rest := fun member => running (mem_append_right _ (mem_cons_of_mem _ member))
  rw [same, cons_append, relayHttpForwardSpxResponse, written]
  dsimp only
  have inBody := fromBodyMode_inBody mode
  obtain ⟨begun, after⟩ := writeBody_spec inBody ((upstream front ++ chunk).drop head.length)
  by_cases unframed : mode = .closeDelimited
  · subst unframed
    have passed := (closeDelimited_delivered later).1
    refine ⟨_, cons_append .., fun framed => absurd rfl framed, fun _ => ?_⟩
    rw [flatten_append, begun, drop_untilIdle early reached]
    exact congrArg _ passed
  · have patient : (fromBodyMode mode).usesIdleClose = false := by
      cases mode with
      | contentLength length => cases length <;> rfl
      | closeDelimited => exact absurd rfl unframed
      | chunked | noBody => rfl
    have rest_written := relay_body (afterBody_inBody inBody ((upstream front ++ chunk).drop head.length))
      ((afterBody_usesIdleClose _ _).trans patient) later
    have total : body = (fromBodyMode mode).bodyWritten ((upstream front ++ chunk).drop head.length) ++
        ((fromBodyMode mode).afterBody ((upstream front ++ chunk).drop head.length)).bodyWritten (upstream rest) := by
      rw [← bodyWritten_append inBody, ← drop_append_of_le_length reached, append_assoc, ← upstream_data, ← upstream_append,
        whole, drop_left]
      exact (final.framed rewritten mode accepted).written.symm
    rw [after]
    split
    next done =>
      refine ⟨_, rfl, fun _ => ?_, fun framed => absurd framed unframed⟩
      rw [begun, total, bodyWritten_of_done done, append_nil]
    next =>
      refine ⟨_, cons_append .., fun _ => ?_, fun framed => absurd framed unframed⟩
      rw [flatten_append, begun, rest_written, ← total]

theorem answered_iff (final : IsFinal head body) (running : .closed ∉ events) (whole : upstream events = head ++ body) :
    Answered events head body ↔ Deliverable events head := by
  have found : httpHeaderEnd (chunksOf events).flatten = some head.length := by
    change httpHeaderEnd (upstream events) = _
    rw [whole]
    exact endOf_append final.complete body
  constructor
  · rintro ⟨rewritten, mode, accepted, reaches⟩
    obtain ⟨_, _, status, _, _, _, announced, _⟩ := rewrite_line accepted
    have small : ¬ Overflows (chunksOf events) head.length := by
      intro overflows
      have written := relay_writes running reaches.mem
      rw [fold_overflow found final.fits overflows] at written
      cases written
    refine ⟨small, ⟨status, announced⟩, ?_⟩
    intro other unframed
    rw [accepted] at unframed
    cases unframed
    obtain ⟨more, writes, _, heard⟩ := final_writes final running whole small accepted
    have heard := heard rfl
    obtain ⟨before, after, split, passed⟩ := reaches
    rw [writes] at split
    rw [← heard_iff, ← heard, whole, drop_left]
    cases before with
    | nil =>
      obtain ⟨_, rfl⟩ := cons.inj split
      exact passed
    | cons _ before =>
      -- then more would be written behind the first head than the body has
      rw [cons_append] at split
      obtain ⟨_, rfl⟩ := cons.inj split
      have most := untilIdle_length head.length events
      have least := congrArg length heard
      have some := length_pos_iff.mpr (rewritten_ne_nil accepted)
      rw [whole, length_append] at most
      rw [flatten_append, flatten_cons, passed, length_append, length_append, length_drop] at least
      omega
  · rintro ⟨small, ⟨status, announced⟩, quiet⟩
    obtain ⟨rewritten, mode, accepted⟩ := rewrite_of_status announced
    obtain ⟨more, writes, framed, heard⟩ := final_writes final running whole small accepted
    refine ⟨rewritten, mode, accepted, [], more, writes, ?_⟩
    by_cases unframed : mode = .closeDelimited
    · subst unframed
      rw [heard rfl, (heard_iff _ _).mpr (quiet rewritten accepted), whole, drop_left]
    · exact framed unframed

theorem not_answered_interim (interim : IsInterim first) (final : IsFinal head body) (running : .closed ∉ events)
    {later : Bytes} (whole : upstream events = first ++ later) : ¬ Answered events head body := by
  rintro ⟨rewritten, mode, accepted, reaches⟩
  have written := relay_writes running reaches.mem
  have found : httpHeaderEnd (chunksOf events).flatten = some first.length := by
    change httpHeaderEnd (upstream events) = _
    rw [whole]
    exact endOf_append interim.complete later
  have taken : (chunksOf events).flatten.take first.length = first := by
    change (upstream events).take first.length = first
    rw [whole, take_left]
  by_cases overflows : Overflows (chunksOf events) first.length
  · rw [fold_overflow found interim.fits overflows] at written
    cases written
  · cases read : rewriteResponseHeadForProxyClose first with
    | error error =>
      rw [fold_rejected found interim.fits overflows (by rw [taken]; exact read)] at written
      cases written
    | ok result =>
      obtain ⟨interimHead, interimMode⟩ := result
      obtain ⟨_, _, status, _, _, _, announced, silent⟩ := rewrite_line read
      obtain ⟨low, high⟩ := interim.status status announced
      have noBody : interimMode = .noBody := silent (by simp [responseStatusHasNoBody, low, high])
      obtain ⟨writes, folded, empty⟩ := fold_accepted found interim.fits overflows (by rw [taken]; exact read)
      rw [folded] at written
      rcases mem_cons.mp written with rfl | behind
      · exact final.status status ((rewrite_status read accepted).symm.trans announced) ⟨low, high⟩
      · rw [noBody] at empty
        exact rewritten_ne_nil accepted (flatten_eq_nil_iff.mp empty rewritten behind)

/-- The final response reaches the client exactly if no interim one precedes it, its head can be read and is not
lifted above the limit by the chunk that completes it, and a body that ends with the stream does not pause. -/
theorem final_response_iff (interims : List Bytes) (head body : Bytes) (interim : ∀ first ∈ interims, IsInterim first)
    (final : IsFinal head body) (events : List RelayEvent) (running : .closed ∉ events)
    (whole : upstream events = interims.flatten ++ (head ++ body)) :
    Answered events head body ↔ interims = [] ∧ Deliverable events head := by
  cases interims with
  | nil =>
    rw [answered_iff final running (by simpa using whole)]
    simp
  | cons first more =>
    have unreached := not_answered_interim (interim first mem_cons_self) final running
      (whole.trans (by rw [flatten_cons, append_assoc]))
    simp [unreached]

theorem okHead_final : IsFinal okHead [104, 105] where
  complete := by decide
  fits := by decide
  status := by
    intro status announced
    have known : responseStatus okHead = some 200 := by decide
    obtain rfl : 200 = status := by simpa [known] using announced
    decide
  framed := by
    intro rewritten mode accepted
    rw [rewrite_okHead] at accepted
    cases accepted
    trivial

/-- The timeout is of no effect before the head and behind the body. -/
theorem final_response_iff_okHead : Answered [.idle, .data okHead, .data [104, 105], .idle] okHead [104, 105] := by
  refine (final_response_iff [] okHead [104, 105] (by simp) okHead_final _ (by decide) (by decide)).mpr ⟨rfl, ?_⟩
  refine ⟨not_overflows_of_small (by decide), ⟨200, by decide⟩, fun _ _ => ?_⟩
  have length : okHead.length = 19 := by decide
  simp [uninterrupted_cons, uninterrupted_nil, length]

def earlyHints : Bytes := utf8 "HTTP/1.1 103 Early Hints\r\n\r\n"

theorem earlyHints_interim : IsInterim earlyHints where
  complete := by decide
  fits := by decide
  status := by
    intro status announced
    have known : responseStatus earlyHints = some 103 := by decide
    obtain rfl : 103 = status := by simpa [known] using announced
    decide

/-- After one interim response the relay ends, and the final one is never written. -/
theorem final_response_lost : IsInterim earlyHints ∧ IsFinal okHead [104, 105] ∧
    ¬ Answered [.data earlyHints, .data (okHead ++ [104, 105])] okHead [104, 105] := by
  refine ⟨earlyHints_interim, okHead_final, ?_⟩
  exact not_answered_interim earlyHints_interim okHead_final (by decide)
    (show _ = earlyHints ++ (okHead ++ [104, 105]) by simp)

end SshProxy
