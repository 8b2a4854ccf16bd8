import SshProxy.Proofs.FrameRoundTrip

/-! What the calls of `write_all_vectored_payload` are offered: each one everything that the calls
before it have left of the frame. -/

namespace SshProxy
open List Library

/-- The calls of the loop of `writeAllVectoredPayload` that do not fail, with what each is offered and how
much of it is taken. -/
def vectoredCalls (header payload : Bytes) (headerOffset payloadOffset : Nat) (sink : Sink String UInt8) :
    List (Bytes × Nat) :=
  if _unfinished : headerOffset < header.length ∨ payloadOffset < payload.length then
    match sink.write (slices header payload headerOffset payloadOffset) with
    | .error _ => []
    | .ok (written, sink) =>
      (slices header payload headerOffset payloadOffset, written) ::
        if _zero : written = 0 then []
        else if written < header.length - headerOffset then
          vectoredCalls header payload (headerOffset + written) payloadOffset sink
        else vectoredCalls header payload header.length (payloadOffset + (written - (header.length - headerOffset))) sink
  else []
termination_by (header.length - headerOffset) + (payload.length - payloadOffset)

/-- Every call is offered what is left, and leaves what it has not taken. -/
def InOrder : Bytes → List (Bytes × Nat) → Prop
  | _, [] => True
  | left, call :: rest => call.1 = left ∧ call.2 ≤ left.length ∧ InOrder (left.drop call.2) rest

theorem InOrder.taken_isPrefix {left : Bytes} {calls : List (Bytes × Nat)} (ordered : InOrder left calls) :
    (calls.map fun call => call.1.take call.2).flatten <+: left := by
  induction calls generalizing left with
  | nil => exact nil_prefix
  | cons call rest ih =>
    obtain ⟨rfl, _, ordered⟩ := ordered
    have all := (prefix_append_right_inj (call.1.take call.2)).mpr (ih ordered)
    rwa [take_append_drop] at all

/-- What a run of the loop from `left` on has to do with its calls. -/
structure Accounts (left : Bytes) (writes : Nat) (outcome : Except String (Nat × Sink String UInt8))
    (calls : List (Bytes × Nat)) : Prop where
  ordered : InOrder left calls
  counted : ∀ {total final}, outcome = .ok (total, final) → total = writes + calls.length
  refused : ∀ call ∈ calls, call.2 = 0 → outcome = .error "failed to write frame"

theorem Accounts.cons {left : Bytes} {writes written : Nat} {outcome : Except String (Nat × Sink String UInt8)}
    {calls : List (Bytes × Nat)} (rest : Accounts (left.drop written) (writes + 1) outcome calls)
    (bound : written ≤ left.length) (nonzero : written ≠ 0) : Accounts left writes outcome ((left, written) :: calls) where
  ordered := ⟨rfl, bound, rest.ordered⟩
  counted done := by rw [rest.counted done, length_cons, Nat.add_assoc, Nat.add_comm 1]
  refused call member zero := by
    obtain rfl | later := mem_cons.mp member
    · exact absurd zero nonzero
    · exact rest.refused call later zero

theorem vectoredCalls_account (header payload : Bytes) (headerOffset payloadOffset writes : Nat) (sink : Sink String UInt8) :
    Accounts (header.drop headerOffset ++ payload.drop payloadOffset) writes
      (writeAllVectoredPayload header payload headerOffset payloadOffset writes sink)
      (vectoredCalls header payload headerOffset payloadOffset sink) := by
  fun_induction writeAllVectoredPayload header payload headerOffset payloadOffset writes sink with
  | case1 headerOffset payloadOffset writes sink unfinished error failed =>
    rw [vectoredCalls, dif_pos unfinished, failed]
    exact ⟨trivial, by simp, by simp⟩
  | case2 headerOffset payloadOffset writes sink unfinished next wrote =>
    rw [vectoredCalls, dif_pos unfinished, wrote]
    exact ⟨⟨slices_eq .., Nat.zero_le _, trivial⟩, by simp, fun _ _ _ => rfl⟩
  | case3 headerOffset payloadOffset writes sink unfinished written next wrote nonzero headerRemaining inHeader ih =>
    have left := drop_slices header payload headerOffset payloadOffset written
    have bound := (Sink.write_eq_ok wrote).1
    rw [if_pos inHeader] at left
    rw [vectoredCalls, dif_pos unfinished, wrote]
    simp only [dif_neg nonzero]
    rw [slices_eq] at bound ⊢
    rw [if_pos inHeader]
    exact (left ▸ ih : Accounts _ _ _ _).cons bound nonzero
  | case4 headerOffset payloadOffset writes sink unfinished written next wrote nonzero headerRemaining pastHeader ih =>
    have left := drop_slices header payload headerOffset payloadOffset written
    have bound := (Sink.write_eq_ok wrote).1
    rw [if_neg pastHeader] at left
    rw [vectoredCalls, dif_pos unfinished, wrote]
    simp only [dif_neg nonzero]
    rw [slices_eq] at bound ⊢
    rw [if_neg pastHeader]
    exact (left ▸ ih : Accounts _ _ _ _).cons bound nonzero
  | case5 headerOffset payloadOffset writes sink finished =>
    rw [vectoredCalls, dif_neg finished]
    refine ⟨trivial, fun done => ?_, by simp⟩
    cases done
    rfl

/-- The writer may take any part of what it is offered. If it takes something on every call, the frame is
written; if a call takes nothing, the loop fails, and only a beginning of the frame is out. -/
theorem vectored_write_exact (header payload : Bytes) (sink : Sink String UInt8) :
    InOrder (header ++ payload) (vectoredCalls header payload 0 0 sink) ∧
      ((vectoredCalls header payload 0 0 sink).map fun call => call.1.take call.2).flatten <+: header ++ payload ∧
      (∀ call ∈ vectoredCalls header payload 0 0 sink, call.2 = 0 →
        writeAllVectoredPayload header payload 0 0 0 sink = .error "failed to write frame") ∧
      (sink.Steady → ∃ final,
        writeAllVectoredPayload header payload 0 0 0 sink = .ok ((vectoredCalls header payload 0 0 sink).length, final) ∧
          final.written = sink.written ++ (header ++ payload)) := by
  have accounts := vectoredCalls_account header payload 0 0 0 sink
  refine ⟨accounts.ordered, accounts.ordered.taken_isPrefix, accounts.refused, fun steady => ?_⟩
  obtain ⟨total, final, done, _⟩ := writeAllVectoredPayload_steady header payload 0 0 0 steady
  have written := writeAllVectoredPayload_eq_ok done
  have counted := accounts.counted done
  rw [Nat.zero_add] at counted
  exact ⟨final, counted ▸ done, written⟩

end SshProxy
