import SshProxy.Proofs.PairCoherent

/-! Multiplexing is faithful. Both readers are demultiplexers of the queue they read,
and ids do not repeat, so what arrives on a stream is what was sent on it. -/

namespace SshProxy
open Library

namespace Pair
variable {pair : Pair}

/-- What was delivered on a stream so far is the beginning of what the other end sent
on it, and no two receivers share a stream. -/
structure Faithful (pair : Pair) : Prop where
  toCalls : ∀ call, (pair.bridge.calls call).dataRx.delivered.flatten <+:
    (payloads (pair.bridge.calls call).id pair.sentToBridge).flatten
  toTasks : ∀ task, (pair.remote.tasks task).streamRx.delivered.flatten <+:
    (payloads (pair.remote.tasks task).id pair.sentToRemote).flatten
  calls : ∀ left right, (pair.bridge.calls left).phase ≠ .idle → (pair.bridge.calls right).phase ≠ .idle →
    (pair.bridge.calls left).id = (pair.bridge.calls right).id → left = right
  tasks : ∀ left right, (pair.remote.tasks left).phase ≠ .idle → (pair.remote.tasks right).phase ≠ .idle →
    (pair.remote.tasks left).id = (pair.remote.tasks right).id → left = right

structure Carried (pair : Pair) : Prop where
  toCalls : Demux.Linked (fun call => (pair.bridge.calls call).id) pair.bridge.reader.demux (streamData pair.sentToBridge)
    (streamData pair.toBridge) (pair.remote.writerUp = true)
  toTasks : Demux.Linked (fun task => (pair.remote.tasks task).id) pair.remote.reader.demux (streamData pair.sentToRemote)
    (streamData pair.toRemote) (pair.bridge.writerUp = true)

private theorem silent_of_subset {id : UInt32} {queue sent : List Frame} (within : queue ⊆ sent)
    (silent : ∀ data, .data id data ∉ sent) : itemsOf id (streamData queue) = [] := by
  apply itemsOf_eq_nil
  intro data member
  obtain ⟨frame, queued, carries⟩ := List.mem_filterMap.mp member
  cases frame <;> cases carries
  exact silent data (within queued)

private theorem feeding_of_emits {frames : List Frame} {up : Prop} (writing : ∀ frame ∈ frames, up) :
    streamData frames = [] ∨ up := by
  cases frames with
  | nil => exact .inl rfl
  | cons frame _ => exact .inr (writing frame (by simp))

theorem Carried.initial (defaultEgressProxy : Option String) : Carried (machine defaultEgressProxy).initial where
  toCalls := .fresh fun _ => Bridge.Valid.initial.owned.unused (Nat.not_succ_le_zero 2)
  toTasks := .fresh fun _ => (Remote.Valid.initial defaultEgressProxy).owned.unused (Nat.not_succ_le_zero 2)

section
variable (carried : pair.Carried) (coherent : pair.Coherent) (few : pair.bridge.allocated < 2 ^ 32)
include carried coherent few

theorem Carried.bridge_next {action : BridgeAction} (enabled : pair.bridge.enabled action)
    (arrived : action.consumes <+: pair.toBridge) : (pair.next (.bridge action)).Carried where
  toCalls := by
    apply (coherent.bridge.reader_step enabled).linked arrived carried.toCalls (coherent.bridge.relinks enabled)
    intro call same
    subst same
    have phase : (pair.bridge.calls call).phase = .pending := enabled
    have silent := coherent.replies_silent few call (by rw [phase]; decide) (by rw [phase]; decide)
    exact ⟨silent_of_subset (List.Subset.refl _) silent, silent_of_subset coherent.toBridge silent⟩
  toTasks := by
    simp only [next, streamData_append]
    refine (carried.toTasks.send _ (feeding_of_emits fun frame member => ?_)).weaken Bridge.next_writerUp
    exact (Bridge.emits_sends member).2

theorem Carried.remote_next {action : RemoteAction} (enabled : pair.remote.enabled action)
    (arrived : action.consumes <+: pair.toRemote) : (pair.next (.remote action)).Carried where
  toCalls := by
    simp only [next, streamData_append]
    refine (carried.toCalls.send _ (feeding_of_emits fun frame member => ?_)).weaken Remote.next_writerUp
    exact (Remote.emits_sends member).2
  toTasks := by
    apply (coherent.remote.reader_step enabled).linked arrived carried.toTasks (coherent.remote.relinks enabled)
    intro task same
    subst same
    have phase : (pair.remote.tasks task).phase = .connected := enabled
    have silent := coherent.requests_silent few task (by rw [phase]; decide) (by rw [phase]; decide)
    exact ⟨silent_of_subset (List.Subset.refl _) silent, silent_of_subset coherent.toRemote silent⟩

theorem Carried.next {action : PairAction} (enabled : pair.enabled action) : (pair.next action).Carried := by
  cases action with
  | bridge action => exact carried.bridge_next coherent few enabled.1 enabled.2
  | remote action => exact carried.remote_next coherent few enabled.1 enabled.2
  | loseToRemote keep =>
    have down : pair.bridge.writerUp = false := enabled
    refine ⟨carried.toCalls, carried.toTasks.lose (List.IsPrefix.filterMap _ (List.take_prefix keep _)) ?_⟩
    simp [Pair.next, down]
  | loseToBridge keep =>
    have down : pair.remote.writerUp = false := enabled
    refine ⟨carried.toCalls.lose (List.IsPrefix.filterMap _ (List.take_prefix keep _)) ?_, carried.toTasks⟩
    simp [Pair.next, down]

end

theorem next_allocated (pair : Pair) (action : PairAction) :
    pair.bridge.allocated ≤ (pair.next action).bridge.allocated := by
  cases action with
  | bridge action => exact Bridge.next_allocated pair.bridge action
  | _ => exact Nat.le_refl _

theorem Carried.of_reachable {defaultEgressProxy : Option String}
    (reached : (machine defaultEgressProxy).Reachable pair) (few : pair.bridge.allocated < 2 ^ 32) : pair.Carried := by
  refine reached.invariant (fun pair => pair.bridge.allocated < 2 ^ 32 → pair.Carried)
    (fun _ => .initial defaultEgressProxy) (fun before action reached carried enabled _ fewer => ?_) few
  have few := Nat.lt_of_le_of_lt (next_allocated before action) fewer
  exact (carried few).next (.of_reachable reached) few enabled

private theorem flatten_isPrefix {left right : List Bytes} (before : left <+: right) : left.flatten <+: right.flatten := by
  obtain ⟨rest, rfl⟩ := before
  exact List.flatten_append ▸ List.prefix_append _ _

/-- In every run that allocates fewer than `2 ^ 32` ids the bytes delivered on a stream,
at either end, are a prefix of the bytes the other end sent on it. -/
theorem streams_faithful (defaultEgressProxy : Option String) (pair : Pair)
    (reached : (machine defaultEgressProxy).Reachable pair) (few : pair.bridge.allocated < 2 ^ 32) : pair.Faithful := by
  have coherent := Coherent.of_reachable reached
  have carried := Carried.of_reachable reached few
  exact {
    toCalls := fun call => flatten_isPrefix (carried.toCalls.delivered_isPrefix call)
    toTasks := fun task => flatten_isPrefix (carried.toTasks.delivered_isPrefix task)
    calls := fun left right leftStarted rightStarted =>
      coherent.bridge.id_injective few (OpenPhase.rank_pos leftStarted) (OpenPhase.rank_pos rightStarted)
    tasks := fun left right leftStarted rightStarted =>
      coherent.task_injective few (TaskPhase.rank_pos leftStarted) (TaskPhase.rank_pos rightStarted) }

def exchange : List PairAction := [
  .bridge (.openTcp "example" 80 none), .bridge (.insertPending 0), .bridge (.insertStream 0), .bridge (.sendOpen 0),
  .remote (.read (.openTcp 1 "example" 80 none)), .remote (.connect 0), .remote (.insertStream 0),
  .remote (.sendResult 0), .bridge (.read (.openTcpResult 1 true "")), .bridge (.takeAnswer 0),
  .bridge (.sendData 0 [1, 2]), .remote (.read (.data 1 [1, 2])), .remote .deliver,
  .remote (.sendData 0 [3]), .bridge (.read (.data 1 [3])), .bridge .deliver]

theorem streams_faithful_exchange : ∃ pair : Pair, (machine none).Reachable pair ∧ pair.bridge.allocated < 2 ^ 32 ∧
    (pair.bridge.calls 0).dataRx.delivered = [[3]] ∧ (pair.remote.tasks 0).streamRx.delivered = [[1, 2]] ∧
    pair.Faithful := by
  obtain ⟨pair, reached, few, back, forth⟩ := Machine.exists_reachable (machine none)
    (fun pair => pair.bridge.allocated < 2 ^ 32 ∧ (pair.bridge.calls 0).dataRx.delivered = [[3]] ∧
      (pair.remote.tasks 0).streamRx.delivered = [[1, 2]]) exchange (by decide)
  exact ⟨pair, reached, few, back, forth, streams_faithful none pair reached few⟩

end Pair
end SshProxy
