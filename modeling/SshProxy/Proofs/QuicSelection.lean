import Mathlib.Data.List.Rotate
import SshProxy.QuicPool

/-! Which worker a new flow gets. The scan finds the first of the least scores. A worker whose control
loop has failed has a penalty in its score, and the other counters have to stay below it for the
worker to be passed over. -/

namespace SshProxy
open List

variable {workers : List ConnectionWorker} {worker : ConnectionWorker} {nextWorker : UInt64}

theorem rotation_eq (few : nextWorker.toNat + workers.length ≤ 2 ^ 64) :
    rotation workers nextWorker = workers.rotate nextWorker.toNat := by
  apply ext_getElem
  · simp [rotation]
  · intro offset inside _
    have within : offset < workers.length := by simpa [rotation] using inside
    have sum : (nextWorker + UInt64.ofNat offset).toNat = offset + nextWorker.toNat := by
      rw [UInt64.toNat_add, UInt64.toNat_ofNat', Nat.add_mod_mod, Nat.mod_eq_of_lt (by omega), Nat.add_comm]
    simp only [rotation, List.getElem_ofFn, List.getElem_rotate, List.get_eq_getElem, sum]

/-- The worker stands before every other one of its score, and none has a lower one. -/
def FirstLeast (workers : List ConnectionWorker) (worker : ConnectionWorker) : Prop :=
  ∃ before after, workers = before ++ worker :: after ∧ (∀ other ∈ before, worker.score < other.score) ∧
    ∀ other ∈ after, worker.score ≤ other.score

theorem foldl_consider (workers : List ConnectionWorker) (best : ConnectionWorker) :
    ∃ worker, workers.foldl consider (some (best.score, best)) = some (worker.score, worker) ∧
      FirstLeast (best :: workers) worker := by
  induction workers generalizing best with
  | nil => exact ⟨best, rfl, [], [], rfl, nofun, nofun⟩
  | cons candidate workers ih =>
    rw [foldl_cons, consider]
    split
    next keeps =>
      obtain ⟨worker, found, before, after, same, earlier, later⟩ := ih best
      refine ⟨worker, found, ?_⟩
      cases before with
      | nil =>
        obtain ⟨rfl, rfl⟩ := cons.inj same
        exact ⟨[], _, rfl, nofun, forall_mem_cons.mpr ⟨keeps, later⟩⟩
      | cons first before =>
        obtain ⟨rfl, rfl⟩ := cons.inj same
        obtain ⟨here, rest⟩ := forall_mem_cons.mp earlier
        refine ⟨best :: candidate :: before, after, rfl, ?_, later⟩
        exact forall_mem_cons.mpr ⟨here, forall_mem_cons.mpr ⟨UInt64.lt_of_lt_of_le here keeps, rest⟩⟩
    next beaten =>
      obtain ⟨worker, found, before, after, same, earlier, later⟩ := ih candidate
      have lower : candidate.score < best.score := UInt64.not_le.mp beaten
      have least : worker.score ≤ candidate.score := by
        cases before with
        | nil =>
          obtain ⟨rfl, _⟩ := cons.inj same
          exact UInt64.le_refl _
        | cons first before =>
          obtain ⟨rfl, _⟩ := cons.inj same
          exact UInt64.le_of_lt (earlier _ mem_cons_self)
      refine ⟨worker, found, best :: before, after, congrArg (best :: ·) same, ?_, later⟩
      exact forall_mem_cons.mpr ⟨UInt64.lt_of_le_of_lt least lower, earlier⟩

theorem FirstLeast.place (first : FirstLeast workers worker) : ∃ place : Nat, workers[place]? = some worker ∧
    ∀ (other : Nat) (candidate : ConnectionWorker), workers[other]? = some candidate →
      worker.score < candidate.score ∨ worker.score = candidate.score ∧ place ≤ other := by
  obtain ⟨before, after, rfl, earlier, later⟩ := first
  refine ⟨before.length, by simp, ?_⟩
  intro other candidate found
  by_cases inside : other < before.length
  · rw [getElem?_append_left inside] at found
    exact .inl (earlier candidate (mem_of_getElem? found))
  · rw [getElem?_append_right (Nat.not_lt.mp inside)] at found
    have least : worker.score ≤ candidate.score := by
      rcases mem_cons.mp (mem_of_getElem? found) with rfl | behind
      · exact UInt64.le_refl _
      · exact later candidate behind
    rcases UInt64.lt_or_eq_of_le least with lower | level
    · exact .inl lower
    · exact .inr ⟨level, Nat.not_lt.mp inside⟩

/-- How many workers the scan looks at before the one at this index. -/
def turnOf (count nextWorker index : Nat) : Nat := (index + (count - nextWorker % count)) % count

theorem whole_turns {count : Nat} (some : 0 < count) (nextWorker : Nat) :
    nextWorker + (count - nextWorker % count) = count * (nextWorker / count + 1) := by
  have split := Nat.div_add_mod nextWorker count
  have part := Nat.mod_lt nextWorker some
  rw [Nat.mul_add, Nat.mul_one]
  omega

theorem turnOf_rotated {count place : Nat} (inside : place < count) (nextWorker : Nat) :
    turnOf count nextWorker ((place + nextWorker) % count) = place := by
  rw [turnOf, Nat.mod_add_mod, Nat.add_assoc, whole_turns (Nat.zero_lt_of_lt inside), Nat.add_mul_mod_self_left,
    Nat.mod_eq_of_lt inside]

theorem rotated_turnOf {count index : Nat} (inside : index < count) (nextWorker : Nat) :
    (turnOf count nextWorker index + nextWorker) % count = index := by
  rw [turnOf, Nat.mod_add_mod, Nat.add_assoc, Nat.add_comm _ nextWorker, whole_turns (Nat.zero_lt_of_lt inside),
    Nat.add_mul_mod_self_left, Nat.mod_eq_of_lt inside]

theorem selectWorker_firstLeast (some : workers ≠ []) (few : nextWorker.toNat + workers.length ≤ 2 ^ 64) :
    ∃ worker, selectWorker workers nextWorker = .ok worker ∧ FirstLeast (workers.rotate nextWorker.toNat) worker := by
  cases workers with
  | nil => exact absurd rfl some
  | cons head others =>
    by_cases alone : others = []
    · subst alone
      rw [rotate_singleton]
      exact ⟨head, rfl, [], [], rfl, nofun, nofun⟩
    · cases turned : (head :: others).rotate nextWorker.toNat with
      | nil => cases rotate_eq_nil_iff.mp turned
      | cons start rest =>
        obtain ⟨worker, found, first⟩ := foldl_consider rest start
        refine ⟨worker, ?_, first⟩
        rw [selectWorker, if_neg alone, rotation_eq few, turned, foldl_cons, consider, found]
        rfl

/-- The worker of the least score is selected, and of several the one whose turn comes first. -/
theorem selectWorker_least (some : workers ≠ []) (few : nextWorker.toNat + workers.length ≤ 2 ^ 64) :
    ∃ (worker : ConnectionWorker) (index : Nat), selectWorker workers nextWorker = .ok worker ∧
      workers[index]? = Option.some worker ∧
      ∀ (other : Nat) (candidate : ConnectionWorker), workers[other]? = Option.some candidate →
        worker.score < candidate.score ∨ worker.score = candidate.score ∧
          turnOf workers.length nextWorker.toNat index ≤ turnOf workers.length nextWorker.toNat other := by
  obtain ⟨worker, selected, first⟩ := selectWorker_firstLeast some few
  obtain ⟨place, found, least⟩ := first.place
  have inside : place < workers.length := by
    have inside := (List.getElem?_eq_some_iff.mp found).1
    rwa [length_rotate] at inside
  refine ⟨worker, (place + nextWorker.toNat) % workers.length, selected, ?_, ?_⟩
  · rw [← getElem?_rotate inside, found]
  · intro other candidate there
    have within := (List.getElem?_eq_some_iff.mp there).1
    have turn : turnOf workers.length nextWorker.toNat other < workers.length := Nat.mod_lt _ (by omega)
    rw [turnOf_rotated inside]
    apply least
    rw [getElem?_rotate turn, rotated_turnOf within, there]

namespace ConnectionWorker

/-- What the counters of a worker weigh, on a scale without an upper end. -/
def load (worker : ConnectionWorker) : Nat :=
  worker.activeQuicFlows.toNat * 10000 + worker.streamOpenFailures.toNat * 1000 +
    worker.quicBackpressureTimeouts.toNat * 2000 + worker.quicFlowResets.toNat * 1500 +
    min worker.lastStreamOpenLatencyMs.toNat 5000

def maxScore : Nat := 2 ^ 64 - 1

end ConnectionWorker

theorem toNat_saturatingAdd (left right : UInt64) :
    (saturatingAdd left right).toNat = min (left.toNat + right.toNat) ConnectionWorker.maxScore := by
  unfold saturatingAdd ConnectionWorker.maxScore
  split
  next fits =>
    rw [UInt64.toNat_add, Nat.mod_eq_of_lt fits]
    omega
  next large =>
    rw [Nat.min_eq_right (by omega)]
    rfl

theorem toNat_saturatingMul (left right : UInt64) :
    (saturatingMul left right).toNat = min (left.toNat * right.toNat) ConnectionWorker.maxScore := by
  unfold saturatingMul ConnectionWorker.maxScore
  split
  next fits =>
    rw [UInt64.toNat_mul, Nat.mod_eq_of_lt fits]
    omega
  next large =>
    rw [Nat.min_eq_right (by omega)]
    rfl

theorem toNat_addWeighted (score counter weight : UInt64) : (saturatingAdd score (saturatingMul counter weight)).toNat =
    min (score.toNat + counter.toNat * weight.toNat) ConnectionWorker.maxScore := by
  rw [toNat_saturatingAdd, toNat_saturatingMul]
  omega

theorem cut_add (first second limit : Nat) : min (min first limit + second) limit = min (first + second) limit := by omega

namespace ConnectionWorker

theorem toNat_score (worker : ConnectionWorker) :
    worker.score.toNat = min (worker.load + if worker.controlDegraded then 1000000 else 0) maxScore := by
  have latency : (min worker.lastStreamOpenLatencyMs 5000).toNat = min worker.lastStreamOpenLatencyMs.toNat 5000 := by
    rw [UInt64.toNat_min]
    rfl
  have penalty : (if worker.controlDegraded then 1000000 else 0 : UInt64).toNat =
      if worker.controlDegraded then 1000000 else 0 := by
    cases worker.controlDegraded <;> rfl
  unfold score quicWorkerScore
  rw [toNat_saturatingAdd, toNat_saturatingAdd, toNat_addWeighted, toNat_addWeighted, toNat_addWeighted,
    toNat_saturatingMul, latency, penalty]
  simp only [cut_add]
  rfl

/-- A healthy worker comes before a degraded one if it weighs less than the other with the penalty. If
they are level, as all are that have reached the end of the scale, the turn decides. -/
def Outranks (healthy degraded : ConnectionWorker) (earlier : Prop) : Prop :=
  min healthy.load maxScore < min (degraded.load + 1000000) maxScore ∨
    min healthy.load maxScore = min (degraded.load + 1000000) maxScore ∧ earlier

theorem outranks_iff {healthy degraded : ConnectionWorker} {earlier : Prop} (first : healthy.controlDegraded = false)
    (second : degraded.controlDegraded = true) : healthy.Outranks degraded earlier ↔
      healthy.score < degraded.score ∨ healthy.score = degraded.score ∧ earlier := by
  unfold Outranks
  rw [UInt64.lt_iff_toNat_lt, ← UInt64.toNat_inj, toNat_score, toNat_score, first, second]
  simp only [Bool.false_eq_true, if_false, if_true, Nat.add_zero]

end ConnectionWorker

/-- For each degraded worker there is a healthy one that comes before it. -/
def DegradedOutranked (workers : List ConnectionWorker) (nextWorker : Nat) : Prop :=
  ∀ (index : Nat) (degraded : ConnectionWorker), workers[index]? = some degraded → degraded.controlDegraded = true →
    ∃ (other : Nat) (healthy : ConnectionWorker), workers[other]? = some healthy ∧ healthy.controlDegraded = false ∧
      healthy.Outranks degraded (turnOf workers.length nextWorker other < turnOf workers.length nextWorker index)

/-- A worker of least score is selected, and a degraded one only where all are, if and only if all are
or each degraded worker is outranked. -/
theorem degraded_last_iff (workers : List ConnectionWorker) (nextWorker : UInt64)
    (few : nextWorker.toNat + workers.length ≤ 2 ^ 64) :
    (workers ≠ [] → ∃ worker ∈ workers, selectWorker workers nextWorker = .ok worker ∧
      (∀ other ∈ workers, worker.score ≤ other.score) ∧
      (worker.controlDegraded = true → ∀ other ∈ workers, other.controlDegraded = true)) ↔
    (∀ worker ∈ workers, worker.controlDegraded = true) ∨ DegradedOutranked workers nextWorker.toNat := by
  by_cases empty : workers = []
  · subst empty
    exact iff_of_true (fun never => absurd rfl never) (.inl nofun)
  obtain ⟨found, place, selected, there, least⟩ := selectWorker_least empty few
  constructor
  · intro chosen
    obtain ⟨worker, _, same, _, last⟩ := chosen empty
    rw [selected] at same
    cases same
    cases state : found.controlDegraded with
    | true => exact .inl (last state)
    | false =>
      refine .inr fun index degraded present failed => ⟨place, found, there, state, ?_⟩
      rw [ConnectionWorker.outranks_iff state failed]
      rcases least index degraded present with lower | ⟨level, turn⟩
      · exact .inl lower
      · -- two workers that are level have turns of their own
        refine .inr ⟨level, Nat.lt_of_le_of_ne turn fun same => ?_⟩
        have inside := (List.getElem?_eq_some_iff.mp there).1
        have within := (List.getElem?_eq_some_iff.mp present).1
        have index := congrArg (fun turn => (turn + nextWorker.toNat) % workers.length) same
        simp only [rotated_turnOf inside, rotated_turnOf within] at index
        subst index
        rw [there] at present
        cases present
        rw [state] at failed
        cases failed
  · intro condition _
    refine ⟨found, mem_of_getElem? there, selected, ?_, ?_⟩
    · intro other member
      obtain ⟨index, present⟩ := getElem?_of_mem member
      rcases least index other present with lower | ⟨level, _⟩
      · exact UInt64.le_of_lt lower
      · exact UInt64.le_of_eq level
    · intro failed
      rcases condition with all | outranked
      · exact all
      · obtain ⟨other, healthy, present, well, better⟩ := outranked place found there failed
        rw [ConnectionWorker.outranks_iff well failed] at better
        rcases least other healthy present with lower | ⟨level, turn⟩
        · rcases better with better | ⟨same, _⟩
          · exact absurd better (UInt64.lt_asymm lower)
          · exact absurd same (UInt64.ne_of_lt lower).symm
        · rcases better with better | ⟨_, earlier⟩
          · exact absurd level (UInt64.ne_of_lt better).symm
          · exact absurd earlier (Nat.not_lt.mpr turn)

/-- A healthy worker with 100 flows is level with an idle one whose control loop has failed, and the
turn decides. -/
theorem degraded_last_level :
    let busy : ConnectionWorker := { id := 0, activeQuicFlows := 100 }
    let failed : ConnectionWorker := { id := 1, controlDegraded := true }
    selectWorker [busy, failed] 0 = .ok busy ∧ DegradedOutranked [busy, failed] 0 ∧
      selectWorker [busy, failed] 1 = .ok failed ∧ ¬ DegradedOutranked [busy, failed] 1 := by
  intro busy failed
  have first := degraded_last_iff [busy, failed] 0 (by decide)
  have second := degraded_last_iff [busy, failed] 1 (by decide)
  refine ⟨by decide, ?_, by decide, ?_⟩
  · refine (first.mp fun _ => ⟨busy, by decide⟩).resolve_left (by decide)
  · intro outranked
    obtain ⟨worker, _, selected, _, last⟩ := second.mpr (.inr outranked) (cons_ne_nil _ _)
    have same : selectWorker [busy, failed] 1 = .ok failed := by decide
    rw [same] at selected
    cases selected
    exact absurd (last rfl busy mem_cons_self) (by decide)

/-- A healthy worker with 101 flows, and an idle one whose control loop has failed. -/
theorem degraded_preferred :
    let busy : ConnectionWorker := { id := 0, activeQuicFlows := 101 }
    let failed : ConnectionWorker := { id := 1, controlDegraded := true }
    selectWorker [busy, failed] 0 = .ok failed ∧ busy.controlDegraded = false := by
  decide

end SshProxy
