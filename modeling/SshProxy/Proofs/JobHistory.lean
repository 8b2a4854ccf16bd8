import Mathlib.Data.List.Induction
import SshProxy.Library.Sorting
import SshProxy.Proofs.JobUpserts

/-! The job history is bounded. The finished jobs are kept by age, and the one that was just recorded
is no exception: with a clock that went back it may be the oldest. -/

namespace SshProxy
open Library List JobStore

/-- The order in which finished jobs go: by their time, and by their ids within a second. -/
def JobRecord.age (job : JobRecord) : Nat × Text := (job.updatedAtUnix, job.id)

namespace JobStore

def byAge (store : JobStore) : List (Nat × Text) :=
  (store.terminalJobs.map (·.2.age)).mergeSort fun first second => first.1 ≤ second.1

def excess (store : JobStore) : Nat := store.terminalJobs.length - maxTerminalJobs

def older (store : JobStore) (job : JobRecord) : Nat :=
  store.terminalJobs.countP fun entry => toLex entry.2.age < toLex job.age

variable {store : JobStore} {job : JobRecord} {id : Text}

theorem excessJobs_eq (store : JobStore) : store.excessJobs = (store.byAge.take store.excess).map (·.2) := by
  unfold excessJobs
  split
  next few => rw [excess, Nat.sub_eq_zero_of_le few, take_zero, map_nil]
  next => rfl

theorem byAge_perm (store : JobStore) : store.byAge.Perm (store.terminalJobs.map (·.2.age)) := mergeSort_perm _ _

theorem id_of_get (found : store.jobs.get id = some job) : job.id = id := store.keyed _ (SortedMap.mem_of_get found)

theorem mem_byAge (found : store.jobs.get id = some job) (terminal : job.state.isTerminal = true) :
    job.age ∈ store.byAge := by
  refine store.byAge_perm.mem_iff.mpr (mem_map.mpr ⟨(id, job), ?_, rfl⟩)
  exact mem_filter.mpr ⟨SortedMap.mem_of_get found, terminal⟩

theorem byAge_sorted (store : JobStore) : store.byAge.Pairwise (toLex · < toLex ·) := by
  refine pairwise_mergeSort (pairwise_map.mpr (List.Pairwise.imp_of_mem ?_ (store.jobs.sorted.filter _)))
  intro first second here there less
  change first.2.id < second.2.id
  rwa [store.keyed _ (mem_of_mem_filter here), store.keyed _ (mem_of_mem_filter there)]

theorem mem_excessJobs_iff (found : store.jobs.get id = some job) (terminal : job.state.isTerminal = true) :
    id ∈ store.excessJobs ↔ job.age ∈ store.byAge.take store.excess := by
  rw [excessJobs_eq, mem_map]
  constructor
  · rintro ⟨age, taken, rfl⟩
    obtain ⟨entry, listed, rfl⟩ := mem_map.mp (store.byAge_perm.mem_iff.mp (mem_of_mem_take taken))
    have present := mem_of_mem_filter listed
    have same : store.jobs.get entry.2.id = some entry.2 :=
      SortedMap.get_of_mem (by rw [store.keyed entry present]; exact present)
    cases found.symm.trans same
    exact taken
  · intro taken
    exact ⟨job.age, taken, id_of_get found⟩

theorem get_pruneStore_iff (found : store.jobs.get id = some job) (terminal : job.state.isTerminal = true) :
    store.pruneStore.jobs.get id = some job ↔ store.excess ≤ store.older job := by
  have place := mem_take_iff store.byAge_sorted (mem_byAge found terminal) store.excess
  rw [store.byAge_perm.countP_eq, countP_map, ← mem_excessJobs_iff found terminal] at place
  rw [pruneStore, SortedMap.get_eraseAll, ← not_lt]
  refine Iff.trans ?_ (not_congr place)
  split
  next pruned => exact iff_of_false (Option.some_ne_none job).symm (not_not.mpr pruned)
  next kept => exact ⟨fun _ => kept, fun _ => found⟩

theorem pruned_older (found : store.jobs.get id = some job) (pruned : store.pruneStore.jobs.get id = none) {other : Text}
    {kept : JobRecord} (left : store.pruneStore.jobs.get other = some kept) (terminal : kept.state.isTerminal = true) :
    job.updatedAtUnix ≤ kept.updatedAtUnix := by
  have finished : job.state.isTerminal = true := by
    by_contra unfinished
    rw [get_pruneStore_of_unfinished found (Bool.eq_false_iff.mpr unfinished)] at pruned
    cases pruned
  rw [pruneStore, SortedMap.get_eraseAll] at pruned left
  split at pruned
  next taken =>
    split at left
    next => cases left
    next spared =>
      have sorted := store.byAge_sorted
      rw [← take_append_drop store.excess store.byAge, pairwise_append] at sorted
      have first := (mem_excessJobs_iff found finished).mp taken
      have last : kept.age ∈ store.byAge.drop store.excess := by
        refine ((mem_append.mp ?_).resolve_left fun among => spared ((mem_excessJobs_iff left terminal).mpr among))
        rw [take_append_drop]
        exact mem_byAge left terminal
      exact (Prod.Lex.toLex_lt_toLex.mp (sorted.2.2 _ first _ last)).elim le_of_lt fun same => same.1.le
  next => rw [found] at pruned; cases pruned

theorem terminalJobs_pruneStore (store : JobStore) : store.pruneStore.terminalJobs.length ≤ maxTerminalJobs := by
  have left : store.pruneStore.terminalJobs = store.terminalJobs.filter fun entry => entry.2.age.2 ∉ store.excessJobs := by
    unfold terminalJobs pruneStore
    rw [SortedMap.entries_eraseAll, filter_comm]
    refine filter_congr fun entry listed => ?_
    exact decide_eq_decide.mpr (by rw [JobRecord.age, store.keyed entry (mem_of_mem_filter listed)])
  have none : (store.byAge.take store.excess).filter (·.2 ∉ store.excessJobs) = [] := by
    refine filter_eq_nil_iff.mpr fun age taken => ?_
    rw [decide_eq_true_eq, not_not, excessJobs_eq]
    exact mem_map_of_mem taken
  calc store.pruneStore.terminalJobs.length
    _ = ((store.terminalJobs.map (·.2.age)).filter (·.2 ∉ store.excessJobs)).length := by
      rw [left, filter_map, length_map]
      rfl
    _ = (store.byAge.filter (·.2 ∉ store.excessJobs)).length := (store.byAge_perm.filter _).length_eq.symm
    _ = ((store.byAge.drop store.excess).filter (·.2 ∉ store.excessJobs)).length := by
      nth_rewrite 1 [← take_append_drop store.excess store.byAge]
      rw [filter_append, none, nil_append]
    _ ≤ (store.byAge.drop store.excess).length := length_filter_le _ _
    _ ≤ maxTerminalJobs := by
      rw [length_drop, store.byAge_perm.length_eq, length_map, excess]
      omega

theorem pushEvent_terminalJobs (now : Nat) (record : JobRecord) (message : String) (store : JobStore) :
    (store.pushEvent now record message).terminalJobs = store.terminalJobs := by
  rw [terminalJobs, pushEvent_jobs, terminalJobs]

theorem latestEvents_concat (events : List JobEvent) (event : JobEvent) :
    latestEvents (latestEvents events ++ [event]) = latestEvents (events ++ [event]) := by
  unfold latestEvents
  generalize maxEvents = limit
  simp only [length_append, length_drop, length_singleton, drop_append, drop_drop]
  congr 2 <;> omega

end JobStore

/-- A call of `JobRegistry::upsert`, the time of it and how its save turns out. -/
structure JobUpsert where
  now : Nat
  save : Except String Unit
  record : JobRecord
  message : String

def JobUpsert.event (call : JobUpsert) : JobEvent where
  jobId := call.record.id
  state := call.record.state
  phase := call.record.phase
  message := call.message
  createdAtUnix := call.now

namespace JobRegistry

def apply (registry : JobRegistry) (call : JobUpsert) : JobRegistry :=
  (registry.upsert call.now call.save call.record call.message).1

def after (calls : List JobUpsert) : JobRegistry := calls.foldl apply {}

theorem after_concat (calls : List JobUpsert) (call : JobUpsert) : after (calls ++ [call]) = (after calls).apply call :=
  foldl_concat ..

theorem after_events (calls : List JobUpsert) : (after calls).store.events = latestEvents (calls.map (·.event)) := by
  induction calls using reverseRecOn with
  | nil => rfl
  | append_singleton calls call ih =>
    rw [after_concat, apply, upsert_store, map_append, map_singleton]
    simp only [JobStore.pruneStore, JobStore.pushEvent, JobStore.insert, ih, JobStore.latestEvents_concat, JobUpsert.event]

/-- After each upsert the events are the last 256 that were pushed, and at most 64 finished jobs are
left. Pruning takes none that is unfinished, and none that is younger than a finished one it leaves. -/
theorem job_history_bounded (calls : List JobUpsert) (call : JobUpsert) :
    let stored := (after calls).store.insert call.record
    let later := after (calls ++ [call])
    (later.store.events <:+ (calls ++ [call]).map (·.event) ∧ later.store.events.length = min 256 (calls.length + 1)) ∧
      later.store.terminalJobs.length ≤ 64 ∧
      (∀ id job, stored.jobs.get id = some job → job.state.isTerminal = false → later.get id = some job) ∧
      ∀ id job, stored.jobs.get id = some job → later.get id = none →
        ∀ other kept, later.get other = some kept → kept.state.isTerminal = true →
          job.updatedAtUnix ≤ kept.updatedAtUnix := by
  intro stored later
  have pruned : later.store = (stored.pushEvent call.now call.record call.message).pruneStore := by
    change (after (calls ++ [call])).store = _
    rw [after_concat, apply, upsert_store]
  have jobs := pushEvent_jobs call.now call.record call.message stored
  refine ⟨⟨?_, ?_⟩, ?_, ?_, ?_⟩
  · rw [after_events]
    exact drop_suffix ..
  · rw [after_events, latestEvents, length_drop, length_map, length_append, length_singleton, maxEvents]
    omega
  · rw [pruned]
    exact terminalJobs_pruneStore _
  · intro id job found unfinished
    rw [get, pruned]
    exact get_pruneStore_of_unfinished (jobs ▸ found) unfinished
  · intro id job found gone other kept left terminal
    rw [get, pruned] at gone left
    exact pruned_older (jobs ▸ found) gone left terminal

def hourlyUpsert (hour : Nat) : JobUpsert := ⟨hour, .ok (), JobRecord.new hour "update".toList .selfUpdate, "update asked for"⟩

theorem job_history_bounded_hourly :
    let calls := (range 299).map hourlyUpsert ++ [hourlyUpsert 299]
    (after calls).store.events = (calls.map (·.event)).drop 44 := by
  intro calls
  obtain ⟨⟨latest, length⟩, _⟩ := job_history_bounded ((range 299).map hourlyUpsert) (hourlyUpsert 299)
  have total : (calls.map (·.event)).length = 300 := by simp [calls]
  rw [length_map, length_range] at length
  rw [suffix_iff_eq_drop.mp latest, total, length]
  rfl

/-- A job that was recorded is there if it is unfinished, or if all but 64 of the finished jobs go
before it. -/
def Stays (registry : JobRegistry) (record : JobRecord) : Prop :=
  record.state.isTerminal = false ∨
    (registry.store.insert record).terminalJobs.length ≤ (registry.store.insert record).older record + maxTerminalJobs

theorem get_upsert_self_iff (now : Nat) (save : Except String Unit) (record : JobRecord) (message : String)
    (registry : JobRegistry) :
    (registry.upsert now save record message).1.get record.id = some record ↔ registry.Stays record := by
  cases terminal : record.state.isTerminal with
  | false => exact ⟨fun _ => .inl terminal, fun _ => upsert_get_of_unfinished terminal⟩
  | true =>
    have jobs := pushEvent_jobs now record message (registry.store.insert record)
    have listed := pushEvent_terminalJobs now record message (registry.store.insert record)
    rw [get, upsert_store, get_pruneStore_iff (jobs ▸ get_insert_self record registry.store) terminal,
      Stays, excess, older, older, listed, terminal]
    simp only [Bool.true_eq_false, false_or]
    omega

/-- A record that was stored is read back exactly where it is not at once pruned as too old. -/
theorem recorded_job_read_back_iff (calls : List JobUpsert) (now : Nat) (record : JobRecord) (message : String) :
    ((after calls).upsert now (.ok ()) record message).1.get record.id = some record ↔ (after calls).Stays record :=
  get_upsert_self_iff now (.ok ()) record message (after calls)

def finishedAt (now : Nat) (char : Char) : JobRecord :=
  (JobRecord.new now [char] .selfUpdate).transition now .healthy .healthy 100

/-- 64 jobs have finished, and one more finishes after the clock was set back. -/
theorem late_job_pruned : ∃ calls now record message, ((after calls).upsert now (.ok ()) record message).2 = .ok record ∧
    ((after calls).upsert now (.ok ()) record message).1.get record.id ≠ some record := by
  let calls := (range 64).map fun index =>
    (⟨100, .ok (), finishedAt 100 (Char.ofNat (48 + index)), "update finished"⟩ : JobUpsert)
  refine ⟨calls, 50, finishedAt 50 'z', "update finished", rfl, ?_⟩
  rw [Ne, get_upsert_self_iff]
  unfold Stays
  decide +kernel

end JobRegistry
end SshProxy
