import SshProxy.Jobs

/-! What an upsert does to the job registry: the record stands under its id unless it was pruned at
once, and pruning takes finished jobs only. -/

namespace SshProxy
open Library JobStore

namespace JobStore

theorem get_insert_self (record : JobRecord) (store : JobStore) : (store.insert record).jobs.get record.id = some record :=
  SortedMap.get_insert_self store.jobs record.id record

theorem get_insert_of_ne {record : JobRecord} {id : Text} (other : id ≠ record.id) (store : JobStore) :
    (store.insert record).jobs.get id = store.jobs.get id := SortedMap.get_insert_of_ne other store.jobs record

theorem pushEvent_jobs (now : Nat) (record : JobRecord) (message : String) (store : JobStore) :
    (store.pushEvent now record message).jobs = store.jobs := by simp only [pushEvent]

variable {store : JobStore} {job : JobRecord}

theorem get_pruneStore {id : Text} (found : store.pruneStore.jobs.get id = some job) :
    store.jobs.get id = some job := by
  rw [pruneStore, SortedMap.get_eraseAll] at found
  split at found
  next => cases found
  next => exact found

theorem terminal_of_excess {id : Text} (excess : id ∈ store.excessJobs) :
    ∃ job, store.jobs.get id = some job ∧ job.state.isTerminal = true := by
  unfold excessJobs at excess
  split at excess
  next => cases excess
  next =>
    obtain ⟨aged, taken, rfl⟩ := List.mem_map.mp excess
    have sorted := List.mem_mergeSort.mp (List.mem_of_mem_take taken)
    obtain ⟨entry, finished, rfl⟩ := List.mem_map.mp sorted
    obtain ⟨present, terminal⟩ := List.mem_filter.mp finished
    refine ⟨entry.2, ?_, terminal⟩
    apply SortedMap.get_of_mem
    rw [store.keyed entry present]
    exact present

theorem get_pruneStore_of_unfinished {id : Text} (found : store.jobs.get id = some job)
    (unfinished : job.state.isTerminal = false) : store.pruneStore.jobs.get id = some job := by
  rw [pruneStore, SortedMap.get_eraseAll]
  split
  next excess =>
    obtain ⟨pruned, same, terminal⟩ := terminal_of_excess excess
    cases found.symm.trans same
    rw [unfinished] at terminal
    cases terminal
  next => exact found

theorem pruneStore_of_few (few : store.terminalJobs.length ≤ maxTerminalJobs) : store.pruneStore.jobs = store.jobs := by
  have none : store.excessJobs = [] := if_pos few
  change store.jobs.eraseAll store.excessJobs = store.jobs
  rw [none]
  rfl

theorem terminalJobs_insert (record : JobRecord) (store : JobStore) :
    (store.insert record).terminalJobs.length ≤ store.terminalJobs.length + 1 :=
  SortedMap.length_filter_insertEntry _ record.id record store.jobs.entries

end JobStore

namespace JobRegistry
variable {now : Nat} {save : Except String Unit} {record : JobRecord} {message : String} {registry : JobRegistry}

theorem upsert_store : (registry.upsert now save record message).1.store =
    ((registry.store.insert record).pushEvent now record message).pruneStore := by
  unfold upsert
  cases save <;> rfl

theorem upsert_get_self (found : (registry.upsert now save record message).1.get record.id = some job) :
    job = record := by
  rw [get, upsert_store] at found
  have kept := get_pruneStore found
  rw [pushEvent_jobs, get_insert_self] at kept
  exact (Option.some.inj kept).symm

theorem upsert_get_of_ne {id : Text} (other : id ≠ record.id)
    (found : (registry.upsert now save record message).1.get id = some job) : registry.get id = some job := by
  rw [get, upsert_store] at found
  have kept := get_pruneStore found
  rwa [pushEvent_jobs, get_insert_of_ne other] at kept

theorem upsert_get_of_unfinished (unfinished : record.state.isTerminal = false) :
    (registry.upsert now save record message).1.get record.id = some record := by
  rw [get, upsert_store]
  apply get_pruneStore_of_unfinished _ unfinished
  rw [pushEvent_jobs, get_insert_self]

theorem upsert_get_kept {id : Text} (other : id ≠ record.id) (found : registry.get id = some job)
    (unfinished : job.state.isTerminal = false) : (registry.upsert now save record message).1.get id = some job := by
  rw [get, upsert_store]
  apply get_pruneStore_of_unfinished _ unfinished
  rwa [pushEvent_jobs, get_insert_of_ne other]

theorem upsert_jobs_of_few (few : registry.store.terminalJobs.length < maxTerminalJobs) :
    (registry.upsert now save record message).1.store.jobs = (registry.store.insert record).jobs := by
  have bound := terminalJobs_insert record registry.store
  rw [upsert_store, pruneStore_of_few, pushEvent_jobs]
  unfold terminalJobs at bound few ⊢
  rw [pushEvent_jobs]
  omega

end JobRegistry
end SshProxy
