import SshProxy.Proofs.JobUpserts
import SshProxy.SessionRequests

/-! What the operations on sessions and routes keep. The record of a session stands under its own
key with its own ids, a cancelled one stays cancelled unless a job is written to it, and a route is
there only if it was started. -/

namespace SshProxy
open Library Daemon ProxySessionSpec SortedMap List

namespace ProxySessionSpec
variable {first second : Text}

theorem routeIdOf_inj : routeIdOf first = routeIdOf second ↔ first = second := append_right_inj "v3-".toList

theorem jobIdOf_inj : jobIdOf first = jobIdOf second ↔ first = second := append_right_inj "proxy:".toList

theorem sessionIdOf_inj : sessionIdOf first = sessionIdOf second ↔ first = second :=
  append_right_inj "session:".toList

theorem ids_ne {word other : Text} (first second : Text) (apart : ¬ word <+: other ∧ ¬ other <+: word) :
    word ++ first ≠ other ++ second := by
  intro same
  have starts : word <+: other ++ second := same ▸ prefix_append word first
  rcases prefix_or_prefix_of_prefix starts (prefix_append other second) with within | within
  · exact apart.1 within
  · exact apart.2 within

theorem remotePeerJobId_ne_jobIdOf (peer name : Text) : remotePeerJobId peer ≠ jobIdOf name :=
  ids_ne _ name (by decide)

theorem jobIdOf_ne_routeIdOf (first second : Text) : jobIdOf first ≠ routeIdOf second := ids_ne first second (by decide)

theorem applyIdOf_ne_jobIdOf (first second : Text) : applyIdOf first ≠ jobIdOf second := ids_ne first second (by decide)

end ProxySessionSpec

theorem candidates_ne_nil (policy : RemotePortPolicy) : policy.candidates ≠ [] := by
  have either (ports : List UInt16) (port : UInt16) : (if ports.isEmpty then [port] else ports) ≠ [] := by
    cases ports <;> simp
  exact either _ _

namespace JobRecord

def isAwaited (job : JobRecord) : Bool := reusableProxySessionJob job false

variable {job : JobRecord}

theorem isAwaited_of_terminal (terminal : job.state.isTerminal = true) : job.isAwaited = false := by
  unfold isAwaited reusableProxySessionJob
  cases state : job.state with
  | healthy | failed | cancelled => rfl
  | _ => rw [state] at terminal; cases terminal

theorem unfinished_of_isAwaited (awaited : job.isAwaited = true) : job.state.isTerminal = false := by
  cases terminal : job.state.isTerminal with
  | false => rfl
  | true =>
    rw [isAwaited_of_terminal terminal] at awaited
    cases awaited

end JobRecord

theorem JobRegistry.get_id {registry : JobRegistry} {id : Text} (found : registry.get id = some job) :
    job.id = id := registry.store.keyed (id, job) (mem_of_get found)

theorem JobRegistry.upsert_ok {registry : JobRegistry} {now : Nat} {save : Except String Unit} {record job : JobRecord}
    {message : String} (upserted : (registry.upsert now save record message).2 = .ok job) : job = record := by
  unfold JobRegistry.upsert at upserted
  cases save with
  | ok => exact (Except.ok.inj upserted).symm
  | error => cases upserted

/-- The job of a session is its own, or that of a remote peer or of settings that are applied, which is
none of a session. -/
def OwnJob (name jobId : Text) : Prop := jobId = jobIdOf name ∨ ∀ other, jobId ≠ jobIdOf other ∧ jobId ≠ routeIdOf other

namespace OwnJob
variable {name other jobId : Text} (own : OwnJob name jobId)
include own

theorem name_eq (same : jobId = jobIdOf other) : other = name := by
  rcases own with mine | none
  · exact jobIdOf_inj.mp (same.symm.trans mine)
  · exact absurd same (none other).1

theorem ne_routeIdOf : jobId ≠ routeIdOf other := by
  rcases own with mine | none
  · exact mine ▸ jobIdOf_ne_routeIdOf name other
  · exact (none other).2

end OwnJob

namespace ProxySessionRecord

def name (record : ProxySessionRecord) : Text := sanitizeKey (record.workspaceId.getD record.target)

/-- The record stands under the key of its session and has its route and its job. -/
structure Belongs (key : Text) (record : ProxySessionRecord) : Prop where
  key : key = sessionIdOf record.name
  route : record.routeId = routeIdOf record.name
  job : OwnJob record.name record.jobId

structure IsCancelled (record : ProxySessionRecord) : Prop where
  state : record.state = .cancelled
  phase : record.phase = .cancelled
  health : record.health = .cancelled

variable {spec : ProxySessionSpec} {record : ProxySessionRecord}

theorem toSpec_name {text : IpText} (read : record.toSpec text = some spec) :
    spec.name = record.name := by
  obtain ⟨bind, _, built⟩ := Option.bind_eq_some_iff.mp read
  cases built
  rfl

end ProxySessionRecord

namespace SessionRegistry
variable {registry : SessionRegistry} {store : SortedMap Text ProxySessionRecord} {saved : Except String Unit}

def AllBelong (store : SortedMap Text ProxySessionRecord) : Prop := ∀ entry ∈ store.entries, entry.2.Belongs entry.1

structure Keyed (registry : SessionRegistry) : Prop where
  store : AllBelong registry.store
  file : AllBelong registry.file

variable {record : ProxySessionRecord}

theorem AllBelong.insert (all : AllBelong store) {key : Text} (belongs : record.Belongs key) :
    AllBelong (store.insert key record) := by
  intro entry present
  rcases mem_insertEntry present with rfl | earlier
  · exact belongs
  · exact all entry earlier

theorem save_store {α : Type} {result : α} : (registry.save saved store result).1.store = store := by
  unfold save
  cases saved <;> rfl

theorem Keyed.save (keyed : registry.Keyed) (all : AllBelong store) {α : Type} (result : α) :
    (registry.save saved store result).1.Keyed := by
  unfold SessionRegistry.save
  cases saved with
  | ok => exact ⟨all, all⟩
  | error => exact ⟨all, keyed.file⟩

theorem Keyed.upsertFromJob (keyed : registry.Keyed) (own : OwnJob spec.name job.id)
    (text : IpText) (now : Nat) : (registry.upsertFromJob text now saved spec job).1.Keyed := by
  refine keyed.save (keyed.store.insert ?_) _
  refine ⟨rfl, rfl, ?_⟩
  cases found : registry.get spec.sessionId with
  | none => exact own
  | some record =>
    have belongs := keyed.store _ (mem_of_get found)
    have same : record.name = spec.name := sessionIdOf_inj.mp belongs.key.symm
    change OwnJob spec.name record.jobId
    rw [← same]
    exact belongs.job

theorem upsertFromJob_get_of_ne {name : Text} (other : name ≠ spec.name) (text : IpText) (now : Nat) :
    (registry.upsertFromJob text now saved spec job).1.get (sessionIdOf name) = registry.get (sessionIdOf name) := by
  have different : sessionIdOf name ≠ spec.sessionId := fun same => other (sessionIdOf_inj.mp same)
  unfold upsertFromJob get
  rw [save_store]
  exact get_insert_of_ne different _ _

section
variable {condition : ProxySessionRecord → Bool} {change : ProxySessionRecord → ProxySessionRecord}

theorem Keyed.changeFirst (keyed : registry.Keyed)
    (keeps : ∀ key record, record.Belongs key → (change record).Belongs key) :
    (registry.changeFirst saved condition change).1.Keyed := by
  unfold SessionRegistry.changeFirst
  split
  next key record found =>
    have belongs := keyed.store _ (mem_of_find?_eq_some found)
    exact keyed.save (keyed.store.insert (keeps key record belongs)) _
  next => exact keyed.save keyed.store _

theorem changeFirst_get {id : Text} {result : Option ProxySessionRecord}
    (found : (registry.changeFirst saved condition change).1.get id = result) : result = registry.get id ∨
      ∃ record, registry.get id = some record ∧ condition record = true ∧ result = some (change record) := by
  unfold changeFirst at found
  split at found
  next key record first =>
    rw [get, save_store] at found
    by_cases same : id = key
    · subst same
      rw [get_insert_self] at found
      have met := find?_some first
      exact .inr ⟨record, get_of_mem (mem_of_find?_eq_some first), met, found.symm⟩
    · rw [get_insert_of_ne same] at found
      exact .inl found.symm
  next =>
    rw [get, save_store] at found
    exact .inl found.symm

theorem changeFirst_cancelled (keeps : ∀ record, record.IsCancelled → (change record).IsCancelled) {id : Text}
    (cancelled : ∀ record, registry.get id = some record → record.IsCancelled) :
    ∀ record, (registry.changeFirst saved condition change).1.get id = some record → record.IsCancelled := by
  intro record found
  rcases changeFirst_get found with same | ⟨earlier, there, _, changed⟩
  · exact cancelled record same.symm
  · cases changed
    exact keeps earlier (cancelled earlier there)

end

theorem cancelSession_cancelled (keyed : registry.Keyed) (name : Text) (now : Nat) (error : Option String) :
    ∀ record, (registry.cancelSession now saved (routeIdOf name) (jobIdOf name) error).1.get (sessionIdOf name) = some record →
      record.IsCancelled := by
  intro record found
  unfold cancelSession changeFirst at found
  split at found
  next key earlier first =>
    have belongs := keyed.store _ (mem_of_find?_eq_some first)
    have met := find?_some first
    have mine : earlier.routeId = routeIdOf name ∨ earlier.jobId = jobIdOf name := of_decide_eq_true met
    have same : earlier.name = name := by
      rcases mine with route | job
      · exact routeIdOf_inj.mp (belongs.route.symm.trans route)
      · exact (belongs.job.name_eq job).symm
    have here : sessionIdOf name = key := same ▸ belongs.key.symm
    rw [get, save_store, here, get_insert_self] at found
    cases found
    exact ⟨rfl, rfl, rfl⟩
  next missing =>
    rw [get, save_store] at found
    have present := mem_of_get found
    have belongs := keyed.store _ present
    have same : name = record.name := sessionIdOf_inj.mp belongs.key
    have other := find?_eq_none.mp missing _ present
    exact absurd (decide_eq_true (.inl (same ▸ belongs.route))) other

theorem found_entry {condition : ProxySessionRecord → Prop} [DecidablePred condition]
    (found : (registry.find fun record => condition record).map (·.2) = some record) :
    (∃ entry ∈ registry.store.entries, entry.2 = record) ∧ condition record := by
  obtain ⟨entry, first, rfl⟩ := Option.map_eq_some_iff.mp found
  have met := find?_some first
  exact ⟨⟨entry, mem_of_find?_eq_some first, rfl⟩, of_decide_eq_true met⟩

theorem sessionByJob_name (keyed : registry.Keyed) {name : Text}
    (found : registry.sessionByJob (jobIdOf name) = some record) : record.name = name := by
  obtain ⟨⟨entry, present, rfl⟩, mine⟩ := found_entry found
  exact ((keyed.store entry present).job.name_eq mine).symm

end SessionRegistry

namespace RouteTable
variable {text : IpText} {port : Except String Unit} {id key : Text} {spec : RouteSpec} {persist : Bool} {routes : RouteTable}

theorem retain_none (condition : Text × RouteTask → Bool) (gone : routes.get key = none) :
    (routes.retain condition).get key = none := by
  cases found : (routes.retain condition).get key with
  | none => rfl
  | some task =>
    rw [get_retain found] at gone
    cases gone

theorem checkStart_none (gone : routes.get key = none) : (checkStart text port id spec persist routes).1.get key = none := by
  have kept := retain_none (fun entry => !entry.2.finished) gone
  unfold checkStart
  dsimp only
  split
  next task found =>
    have other : key ≠ id := by
      rintro rfl
      rw [kept] at found
      cases found
    split
    next =>
      dsimp only
      split
      next => rwa [get_insert_of_ne other]
      next => exact kept
    next => exact kept
  next =>
    split
    next => exact kept
    next => exact kept

theorem register_none (other : key ≠ id) (created : Nat) (reason : Option String) (gone : routes.get key = none) :
    (register text port created reason id spec persist routes).1.get key = none := by
  have kept : (checkStart text port id spec persist routes).1.get key = none := checkStart_none gone
  unfold register
  split
  next admitted =>
    rw [admitted] at kept
    rwa [get_insert_of_ne other]
  next admitted =>
    rw [admitted] at kept
    exact kept
  next admitted =>
    rw [admitted] at kept
    exact kept

theorem take_none (gone : routes.get key = none) : (take id routes).1.get key = none := by
  unfold take
  split
  next =>
    by_cases same : key = id
    · rw [same, get_erase_self]
    · rwa [get_erase_of_ne same]
  next => exact gone

theorem take_live {task : RouteTask} (other : key ≠ id) (found : routes.get key = some task) :
    (take id routes).1.get key = some task := by
  unfold take
  split
  next => rwa [get_erase_of_ne other]
  next => exact found

theorem checkStart_live {task : RouteTask} (other : key ≠ id) (found : routes.get key = some task)
    (live : task.finished = false) : (checkStart text port id spec persist routes).1.get key = some task := by
  have kept : (routes.retain fun entry => !entry.2.finished).get key = some task :=
    get_retain_of found (by rw [live]; rfl)
  unfold checkStart
  dsimp only
  split
  next =>
    split
    next =>
      dsimp only
      split
      next => rwa [get_insert_of_ne other]
      next => exact kept
    next => exact kept
  next => split <;> exact kept

theorem register_live {task : RouteTask} (other : key ≠ id) (created : Nat) (reason : Option String)
    (found : routes.get key = some task) (live : task.finished = false) :
    (register text port created reason id spec persist routes).1.get key = some task := by
  have kept : (checkStart text port id spec persist routes).1.get key = some task := checkStart_live other found live
  unfold register
  split
  all_goals
    next admitted =>
      rw [admitted] at kept
      first
      | exact kept
      | rwa [get_insert_of_ne other]

theorem take_gone (id : Text) (routes : RouteTable) : (take id routes).1.get id = none := by
  unfold take
  split
  next => exact get_erase_self routes id
  next missing => exact missing

end RouteTable
end SshProxy
