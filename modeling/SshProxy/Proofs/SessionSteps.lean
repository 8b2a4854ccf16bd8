import SshProxy.Proofs.SessionStores

/-! What one step of a task does to the daemon. Each step is one write, and which writes a task may
make depends on how far it has come: on the job that it still has to bring to an end, on the record
of it that it wrote last, and on what it may rely on in the daemon. -/

namespace SshProxy
open Library Daemon ProxySessionSpec JobRegistry

inductive DaemonWrite where
  | nothing
  | job (now : Nat) (save : Except String Unit) (record : JobRecord) (message : String)
  | session (text : IpText) (now : Nat) (save : Except String Unit) (spec : ProxySessionSpec) (job : JobRecord)
  | status (save : Except String Unit) (condition : ProxySessionRecord → Bool)
      (change : ProxySessionRecord → ProxySessionRecord)
  | cancel (now : Nat) (save : Except String Unit) (routeId jobId : Text) (error : Option String)
  | peers (change : PeerRegistry → PeerRegistry)
  | routes (change : RouteTable → RouteTable)
  | spawn (runner : Runner)

def DaemonWrite.apply : DaemonWrite → Daemon → Daemon
  | .nothing, daemon => daemon
  | .job now save record message, daemon =>
    { daemon with
      jobs := (daemon.jobs.upsert now save record message).1
      written := daemon.written ++ [record] }
  | .session text now save spec source, daemon =>
    { daemon with sessions := (daemon.sessions.upsertFromJob text now save spec source).1 }
  | .status save condition change, daemon =>
    { daemon with sessions := (daemon.sessions.changeFirst save condition change).1 }
  | .cancel now save routeId jobId error, daemon =>
    { daemon with sessions := (daemon.sessions.cancelSession now save routeId jobId error).1 }
  | .peers change, daemon => { daemon with peers := change daemon.peers }
  | .routes change, daemon => { daemon with routes := change daemon.routes }
  | .spawn runner, daemon => { daemon with spawned := daemon.spawned ++ [runner] }

namespace Daemon

def Pending (id : Text) (daemon : Daemon) : Prop := ∃ job, daemon.jobs.get id = some job ∧ job.isAwaited = true

def JobIs (record : JobRecord) (daemon : Daemon) : Prop := daemon.jobs.get record.id = some record

def Few (daemon : Daemon) : Prop := daemon.jobs.store.terminalJobs.length < maxTerminalJobs

def RouteGone (name : Text) (daemon : Daemon) : Prop := daemon.routes.get (routeIdOf name) = none

def JobCancelled (name : Text) (daemon : Daemon) : Prop :=
  ∃ job, daemon.jobs.get (jobIdOf name) = some job ∧ job.state = .cancelled

def SessionCancelled (name : Text) (daemon : Daemon) : Prop :=
  ∀ record, daemon.sessions.get (sessionIdOf name) = some record → record.IsCancelled

structure Stopped (name : Text) (daemon : Daemon) : Prop where
  route : daemon.RouteGone name
  job : daemon.JobCancelled name
  session : daemon.SessionCancelled name

/-- What others leave of a job: it may be dropped once it has ended, and only if there are many. -/
structure Elsewhere (id : Text) (before after : Daemon) : Prop where
  fades : after.jobs.get id = before.jobs.get id ∨ after.jobs.get id = none
  kept : ∀ job, before.jobs.get id = some job → job.state.isTerminal = false → after.jobs.get id = some job
  same : before.Few → after.jobs.get id = before.jobs.get id

theorem Elsewhere.of_jobs {id : Text} {before after : Daemon} (same : after.jobs = before.jobs) : Elsewhere id before after := by
  refine ⟨.inl (congrArg (·.get id) same), ?_, fun _ => congrArg (·.get id) same⟩
  intro job found _
  rwa [same]

theorem Elsewhere.of_upsert {id : Text} {record : JobRecord} (other : id ≠ record.id) (daemon : Daemon) (now : Nat)
    (save : Except String Unit) (message : String) :
    Elsewhere id daemon ((DaemonWrite.job now save record message).apply daemon) := by
  refine ⟨?_, ?_, ?_⟩
  · cases found : (daemon.jobs.upsert now save record message).1.get id with
    | none => exact .inr found
    | some job => exact .inl (found.trans (upsert_get_of_ne other found).symm)
  · intro job stored unfinished
    exact upsert_get_kept other stored unfinished
  · intro few
    change (daemon.jobs.upsert now save record message).1.get id = daemon.jobs.get id
    rw [JobRegistry.get, JobRegistry.upsert_jobs_of_few few]
    exact JobStore.get_insert_of_ne other _

/-- What a step that has nothing to do with a session leaves of its being stopped. -/
structure Spares (name : Text) (before after : Daemon) : Prop where
  route : before.RouteGone name → after.RouteGone name
  job : before.Few → before.JobCancelled name → after.JobCancelled name
  session : before.SessionCancelled name → after.SessionCancelled name

end Daemon

namespace Runner

/-- The job of a session's runner is that of the session, and the job of a peer's runner is none of
a session. -/
def Proper : Runner → Prop
  | .session spec jobId => jobId = spec.jobId
  | .remotePeer _ jobId _ _ _ => ∀ name, jobId ≠ jobIdOf name ∧ jobId ≠ routeIdOf name

def spec? : Runner → Option ProxySessionSpec
  | .session spec _ => some spec
  | .remotePeer _ _ _ spec _ => spec

end Runner

/-- The port in a URL: the number behind the last colon of the authority. -/
def urlPort (url : Text) : Option UInt16 := do
  let rest ← Text.afterFirst "://".toList url
  let (_, port) ← Text.splitLast ':' (rest.takeWhile (· ≠ '/'))
  (Text.parseUnsigned 65535 port).map UInt16.ofNat

/-- An address is displayed without a slash, and can be read back. -/
structure IpText.Plain (text : IpText) : Prop where
  slashless : ∀ address, '/' ∉ (text.display address).toList
  faithful : ∀ address, text.parse (text.display address) = some address

/-- The address of the session, as the daemon writes it in two places. -/
def IsAddress (text : IpText) (spec : ProxySessionSpec) (url : Text) : Prop :=
  url = spec.remoteUrl text ∨ remoteProxyUrlFromPlan text spec = some url

structure ProxySessionRecord.Alike (first second : ProxySessionRecord) : Prop where
  name : first.name = second.name
  routeId : first.routeId = second.routeId
  jobId : first.jobId = second.jobId
  localProxy : first.localProxy = second.localProxy
  remoteBind : first.remoteBind = second.remoteBind
  remotePort : first.remotePort = second.remotePort
  remoteUrl : first.remoteUrl = second.remoteUrl
  state : first.state = second.state
  phase : first.phase = second.phase
  health : first.health = second.health

/-- What a task is concerned with: its job, the sessions it writes to and those it may stop, the job records
it may write, and what it may rely on. The last five say for which purpose it is looked at. -/
structure Scope where
  job : Option Text
  touches : Text → Prop
  reaches : Text → Prop := touches
  writes : JobRecord → Prop
  apart : ∀ record name, writes record → record.id = jobIdOf name →
    reaches name ∧ (touches name ∨ record.state = .cancelled)
  /-- What it may rely on, also if it was expected to find a session to reuse. -/
  claims : Bool → (Daemon → Prop) → Prop
  /-- No job is left behind that is taken to have a task at work on it. -/
  careful : Prop
  /-- A job that has ended is not taken up again. -/
  final : Prop
  /-- Nobody else writes to the session or to its job. -/
  alone : Prop
  /-- The session is told of no job with an address that is not its own. -/
  addressed : Prop
  /-- How addresses are written then. -/
  reads : IpText → Prop := fun _ => True
  /-- The session is told of no record but the last one of its job. -/
  sourced : Prop

structure Progress where
  /-- The job that it still has to bring to an end. -/
  owes : Option Text := none
  fresh : Bool := false
  last : Option JobRecord := none
  /-- The session has been told of that record. -/
  synced : Bool := true
  /-- It was expected to find a session to reuse. -/
  expected : Bool := false

namespace Progress

def wrote (progress : Progress) (record : JobRecord) : Progress :=
  { progress with
    owes := if record.isAwaited then some record.id else none
    last := some record
    synced := false }

theorem wrote_awaited {record : JobRecord} (awaited : record.isAwaited = true) (progress : Progress) :
    (progress.wrote record).owes = some record.id := if_pos awaited

theorem wrote_terminal {record : JobRecord} (terminal : record.state.isTerminal = true) (progress : Progress) :
    (progress.wrote record).owes = none := by
  apply if_neg
  rw [JobRecord.isAwaited_of_terminal terminal]
  exact Bool.false_ne_true

end Progress

inductive Does (scope : Scope) (daemon : Daemon) : Progress → DaemonWrite → Progress → Prop where
  | nothing (progress : Progress) : Does scope daemon progress .nothing progress
  | peers (progress : Progress) (change : PeerRegistry → PeerRegistry) : Does scope daemon progress (.peers change) progress
  | routes (progress : Progress) {change : RouteTable → RouteTable}
      (kept : ∀ routes name, ¬ scope.touches name → routes.get (routeIdOf name) = none →
        (change routes).get (routeIdOf name) = none)
      (live : ∀ routes name task, ¬ scope.reaches name → routes.get (routeIdOf name) = some task → task.finished = false →
        (change routes).get (routeIdOf name) = some task) :
      Does scope daemon progress (.routes change) progress
  | status (progress : Progress) (save : Except String Unit) (condition : ProxySessionRecord → Bool)
      {change : ProxySessionRecord → ProxySessionRecord} (alike : ∀ record, (change record).Alike record) :
      Does scope daemon progress (.status save condition change) progress
  | cancel (progress : Progress) (now : Nat) (save : Except String Unit) (routeId jobId : Text) (error : Option String)
      (may : ¬ scope.sourced) (own : ∀ name, routeId = routeIdOf name ∨ OwnJob name jobId → scope.reaches name) :
      Does scope daemon progress (.cancel now save routeId jobId error) progress
  | job (progress : Progress) (now : Nat) (save : Except String Unit) (record : JobRecord) (message : String)
      (may : scope.writes record) (turn : scope.careful → progress.owes = none ∨ progress.owes = some record.id)
      (onward : scope.final → record.isAwaited = true → progress.owes = some record.id) :
      Does scope daemon progress (.job now save record message) (progress.wrote record)
  | session (progress : Progress) (text : IpText) (now : Nat) (save : Except String Unit) (spec : ProxySessionSpec)
      (job : JobRecord) (touches : scope.touches spec.name) (own : OwnJob spec.name job.id)
      (address : scope.addressed → ∀ url, job.remoteUrl = some url → IsAddress text spec url)
      (source : scope.sourced → progress.last = some job ∨ progress.last = none ∧ daemon.jobs.get spec.jobId = some job)
      (plain : scope.addressed → scope.reads text) :
      Does scope daemon progress (.session text now save spec job) { progress with synced := true }
  | spawn (progress : Progress) (runner : Runner) (fresh : progress.fresh = true) (proper : runner.Proper)
      (mine : scope.job = some runner.jobId) (touches : ∀ spec, runner.spec? = some spec → scope.touches spec.name)
      (turn : scope.careful → progress.owes = none ∨ progress.owes = some runner.jobId)
      (told : scope.sourced → progress.synced = true) :
      Does scope daemon progress (.spawn runner) { progress with fresh := false, owes := none }

/-- A point of a task: how far it has come, and what it relies on. -/
structure TaskPoint extends Progress where
  claim : Daemon → Prop

def TaskPoint.holds (point : TaskPoint) (daemon : Daemon) : Prop := daemon.sessions.Keyed ∧ point.claim daemon.settled

/-- A task that is alone finds the record of an unfinished job as it has left it. -/
def Scope.recall (scope : Scope) (progress : Progress) (daemon : Daemon) : Prop :=
  scope.alone → ∀ record, progress.last = some record → record.state.isTerminal = false → daemon.JobIs record

def Progress.at (scope : Scope) (progress : Progress) : TaskPoint := { progress with claim := scope.recall progress }

structure StepOf (scope : Scope) (before after : TaskPoint) (daemon later : Daemon) : Prop where
  does : ∃ write, later = write.apply daemon ∧ Does scope daemon before.toProgress write after.toProgress
  claimed : after.claim = scope.recall after.toProgress ∨ scope.claims after.expected after.claim

namespace Does
variable {scope : Scope} {daemon : Daemon} {write : DaemonWrite} {before after : Progress}

variable (does : Does scope daemon before write after)
include does

theorem keyed (keyed : daemon.sessions.Keyed) : (write.apply daemon).sessions.Keyed := by
  cases does with
  | session text now save spec job touches own => exact keyed.upsertFromJob own text now
  | status save condition alike =>
    apply keyed.changeFirst
    intro key record belongs
    refine ⟨?_, ?_, ?_⟩
    · rw [(alike record).name]
      exact belongs.key
    · rw [(alike record).name, (alike record).routeId]
      exact belongs.route
    · rw [(alike record).name, (alike record).jobId]
      exact belongs.job
  | cancel now save routeId jobId error =>
    apply keyed.changeFirst
    intro key record belongs
    exact ⟨belongs.key, belongs.route, belongs.job⟩
  | _ => exact keyed

theorem recalls (recalled : scope.recall before daemon) : scope.recall after (write.apply daemon) := by
  intro alone stored last unfinished
  cases does with
  | job now save record message =>
    cases last
    exact upsert_get_of_unfinished unfinished
  | _ => exact recalled alone stored last unfinished

theorem pending (careful : scope.careful) {id : Text} (pending : (write.apply daemon).Pending id) :
    (daemon.Pending id ∧ before.owes ≠ some id) ∨ after.owes = some id ∨
      ∃ runner ∈ (write.apply daemon).spawned, runner.jobId = id := by
  have same (jobs : (write.apply daemon).jobs = daemon.jobs) (owes : after.owes = before.owes) :
      (daemon.Pending id ∧ before.owes ≠ some id) ∨ after.owes = some id := by
    obtain ⟨job, found, awaited⟩ := pending
    by_cases mine : before.owes = some id
    · exact .inr (owes.trans mine)
    · exact .inl ⟨⟨job, jobs ▸ found, awaited⟩, mine⟩
  cases does with
  | job now save record message may turn onward =>
    obtain ⟨job, found, awaited⟩ := pending
    by_cases mine : id = record.id
    · subst mine
      cases upsert_get_self found
      exact .inr (.inl (Progress.wrote_awaited awaited before))
    · refine .inl ⟨⟨job, upsert_get_of_ne mine found, awaited⟩, ?_⟩
      intro owed
      rcases turn careful with none | some
      · rw [none] at owed
        cases owed
      · rw [some] at owed
        exact mine (Option.some.inj owed).symm
  | spawn runner fresh proper job touches turn =>
    by_cases mine : runner.jobId = id
    · exact .inr (.inr ⟨runner, List.mem_append_right _ List.mem_cons_self, mine⟩)
    · refine .inl ⟨pending, ?_⟩
      intro owed
      rcases turn careful with none | some
      · rw [none] at owed
        cases owed
      · rw [some] at owed
        exact mine (Option.some.inj owed)
  | _ =>
    rcases same rfl rfl with before | owed
    · exact .inl before
    · exact .inr (.inl owed)

theorem owing {id : Text} (owed : after.owes = some id) :
    before.owes = some id ∨ ∃ record, scope.writes record ∧ record.id = id ∧ record.isAwaited = true := by
  cases does with
  | job now save record message may =>
    unfold Progress.wrote at owed
    dsimp only at owed
    split at owed
    next awaited => exact .inr ⟨record, may, Option.some.inj owed, awaited⟩
    next => cases owed
  | spawn => cases owed
  | _ => exact .inl owed

theorem written : ((write.apply daemon).written = daemon.written ∧ after.last = before.last ∧
      (after.owes = before.owes ∨ after.owes = none)) ∨
    ∃ record, (write.apply daemon).written = daemon.written ++ [record] ∧ scope.writes record ∧ after = before.wrote record ∧
      (scope.final → record.isAwaited = true → before.owes = some record.id) := by
  cases does with
  | job now save record message may turn onward => exact .inr ⟨record, rfl, may, rfl, onward⟩
  | spawn => exact .inl ⟨rfl, rfl, .inr rfl⟩
  | _ => exact .inl ⟨rfl, rfl, .inl rfl⟩

theorem expected : after.expected = before.expected := by
  cases does <;> rfl

theorem spawned : ((write.apply daemon).spawned = daemon.spawned ∧ after.fresh = before.fresh) ∨
    (before.fresh = true ∧ after.fresh = false ∧ ∃ runner : Runner,
      (write.apply daemon).spawned = daemon.spawned ++ [runner] ∧ runner.Proper ∧ scope.job = some runner.jobId ∧
        ∀ spec, runner.spec? = some spec → scope.touches spec.name) := by
  cases does with
  | spawn runner fresh proper mine touches => exact .inr ⟨fresh, rfl, runner, rfl, proper, mine, touches⟩
  | _ => exact .inl ⟨rfl, rfl⟩

theorem elsewhere {id : Text} (apart : ∀ record, scope.writes record → record.id ≠ id) :
    Elsewhere id daemon (write.apply daemon) := by
  cases does with
  | job now save record message may => exact .of_upsert (apart record may).symm daemon now save message
  | _ => exact .of_jobs rfl

theorem spares {name : Text} (apart : ¬ scope.touches name) : Spares name daemon (write.apply daemon) := by
  have quiet (routes : (write.apply daemon).routes = daemon.routes) (jobs : (write.apply daemon).jobs = daemon.jobs)
      (session : daemon.SessionCancelled name → (write.apply daemon).SessionCancelled name) :
      Spares name daemon (write.apply daemon) := by
    refine ⟨?_, ?_, session⟩
    · intro gone
      unfold RouteGone
      rw [routes]
      exact gone
    · intro _ cancelled
      unfold JobCancelled
      rw [jobs]
      exact cancelled
  cases does with
  | routes kept => exact ⟨kept daemon.routes name apart, fun _ => id, id⟩
  | session text now save spec job touches own =>
    have other : name ≠ spec.name := by
      rintro rfl
      exact apart touches
    apply quiet rfl rfl
    intro cancelled record found
    exact cancelled record ((SessionRegistry.upsertFromJob_get_of_ne other text now).symm.trans found)
  | status save condition alike =>
    apply quiet rfl rfl
    apply SessionRegistry.changeFirst_cancelled
    intro record cancelled
    exact ⟨(alike record).state.trans cancelled.state, (alike record).phase.trans cancelled.phase,
      (alike record).health.trans cancelled.health⟩
  | cancel now save routeId jobId error =>
    apply quiet rfl rfl
    apply SessionRegistry.changeFirst_cancelled
    intro record _
    exact ⟨rfl, rfl, rfl⟩
  | job now save record message may =>
    refine ⟨id, ?_, id⟩
    intro few cancelled
    obtain ⟨job, found, state⟩ := cancelled
    have stored : (daemon.jobs.upsert now save record message).1.get (jobIdOf name) =
        (daemon.jobs.store.insert record).jobs.get (jobIdOf name) := by
      rw [JobRegistry.get, JobRegistry.upsert_jobs_of_few few]
    by_cases mine : jobIdOf name = record.id
    · refine ⟨record, ?_, (scope.apart record name may mine.symm).2.resolve_left apart⟩
      change (daemon.jobs.upsert now save record message).1.get (jobIdOf name) = some record
      rw [stored, mine]
      exact JobStore.get_insert_self record _
    · refine ⟨job, ?_, state⟩
      change (daemon.jobs.upsert now save record message).1.get (jobIdOf name) = some job
      rw [stored, JobStore.get_insert_of_ne mine]
      exact found
  | _ => exact quiet rfl rfl id

end Does
end SshProxy
