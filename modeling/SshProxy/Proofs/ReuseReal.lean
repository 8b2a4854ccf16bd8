import SshProxy.Proofs.SessionPool

/-! What it is worth that an ensure reports a session as reused. The answer is right if nobody comes
between its questions, and if no restart leaves a job behind that has lost its runner. -/

namespace SshProxy
open Library Daemon ProxySessionSpec List Member

def SessionRole.isBusy : SessionRole → Bool
  | .request (.ensure _) | .reconcile => true
  | _ => false

def SessionRole.runsSession (id : Text) : SessionRole → Bool
  | .runner (.session _ jobId) => jobId = id
  | _ => false

def SessionTask.isBusy (task : SessionTask) : Bool := task.role.isBusy && !task.isFinished

theorem SessionTask.idle_of_not_busy {task : SessionTask} (idle : task.isBusy = false) (unfinished : task.isFinished = false) :
    task.role.isBusy = false := by
  unfold SessionTask.isBusy at idle
  rwa [unfinished, Bool.not_false, Bool.and_true] at idle

namespace SessionSystem

def Served (system : SessionSystem) (spec : ProxySessionSpec) : Prop :=
  (∃ task ∈ system.tasks, task.isFinished = false ∧ task.role.runsSession spec.jobId = true) ∨
    system.daemon.routes.isLive spec.routeId = true

theorem reused?_eq_some {system : SessionSystem} {spec : ProxySessionSpec} (reused : system.reused? = some spec) :
    ∃ asked job session, system.answered = some (.ensure spec, .accepted asked job session true) := by
  unfold reused? at reused
  split at reused
  next answered =>
    cases reused
    exact ⟨_, _, _, answered⟩
  next => cases reused

def ReuseIsReal (system : SessionSystem) : Prop := ∀ spec ∈ system.reused?, system.Served spec

def AtEnd (system : SessionSystem) : Prop :=
  (∀ entry ∈ system.daemon.sessions.file.entries, entry.2.isUnfinished = false) ∧
    ∀ entry ∈ system.daemon.jobs.file.jobs.entries, "proxy:".toList <+: entry.1 → entry.2.isAwaited = false

/-- While an ensure is handled, or the stored sessions are looked at, nothing else happens, and what
an ensure stores can be stored. A daemon is restarted when what it has stored has come to an end. -/
def Undisturbed (system : SessionSystem) : SessionAction → Prop
  | .request _ | .routeEnds _ => ∀ task ∈ system.tasks, task.isBusy = false
  | .step index outside =>
    (∀ place < system.tasks.length, place ≠ index → ∀ task ∈ system.tasks[place]?, task.isBusy = false) ∧
      ∀ spec, system.role? index = some (.request (.ensure spec)) → outside.save = .ok ()
  | .restart => system.AtEnd

def reuseWatch : Watch where
  careful := True
  frozen := True
  still _ := trivial

structure ReuseCrew (text : IpText) (system : SessionSystem) (crew : List Member) : Prop where
  crewed : Crew reuseWatch text system crew
  held : ∀ member ∈ crew, member.task.isFinished = false → member.point.claim system.daemon
  plain : ∀ member ∈ crew, member.task.role.isBusy = false → ∀ daemon, member.point.claim daemon
  single : ∀ (first second : Nat) (one other : Member), crew[first]? = some one → crew[second]? = some other →
    one.task.isBusy = true → other.task.isBusy = true → first = second
  up : crew = [] ∨ system.running = true
  owed : system.running = true → ∀ name, system.daemon.Pending (jobIdOf name) →
    ∃ member ∈ crew, member.point.owes = some (jobIdOf name)
  real : system.ReuseIsReal

variable {text : IpText} {system : SessionSystem} {crew : List Member}

theorem owes_session {member : Member} (outlined : member.Outlined reuseWatch text) {name : Text}
    (owes : member.point.owes = some (jobIdOf name)) :
    member.task.isFinished = false ∧ ((∃ spec, member.task.role = .runner (.session spec (jobIdOf name))) ∨
      ∃ spec, member.task.role = .request (.ensure spec)) := by
  obtain ⟨⟨role, program, written⟩, point⟩ := member
  obtain ⟨outline, _, owing, proper⟩ := outlined
  have owing := owing _ owes
  have unfinished (ends : ∀ result, reuseWatch.post text role result point → point.owes = none) :
      program.result?.isSome = false := by
    cases outline with
    | pure done =>
      rw [ends _ done] at owes
      cases owes
    | step => rfl
  cases role with
  | request asked =>
    cases asked with
    | ensure spec => exact ⟨unfinished fun _ done => done.owes trivial, .inr ⟨spec, rfl⟩⟩
    | remotePeer operation spec bootstrap =>
      rcases owing with job | ⟨record, ⟨peer, mine⟩, same, _⟩
      · obtain ⟨peer, _, same⟩ := Option.map_eq_some_iff.mp job
        exact absurd same (remotePeerJobId_ne_jobIdOf peer name)
      · exact absurd (mine.symm.trans same) (remotePeerJobId_ne_jobIdOf peer name)
    | down id spec =>
      rcases owing with job | ⟨record, cancelled, _, awaited⟩
      · cases job
      · have unfinished := JobRecord.unfinished_of_isAwaited awaited
        rw [cancelled.1] at unfinished
        cases unfinished
    | apply settings =>
      rcases owing with job | ⟨record, ⟨other, mine⟩, same, _⟩
      · cases job
      · exact absurd (mine.symm.trans same) (applyIdOf_ne_jobIdOf other name)
  | runner spawned =>
    cases spawned with
    | session spec id =>
      have same : id = jobIdOf name := by
        rcases owing with job | ⟨record, mine, same, _⟩
        · exact Option.some.inj job
        · exact mine.1.symm.trans same
      exact ⟨unfinished fun _ done => done.owes, .inl ⟨spec, same ▸ rfl⟩⟩
    | remotePeer peer id kind spec force =>
      rcases owing with job | ⟨record, mine, same, _⟩
      · exact absurd (Option.some.inj job) (proper _ rfl name).1
      · exact absurd (mine.1.symm.trans same) (mine.2 name)
  | reconcile =>
    rcases owing with job | ⟨record, blocked, _, awaited⟩
    · cases job
    · rw [blocked trivial] at awaited
      cases awaited

namespace ReuseCrew

theorem initial : ReuseCrew text {} [] where
  crewed := .initial False.elim
  held _ never := nomatch never
  plain _ never := nomatch never
  single _ _ _ _ never := nomatch never
  up := .inl rfl
  owed _ name pending := by
    obtain ⟨job, found, _⟩ := pending
    cases found
  real _ never := nomatch never

section
variable {index : Nat} {after : SessionSystem} {later : List Member} {member next : Member} {write : DaemonWrite}

theorem owed_step (reuse : ReuseCrew text system crew)
    (stepped : CrewStep reuseWatch text system crew index after later member write next) (running : after.running = true)
    {name : Text} (pending : after.daemon.Pending (jobIdOf name)) :
    ∃ other ∈ later, other.point.owes = some (jobIdOf name) := by
  have bound : index < crew.length := (List.getElem?_eq_some_iff.mp stepped.present).1
  rw [stepped.daemon] at pending
  rcases stepped.outcome with ⟨_, stopped, _⟩ | ⟨rfl, same, _⟩
  · rw [stopped] at running
    cases running
  · rw [same] at running
    rcases stepped.step.does.pending ((Watch.scope_careful _).mpr trivial) pending with
      ⟨before, other⟩ | owes | ⟨runner, spawned, mine⟩
    · obtain ⟨owner, present, owes⟩ := reuse.owed running name before
      obtain ⟨place, found⟩ := getElem?_of_mem present
      have apart : index ≠ place := by
        rintro rfl
        cases stepped.present.symm.trans found
        exact other owes
      have kept : (crew.set index next)[place]? = some owner := by
        rwa [getElem?_set_ne apart]
      exact ⟨owner, mem_append_left _ (mem_of_getElem? kept), owes⟩
    · exact ⟨next, mem_append_left _ (mem_set bound next), owes⟩
    · exact ⟨Member.runner reuseWatch text runner, mem_append_right _ (mem_map_of_mem spawned), congrArg some mine⟩

theorem real_step (stepped : CrewStep reuseWatch text system crew index after later member write next)
    (owed : ∀ name, after.daemon.Pending (jobIdOf name) → ∃ other ∈ later, other.point.owes = some (jobIdOf name))
    (alone : ∀ (place : Nat) (other : Member), later[place]? = some other → other.task.isBusy = true → other = next) :
    after.ReuseIsReal := by
  intro spec reused
  obtain ⟨asked, job, session, answered⟩ := reused?_eq_some reused
  obtain ⟨role, finished, ended⟩ := stepped.answered answered
  have claim := stepped.step.holds.2
  rw [ended.claim trivial _ _ _ rfl] at claim
  rcases claim trivial with pending | live
  · have pending : after.daemon.Pending (jobIdOf spec.name) := stepped.daemon ▸ pending
    obtain ⟨owner, present, owes⟩ := owed spec.name pending
    obtain ⟨unfinished, ⟨served, runs⟩ | ⟨other, ensures⟩⟩ := owes_session (stepped.crewed.outlined owner present) owes
    · refine .inl ⟨owner.task, stepped.crewed.mem present, unfinished, ?_⟩
      rw [runs]
      exact decide_eq_true rfl
    · obtain ⟨place, found⟩ := getElem?_of_mem present
      have busy : owner.task.isBusy = true := by
        unfold SessionTask.isBusy
        rw [ensures, unfinished]
        rfl
      rw [alone place owner found busy, finished] at unfinished
      cases unfinished
  · right
    rw [stepped.daemon]
    exact live

end

variable (reuse : ReuseCrew text system crew)
include reuse

theorem calm {index : Nat} {outside : SessionOutside} (undisturbed : system.Undisturbed (.step index outside))
    {place : Nat} {other : Member} (apart : place ≠ index) (found : crew[place]? = some other) :
    other.task.isBusy = false := by
  have task := reuse.crewed.task found
  exact undisturbed.1 place (List.getElem?_eq_some_iff.mp task).1 apart other.task task

theorem step {index : Nat} {outside : SessionOutside} (enabled : system.enabled (.step index outside))
    (undisturbed : system.Undisturbed (.step index outside)) :
    ∃ later, ReuseCrew text (system.next text (.step index outside)) later := by
  have may (member : Member) (present : crew[index]? = some member) :
      reuseWatch.allowed member.task.role outside system.daemon := by
    have saves := undisturbed.2
    rw [reuse.crewed.role? present] at saves
    apply Watch.allowed_of
    · intro spec role _
      exact saves spec (congrArg some role)
    · exact fun _ _ _ _ never => nomatch never
    · exact fun _ _ _ => ⟨False.elim, False.elim⟩
  obtain ⟨later, member, write, next, stepped⟩ := reuse.crewed.stepped enabled may reuse.held
  have running : system.running = true := by
    rcases reuse.up with none | up
    · rw [none] at stepped
      cases stepped.present
    · exact up
  have plain : next.task.role.isBusy = false → ∀ daemon, next.point.claim daemon := by
    intro idle
    rw [stepped.step.role] at idle
    rcases stepped.step.relies not_false with always | ⟨spec, role, _⟩ | ⟨_, _, _, _, never, _⟩
    · exact always
    · rw [role] at idle
      cases idle
    · cases never
  have alone (place : Nat) (other : Member) (found : later[place]? = some other) (busy : other.task.isBusy = true) :
      place = index ∧ other = next := by
    rcases stepped.member_cases reuse.crewed found with ⟨apart, earlier⟩ | mine | ⟨_, runner, _, rfl⟩
    · rw [reuse.calm undisturbed apart earlier] at busy
      cases busy
    · exact mine
    · cases busy
  refine ⟨later, stepped.crewed, ?_, ?_, ?_, ?_, ?_, ?_⟩
  · refine stepped.forall_beside reuse.crewed ?_ ?_ ?_
    · intro place other apart earlier unfinished
      exact reuse.plain other (mem_of_getElem? earlier)
        (SessionTask.idle_of_not_busy (reuse.calm undisturbed apart earlier) unfinished) _
    · intro _
      rw [stepped.daemon]
      exact stepped.step.holds.2
    · intro runner _ _
      exact runner_trusting runner _
  · exact stepped.forall_later reuse.crewed reuse.plain (fun _ => plain) fun runner _ => runner_trusting runner
  · intro first second one other foundOne foundOther busyOne busyOther
    exact (alone first one foundOne busyOne).1.trans (alone second other foundOther busyOther).1.symm
  · rcases stepped.outcome with ⟨none, _⟩ | ⟨_, same, _⟩
    · exact .inl none
    · exact .inr (same.trans running)
  · intro up name pending
    exact reuse.owed_step stepped up pending
  · rcases stepped.outcome with ⟨_, _, none, _⟩ | ⟨_, same, _⟩
    · intro spec reused
      obtain ⟨_, _, _, answered⟩ := reused?_eq_some reused
      cases none.symm.trans answered
    · apply real_step stepped
      · intro name pending
        exact reuse.owed_step stepped (same.trans running) pending
      · intro place other found busy
        exact (alone place other found busy).2

theorem request {asked : SessionRequest} (up : system.running = true)
    (undisturbed : system.Undisturbed (.request asked)) :
    ReuseCrew text (system.next text (.request asked)) (crew ++ [request reuseWatch text asked]) := by
  have task := request_task reuseWatch text asked
  have idle (member : Member) (present : member ∈ crew) : ¬ member.task.isBusy = true := by
    rw [undisturbed member.task (reuse.crewed.mem present)]
    exact Bool.false_ne_true
  have single : OnlyOne crew (·.task.isBusy = true) := reuse.single
  refine ⟨reuse.crewed.requested (request_outlined not_false asked) task, ?_, ?_, ?_, .inr up, ?_, ?_⟩
  · exact forall_joined reuse.held fun _ => request_trusting asked _
  · exact forall_joined reuse.plain fun _ => request_trusting asked
  · exact single.joined fun _ => idle
  · intro _ name pending
    obtain ⟨owner, present, owes⟩ := reuse.owed up name pending
    exact ⟨owner, mem_append_left _ present, owes⟩
  · intro _ never
    cases never

theorem restart (atEnd : system.AtEnd) : ∃ later, ReuseCrew text (system.next text .restart) later := by
  let ended (daemon : Daemon) : Prop := ∀ session ∈ daemon.sessions.sessions, session.isUnfinished = false
  have fit (daemon : Daemon) (keyed : daemon.sessions.Keyed) (ended : ended daemon) (session : ProxySessionRecord)
      (present : session ∈ daemon.sessions.sessions) : Reconcilable reuseWatch text session := by
    obtain ⟨entry, stored, rfl⟩ := mem_map.mp present
    exact ⟨(keyed.store entry stored).job, fun _ => ended _ present, False.elim⟩
  refine ⟨[reconcile text ended], reuse.crewed.restarted (reconcile_outlined False.elim fit), ?_, ?_, ?_, .inr rfl, ?_, ?_⟩
  · refine forall_mem_singleton.mpr ?_
    intro _ session stored
    obtain ⟨entry, kept, rfl⟩ := mem_map.mp stored
    exact atEnd.1 entry kept
  · exact forall_mem_singleton.mpr fun never => nomatch never
  · exact OnlyOne.singleton _
  · intro _ name pending
    obtain ⟨job, found, awaited⟩ := pending
    have ended := atEnd.2 _ (SortedMap.mem_of_get found) (prefix_append _ _)
    rw [ended] at awaited
    cases awaited
  · intro _ never
    cases never

theorem routeEnds {id : Text} (undisturbed : system.Undisturbed (.routeEnds id)) :
    ReuseCrew text (system.next text (.routeEnds id)) crew := by
  obtain ⟨routes, ended, _, crewed⟩ := reuse.crewed.routeEnded id
  rw [ended]
  refine ⟨crewed, ?_, reuse.plain, reuse.single, reuse.up, reuse.owed, ?_⟩
  · intro member present unfinished
    have idle := undisturbed member.task (reuse.crewed.mem present)
    exact reuse.plain member present (SessionTask.idle_of_not_busy idle unfinished) _
  · intro _ never
    cases never

theorem next {action : SessionAction} (enabled : system.enabled action) (undisturbed : system.Undisturbed action) :
    ∃ later, ReuseCrew text (system.next text action) later := by
  cases action with
  | request asked => exact ⟨_, reuse.request enabled undisturbed⟩
  | step index outside => exact reuse.step enabled undisturbed
  | routeEnds id => exact ⟨crew, reuse.routeEnds undisturbed⟩
  | restart => exact reuse.restart undisturbed

end ReuseCrew

/-- In an undisturbed run, a session that is reported as reused has a runner or a live route. -/
theorem reported_reuse_is_real (run : (machine text).Run Undisturbed system) : system.ReuseIsReal := by
  obtain ⟨_, reuse⟩ := run.exists_view (ReuseCrew text) .initial ReuseCrew.next
  exact reuse.real

instance (system : SessionSystem) : Decidable system.AtEnd := inferInstanceAs (Decidable (_ ∧ _))

instance (system : SessionSystem) : (action : SessionAction) → Decidable (system.Undisturbed action)
  | .request _ | .routeEnds _ => inferInstanceAs (Decidable (∀ task ∈ system.tasks, task.isBusy = false))
  | .step index outside =>
    have : Decidable (∀ spec, system.role? index = some (.request (.ensure spec)) → outside.save = .ok ()) :=
      match system.role? index with
      | some (.request (.ensure spec)) => decidable_of_iff (outside.save = .ok ()) ⟨fun ok _ _ => ok, fun all => all spec rfl⟩
      | none => .isTrue fun _ never => nomatch never
      | some (.request (.remotePeer _ _ _)) | some (.request (.down _ _)) | some (.request (.apply _)) | some (.runner _)
      | some .reconcile => .isTrue fun _ never => nomatch never
    inferInstanceAs (Decidable (_ ∧ _))
  | .restart => inferInstanceAs (Decidable system.AtEnd)

instance (system : SessionSystem) (spec : ProxySessionSpec) : Decidable (system.Served spec) := inferInstanceAs (Decidable (_ ∨ _))

instance (system : SessionSystem) : Decidable system.ReuseIsReal := inferInstanceAs (Decidable (∀ spec ∈ system.reused?, _))

theorem reported_reuse_is_real_running : ∃ system, (machine loopbackText).Run Undisturbed system ∧
    system.reused? = some hostSpec ∧ system.ReuseIsReal := by
  obtain ⟨system, run, reused⟩ := Machine.exists_run (machine loopbackText) Undisturbed
    (fun system => system.reused? = some hostSpec)
    (accepts hostSpec ++ replicate 3 (.step 1 {}) ++ [.request (.ensure hostSpec)] ++ replicate 5 (.step 2 {}))
    (by decide)
  exact ⟨system, run, reused, reported_reuse_is_real run⟩

/-- After a restart the job of the session waits, and nobody is there to take it up. -/
theorem reconciled_job_without_runner : ∃ system, (machine loopbackText).Reachable system ∧ ¬ system.ReuseIsReal :=
  Machine.exists_reachable (machine loopbackText) (fun system => ¬ system.ReuseIsReal)
    (accepts hostSpec ++ replicate 3 (.step 1 {}) ++ [.restart] ++ replicate 4 (.step 0 {}) ++
      [.request (.ensure hostSpec)] ++ replicate 5 (.step 1 {})) (by decide)

end SessionSystem
end SshProxy
