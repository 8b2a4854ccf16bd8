import SshProxy.Proofs.SessionsAlone

/-! What a session says about its jobs once they are done. A session is told of each record after it
was written; the last one of an apply it is never told of. -/

namespace SshProxy
open Library Daemon ProxySessionSpec List

def lastJob (name : Text) (history : List JobRecord) : Option JobRecord :=
  (history.filter fun record => record.id = jobIdOf name ∨ record.id = applyIdOf name).getLast?

theorem lastJob_append_self {name : Text} {record : JobRecord} (same : record.id = jobIdOf name) (history : List JobRecord) :
    lastJob name (history ++ [record]) = some record := by
  unfold lastJob
  rw [filter_append, filter_cons_of_pos (by rw [decide_eq_true_eq]; exact .inl same), filter_nil, getLast?_concat]

theorem lastJob_append_of_ne {name other : Text} {record : JobRecord} (same : record.id = jobIdOf other) (apart : name ≠ other)
    (history : List JobRecord) : lastJob name (history ++ [record]) = lastJob name history := by
  have unlike : ¬ (record.id = jobIdOf name ∨ record.id = applyIdOf name) := by
    rw [same]
    rintro (job | settings)
    · exact apart (jobIdOf_inj.mp job.symm)
    · exact applyIdOf_ne_jobIdOf name other settings.symm
  unfold lastJob
  rw [filter_append, filter_cons_of_neg (by rw [decide_eq_true_eq]; exact unlike), filter_nil, append_nil]

structure ProxySessionRecord.Agrees (session : ProxySessionRecord) (job : JobRecord) : Prop where
  state : session.state = job.state
  phase : session.phase = job.phase
  health : session.health = jobHealth job

theorem ProxySessionRecord.Alike.agrees {first second : ProxySessionRecord} (alike : first.Alike second) {job : JobRecord}
    (agrees : second.Agrees job) : first.Agrees job where
  state := alike.state.trans agrees.state
  phase := alike.phase.trans agrees.phase
  health := alike.health.trans agrees.health

namespace SessionRegistry
variable {registry : SessionRegistry} {saved : Except String Unit}

theorem upsertFromJob_agrees {text : IpText} {now : Nat} {spec : ProxySessionSpec} {job : JobRecord}
    {record : ProxySessionRecord}
    (found : (registry.upsertFromJob text now saved spec job).1.get spec.sessionId = some record) : record.Agrees job := by
  unfold upsertFromJob at found
  rw [get, save_store, SortedMap.get_insert_self] at found
  cases found
  exact ⟨rfl, rfl, rfl⟩

end SessionRegistry

def Daemon.AgreesOn (name : Text) (history : List JobRecord) (daemon : Daemon) : Prop :=
  ∀ session ∈ daemon.sessions.get (sessionIdOf name), ∀ job ∈ lastJob name history, session.Agrees job

namespace Does
variable {scope : Scope} {daemon : Daemon} {write : DaemonWrite} {before after : Progress} {name : Text}
  {history : List JobRecord}

variable (does : Does scope daemon before write after)
include does

theorem agreesOn_other (sourced : scope.sourced) (apart : ¬ scope.touches name) (agrees : daemon.AgreesOn name history) :
    (write.apply daemon).AgreesOn name history := by
  intro session found job last
  cases does with
  | session text now save spec told touches =>
    have other : name ≠ spec.name := by
      rintro rfl
      exact apart touches
    exact agrees session ((SessionRegistry.upsertFromJob_get_of_ne other text now).symm.trans found) job last
  | status save condition alike =>
    rcases SessionRegistry.changeFirst_get found with same | ⟨earlier, stored, _, changed⟩
    · exact agrees session same.symm job last
    · cases changed
      exact (alike earlier).agrees (agrees earlier stored job last)
  | cancel now save routeId jobId error may => exact absurd sourced may
  | _ => exact agrees session found job last

theorem agreesOn_own (sourced : scope.sourced) (single : ∀ other, scope.touches other → other = name)
    (last : ∀ record, before.last = some record → lastJob name history = some record)
    (stored : ∀ job, daemon.jobs.get (jobIdOf name) = some job → lastJob name history = some job)
    (agrees : before.synced = true → daemon.AgreesOn name history) (synced : after.synced = true) :
    (write.apply daemon).AgreesOn name history := by
  intro session found job recent
  cases does with
  | session text now save spec told touches own address source =>
    cases single spec.name touches
    have latest : lastJob spec.name history = some told := by
      rcases source sourced with mine | ⟨_, read⟩
      · exact last told mine
      · exact stored told read
    cases latest.symm.trans recent
    exact SessionRegistry.upsertFromJob_agrees found
  | status save condition alike =>
    rcases SessionRegistry.changeFirst_get found with same | ⟨earlier, there, _, changed⟩
    · exact agrees synced session same.symm job recent
    · cases changed
      exact (alike earlier).agrees (agrees synced earlier there job recent)
  | job => cases synced
  | cancel now save routeId jobId error may => exact absurd sourced may
  | _ => exact agrees synced session found job recent

theorem stored_own (settled : daemon.written = []) (writes : ∀ record, scope.writes record → record.id = jobIdOf name)
    (stored : ∀ job, daemon.jobs.get (jobIdOf name) = some job → lastJob name history = some job) (job : JobRecord)
    (found : (write.apply daemon).jobs.get (jobIdOf name) = some job) :
    lastJob name (history ++ (write.apply daemon).written) = some job := by
  cases does with
  | job now save record message may =>
    have mine := writes record may
    have same : job = record := JobRegistry.upsert_get_self (mine ▸ found)
    change lastJob name (history ++ (daemon.written ++ [record])) = some job
    rw [settled, nil_append, lastJob_append_self mine, same]
  | _ =>
    change lastJob name (history ++ daemon.written) = some job
    rw [settled, append_nil]
    exact stored job found

end Does

namespace SessionSystem

abbrev AgreesOn (name : Text) (system : SessionSystem) : Prop := system.daemon.AgreesOn name system.history

def AppliedHealthy (system : SessionSystem) : Prop :=
  match system.answered with
  | some (.apply request, .applied outcome) => outcome.ok = true → ∀ name ∈ request.name,
    ∀ session ∈ system.daemon.sessions.get (sessionIdOf name), session.state = .healthy
  | _ => True

structure AgreesAtRest (system : SessionSystem) : Prop where
  sessions : ∀ name, system.Untouched name → system.AgreesOn name
  applied : system.AppliedHealthy

end SessionSystem

def SessionRole.Stores (outside : SessionOutside) : SessionRole → Prop
  | .request (.ensure _) => outside.save = .ok ()
  | .runner (.session _ _) => outside.save = .ok () ∧ outside.config = .ok ()
  | _ => True

namespace SessionSystem

/-- Sessions are asked for when nobody is at work on them, and nothing else is asked for. Stores and
config can be written, and finished jobs are few enough that none is dropped. -/
def OnlyEnsures (system : SessionSystem) : SessionAction → Prop
  | .request (.ensure spec) => system.Untouched spec.name
  | .request _ | .restart => False
  | .step index outside => system.daemon.Few ∧ ∀ role ∈ system.role? index, role.Stores outside
  | .routeEnds _ => True

def agreeWatch : Watch where
  alone := True
  sure := True
  certain _ := trivial

structure Tells (system : SessionSystem) (member : Member) : Prop where
  last : ∀ name, member.task.role.touches name → ∀ record, member.point.last = some record →
    lastJob name system.history = some record
  synced : ∀ name, member.task.role.touches name → member.point.synced = true → system.AgreesOn name

structure AgreeCrew (text : IpText) (system : SessionSystem) (crew : List Member) : Prop where
  alone : AloneCrew agreeWatch text system crew
  up : ∀ member ∈ crew, member.task.role ≠ .reconcile
  stored : ∀ name job, system.daemon.jobs.get (jobIdOf name) = some job → lastJob name system.history = some job
  tells : ∀ member ∈ crew, member.task.isFinished = false → system.Tells member
  rest : ∀ name, system.Untouched name → system.AgreesOn name
  applied : system.AppliedHealthy

variable {text : IpText} {system : SessionSystem} {crew : List Member}

namespace AgreeCrew

theorem initial : AgreeCrew text {} [] where
  alone := .initial False.elim
  up _ never := nomatch never
  stored _ _ never := nomatch never
  tells _ never := nomatch never
  rest _ _ _ never := nomatch never
  applied := trivial

theorem single {role : SessionRole} (ofSession : role.ofSession = true) (up : role ≠ .reconcile) :
    ∃ name, (∀ other, role.touches other ↔ other = name) ∧ (agreeWatch.scope role).sourced ∧
      ∀ record, (agreeWatch.scope role).writes record → record.id = jobIdOf name := by
  cases role with
  | request asked =>
    cases asked with
    | ensure spec => exact ⟨spec.name, fun _ => Iff.rfl, trivial, fun _ writes => writes⟩
    | _ => cases ofSession
  | runner spawned =>
    cases spawned with
    | session spec id => exact ⟨spec.name, fun _ => Iff.rfl, trivial, fun _ writes => writes.1.trans writes.2.1⟩
    | remotePeer => cases ofSession
  | reconcile => exact absurd rfl up

section
variable {index : Nat} {after : SessionSystem} {later : List Member} {member next : Member} {write : DaemonWrite}

theorem finished_synced (outlined : next.Outlined agreeWatch text) (ofSession : next.task.role.ofSession = true)
    (up : next.task.role ≠ .reconcile) (finished : next.task.isFinished = true) : next.point.synced = true := by
  obtain ⟨⟨role, program, written⟩, point⟩ := next
  have outline := outlined.outline
  cases program with
  | step => cases finished
  | pure result =>
    cases outline with
    | pure done =>
      cases role with
      | request asked =>
        cases asked with
        | ensure spec => exact done.synced trivial
        | _ => cases ofSession
      | runner spawned =>
        cases spawned with
        | session => exact done.synced trivial
        | remotePeer => cases ofSession
      | reconcile => exact absurd rfl up

variable (agree : AgreeCrew text system crew)
  (stepped : CrewStep agreeWatch text system crew index after later member write next)
include agree stepped

theorem other_step {name : Text} (apart : ¬ member.task.role.touches name) :
    lastJob name after.history = lastJob name system.history ∧ (system.AgreesOn name → after.AgreesOn name) := by
  have old := mem_of_getElem? stepped.present
  obtain ⟨mine, touches, sourced, writes⟩ := single (agree.alone.ofSession member old) (agree.up member old)
  have none := agree.alone.crewed.written_nil
  have same : lastJob name after.history = lastJob name system.history := by
    rw [stepped.history]
    rcases stepped.step.does.written with ⟨kept, _⟩ | ⟨record, one, may, _⟩
    · rw [kept, none, append_nil]
    · rw [one, none, nil_append]
      apply lastJob_append_of_ne (writes record may)
      intro named
      exact apart ((touches name).mpr named)
  refine ⟨same, ?_⟩
  intro agrees session found job last
  rw [stepped.daemon] at found
  rw [same] at last
  have distant : ¬ (agreeWatch.scope member.task.role).touches name := by
    rwa [agreeWatch.scope_touches]
  exact stepped.step.does.agreesOn_other sourced distant agrees session found job last

theorem own_step : after.Tells next := by
  have old := mem_of_getElem? stepped.present
  obtain ⟨mine, touches, sourced, writes⟩ := single (agree.alone.ofSession member old) (agree.up member old)
  obtain ⟨last, synced⟩ := agree.tells member old stepped.step.unfinished
  have none := agree.alone.crewed.written_nil
  have named {name : Text} (touched : next.task.role.touches name) : name = mine := by
    rw [stepped.step.role] at touched
    exact (touches name).mp touched
  have own : member.task.role.touches mine := (touches mine).mpr rfl
  refine ⟨?_, ?_⟩
  · intro name touched record recent
    cases named touched
    rw [stepped.history]
    rcases stepped.step.does.written with ⟨kept, same, _⟩ | ⟨written, one, may, wrote, _⟩
    · rw [kept, none, append_nil]
      exact last mine own record (same ▸ recent)
    · rw [one, none, nil_append, lastJob_append_self (writes written may)]
      rw [wrote] at recent
      exact recent
  · intro name touched told session found job recent
    cases named touched
    rw [stepped.daemon] at found
    have kept : lastJob mine after.history = lastJob mine system.history := by
      rw [stepped.history]
      rcases stepped.step.does.written with ⟨kept, _⟩ | ⟨written, one, may, wrote, _⟩
      · rw [kept, none, append_nil]
      · rw [wrote] at told
        cases told
    rw [kept] at recent
    refine stepped.step.does.agreesOn_own sourced ?_ (last mine own) (agree.stored mine) (synced mine own) told session found
      job recent
    intro other touched
    exact (touches other).mp (agreeWatch.scope_touches.mp touched)

theorem up_step : ∀ other ∈ later, other.task.role ≠ .reconcile := by
  refine stepped.forall_later agree.alone.crewed agree.up ?_ fun _ never => nomatch never
  intro up
  rwa [stepped.step.role]

theorem stored_step (name : Text) (job : JobRecord)
    (found : after.daemon.jobs.get (jobIdOf name) = some job) : lastJob name after.history = some job := by
  have old := mem_of_getElem? stepped.present
  have ofSession := agree.alone.ofSession member old
  have none := agree.alone.crewed.written_nil
  rw [stepped.daemon] at found
  by_cases touched : member.task.role.touches name
  · obtain ⟨mine, touches, _, writes⟩ := single ofSession (agree.up member old)
    cases (touches name).mp touched
    rw [stepped.history]
    exact stepped.step.does.stored_own none writes (agree.stored _) job found
  · have elsewhere : Elsewhere (jobIdOf name) system.daemon (write.apply system.daemon) := by
      apply stepped.step.does.elsewhere
      intro record writes same
      exact touched (SessionRole.touches_of_writes ofSession writes same)
    rw [(agree.other_step stepped touched).1]
    rcases elsewhere.fades with same | gone
    · exact agree.stored name job (same.symm.trans found)
    · cases gone.symm.trans found

theorem next_synced (finished : next.task.isFinished = true) : next.point.synced = true := by
  have old := mem_of_getElem? stepped.present
  apply finished_synced stepped.step.outlined _ _ finished
  · rw [stepped.step.role]
    exact agree.alone.ofSession member old
  · rw [stepped.step.role]
    exact agree.up member old

theorem tells_step {other : Member}
    (present : other ∈ later) (unfinished : other.task.isFinished = false) : after.Tells other := by
  obtain ⟨place, found⟩ := getElem?_of_mem present
  rcases stepped.member_cases agree.alone.crewed found with ⟨apart, earlier⟩ | ⟨_, rfl⟩ | ⟨_, runner, spawned, rfl⟩
  · have distinct (name : Text) (touches : other.task.role.touches name) : ¬ member.task.role.touches name := by
      intro two
      exact apart (agree.alone.unique place index other member name earlier stepped.present unfinished
        stepped.step.unfinished touches two)
    obtain ⟨last, synced⟩ := agree.tells other (mem_of_getElem? earlier) unfinished
    refine ⟨?_, ?_⟩
    · intro name touches record recent
      rw [(agree.other_step stepped (distinct name touches)).1]
      exact last name touches record recent
    · intro name touches told
      exact (agree.other_step stepped (distinct name touches)).2 (synced name touches told)
  · exact agree.own_step stepped
  · -- the runner starts where the ensure has told the session of the job
    obtain ⟨ended, spec, id, rfl, within⟩ := agree.alone.spawner stepped spawned
    refine ⟨?_, ?_⟩
    · intro _ _ _ never
      cases never
    · intro name touches _
      change name = spec.name at touches
      cases touches
      exact (agree.own_step stepped).synced spec.name (stepped.step.role ▸ within) (agree.next_synced stepped ended)

theorem rest_step {name : Text} (untouched : after.Untouched name) : after.AgreesOn name := by
  have up := agree.up member (mem_of_getElem? stepped.present)
  by_cases touched : member.task.role.touches name
  · have touches : next.task.role.touches name := stepped.step.role ▸ touched
    have finished : next.task.isFinished = true := by
      apply Bool.eq_true_of_not_eq_false
      intro unfinished
      exact untouched next.task (stepped.crewed.mem (stepped.replaced up)) unfinished touches
    exact (agree.own_step stepped).synced name touches (agree.next_synced stepped finished)
  · apply (agree.other_step stepped touched).2
    apply agree.rest name
    intro task present unfinished
    rw [agree.alone.crewed.tasks] at present
    obtain ⟨other, there, rfl⟩ := mem_map.mp present
    obtain ⟨place, found⟩ := getElem?_of_mem there
    by_cases same : place = index
    · subst same
      cases found.symm.trans stepped.present
      exact touched
    · exact untouched other.task (stepped.crewed.mem (stepped.kept up same found)) unfinished

theorem applied_step : after.AppliedHealthy := by
  unfold AppliedHealthy
  split
  next asked outcome answered =>
    have ofSession := agree.alone.ofSession member (mem_of_getElem? stepped.present)
    rw [← stepped.step.role, (stepped.answered answered).1] at ofSession
    cases ofSession
  next => trivial

end

variable (agree : AgreeCrew text system crew)
include agree

theorem step {index : Nat} {outside : SessionOutside} (enabled : system.enabled (.step index outside))
    (only : system.OnlyEnsures (.step index outside)) :
    ∃ later, AgreeCrew text (system.next text (.step index outside)) later := by
  obtain ⟨few, stores⟩ := only
  have may (member : Member) (present : crew[index]? = some member) :
      agreeWatch.allowed member.task.role outside system.daemon := by
    have stores := stores member.task.role (agree.alone.crewed.role? present)
    apply Watch.allowed_of
    · intro spec role _
      rwa [role] at stores
    · exact fun _ _ _ _ never => nomatch never
    · intro spec id role
      rw [role] at stores
      exact ⟨False.elim, fun _ => stores⟩
  obtain ⟨later, member, write, next, alone, stepped⟩ := agree.alone.step not_false enabled may fun _ => few
  exact ⟨later, alone, agree.up_step stepped, agree.stored_step stepped, fun _ => agree.tells_step stepped,
    fun _ => agree.rest_step stepped, agree.applied_step stepped⟩

theorem request {asked : SessionRequest} (only : system.OnlyEnsures (.request asked)) :
    ∃ later, AgreeCrew text (system.next text (.request asked)) later := by
  cases asked with
  | ensure spec =>
    have outlined : (Member.ensure text spec false fun _ => True).Outlined agreeWatch text := Member.request_outlined not_false
      (.ensure spec)
    have alone := agree.alone.request only outlined trivial fun _ _ _ _ => trivial
    refine ⟨_, alone, ?_, agree.stored, ?_, ?_, trivial⟩
    · exact forall_joined agree.up fun never => nomatch never
    · apply forall_joined
      · intro member old unfinished
        obtain ⟨last, synced⟩ := agree.tells member old unfinished
        exact ⟨last, synced⟩
      · intro _
        refine ⟨fun _ _ _ never => (nomatch never), ?_⟩
        intro name touches _
        cases touches
        exact agree.rest spec.name only
    · intro name untouched
      apply agree.rest name
      intro task present
      exact untouched task (mem_append_left _ present)
  | remotePeer | down | apply => exact only.elim

theorem routeEnds (key : Text) : AgreeCrew text (system.next text (.routeEnds key)) crew := by
  obtain ⟨routes, ended, alone⟩ := agree.alone.routeEnds key
  rw [ended]
  refine ⟨alone, agree.up, agree.stored, ?_, agree.rest, trivial⟩
  intro member present unfinished
  obtain ⟨last, synced⟩ := agree.tells member present unfinished
  exact ⟨last, synced⟩

theorem next {action : SessionAction} (enabled : system.enabled action) (only : system.OnlyEnsures action) :
    ∃ later, AgreeCrew text (system.next text action) later := by
  cases action with
  | request asked => exact agree.request only
  | step index outside => exact agree.step enabled only
  | routeEnds key => exact ⟨crew, agree.routeEnds key⟩
  | restart => exact only.elim

end AgreeCrew

/-- Sessions agree with their jobs at rest in a run in which they are only asked for, one request at a
time, and everything can be stored. -/
theorem session_agrees_at_rest (run : (machine text).Run OnlyEnsures system) : system.AgreesAtRest := by
  obtain ⟨crew, agree⟩ := run.exists_view (AgreeCrew text) .initial AgreeCrew.next
  exact ⟨agree.rest, agree.applied⟩

instance (session : ProxySessionRecord) (job : JobRecord) : Decidable (session.Agrees job) :=
  decidable_of_iff (session.state = job.state ∧ session.phase = job.phase ∧ session.health = jobHealth job)
    ⟨fun ⟨state, phase, health⟩ => ⟨state, phase, health⟩, fun ⟨state, phase, health⟩ => ⟨state, phase, health⟩⟩

instance (daemon : Daemon) (name : Text) (history : List JobRecord) : Decidable (daemon.AgreesOn name history) :=
  inferInstanceAs (Decidable (∀ session ∈ daemon.sessions.get (sessionIdOf name), _))

instance (outside : SessionOutside) (role : SessionRole) : Decidable (role.Stores outside) := by
  rcases role with (_ | _ | _ | _) | (_ | _) | _ <;> dsimp only [SessionRole.Stores] <;> infer_instance

instance (system : SessionSystem) (action : SessionAction) : Decidable (system.OnlyEnsures action) := by
  rcases action with (_ | _ | _ | _) | _ | _ | _ <;> dsimp only [OnlyEnsures] <;> infer_instance

def HostHealthy (system : SessionSystem) : Prop :=
  (∃ session ∈ system.daemon.sessions.get hostSpec.sessionId, session.state = .healthy) ∧
    system.daemon.routes.isLive hostSpec.routeId = true

instance (system : SessionSystem) : Decidable system.HostHealthy := inferInstanceAs (Decidable (_ ∧ _))

theorem session_agrees_at_rest_healthy : ∃ system, (machine loopbackText).Run OnlyEnsures system ∧ system.HostHealthy ∧
    system.AgreesAtRest := by
  obtain ⟨system, run, healthy⟩ := Machine.exists_run (machine loopbackText) OnlyEnsures HostHealthy
    (accepts hostSpec ++ replicate 46 (.step 1 {})) (by decide)
  exact ⟨system, run, healthy, session_agrees_at_rest run⟩

def reportsApplied (system : SessionSystem) : Bool :=
  match system.answered with
  | some (.apply _, .applied outcome) => outcome.ok
  | _ => false

/-- Settings that are applied to a healthy session leave it waiting for their end. A runner that could
not store its job leaves the session queued. -/
theorem session_disagrees_at_rest : (∃ before system, (machine loopbackText).Reachable before ∧ before.HostHealthy ∧
      (before.onward loopbackText).Reachable system ∧ system.reportsApplied = true ∧ system.Untouched hostSpec.name ∧
      ¬ system.HostHealthy ∧ ¬ system.AgreesOn hostSpec.name) ∧
    ∃ system, (machine loopbackText).Reachable system ∧ system.Untouched hostSpec.name ∧ ¬ system.AgreesOn hostSpec.name := by
  constructor
  · apply exists_onward loopbackText (fun _ _ => True) (fun _ _ => True) HostHealthy
      (fun system => system.reportsApplied = true ∧ system.Untouched hostSpec.name ∧ ¬ system.HostHealthy ∧
        ¬ system.AgreesOn hostSpec.name) (accepts hostSpec ++ replicate 46 (.step 1 {}))
      (.request (.apply { id := some "host".toList }) :: replicate 12 (.step 2 {}))
    decide +kernel
  · apply Machine.exists_reachable (machine loopbackText)
      (fun system => system.Untouched hostSpec.name ∧ ¬ system.AgreesOn hostSpec.name) (givesUp hostSpec)
    decide

end SessionSystem
end SshProxy
