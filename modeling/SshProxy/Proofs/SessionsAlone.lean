import SshProxy.Proofs.SessionPool

/-! Sessions with one task at a time: an ensure, the runner that it has spawned, or the start of the
daemon. Nobody else is there to change what such a task relies on. -/

namespace SshProxy
open Library Daemon ProxySessionSpec

variable {watch : Watch} {text : IpText}

namespace SessionRole

def ofSession : SessionRole → Bool
  | .request (.ensure _) | .runner (.session _ _) | .reconcile => true
  | _ => false

variable {role : SessionRole}

theorem touches_some (ofSession : role.ofSession = true) : ∃ name, role.touches name := by
  cases role with
  | request asked =>
    cases asked with
    | ensure spec => exact ⟨spec.name, rfl⟩
    | _ => cases ofSession
  | runner spawned =>
    cases spawned with
    | session spec id => exact ⟨spec.name, rfl⟩
    | remotePeer => cases ofSession
  | reconcile => exact ⟨[], trivial⟩

theorem touches_of_writes (ofSession : role.ofSession = true) {record : JobRecord} {name : Text}
    (writes : (watch.scope role).writes record) (same : record.id = jobIdOf name) : role.touches name := by
  cases role with
  | request asked =>
    cases asked with
    | ensure spec => exact jobIdOf_inj.mp (same.symm.trans writes)
    | _ => cases ofSession
  | runner spawned =>
    cases spawned with
    | session spec id => exact jobIdOf_inj.mp (same.symm.trans (writes.1.trans writes.2.1))
    | remotePeer => cases ofSession
  | reconcile => exact trivial

/-- What happens beside the task has to do with other jobs, or with no job and session at all. -/
def Beside (role : SessionRole) (sure : Prop) (before after : Daemon) : Prop :=
  (after.jobs = before.jobs ∧ after.sessions = before.sessions) ∨
    role ≠ .reconcile ∧ (sure → before.Few) ∧ ∀ name, role.touches name → Elsewhere (jobIdOf name) before after

variable {before after : Daemon}

theorem Beside.elsewhere {sure : Prop} {name : Text} (beside : role.Beside sure before after)
    (touches : role.touches name) : Elsewhere (jobIdOf name) before after := by
  rcases beside with ⟨same, _⟩ | ⟨_, _, others⟩
  · exact .of_jobs same
  · exact others name touches

end SessionRole

def Member.Steady (watch : Watch) (member : Member) : Prop :=
  ∀ before after, member.task.role.Beside watch.sure before after → member.point.claim before → member.point.claim after

variable {claim : Daemon → Prop}

theorem Fading.steady {spec : ProxySessionSpec} (fading : Fading spec.jobId claim) {sure : Prop}
    (beside : (SessionRole.request (.ensure spec)).Beside sure before after) (held : claim before) :
    claim after := fading before after (beside.elsewhere rfl).fades held

theorem Scope.recall_steady (ofSession : role.ofSession = true) {progress : Progress}
    (owned : ∀ record, progress.last = some record → (watch.scope role).writes record)
    (beside : role.Beside watch.sure before after) (recalled : (watch.scope role).recall progress before) :
    (watch.scope role).recall progress after := by
  intro alone record last unfinished
  have stored : before.jobs.get record.id = some record := recalled alone record last unfinished
  have mine := owned record last
  rcases beside with ⟨same, _⟩ | ⟨started, _, others⟩
  · change after.jobs.get record.id = some record
    rwa [same]
  · have named : ∃ name, role.touches name ∧ record.id = jobIdOf name := by
      cases role with
      | request asked =>
        cases asked with
        | ensure spec => exact ⟨spec.name, rfl, mine⟩
        | _ => cases ofSession
      | runner spawned =>
        cases spawned with
        | session spec id => exact ⟨spec.name, rfl, mine.1.trans mine.2.1⟩
        | remotePeer => cases ofSession
      | reconcile => exact absurd rfl started
    obtain ⟨name, touches, same⟩ := named
    rw [same] at stored
    change after.jobs.get record.id = some record
    rw [same]
    exact (others name touches).kept record stored unfinished

theorem MemberStep.steady {daemon : Daemon} {member next : Member} {write : DaemonWrite} (unfrozen : ¬ watch.frozen)
    (step : MemberStep watch text daemon member write next) (ofSession : member.task.role.ofSession = true)
    (plain : next.point.expected = false)
    (owned : ∀ record, next.point.last = some record → (watch.scope member.task.role).writes record) : next.Steady watch := by
  intro before after beside held
  rw [step.role] at beside
  rcases step.claimed with recalled | claims
  · rw [recalled] at held ⊢
    exact Scope.recall_steady ofSession owned beside held
  · cases role : member.task.role with
    | request asked =>
      rw [role] at claims beside ofSession
      cases asked with
      | ensure spec =>
        rcases claims with (frozen | expected) | always | ⟨_, fading⟩ | ⟨sure, onJob⟩
        · exact absurd frozen unfrozen
        · rw [plain] at expected
          cases expected
        · exact always after
        · exact fading.steady beside held
        · rcases beside with ⟨same, _⟩ | ⟨_, few, others⟩
          · exact onJob before after (congrArg (·.get spec.jobId) same) held
          · exact onJob before after ((others spec.name rfl).same (few sure)) held
      | _ => cases ofSession
    | runner spawned =>
      rw [role] at claims ofSession
      cases spawned with
      | session => exact claims.elim
      | remotePeer => cases ofSession
    | reconcile =>
      rw [role] at claims
      exact claims.elim

structure AloneCrew (watch : Watch) (text : IpText) (system : SessionSystem) (crew : List Member) : Prop where
  crewed : Crew watch text system crew
  plain : ∀ member ∈ crew, member.point.expected = false
  ofSession : ∀ member ∈ crew, member.task.role.ofSession = true
  owned : ∀ member ∈ crew, ∀ record, member.point.last = some record → (watch.scope member.task.role).writes record
  fresh : ∀ member ∈ crew, member.point.fresh = true → ∃ spec, member.task.role = .request (.ensure spec)
  held : ∀ member ∈ crew, member.task.isFinished = false → member.point.claim system.daemon
  steady : ∀ member ∈ crew, member.Steady watch
  unique : ∀ (first second : Nat) (one other : Member) (name : Text), crew[first]? = some one → crew[second]? = some other →
    one.task.isFinished = false → other.task.isFinished = false → one.task.role.touches name → other.task.role.touches name →
    first = second

namespace AloneCrew
variable {system : SessionSystem} {crew : List Member}

theorem initial (plain : watch.addressed → watch.reads text) : AloneCrew watch text {} [] where
  crewed := .initial plain
  plain _ never := nomatch never
  ofSession _ never := nomatch never
  owned _ never := nomatch never
  fresh _ never := nomatch never
  held _ never := nomatch never
  steady _ never := nomatch never
  unique _ _ _ _ _ never := nomatch never

section
variable {index : Nat} {after : SessionSystem} {later : List Member} {member next : Member} {write : DaemonWrite}

section
variable (alone : AloneCrew watch text system crew)
  (stepped : CrewStep watch text system crew index after later member write next)
include alone stepped

theorem beside (few : watch.sure → system.daemon.Few) {place : Nat} {other : Member} (apart : place ≠ index)
    (found : crew[place]? = some other) (unfinished : other.task.isFinished = false) :
    other.task.role.Beside watch.sure system.daemon after.daemon := by
  have mine := alone.ofSession member (List.mem_of_getElem? stepped.present)
  have distinct (name : Text) (one : other.task.role.touches name) : ¬ member.task.role.touches name := by
    intro two
    exact apart (alone.unique place index other member name found stepped.present unfinished stepped.step.unfinished one two)
  refine .inr ⟨?_, few, ?_⟩
  · intro starts
    obtain ⟨name, touches⟩ := SessionRole.touches_some mine
    exact distinct name (starts ▸ trivial) touches
  · intro name touches
    have elsewhere : Elsewhere (jobIdOf name) system.daemon (write.apply system.daemon) := by
      apply stepped.step.does.elsewhere
      intro record writes same
      exact distinct name touches (SessionRole.touches_of_writes mine writes same)
    rw [stepped.daemon]
    exact ⟨elsewhere.fades, elsewhere.kept, elsewhere.same⟩

theorem spawner {runner : Runner} (spawned : (write.apply system.daemon).spawned = [runner]) :
    next.task.isFinished = true ∧ ∃ spec id, runner = .session spec id ∧ member.task.role.touches spec.name := by
  obtain ⟨fresh, _, proper, job, within⟩ := stepped.spawner alone.crewed spawned
  obtain ⟨asked, role⟩ := alone.fresh member (List.mem_of_getElem? stepped.present) fresh
  refine ⟨stepped.step.ended ⟨asked, role⟩ ?_, ?_⟩
  · rw [alone.crewed.spawned_nil, spawned]
    exact List.cons_ne_nil _ _
  · cases runner with
    | session spec id => exact ⟨spec, id, rfl, within spec rfl⟩
    | remotePeer peer id kind spec force =>
      rw [role] at job
      exact absurd (Option.some.inj job).symm (proper asked.name).1

end

def WorksOn (name : Text) (member : Member) : Prop := member.task.isFinished = false ∧ member.task.role.touches name

theorem onlyOne (alone : AloneCrew watch text system crew) (name : Text) : OnlyOne crew (WorksOn name) :=
  fun first second one other foundOne foundOther busyOne busyOther =>
    alone.unique first second one other name foundOne foundOther busyOne.1 busyOther.1 busyOne.2 busyOther.2

theorem unique_step (alone : AloneCrew watch text system crew)
    (stepped : CrewStep watch text system crew index after later member write next) (name : Text) :
    OnlyOne later (WorksOn name) := by
  apply (alone.onlyOne name).step stepped alone.crewed
  · rintro ⟨_, touches⟩
    exact ⟨stepped.step.unfinished, stepped.step.role ▸ touches⟩
  · rintro runner spawned ⟨_, touches⟩
    obtain ⟨ended, spec, id, rfl, within⟩ := alone.spawner stepped spawned
    change name = spec.name at touches
    refine ⟨⟨stepped.step.unfinished, touches ▸ within⟩, ?_⟩
    rintro ⟨unfinished, _⟩
    cases ended.symm.trans unfinished

end

variable (alone : AloneCrew watch text system crew)
include alone

theorem step (unfrozen : ¬ watch.frozen) {index : Nat} {outside : SessionOutside}
    (enabled : system.enabled (.step index outside))
    (may : ∀ member, crew[index]? = some member → watch.allowed member.task.role outside system.daemon)
    (few : watch.sure → system.daemon.Few) :
    ∃ later member write next, AloneCrew watch text (system.next text (.step index outside)) later ∧
      CrewStep watch text system crew index (system.next text (.step index outside)) later member write next := by
  obtain ⟨later, member, write, next, stepped⟩ := alone.crewed.stepped enabled may alone.held
  have old := List.mem_of_getElem? stepped.present
  have mine := alone.ofSession member old
  have plain : next.point.expected = false := stepped.step.does.expected.trans (alone.plain member old)
  have owned (record : JobRecord) (last : next.point.last = some record) : (watch.scope member.task.role).writes record := by
    rcases stepped.step.does.written with ⟨_, same, _⟩ | ⟨written, _, writes, wrote, _⟩
    · exact alone.owned member old record (same ▸ last)
    · rw [wrote] at last
      cases last
      exact writes
  refine ⟨later, member, write, next, ⟨stepped.crewed, ?_, ?_, ?_, ?_, ?_, ?_, ?_⟩, stepped⟩
  · exact stepped.forall_later alone.crewed alone.plain (fun _ => plain) fun _ => rfl
  · refine stepped.forall_beside alone.crewed ?_ (stepped.step.role ▸ mine) ?_
    · intro place other _ earlier
      exact alone.ofSession other (List.mem_of_getElem? earlier)
    · intro runner spawned
      obtain ⟨_, spec, id, rfl, _⟩ := alone.spawner stepped spawned
      rfl
  · refine stepped.forall_later alone.crewed alone.owned ?_ fun _ _ never => nomatch never
    intro _
    rw [stepped.step.role]
    exact owned
  · refine stepped.forall_later alone.crewed alone.fresh ?_ fun _ never => nomatch never
    intro ensures fresh
    rw [stepped.step.role]
    rcases stepped.step.does.spawned with ⟨_, same⟩ | ⟨before, _⟩
    · exact ensures (same ▸ fresh)
    · exact ensures before
  · refine stepped.forall_beside alone.crewed ?_ ?_ ?_
    · intro place other apart earlier unfinished
      have there := List.mem_of_getElem? earlier
      exact alone.steady other there _ _ (alone.beside stepped few apart earlier unfinished)
        (alone.held other there unfinished)
    · intro _
      rw [stepped.daemon]
      exact stepped.step.holds.2
    · intro runner _ _
      exact Member.runner_trusting runner _
  · refine stepped.forall_later alone.crewed alone.steady (fun _ => stepped.step.steady unfrozen mine plain owned) ?_
    intro runner _ after _ _
    exact Member.runner_trusting runner after
  · intro first second one other name foundOne foundOther busyOne busyOther touchesOne touchesOther
    exact alone.unique_step stepped name first second one other foundOne foundOther ⟨busyOne, touchesOne⟩
      ⟨busyOther, touchesOther⟩

theorem request {spec : ProxySessionSpec} (untouched : system.Untouched spec.name)
    (outlined : (Member.ensure text spec false claim).Outlined watch text) (held : claim system.daemon)
    (steady : (Member.ensure text spec false claim).Steady watch) :
    AloneCrew watch text (system.next text (.request (.ensure spec))) (crew ++ [Member.ensure text spec false claim]) := by
  refine ⟨alone.crewed.requested outlined rfl, ?_, ?_, ?_, ?_, ?_, ?_, ?_⟩
  · exact forall_joined alone.plain rfl
  · exact forall_joined alone.ofSession rfl
  · exact forall_joined alone.owned fun _ never => nomatch never
  · exact forall_joined alone.fresh fun _ => ⟨spec, rfl⟩
  · exact forall_joined alone.held fun _ => held
  · exact forall_joined alone.steady steady
  · intro first second one other name foundOne foundOther busyOne busyOther touchesOne touchesOther
    refine (alone.onlyOne name).joined ?_ first second one other foundOne foundOther ⟨busyOne, touchesOne⟩
      ⟨busyOther, touchesOther⟩
    rintro ⟨_, touches⟩ mate present ⟨busy, mine⟩
    cases touches
    exact untouched mate.task (alone.crewed.mem present) busy mine

theorem restart (outlined : (Member.reconcile text claim).Outlined watch text) (held : claim system.daemon.load)
    (steady : (Member.reconcile text claim).Steady watch) :
    AloneCrew watch text (system.next text .restart) [Member.reconcile text claim] := by
  refine ⟨alone.crewed.restarted outlined, ?_, ?_, ?_, ?_, ?_, ?_, ?_⟩
  · exact List.forall_mem_singleton.mpr rfl
  · exact List.forall_mem_singleton.mpr rfl
  · exact List.forall_mem_singleton.mpr fun _ never => nomatch never
  · exact List.forall_mem_singleton.mpr fun never => nomatch never
  · exact List.forall_mem_singleton.mpr fun _ => held
  · exact List.forall_mem_singleton.mpr steady
  · intro first second one other _ foundOne foundOther _ _ _ _
    exact (OnlyOne.singleton _ : OnlyOne _ fun _ => True) first second one other foundOne foundOther trivial trivial

theorem routeEnds (key : Text) : ∃ routes : RouteTable,
    system.next text (.routeEnds key) = { system with daemon := { system.daemon with routes }, answered := none } ∧
      AloneCrew watch text { system with daemon := { system.daemon with routes }, answered := none } crew := by
  obtain ⟨routes, ended, _, crewed⟩ := alone.crewed.routeEnded key
  refine ⟨routes, ended, crewed, alone.plain, alone.ofSession, alone.owned, alone.fresh, ?_, alone.steady, alone.unique⟩
  intro member present unfinished
  exact alone.steady member present system.daemon _ (.inl ⟨rfl, rfl⟩) (alone.held member present unfinished)

end AloneCrew

end SshProxy
