import SshProxy.Proofs.OneRunner

/-! Sessions are apart from each other. Whatever requests, runners and restarts there are, a task that is
not about a session writes nothing to the job of that session but that it is cancelled. -/

namespace SshProxy
open Library List Daemon ProxySessionSpec Member SessionSystem

variable {text : IpText}

/-- A crew of which nothing is assumed, nor of what comes between its steps. -/
structure FreeCrew (text : IpText) (system : SessionSystem) (crew : List Member) : Prop where
  crewed : Crew plainWatch text system crew
  plain : ∀ member ∈ crew, member.point.expected = false
  trusting : ∀ member ∈ crew, ∀ daemon, member.point.claim daemon

namespace FreeCrew

theorem initial : FreeCrew text {} [] where
  crewed := .initial False.elim
  plain := forall_mem_nil _
  trusting := forall_mem_nil _

variable {system : SessionSystem} {crew : List Member} (free : FreeCrew text system crew)
include free

theorem stepped {index : Nat} {outside : SessionOutside} (enabled : system.enabled (.step index outside)) :
    ∃ later member write next,
      CrewStep plainWatch text system crew index (system.next text (.step index outside)) later member write next :=
  free.crewed.stepped enabled (fun _ _ => plainWatch_allowed _ _ _) fun member present _ => free.trusting member present _

theorem next {action : SessionAction} (enabled : system.enabled action) :
    ∃ later, FreeCrew text (system.next text action) later := by
  cases action with
  | request asked =>
    refine ⟨_, free.crewed.requested (request_outlined not_false asked) (request_task _ text asked), ?_, ?_⟩
    · exact forall_joined free.plain (request_expected asked)
    · exact forall_joined free.trusting (request_trusting asked)
  | step index outside =>
    obtain ⟨later, member, write, next, stepped⟩ := free.stepped enabled
    have plain := stepped.step.does.expected.trans (free.plain member (mem_of_getElem? stepped.present))
    refine ⟨later, stepped.crewed, ?_, ?_⟩
    · exact stepped.forall_later free.crewed free.plain (fun _ => plain) fun _ => rfl
    · exact stepped.forall_later free.crewed free.trusting
        (fun _ => stepped.step.trusting not_false not_false rfl plain) runner_trusting
  | routeEnds id =>
    obtain ⟨routes, ended, _, crewed⟩ := free.crewed.routeEnded id
    exact ⟨crew, ended ▸ ⟨crewed, free.plain, free.trusting⟩⟩
  | restart =>
    refine ⟨_, free.crewed.restarted (reconcile_trusting not_false not_false), ?_, ?_⟩
    · exact forall_mem_singleton.mpr rfl
    · exact forall_mem_singleton.mpr fun _ => trivial

end FreeCrew

/-- What becomes of a job: it stays as it is, or it is cancelled; once it has ended or been cancelled it may be
dropped, and only if there are many. -/
inductive JobFate (id : Text) (before after : Daemon) (written : List JobRecord) : Prop where
  | kept (same : after.jobs.get id = before.jobs.get id)
  | cancelled (job : JobRecord) (stored : after.jobs.get id = some job) (state : job.state = .cancelled)
  | dropped (gone : after.jobs.get id = none) (many : ¬ before.Few)
      (ended : (∃ job, before.jobs.get id = some job ∧ job.state.isTerminal = true) ∨
        ∃ record ∈ written, record.id = id ∧ record.state = .cancelled)

theorem Daemon.Elsewhere.fate {id : Text} {before after : Daemon} (elsewhere : Elsewhere id before after)
    (written : List JobRecord) : JobFate id before after written := by
  rcases elsewhere.fades with same | gone
  · exact .kept same
  cases found : before.jobs.get id with
  | none => exact .kept (gone.trans found.symm)
  | some job =>
    have unlike : after.jobs.get id ≠ before.jobs.get id := by
      rw [gone, found]
      exact nofun
    refine .dropped gone (fun few => unlike (elsewhere.same few)) (.inl ⟨job, found, ?_⟩)
    cases ended : job.state.isTerminal with
    | true => rfl
    | false =>
      rw [elsewhere.kept job found ended] at gone
      cases gone

/-- What is left of a session by a step that cannot reach it: its job, unless that has ended and there are
many, what its record says, but for notes on its setup, and its route as long as that is live. -/
structure LeftAlone (name : Text) (before after : Daemon) : Prop where
  job : Elsewhere (jobIdOf name) before after
  session : Option.Rel ProxySessionRecord.Alike (after.sessions.get (sessionIdOf name)) (before.sessions.get (sessionIdOf name))
  route : ∀ task, before.routes.get (routeIdOf name) = some task → task.finished = false →
    after.routes.get (routeIdOf name) = some task

theorem ProxySessionRecord.alike_refl (stored : Option ProxySessionRecord) : Option.Rel Alike stored stored := by
  cases stored with
  | none => exact .none
  | some => exact .some ⟨rfl, rfl, rfl, rfl, rfl, rfl, rfl, rfl, rfl, rfl⟩

namespace Does
variable {scope : Scope} {daemon : Daemon} {write : DaemonWrite} {before after : Progress} {name : Text}
  (does : Does scope daemon before write after)
include does

theorem job_fate (apart : ¬ scope.touches name) :
    JobFate (jobIdOf name) daemon (write.apply daemon) (write.apply daemon).written := by
  cases does with
  | job now save record message may =>
    by_cases mine : record.id = jobIdOf name
    · have cancelled := (scope.apart record name may mine).2.resolve_left apart
      cases found : (daemon.jobs.upsert now save record message).1.get (jobIdOf name) with
      | some job =>
        rw [← mine] at found
        cases JobRegistry.upsert_get_self found
        exact .cancelled record (mine ▸ found) cancelled
      | none =>
        refine .dropped found ?_ (.inr ⟨record, mem_append_right _ mem_cons_self, mine, cancelled⟩)
        intro few
        rw [JobRegistry.get, JobRegistry.upsert_jobs_of_few few, ← mine, JobStore.get_insert_self] at found
        cases found
    · exact (Elsewhere.of_upsert (Ne.symm mine) daemon now save message).fate _
  | _ => exact .kept rfl

theorem leftAlone (keyed : daemon.sessions.Keyed) (apart : ¬ scope.reaches name) (untouched : ¬ scope.touches name) :
    LeftAlone name daemon (write.apply daemon) := by
  have job : Elsewhere (jobIdOf name) daemon (write.apply daemon) :=
    does.elsewhere fun record may same => apart (scope.apart record name may same).1
  have same (stored : Option ProxySessionRecord) := ProxySessionRecord.alike_refl stored
  cases does with
  | routes kept live => exact ⟨job, same _, fun task => live daemon.routes name task apart⟩
  | session text now save spec told touches own =>
    have other : name ≠ spec.name := by
      rintro rfl
      exact untouched touches
    refine ⟨job, ?_, fun _ found _ => found⟩
    exact (SessionRegistry.upsertFromJob_get_of_ne other text now).symm ▸ same _
  | status save condition alike =>
    refine ⟨job, ?_, fun _ found _ => found⟩
    generalize found : (DaemonWrite.apply _ daemon).sessions.get (sessionIdOf name) = result
    rcases SessionRegistry.changeFirst_get found with rfl | ⟨record, stored, _, rfl⟩
    · exact same _
    · exact stored ▸ .some (alike record)
  | cancel now save routeId jobId error may own =>
    refine ⟨job, ?_, fun _ found _ => found⟩
    generalize found : (DaemonWrite.apply _ daemon).sessions.get (sessionIdOf name) = result
    rcases SessionRegistry.changeFirst_get found with rfl | ⟨record, stored, met, _⟩
    · exact same _
    · have belongs := keyed.store _ (SortedMap.mem_of_get stored)
      have mine : name = record.name := sessionIdOf_inj.mp belongs.key
      refine absurd (own name ?_) apart
      rcases of_decide_eq_true met with route | job
      · exact .inl (route.symm.trans (mine ▸ belongs.route))
      · exact .inr (job ▸ mine ▸ belongs.job)
  | _ => exact ⟨job, same _, fun _ found _ => found⟩

end Does

namespace SessionSystem
variable {system : SessionSystem} {index : Nat} {outside : SessionOutside} {task : SessionTask} {name : Text}

theorem step_does (reached : (machine text).Reachable system) (enabled : system.enabled (.step index outside))
    (found : system.tasks[index]? = some task) : ∃ crew later member write next,
      Crew plainWatch text system crew ∧ member.task = task ∧
      CrewStep plainWatch text system crew index (system.next text (.step index outside)) later member write next := by
  obtain ⟨crew, free⟩ := reached.exists_view (FreeCrew text) .initial fun free _ enabled _ => free.next enabled
  obtain ⟨later, member, write, next, stepped⟩ := free.stepped enabled
  exact ⟨crew, later, member, write, next, free.crewed,
    Option.some.inj ((free.crewed.task stepped.present).symm.trans found), stepped⟩

/-- In every state that the daemon can reach, a step of a task which is not about a session leaves the job of
the session as it is, or cancels it, or drops what has ended. -/
theorem foreign_step_keeps_job (reached : (machine text).Reachable system) (enabled : system.enabled (.step index outside))
    (found : system.tasks[index]? = some task) (apart : ¬ task.role.touches name) :
    ∃ written, (system.next text (.step index outside)).history = system.history ++ written ∧
      JobFate (jobIdOf name) system.daemon (system.next text (.step index outside)).daemon written := by
  obtain ⟨crew, later, member, write, next, _, rfl, stepped⟩ := step_does reached enabled found
  refine ⟨_, stepped.history, ?_⟩
  rw [stepped.daemon]
  cases stepped.step.does.job_fate (mt plainWatch.scope_touches.mp apart) with
  | kept same => exact .kept same
  | cancelled job stored state => exact .cancelled job stored state
  | dropped gone many ended => exact .dropped gone many ended

theorem foreign_step_keeps_job_second_host : ∃ system written, (machine loopbackText).Reachable system ∧
    ((system.next loopbackText (.step 2 {})).daemon.jobs.get hostSpec.jobId).isSome ∧
    JobFate hostSpec.jobId system.daemon (system.next loopbackText (.step 2 {})).daemon written := by
  obtain ⟨system, reached, enabled, apart, kept⟩ := Machine.exists_reachable (machine loopbackText)
    (fun system => system.enabled (.step 2 {}) ∧ (∃ task ∈ system.tasks[2]?, ¬ task.role.touches hostSpec.name) ∧
      ((system.next loopbackText (.step 2 {})).daemon.jobs.get hostSpec.jobId).isSome)
    (accepts hostSpec ++ [.request (.ensure { hostSpec with target := "second".toList })] ++ replicate 3 (.step 2 {}))
    (by decide)
  obtain ⟨task, found, apart⟩ := apart
  obtain ⟨written, _, fate⟩ := foreign_step_keeps_job reached enabled found apart
  exact ⟨system, written, reached, kept, fate⟩

theorem unreached_step_leaves_alone (reached : (machine text).Reachable system)
    (enabled : system.enabled (.step index outside)) (found : system.tasks[index]? = some task)
    (apart : ¬ task.role.reaches name) : LeftAlone name system.daemon (system.next text (.step index outside)).daemon := by
  obtain ⟨crew, later, member, write, next, crewed, rfl, stepped⟩ := step_does reached enabled found
  have left := stepped.step.does.leftAlone crewed.keyed (mt plainWatch.scope_reaches.mp apart)
    (mt plainWatch.scope_touches.mp (mt SessionRole.reaches_of_touches apart))
  rw [stepped.daemon]
  exact ⟨⟨left.job.fades, left.job.kept, left.job.same⟩, left.session, left.route⟩

end SessionSystem
end SshProxy
