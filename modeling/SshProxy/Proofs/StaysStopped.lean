import SshProxy.Proofs.SessionPool

/-! What becomes of a session that was stopped. The request to stop it neither ends the runner of the
session nor leaves anything for it to see, so that a runner which is still at work brings the session
back. -/

namespace SshProxy
open Library Daemon ProxySessionSpec List Member

def SessionRole.stops (name : Text) : SessionRole → Prop
  | .request (.down id spec) => Watch.downNames id spec name
  | _ => False

/-- The request has the session in it, or the record of the session has the job of the session. -/
def SessionRole.comesToJob (name : Text) (daemon : Daemon) : SessionRole → Prop
  | .request (.down _ spec) => Watch.ComesToJob name daemon spec
  | _ => True

theorem SessionRole.not_touches_of_stops {name : Text} {role : SessionRole} (stops : role.stops name) :
    ¬ role.touches name := by
  cases role with
  | request asked =>
    cases asked with
    | down => exact not_false
    | ensure | remotePeer | apply => exact stops.elim
  | runner | reconcile => exact stops.elim

namespace SessionSystem

def Stopping (name : Text) (system : SessionSystem) : Prop :=
  ∃ task ∈ system.tasks, task.isFinished = false ∧ task.role.stops name

def ReportsStopped (name : Text) (system : SessionSystem) : Prop :=
  match system.answered with
  | some (.down id spec, .stopped routeId _ _ _ _) => Watch.downNames id spec name ∧ routeId = routeIdOf name
  | _ => False

theorem ReportsStopped.answered {name : Text} {system : SessionSystem} (reports : system.ReportsStopped name) :
    ∃ id spec job session routeStop cleanup, Watch.downNames id spec name ∧
      system.answered = some (.down id spec, .stopped (routeIdOf name) job session routeStop cleanup) := by
  unfold ReportsStopped at reports
  split at reports
  next answered =>
    obtain ⟨named, rfl⟩ := reports
    exact ⟨_, _, _, _, _, _, named, answered⟩
  next => exact reports.elim

/-- The session is stopped when nobody is at work on it, and nobody gets to work on it until that is
done. The request comes to the job of the session. Finished jobs are few enough that none is dropped. -/
def StopsAlone (name : Text) (system : SessionSystem) : SessionAction → Prop
  | .request request =>
    ((SessionRole.request request).touches name → ¬ system.Stopping name) ∧
      ((SessionRole.request request).stops name → system.Untouched name)
  | .step index _ =>
    system.daemon.Few ∧ ∀ role ∈ system.role? index, role.stops name → role.comesToJob name system.daemon
  | .routeEnds _ => system.daemon.Few
  | .restart => True

def LeavesStopped (name : Text) : SessionAction → Prop
  | .request request => ¬ (SessionRole.request request).touches name
  | .restart => False
  | .step _ _ | .routeEnds _ => True

def stopWatch (name : Text) : Watch where
  stopped := some name

structure Sealed (name : Text) (system : SessionSystem) : Prop where
  stopped : system.daemon.Stopped name
  untouched : system.Untouched name

structure StopCrew (name : Text) (text : IpText) (system : SessionSystem) (crew : List Member) : Prop where
  crewed : Crew (stopWatch name) text system crew
  plain : ∀ member ∈ crew, member.point.expected = false
  held : ∀ member ∈ crew, member.task.isFinished = false → member.point.claim system.daemon
  relying : ∀ member ∈ crew, (∀ daemon, member.point.claim daemon) ∨
    member.task.role.stops name ∧ Watch.Kept name member.point.claim
  apart : system.Stopping name → system.Untouched name
  reported : system.ReportsStopped name → system.Sealed name

variable {name : Text} {text : IpText} {system : SessionSystem} {crew : List Member}

section
variable {index : Nat} {after : SessionSystem} {later : List Member} {member next : Member} {write : DaemonWrite}

theorem Untouched.step (untouched : system.Untouched name) (crewed : Crew (stopWatch name) text system crew)
    (stepped : CrewStep (stopWatch name) text system crew index after later member write next) : after.Untouched name := by
  intro task present unfinished touches
  rw [stepped.crewed.tasks] at present
  obtain ⟨other, there, rfl⟩ := mem_map.mp present
  have mine : ¬ member.task.role.touches name :=
    untouched member.task (crewed.mem (mem_of_getElem? stepped.present)) stepped.step.unfinished
  obtain ⟨place, found⟩ := getElem?_of_mem there
  rcases stepped.member_cases crewed found with ⟨_, earlier⟩ | ⟨_, rfl⟩ | ⟨_, runner, spawned, rfl⟩
  · exact untouched other.task (crewed.mem (mem_of_getElem? earlier)) unfinished touches
  · rw [stepped.step.role] at touches
    exact mine touches
  · have within := (stepped.spawner crewed spawned).2.2.2.2
    apply mine
    cases runner with
    | session spec id =>
      change name = spec.name at touches
      exact touches ▸ within spec rfl
    | remotePeer peer id kind spec force =>
      obtain ⟨session, known, rfl⟩ := Option.map_eq_some_iff.mp touches
      exact within session known

theorem Stopping.before (stopping : after.Stopping name) (crewed : Crew (stopWatch name) text system crew)
    (stepped : CrewStep (stopWatch name) text system crew index after later member write next) : system.Stopping name := by
  obtain ⟨task, present, unfinished, stops⟩ := stopping
  rw [stepped.crewed.tasks] at present
  obtain ⟨other, there, rfl⟩ := mem_map.mp present
  obtain ⟨place, found⟩ := getElem?_of_mem there
  rcases stepped.member_cases crewed found with ⟨_, earlier⟩ | ⟨_, rfl⟩ | ⟨_, runner, _, rfl⟩
  · exact ⟨other.task, crewed.mem (mem_of_getElem? earlier), unfinished, stops⟩
  · rw [stepped.step.role] at stops
    exact ⟨member.task, crewed.mem (mem_of_getElem? stepped.present), stepped.step.unfinished, stops⟩
  · exact stops.elim

theorem Untouched.spares (untouched : system.Untouched name) (crewed : Crew (stopWatch name) text system crew)
    (stepped : CrewStep (stopWatch name) text system crew index after later member write next) :
    Spares name system.daemon after.daemon := by
  have mine : ¬ member.task.role.touches name :=
    untouched member.task (crewed.mem (mem_of_getElem? stepped.present)) stepped.step.unfinished
  rw [← (stopWatch name).scope_touches] at mine
  have spares := stepped.step.does.spares mine
  rw [stepped.daemon]
  exact ⟨spares.route, spares.job, spares.session⟩

theorem Sealed.step (kept : system.Sealed name) (few : system.daemon.Few) (crewed : Crew (stopWatch name) text system crew)
    (stepped : CrewStep (stopWatch name) text system crew index after later member write next) : after.Sealed name := by
  have spares := kept.untouched.spares crewed stepped
  exact ⟨⟨spares.route kept.stopped.route, spares.job few kept.stopped.job, spares.session kept.stopped.session⟩,
    kept.untouched.step crewed stepped⟩

end

theorem Sealed.request (kept : system.Sealed name) {asked : SessionRequest}
    (apart : ¬ (SessionRole.request asked).touches name) : (system.next text (.request asked)).Sealed name := by
  refine ⟨kept.stopped, ?_⟩
  intro task present unfinished
  rcases mem_append.mp present with old | new
  · exact kept.untouched task old unfinished
  · rw [mem_singleton.mp new]
    exact apart

theorem Sealed.routeEnds (kept : system.Sealed name) (id : Text) : (system.next text (.routeEnds id)).Sealed name := by
  obtain ⟨routes, ended, gone⟩ := system.endRoute_eq id
  change (system.endRoute id).Sealed name
  rw [ended]
  exact ⟨⟨gone _ kept.stopped.route, kept.stopped.job, kept.stopped.session⟩, kept.untouched⟩

namespace StopCrew

theorem initial : StopCrew name text {} [] where
  crewed := .initial False.elim
  plain _ never := nomatch never
  held _ never := nomatch never
  relying _ never := nomatch never
  apart _ := fun _ never => nomatch never
  reported never := never.elim

section
variable {index : Nat} {after : SessionSystem} {later : List Member} {member next : Member} {write : DaemonWrite}

theorem reported_step (stops : StopCrew name text system crew)
    (stepped : CrewStep (stopWatch name) text system crew index after later member write next)
    (reports : after.ReportsStopped name) : after.Sealed name := by
  obtain ⟨id, spec, job, session, routeStop, cleanup, named, answered⟩ := reports.answered
  obtain ⟨role, _, done⟩ := stepped.answered answered
  have stopped := done name _ job session routeStop cleanup ⟨rfl, named, rfl⟩ rfl
  have untouched : system.Untouched name := by
    apply stops.apart
    refine ⟨member.task, stops.crewed.mem (mem_of_getElem? stepped.present), stepped.step.unfinished, ?_⟩
    rw [← stepped.step.role, role]
    exact named
  refine ⟨?_, untouched.step stops.crewed stepped⟩
  rw [stepped.daemon]
  exact stopped _ stepped.step.holds.2

end

variable (stops : StopCrew name text system crew)
include stops

theorem step {index : Nat} {outside : SessionOutside} (enabled : system.enabled (.step index outside))
    (alone : system.StopsAlone name (.step index outside)) :
    ∃ later member write next, StopCrew name text (system.next text (.step index outside)) later ∧
      CrewStep (stopWatch name) text system crew index (system.next text (.step index outside)) later member write next := by
  obtain ⟨few, comes⟩ := alone
  have may (member : Member) (present : crew[index]? = some member) :
      (stopWatch name).allowed member.task.role outside system.daemon := by
    apply Watch.allowed_of
    · exact fun _ _ never => (never.elim id id).elim
    · intro id spec role other watched
      cases watched
      refine ⟨few, fun named => ?_⟩
      have comes := comes _ (stops.crewed.role? present)
      rw [role] at comes
      exact comes named
    · exact fun _ _ _ => ⟨False.elim, False.elim⟩
  obtain ⟨later, member, write, next, stepped⟩ := stops.crewed.stepped enabled may stops.held
  have old := mem_of_getElem? stepped.present
  have plain : next.point.expected = false := stepped.step.does.expected.trans (stops.plain member old)
  refine ⟨later, member, write, next, ⟨stepped.crewed, ?_, ?_, ?_, ?_, stops.reported_step stepped⟩, stepped⟩
  · exact stepped.forall_later stops.crewed stops.plain (fun _ => plain) fun _ => rfl
  · refine stepped.forall_beside stops.crewed ?_ ?_ ?_
    · intro place other _ earlier unfinished
      have there := mem_of_getElem? earlier
      rcases stops.relying other there with always | ⟨named, kept⟩
      · exact always _
      · have untouched := stops.apart ⟨other.task, stops.crewed.mem there, unfinished, named⟩
        exact kept _ _ few (untouched.spares stops.crewed stepped) (stops.held other there unfinished)
    · intro _
      rw [stepped.daemon]
      exact stepped.step.holds.2
    · intro runner _ _
      exact runner_trusting runner _
  · refine stepped.forall_later stops.crewed stops.relying ?_ fun runner => .inl (runner_trusting runner)
    intro _
    rcases stepped.step.relies not_false with always | ⟨_, _, never | expected⟩ | ⟨id, spec, _, role, same, named, kept⟩
    · exact .inl always
    · exact never.elim
    · rw [plain] at expected
      cases expected
    · cases same
      refine .inr ⟨?_, kept⟩
      rw [stepped.step.role, role]
      exact named
  · intro stopping
    exact (stops.apart (stopping.before stops.crewed stepped)).step stops.crewed stepped

theorem request {asked : SessionRequest} (alone : system.StopsAlone name (.request asked)) :
    StopCrew name text (system.next text (.request asked)) (crew ++ [request (stopWatch name) text asked]) := by
  have task := request_task (stopWatch name) text asked
  obtain ⟨touching, stopping⟩ := alone
  refine ⟨stops.crewed.requested (request_outlined not_false asked) task, ?_, ?_, ?_, ?_, ?_⟩
  · exact forall_joined stops.plain (request_expected asked)
  · exact forall_joined stops.held fun _ => request_trusting asked _
  · exact forall_joined stops.relying (.inl (request_trusting asked))
  · rintro ⟨stopper, present, unfinished, named⟩ task there busy
    rcases mem_append.mp present with old | new
    · -- the session is being stopped already, so nobody is let in
      have stopping : system.Stopping name := ⟨stopper, old, unfinished, named⟩
      rcases mem_append.mp there with earlier | latest
      · exact stops.apart stopping task earlier busy
      · rw [mem_singleton.mp latest]
        intro touches
        exact touching touches stopping
    · rw [mem_singleton.mp new] at named
      rcases mem_append.mp there with earlier | latest
      · exact stopping named task earlier busy
      · rw [mem_singleton.mp latest]
        exact SessionRole.not_touches_of_stops named
  · exact False.elim

theorem restart : StopCrew name text (system.next text .restart) [reconcile text fun _ => True] := by
  refine ⟨stops.crewed.restarted (reconcile_trusting not_false not_false), ?_, ?_, ?_, ?_, ?_⟩
  · exact forall_mem_singleton.mpr rfl
  · exact forall_mem_singleton.mpr fun _ => trivial
  · exact forall_mem_singleton.mpr (.inl fun _ => trivial)
  · rintro ⟨stopper, present, _, named⟩
    rw [mem_singleton.mp present] at named
    exact named.elim
  · exact False.elim

theorem routeEnds (few : system.daemon.Few) (key : Text) :
    StopCrew name text (system.next text (.routeEnds key)) crew := by
  obtain ⟨routes, ended, gone, crewed⟩ := stops.crewed.routeEnded key
  rw [ended]
  refine ⟨crewed, stops.plain, ?_, stops.relying, stops.apart, ?_⟩
  · intro member present unfinished
    rcases stops.relying member present with always | ⟨_, kept⟩
    · exact always _
    · exact kept _ _ few ⟨gone _, fun _ => id, id⟩ (stops.held member present unfinished)
  · exact False.elim

theorem next {action : SessionAction} (enabled : system.enabled action) (alone : system.StopsAlone name action) :
    ∃ later, StopCrew name text (system.next text action) later := by
  cases action with
  | request asked => exact ⟨_, stops.request alone⟩
  | step index outside =>
    obtain ⟨later, _, _, _, stopped, _⟩ := stops.step enabled alone
    exact ⟨later, stopped⟩
  | routeEnds id => exact ⟨crew, stops.routeEnds alone id⟩
  | restart => exact ⟨_, stops.restart⟩

theorem stays (kept : system.Sealed name) {action : SessionAction} (enabled : system.enabled action)
    (alone : system.StopsAlone name action) (leaves : LeavesStopped name action) :
    ∃ later, StopCrew name text (system.next text action) later ∧ (system.next text action).Sealed name := by
  cases action with
  | request asked => exact ⟨_, stops.request alone, kept.request leaves⟩
  | step index outside =>
    obtain ⟨later, _, _, _, stopped, stepped⟩ := stops.step enabled alone
    exact ⟨later, stopped, kept.step alone.1 stops.crewed stepped⟩
  | routeEnds id => exact ⟨crew, stops.routeEnds alone id, kept.routeEnds id⟩
  | restart => exact leaves.elim

end StopCrew

/-- A session that was stopped, with its job, while nobody was at work on it stays stopped until it is
asked for again. -/
theorem stopped_session_stays_stopped {before : SessionSystem} (run : (machine text).Run (StopsAlone name) before)
    (reported : before.ReportsStopped name) (since : (before.onward text).Run
      (fun system action => system.StopsAlone name action ∧ LeavesStopped name action) system) :
    system.daemon.Stopped name := by
  obtain ⟨crew, stops⟩ := run.exists_view (StopCrew name text) .initial StopCrew.next
  obtain ⟨_, _, kept⟩ := since.exists_view (fun system crew => StopCrew name text system crew ∧ system.Sealed name)
    ⟨stops, stops.reported reported⟩ fun ⟨stops, kept⟩ _ enabled ⟨alone, leaves⟩ => stops.stays kept enabled alone leaves
  exact kept.stopped

section
variable (name : Text)

instance (id : Option Text) (spec : Option ProxySessionSpec) : Decidable (Watch.downNames id spec name) :=
  have : Decidable (∃ session, spec = some session ∧ session.name = name) :=
    decidable_of_iff (∃ session ∈ spec, session.name = name) Iff.rfl
  inferInstanceAs (Decidable (_ ∨ _ ∨ _))

instance (role : SessionRole) : Decidable (role.stops name) := by
  rcases role with (_ | _ | _ | _) | _ | _ <;> dsimp only [SessionRole.stops] <;> infer_instance

variable (system : SessionSystem)

instance (daemon : Daemon) (role : SessionRole) : Decidable (role.comesToJob name daemon) := by
  rcases role with (_ | _ | ⟨_, _ | _⟩ | _) | _ | _ <;>
    dsimp only [SessionRole.comesToJob, Watch.ComesToJob] <;> infer_instance

instance : Decidable (system.ReportsStopped name) := by
  unfold ReportsStopped
  rcases system.answered with _ | ⟨_ | _, _ | _⟩ <;> dsimp only <;> infer_instance

instance : Decidable (system.Stopping name) := inferInstanceAs (Decidable (∃ task ∈ system.tasks, _))

instance (action : SessionAction) : Decidable (system.StopsAlone name action) := by
  rcases action with _ | _ <;> dsimp only [StopsAlone] <;> infer_instance

instance (action : SessionAction) : Decidable (LeavesStopped name action) := by
  rcases action with _ | _ <;> dsimp only [LeavesStopped] <;> infer_instance

end

def asksToStop (spec : ProxySessionSpec) : List SessionAction :=
  .request (.down none (some spec)) :: replicate 5 (.step 2 {})

instance (daemon : Daemon) (name : Text) : Decidable (daemon.RouteGone name) := inferInstanceAs (Decidable (_ = none))

instance (daemon : Daemon) (name : Text) : Decidable (daemon.JobCancelled name) :=
  decidable_of_iff (∃ job ∈ daemon.jobs.get (jobIdOf name), job.state = .cancelled) Iff.rfl

instance (daemon : Daemon) (name : Text) : Decidable (daemon.SessionCancelled name) :=
  have (record : ProxySessionRecord) : Decidable record.IsCancelled :=
    decidable_of_iff (record.state = .cancelled ∧ record.phase = .cancelled ∧ record.health = .cancelled)
      ⟨fun ⟨state, phase, health⟩ => ⟨state, phase, health⟩, fun ⟨state, phase, health⟩ => ⟨state, phase, health⟩⟩
  inferInstanceAs (Decidable (∀ record ∈ daemon.sessions.get (sessionIdOf name), record.IsCancelled))

theorem stopped_session_stays_stopped_ended : ∃ before system,
    (machine loopbackText).Run (StopsAlone hostSpec.name) before ∧ before.ReportsStopped hostSpec.name ∧
    (before.onward loopbackText).Run
      (fun system action => system.StopsAlone hostSpec.name action ∧ LeavesStopped hostSpec.name action) system ∧
    system.tasks.length = 4 ∧ system.daemon.Stopped hostSpec.name := by
  obtain ⟨before, system, run, reported, since, more⟩ := exists_onward loopbackText (StopsAlone hostSpec.name)
    (fun system action => system.StopsAlone hostSpec.name action ∧ LeavesStopped hostSpec.name action)
    (fun before => before.ReportsStopped hostSpec.name) (fun system => system.tasks.length = 4)
    (givesUp hostSpec ++ .request (.down (some hostSpec.routeId) none) :: replicate 5 (.step 2 {}))
    [.request (.down none (some hostSpec)), .step 3 {}] (by decide)
  exact ⟨before, system, run, reported, since, more, stopped_session_stays_stopped run reported since⟩

/-- The runner is still at work when its session is stopped, and brings job, session and route back. -/
theorem stopped_session_brought_back : ∃ before system,
    (machine loopbackText).Reachable before ∧ before.ReportsStopped hostSpec.name ∧
    (before.onward loopbackText).Run (fun _ action => LeavesStopped hostSpec.name action) system ∧
    ¬ system.daemon.JobCancelled hostSpec.name ∧ ¬ system.daemon.SessionCancelled hostSpec.name ∧
    ¬ system.daemon.RouteGone hostSpec.name := by
  apply exists_onward loopbackText (fun _ _ => True) (fun _ action => LeavesStopped hostSpec.name action)
    (fun before => before.ReportsStopped hostSpec.name)
    (fun system => ¬ system.daemon.JobCancelled hostSpec.name ∧ ¬ system.daemon.SessionCancelled hostSpec.name ∧
      ¬ system.daemon.RouteGone hostSpec.name)
    (accepts hostSpec ++ asksToStop hostSpec) (replicate 26 (.step 1 {}))
  decide

end SessionSystem
end SshProxy
