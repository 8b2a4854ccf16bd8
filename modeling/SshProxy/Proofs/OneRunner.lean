import SshProxy.Proofs.SessionPool

/-! How many runners a job has. Whether a job has one is decided from its stored record by an ensure,
and not at all by the requests about remote peers. -/

namespace SshProxy
open Library Daemon ProxySessionSpec List Member

def SessionRequest.jobId? : SessionRequest → Option Text
  | .ensure spec => some spec.jobId
  | .remotePeer _ spec bootstrap => (Watch.peerOf spec bootstrap).map remotePeerJobId
  | .down _ _ | .apply _ => none

/-- The request is an ensure, and would reuse the session if it were handled now. -/
def SessionRequest.wouldReuse (text : IpText) (daemon : Daemon) : SessionRequest → Bool
  | .ensure spec => reusesExisting text spec daemon
  | .remotePeer _ _ _ | .down _ _ | .apply _ => false

namespace SessionTask

def runs? (task : SessionTask) : Option Text :=
  match task.role with
  | .runner runner => if task.isFinished then none else some runner.jobId
  | _ => none

def asks? (task : SessionTask) : Option Text :=
  match task.role with
  | .request request => if task.isFinished then none else request.jobId?
  | _ => none

end SessionTask

namespace SessionSystem

def HasRunner (system : SessionSystem) (id : Text) : Prop := ∃ task ∈ system.tasks, task.runs? = some id

def OneRunner (system : SessionSystem) : Prop :=
  ∀ first < system.tasks.length, ∀ second < system.tasks.length, ∀ one ∈ system.tasks[first]?, ∀ other ∈ system.tasks[second]?,
    one.runs?.isSome = true → one.runs? = other.runs? → first = second

def MustReuse (system : SessionSystem) (task : SessionTask) : Prop :=
  match task.role with
  | .request (.ensure spec) => task.isFinished = false ∧ system.HasRunner spec.jobId
  | _ => False

/-- A request for a job arrives when no other one for it is handled, and when the job has no runner
or the request would reuse it. While an ensure is handled that must reuse its session, nothing else
happens. -/
def OneAtATime (text : IpText) (system : SessionSystem) : SessionAction → Prop
  | .request request =>
    (∀ task ∈ system.tasks, ¬ system.MustReuse task) ∧ ∀ id ∈ request.jobId?,
      (∀ task ∈ system.tasks, task.asks? ≠ some id) ∧ (¬ system.HasRunner id ∨ request.wouldReuse text system.daemon = true)
  | .step index _ => ∀ place < system.tasks.length, place ≠ index → ∀ task ∈ system.tasks[place]?, ¬ system.MustReuse task
  | .routeEnds _ => ∀ task ∈ system.tasks, ¬ system.MustReuse task
  | .restart => True

end SessionSystem

def Member.Claims (member : Member) (id : Text) : Prop :=
  member.task.runs? = some id ∨ member.task.asks? = some id ∧ member.point.fresh = true

namespace SessionSystem

def plainWatch : Watch := {}

theorem plainWatch_allowed (role : SessionRole) (outside : SessionOutside) (daemon : Daemon) :
    plainWatch.allowed role outside daemon :=
  Watch.allowed_of (fun _ _ never => (never.elim id id).elim) (fun _ _ _ _ never => nomatch never)
    fun _ _ _ => ⟨False.elim, False.elim⟩

structure RunnerCrew (text : IpText) (system : SessionSystem) (crew : List Member) : Prop where
  crewed : Crew plainWatch text system crew
  held : ∀ member ∈ crew, member.task.isFinished = false → member.point.claim system.daemon
  trusting : ∀ member ∈ crew, member.point.expected = false → ∀ daemon, member.point.claim daemon
  expecting : ∀ member ∈ crew, member.task.isFinished = false → member.point.expected = true → system.MustReuse member.task
  asking : ∀ member ∈ crew, member.point.fresh = true → ∃ request, member.task.role = .request request
  unique : ∀ (first second : Nat) (one other : Member) (id : Text), crew[first]? = some one → crew[second]? = some other →
    one.Claims id → other.Claims id → first = second

variable {text : IpText} {system : SessionSystem} {crew : List Member}

namespace RunnerCrew

theorem initial : RunnerCrew text {} [] where
  crewed := .initial False.elim
  held _ never := nomatch never
  trusting _ never := nomatch never
  expecting _ never := nomatch never
  asking _ never := nomatch never
  unique _ _ _ _ _ never := nomatch never

section
variable {index : Nat} {after : SessionSystem} {later : List Member} {member next : Member} {write : DaemonWrite}

theorem runner_claims {runner : Runner} {id : Text} (claims : (Member.runner plainWatch text runner).Claims id) :
    id = runner.jobId := by
  rcases claims with runs | ⟨_, never⟩
  · unfold SessionTask.runs? at runs
    change (if _ then none else some runner.jobId) = some id at runs
    split at runs
    next => cases runs
    next => exact (Option.some.inj runs).symm
  · cases never

theorem claims_before (step : MemberStep plainWatch text system.daemon member write next) {id : Text} (claims : next.Claims id) :
    member.Claims id := by
  have fresh (later : next.point.fresh = true) : member.point.fresh = true := by
    rcases step.does.spawned with ⟨_, same⟩ | ⟨before, _⟩
    · exact same ▸ later
    · exact before
  rcases claims with runs | ⟨asks, still⟩
  · left
    unfold SessionTask.runs? at runs ⊢
    rw [step.role] at runs
    rw [step.unfinished]
    split at runs
    next =>
      split at runs
      next => cases runs
      next => exact runs
    next => cases runs
  · refine .inr ⟨?_, fresh still⟩
    unfold SessionTask.asks? at asks ⊢
    rw [step.role] at asks
    rw [step.unfinished]
    split at asks
    next =>
      split at asks
      next => cases asks
      next => exact asks
    next => cases asks

theorem spawner (runners : RunnerCrew text system crew)
    (stepped : CrewStep plainWatch text system crew index after later member write next) {runner : Runner}
    (spawned : (write.apply system.daemon).spawned = [runner]) :
    member.Claims runner.jobId ∧ ∀ id, ¬ next.Claims id := by
  obtain ⟨fresh, given, _, mine, _⟩ := stepped.spawner runners.crewed spawned
  obtain ⟨request, role⟩ := runners.asking member (mem_of_getElem? stepped.present) fresh
  refine ⟨.inr ⟨?_, fresh⟩, ?_⟩
  · unfold SessionTask.asks?
    rw [role, stepped.step.unfinished]
    rw [role] at mine
    cases request with
    | ensure | remotePeer => exact mine
    | down | apply => cases mine
  · rintro id (runs | ⟨_, still⟩)
    · unfold SessionTask.runs? at runs
      rw [stepped.step.role, role] at runs
      cases runs
    · rw [given] at still
      cases still

theorem onlyOne (runners : RunnerCrew text system crew) (id : Text) : OnlyOne crew (·.Claims id) :=
  fun first second one other => runners.unique first second one other id

theorem unique_step (runners : RunnerCrew text system crew)
    (stepped : CrewStep plainWatch text system crew index after later member write next) (id : Text) :
    OnlyOne later (·.Claims id) := by
  apply (runners.onlyOne id).step stepped runners.crewed
  · exact claims_before stepped.step
  · intro runner spawned claims
    obtain ⟨before, after⟩ := runners.spawner stepped spawned
    exact ⟨runner_claims claims ▸ before, after id⟩

theorem mustReuse_step (stepped : CrewStep plainWatch text system crew index after later member write next)
    (crewed : Crew plainWatch text system crew) (must : system.MustReuse member.task)
    (unfinished : next.task.isFinished = false) : after.MustReuse next.task := by
  unfold MustReuse at must ⊢
  rw [stepped.step.role]
  split at must
  next spec role =>
    obtain ⟨_, task, present, runs⟩ := must
    refine ⟨unfinished, task, ?_, runs⟩
    obtain ⟨place, found⟩ := getElem?_of_mem present
    have apart : index ≠ place := by
      rintro rfl
      have mine := found.symm.trans (crewed.task stepped.present)
      cases mine
      unfold SessionTask.runs? at runs
      rw [role] at runs
      cases runs
    rw [stepped.crewed.tasks]
    rcases stepped.outcome with ⟨none, _, _, start⟩ | ⟨rfl, _⟩
    · rw [role] at start
      cases start
    · rw [map_append]
      apply mem_append_left
      rw [map_set, ← crewed.tasks]
      apply mem_of_getElem? (i := place)
      rwa [getElem?_set_ne apart]
  next => exact must.elim

end

variable (runners : RunnerCrew text system crew)
include runners

theorem calm {index : Nat} {outside : SessionOutside} (oneAtATime : system.OneAtATime text (.step index outside))
    {place : Nat} {other : Member} (apart : place ≠ index) (found : crew[place]? = some other) :
    ¬ system.MustReuse other.task := by
  have task := runners.crewed.task found
  exact oneAtATime place (List.getElem?_eq_some_iff.mp task).1 apart other.task task

theorem step {index : Nat} {outside : SessionOutside} (enabled : system.enabled (.step index outside))
    (oneAtATime : system.OneAtATime text (.step index outside)) :
    ∃ later, RunnerCrew text (system.next text (.step index outside)) later := by
  obtain ⟨later, member, write, next, stepped⟩ := runners.crewed.stepped enabled
    (fun _ _ => plainWatch_allowed _ _ _) runners.held
  have old := mem_of_getElem? stepped.present
  refine ⟨later, stepped.crewed, ?_, ?_, ?_, ?_, ?_⟩
  · refine stepped.forall_beside runners.crewed ?_ ?_ ?_
    · intro place other apart earlier unfinished
      have there := mem_of_getElem? earlier
      apply runners.trusting other there
      apply Bool.eq_false_of_not_eq_true
      intro expected
      exact runners.calm oneAtATime apart earlier (runners.expecting other there unfinished expected)
    · intro _
      rw [stepped.daemon]
      exact stepped.step.holds.2
    · intro runner _ _
      exact runner_trusting runner _
  · refine stepped.forall_later runners.crewed runners.trusting ?_ ?_
    · intro _
      exact stepped.step.trusting not_false not_false rfl
    · intro runner _
      exact runner_trusting runner
  · refine stepped.forall_beside runners.crewed ?_ ?_ ?_
    · intro place other apart earlier unfinished expected
      have must := runners.expecting other (mem_of_getElem? earlier) unfinished expected
      exact absurd must (runners.calm oneAtATime apart earlier)
    · intro unfinished expected
      rw [stepped.step.does.expected] at expected
      exact mustReuse_step stepped runners.crewed (runners.expecting member old stepped.step.unfinished expected) unfinished
    · intro runner _ _ never
      cases never
  · refine stepped.forall_later runners.crewed runners.asking ?_ ?_
    · intro asking fresh
      rw [stepped.step.role]
      rcases stepped.step.does.spawned with ⟨_, same⟩ | ⟨before, _⟩
      · exact asking (same ▸ fresh)
      · exact asking before
    · intro runner never
      cases never
  · exact fun first second one other id => runners.unique_step stepped id first second one other

theorem joined {asked : SessionRequest} {member : Member} (outlined : member.Outlined plainWatch text)
    (task : member.task = .request text asked) (held : member.point.claim system.daemon)
    (trusting : member.point.expected = false → ∀ daemon, member.point.claim daemon)
    (expecting : member.point.expected = true → system.MustReuse member.task)
    (unclaimed : ∀ id, member.Claims id → ∀ other ∈ crew, ¬ other.Claims id) :
    RunnerCrew text (system.next text (.request asked)) (crew ++ [member]) := by
  have grows {other : SessionTask} (must : system.MustReuse other) : (system.next text (.request asked)).MustReuse other := by
    unfold MustReuse at must ⊢
    split at must
    next =>
      obtain ⟨unfinished, runner, present, runs⟩ := must
      exact ⟨unfinished, runner, mem_append_left _ present, runs⟩
    next => exact must
  refine ⟨runners.crewed.requested outlined task, ?_, ?_, ?_, ?_, ?_⟩
  · exact forall_joined runners.held fun _ => held
  · exact forall_joined runners.trusting trusting
  · apply forall_joined
    · exact fun other old unfinished expected => grows (runners.expecting other old unfinished expected)
    · exact fun _ expected => grows (expecting expected)
  · exact forall_joined runners.asking fun _ => ⟨asked, task ▸ rfl⟩
  · exact fun first second one other id => (runners.onlyOne id).joined (unclaimed id) first second one other

theorem request {asked : SessionRequest} (oneAtATime : system.OneAtATime text (.request asked)) :
    ∃ later, RunnerCrew text (system.next text (.request asked)) later := by
  obtain ⟨_, single⟩ := oneAtATime
  by_cases runs : ∃ id ∈ asked.jobId?, system.HasRunner id
  · -- the request can only be an ensure, and finds what it is to reuse
    obtain ⟨id, mine, runs⟩ := runs
    have reuses := (single id mine).2.resolve_left (not_not_intro runs)
    cases asked with
    | ensure spec =>
      cases mine
      let claim (daemon : Daemon) : Prop := reusesExisting text spec daemon = true
      have outlined : (ensure text spec true claim).Outlined plainWatch text := by
        apply ensure_outlined False.elim
        · exact .inl (.inr rfl)
        · exact fun _ _ reuses => reuses
        · exact False.elim
      refine ⟨_, runners.joined outlined rfl reuses ?_ ?_ ?_⟩
      · intro never
        cases never
      · intro _
        exact ⟨rfl, runs⟩
      · rintro id (never | ⟨_, never⟩)
        · cases never
        · cases never
    | remotePeer => cases reuses
    | down => cases mine
    | apply => cases mine
  · have task := request_task plainWatch text asked
    refine ⟨_, runners.joined (request_outlined not_false asked) task (request_trusting asked _) ?_ ?_ ?_⟩
    · intro _
      exact request_trusting asked
    · intro expected
      rw [request_expected asked] at expected
      cases expected
    · intro id claims other present claimed
      have mine : id ∈ asked.jobId? := by
        rcases claims with never | ⟨asks, _⟩
        · rw [task] at never
          cases never
        · unfold SessionTask.asks? at asks
          rw [task] at asks
          change (if _ then none else asked.jobId?) = some id at asks
          split at asks
          next => cases asks
          next => exact asks
      rcases claimed with running | ⟨asking, _⟩
      · exact runs ⟨id, mine, other.task, runners.crewed.mem present, running⟩
      · exact (single id mine).1 other.task (runners.crewed.mem present) asking

theorem restart : RunnerCrew text (system.next text .restart) [reconcile text fun _ => True] := by
  refine ⟨runners.crewed.restarted (reconcile_trusting not_false not_false), ?_, ?_, ?_, ?_, ?_⟩
  · exact forall_mem_singleton.mpr fun _ => trivial
  · exact forall_mem_singleton.mpr fun _ _ => trivial
  · exact forall_mem_singleton.mpr fun _ never => nomatch never
  · exact forall_mem_singleton.mpr fun never => nomatch never
  · exact fun first second one other id => (OnlyOne.singleton _ : OnlyOne _ (·.Claims id)) first second one other

theorem routeEnds {id : Text} (oneAtATime : system.OneAtATime text (.routeEnds id)) :
    RunnerCrew text (system.next text (.routeEnds id)) crew := by
  obtain ⟨routes, ended, _, crewed⟩ := runners.crewed.routeEnded id
  rw [ended]
  refine ⟨crewed, ?_, runners.trusting, runners.expecting, runners.asking, runners.unique⟩
  intro member present unfinished
  apply runners.trusting member present
  apply Bool.eq_false_of_not_eq_true
  intro expected
  exact oneAtATime member.task (runners.crewed.mem present) (runners.expecting member present unfinished expected)

theorem next {action : SessionAction} (enabled : system.enabled action) (oneAtATime : system.OneAtATime text action) :
    ∃ later, RunnerCrew text (system.next text action) later := by
  cases action with
  | request asked => exact runners.request oneAtATime
  | step index outside => exact runners.step enabled oneAtATime
  | routeEnds id => exact ⟨crew, runners.routeEnds oneAtATime⟩
  | restart => exact ⟨_, runners.restart⟩

end RunnerCrew

/-- No job has two runners in a run in which a request for a job arrives when no other one for it is
handled, and when the job has no runner or the request is an ensure that finds it to be reusable and is
handled without interruption. -/
theorem job_has_one_runner (run : (machine text).Run (OneAtATime text) system) : system.OneRunner := by
  obtain ⟨crew, runners⟩ := run.exists_view (RunnerCrew text) .initial RunnerCrew.next
  intro first _ second _ one foundOne other foundOther runs same
  rw [runners.crewed.tasks, getElem?_map] at foundOne foundOther
  obtain ⟨member, presentOne, rfl⟩ := Option.map_eq_some_iff.mp foundOne
  obtain ⟨mate, presentOther, rfl⟩ := Option.map_eq_some_iff.mp foundOther
  obtain ⟨id, runs⟩ := Option.isSome_iff_exists.mp runs
  exact runners.unique first second member mate id presentOne presentOther (.inl runs) (.inl (same.symm.trans runs))

instance (system : SessionSystem) (id : Text) : Decidable (system.HasRunner id) :=
  inferInstanceAs (Decidable (∃ task ∈ system.tasks, _))

instance (system : SessionSystem) (task : SessionTask) : Decidable (system.MustReuse task) := by
  unfold MustReuse
  rcases task.role with (_ | _ | _ | _) | _ | _ <;> dsimp only <;> infer_instance

instance (system : SessionSystem) : Decidable system.OneRunner :=
  have (first second : Nat) : Decidable (∀ one ∈ system.tasks[first]?, ∀ other ∈ system.tasks[second]?,
      one.runs?.isSome = true → one.runs? = other.runs? → first = second) := inferInstance
  inferInstanceAs (Decidable (∀ first < system.tasks.length, _))

instance (text : IpText) (system : SessionSystem) (action : SessionAction) :
    Decidable (system.OneAtATime text action) := by
  rcases action with _ | _ <;> dsimp only [OneAtATime] <;> infer_instance

theorem job_has_one_runner_asked_again : ∃ system, (machine loopbackText).Run (OneAtATime loopbackText) system ∧
    system.HasRunner hostSpec.jobId ∧ system.tasks.length = 3 ∧ system.OneRunner := by
  obtain ⟨system, run, runs, asked⟩ := Machine.exists_run (machine loopbackText) (OneAtATime loopbackText)
    (fun system => system.HasRunner hostSpec.jobId ∧ system.tasks.length = 3)
    (accepts hostSpec ++ replicate 3 (.step 1 {}) ++ [.request (.ensure hostSpec)] ++ replicate 5 (.step 2 {}))
    (by decide)
  exact ⟨system, run, runs, asked, job_has_one_runner run⟩

/-- Two ensures that both look before the first of them has stored its job get a runner each, and so do
two requests about one remote peer, of which none looks. -/
theorem job_with_two_runners : (∃ system, (machine loopbackText).Reachable system ∧ ¬ system.OneRunner ∧
      ∀ task ∈ system.tasks, ∀ id ∈ task.runs?, id = hostSpec.jobId) ∧
    ∃ system, (machine loopbackText).Reachable system ∧ ¬ system.OneRunner ∧
      ∀ task ∈ system.tasks, ∀ id ∈ task.runs?, id = remotePeerJobId hostSpec.target := by
  constructor
  · apply Machine.exists_reachable (machine loopbackText)
      (fun system => ¬ system.OneRunner ∧ ∀ task ∈ system.tasks, ∀ id ∈ task.runs?, id = hostSpec.jobId)
      ([.request (.ensure hostSpec), .request (.ensure hostSpec), .step 0 {}, .step 1 {}] ++
        replicate 3 (.step 0 {}) ++ replicate 3 (.step 1 {}))
    decide
  · apply Machine.exists_reachable (machine loopbackText)
      (fun system => ¬ system.OneRunner ∧ ∀ task ∈ system.tasks, ∀ id ∈ task.runs?, id = remotePeerJobId hostSpec.target)
      ([.request (.remotePeer .ensure (some hostSpec) none)] ++ replicate 3 (.step 0 {}) ++
        [.request (.remotePeer .ensure (some hostSpec) none)] ++ replicate 3 (.step 2 {}))
    decide

end SessionSystem
end SshProxy
