import SshProxy.Proofs.EnsureWalk
import SshProxy.Proofs.RequestWalks

/-! The daemon with a point for each of its tasks. A step of the daemon is a step of one outline, and
whatever is spawned starts an outline of its own. -/

namespace SshProxy
open Library Daemon ProxySessionSpec List

structure Member where
  task : SessionTask
  point : TaskPoint

def Watch.post (watch : Watch) (text : IpText) : SessionRole → Except String SessionResponse → TaskPoint → Prop
  | .request (.ensure spec), result, reached => EnsureEnd watch text spec result reached
  | .request (.down id spec), result, reached => DownEnd watch id spec result reached
  | .runner (.session _ _), _, reached => reached.toProgress.Ended watch.sure
  | .reconcile, _, reached => watch.careful → reached.owes = none
  | _, _, _ => True

variable {watch : Watch} {text : IpText} {daemon : Daemon}

theorem Watch.allowed_of {role : SessionRole} {outside : SessionOutside}
    (ensure : ∀ spec, role = .request (.ensure spec) → watch.careful ∨ watch.sure → outside.save = .ok ())
    (down : ∀ id spec, role = .request (.down id spec) → ∀ name, watch.stopped = some name →
      daemon.Few ∧ (Watch.downNames id spec name → Watch.ComesToJob name daemon spec))
    (session : ∀ spec id, role = .runner (.session spec id) → (watch.final → Watch.triesPorts spec → outside.Quiet) ∧
      (watch.sure → outside.save = .ok () ∧ outside.config = .ok ())) : watch.allowed role outside daemon := by
  cases role with
  | request asked =>
    cases asked with
    | ensure spec => exact ensure spec rfl
    | down id spec => exact down id spec rfl
    | _ => exact trivial
  | runner spawned =>
    cases spawned with
    | session spec id => exact session spec id rfl
    | remotePeer => exact trivial
  | reconcile => exact trivial

namespace Member

structure Outlined (watch : Watch) (text : IpText) (member : Member) : Prop where
  outline : Program.Outline (watch.allowed member.task.role) TaskPoint.holds (StepOf (watch.scope member.task.role))
    (watch.post text member.task.role) member.point member.task.program
  ends : ∀ spec, member.task.role = .request (.ensure spec) →
    member.task.program.EndsAt fun before after => after.spawned ≠ before.spawned
  owing : ∀ id, member.point.owes = some id → (watch.scope member.task.role).job = some id ∨
    ∃ record, (watch.scope member.task.role).writes record ∧ record.id = id ∧ record.isAwaited = true
  proper : ∀ runner, member.task.role = .runner runner → runner.Proper

def ensure (text : IpText) (spec : ProxySessionSpec) (expected : Bool) (claim : Daemon → Prop) : Member :=
  ⟨.request text (.ensure spec), ensureStart expected claim⟩

variable {claim : Daemon → Prop}

theorem ensure_outlined (plain : watch.addressed → watch.reads text) {spec : ProxySessionSpec} {expected : Bool}
    (claims : (watch.ensureScope spec).claims expected claim)
    (reuses : expected = true → ∀ daemon, claim daemon → reusesExisting text spec daemon = true)
    (addresses : watch.addressed → ∀ daemon job, claim daemon → daemon.jobs.get spec.jobId = some job →
      reusableProxySessionJob job true = true → job.remoteUrl = some (spec.remoteUrl text)) :
    (ensure text spec expected claim).Outlined watch text where
  outline := ensureProxySession_walk plain claims reuses addresses
  ends _ same := by
    cases same
    exact ensureProxySession_endsAt text spec
  owing _ owed := nomatch owed
  proper _ same := nomatch same

def request (watch : Watch) (text : IpText) : SessionRequest → Member
  | .ensure spec => ensure text spec false fun _ => True
  | .remotePeer operation spec bootstrap =>
    ⟨.request text (.remotePeer operation spec bootstrap), ({ fresh := true } : Progress).at (watch.peerScope spec bootstrap)⟩
  | .down id spec => ⟨.request text (.down id spec), ({} : Progress).at (watch.downScope id spec)⟩
  | .apply settings => ⟨.request text (.apply settings), ({} : Progress).at (watch.applyScope settings)⟩

theorem request_outlined (unaddressed : ¬ watch.addressed) (asked : SessionRequest) :
    (request watch text asked).Outlined watch text := by
  cases asked with
  | ensure spec =>
    apply ensure_outlined
    · intro addressed
      exact absurd addressed unaddressed
    · exact .inr (.inl fun _ => trivial)
    · intro never
      cases never
    · intro addressed
      exact absurd addressed unaddressed
  | remotePeer operation spec bootstrap =>
    refine ⟨acceptRemotePeerJob_walk operation spec bootstrap, ?_, ?_, ?_⟩
    all_goals
      intro _ never
      cases never
  | down id spec =>
    refine ⟨proxySessionDown_walk id spec, ?_, ?_, ?_⟩
    all_goals
      intro _ never
      cases never
  | apply settings =>
    refine ⟨?_, ?_, ?_, ?_⟩
    · apply Program.Outline.andThen (applyRemoteSettings_walk settings)
      · intro _ _ _
        trivial
      · intro _ _ _
        exact .pure trivial
    all_goals
      intro _ never
      cases never

def runner (watch : Watch) (text : IpText) (spawned : Runner) : Member :=
  ⟨.runner text spawned, spawned.start.at (watch.scope (.runner spawned))⟩

theorem runner_outlined (plain : watch.addressed → watch.reads text) {spawned : Runner} (proper : spawned.Proper) :
    (runner watch text spawned).Outlined watch text := by
  have none (spec : ProxySessionSpec) (same : (runner watch text spawned).task.role = .request (.ensure spec)) : False := by
    cases same
  have mine (other : Runner) (same : (runner watch text spawned).task.role = .runner other) : other.Proper := by
    cases same
    exact proper
  cases spawned with
  | session spec id =>
    refine ⟨?_, fun spec same => (none spec same).elim, fun _ owed => .inl owed, mine⟩
    apply Program.Outline.andThen (sessionRunner_walk plain proper)
    · intro _ _ ended
      exact ended
    · intro _ _ ended
      exact .pure ended
  | remotePeer peer id kind spec force =>
    refine ⟨?_, fun spec same => (none spec same).elim, fun _ owed => .inl owed, mine⟩
    apply Program.Outline.andThen
      (run_remotePeer_walk (peerRunner_of proper) force ((Runner.remotePeer peer id kind spec force).start_atWork _ _))
    · intro _ _ _
      trivial
    · intro _ _ _
      exact .pure trivial

def reconcile (text : IpText) (claim : Daemon → Prop) : Member := ⟨.reconcile text, ⟨{}, claim⟩⟩

theorem reconcile_outlined (plain : watch.addressed → watch.reads text)
    (fit : ∀ daemon : Daemon, daemon.sessions.Keyed → claim daemon →
      ∀ session ∈ daemon.sessions.sessions, Reconcilable watch text session) :
    (reconcile text claim).Outlined watch text where
  outline := by
    apply Program.Outline.andThen (reconcileProxySessions_walk plain fit)
    · intro _ _ reached
      obtain ⟨_, rfl, idle⟩ := reached
      exact idle
    · intro _ _ reached
      obtain ⟨_, rfl, idle⟩ := reached
      exact .pure idle
  ends _ same := nomatch same
  owing _ owed := nomatch owed
  proper _ same := nomatch same

theorem reconcile_trusting (uncareful : ¬ watch.careful) (unaddressed : ¬ watch.addressed) :
    (reconcile text fun _ => True).Outlined watch text := by
  apply reconcile_outlined fun addressed => absurd addressed unaddressed
  intro daemon keyed _ session present
  obtain ⟨entry, stored, rfl⟩ := mem_map.mp present
  exact ⟨(keyed.store entry stored).job, fun careful => absurd careful uncareful,
    fun addressed => absurd addressed unaddressed⟩

end Member

structure Crew (watch : Watch) (text : IpText) (system : SessionSystem) (crew : List Member) : Prop where
  tasks : system.tasks = crew.map (·.task)
  outlined : ∀ member ∈ crew, member.Outlined watch text
  keyed : system.daemon.sessions.Keyed
  settled : system.daemon.settled = system.daemon
  plain : watch.addressed → watch.reads text

def SessionSystem.Untouched (name : Text) (system : SessionSystem) : Prop :=
  ∀ task ∈ system.tasks, task.isFinished = false → ¬ task.role.touches name

instance (name : Text) (role : SessionRole) : Decidable (role.touches name) := by
  rcases role with (_ | _ | _ | _) | (_ | _) | _ <;> dsimp only [SessionRole.touches] <;> infer_instance

instance (name : Text) (system : SessionSystem) : Decidable (system.Untouched name) :=
  inferInstanceAs (Decidable (∀ task ∈ system.tasks, _))

def SessionSystem.role? (system : SessionSystem) (index : Nat) : Option SessionRole := (system.tasks[index]?).map (·.role)

namespace Crew
variable {system : SessionSystem} {crew : List Member} (crewed : Crew watch text system crew) {index : Nat} {member : Member}
include crewed

theorem task (present : crew[index]? = some member) : system.tasks[index]? = some member.task := by
  rw [crewed.tasks, getElem?_map, present]
  rfl

theorem mem (present : member ∈ crew) : member.task ∈ system.tasks := by
  rw [crewed.tasks]
  exact mem_map_of_mem present

theorem holds {point : TaskPoint} (claim : point.claim system.daemon) : point.holds system.daemon := by
  refine ⟨crewed.keyed, ?_⟩
  rw [crewed.settled]
  exact claim

theorem role? (present : crew[index]? = some member) : system.role? index = some member.task.role := by
  unfold SessionSystem.role?
  rw [crewed.task present]
  rfl

theorem spawned_nil : system.daemon.spawned = [] := by
  rw [← crewed.settled]
  rfl

theorem written_nil : system.daemon.written = [] := by
  rw [← crewed.settled]
  rfl

end Crew

structure MemberStep (watch : Watch) (text : IpText) (daemon : Daemon) (member : Member) (write : DaemonWrite)
    (next : Member) : Prop where
  unfinished : member.task.isFinished = false
  role : next.task.role = member.task.role
  written : next.task.written = member.task.written ++ (write.apply daemon).written
  does : Does (watch.scope member.task.role) daemon member.point.toProgress write next.point.toProgress
  claimed : next.point.claim = (watch.scope member.task.role).recall next.point.toProgress ∨
    (watch.scope member.task.role).claims next.point.expected next.point.claim
  holds : next.point.holds (write.apply daemon)
  outlined : next.Outlined watch text
  ended : (∃ spec, member.task.role = .request (.ensure spec)) → (write.apply daemon).spawned ≠ daemon.spawned →
    next.task.isFinished = true

theorem SessionSystem.taskStep_cases (text : IpText) {system : SessionSystem} {index : Nat} {role : SessionRole}
    {act : SessionOutside → Daemon → Daemon}
    {rest : SessionOutside → Daemon → Program Daemon SessionOutside (Except String SessionResponse)} {written : List JobRecord}
    (found : system.tasks[index]? = some ⟨role, .step act rest, written⟩) (outside : SessionOutside) :
    let daemon := act outside system.daemon
    let task : SessionTask := ⟨role, rest outside system.daemon, written ++ daemon.written⟩
    let history := system.history ++ daemon.written
    (role = .reconcile ∧ system.taskStep text index outside = { daemon := daemon.settled, running := false, history }) ∨
    system.taskStep text index outside =
      { system with
        daemon := daemon.settled
        tasks := system.tasks.set index task ++ daemon.spawned.map (.runner text)
        answered := answer task
        history } := by
  intro daemon task history
  unfold taskStep
  rw [found]
  dsimp only
  split
  next => exact .inl ⟨rfl, rfl⟩
  next => exact .inr rfl

variable {asked : SessionRequest}

theorem SessionSystem.answer_eq_some {task : SessionTask} {response : SessionResponse}
    (answered : SessionSystem.answer task = some (asked, response)) :
    task.role = .request asked ∧ task.program = .pure (.ok response) := by
  unfold SessionSystem.answer at answered
  split at answered
  next role program =>
    cases answered
    exact ⟨role, program⟩
  next => cases answered

theorem SessionSystem.endRoute_eq (system : SessionSystem) (id : Text) : ∃ routes : RouteTable,
    system.endRoute id = { system with daemon := { system.daemon with routes }, answered := none } ∧
      ∀ key, system.daemon.routes.get key = none → routes.get key = none := by
  unfold SessionSystem.endRoute
  split
  next task found =>
    refine ⟨_, rfl, ?_⟩
    intro key gone
    by_cases same : key = id
    · rw [same, found] at gone
      cases gone
    · rwa [SortedMap.get_insert_of_ne same]
  next => exact ⟨system.daemon.routes, rfl, fun _ gone => gone⟩

/-- A member of the crew takes a step. A start that fails ends the daemon with all of its tasks. -/
structure CrewStep (watch : Watch) (text : IpText) (system : SessionSystem) (crew : List Member) (index : Nat)
    (after : SessionSystem) (later : List Member) (member : Member) (write : DaemonWrite) (next : Member) : Prop where
  present : crew[index]? = some member
  step : MemberStep watch text system.daemon member write next
  daemon : after.daemon = (write.apply system.daemon).settled
  history : after.history = system.history ++ (write.apply system.daemon).written
  crewed : Crew watch text after later
  outcome : (later = [] ∧ after.running = false ∧ after.answered = none ∧ member.task.role = .reconcile) ∨
    (later = crew.set index next ++ (write.apply system.daemon).spawned.map (Member.runner watch text) ∧
      after.running = system.running ∧ after.answered = SessionSystem.answer next.task)

namespace Crew

theorem initial (plain : watch.addressed → watch.reads text) : Crew watch text {} [] where
  plain
  tasks := rfl
  outlined _ never := nomatch never
  keyed := ⟨fun _ never => (nomatch never), fun _ never => (nomatch never)⟩
  settled := rfl

variable {system : SessionSystem} {crew : List Member} (crewed : Crew watch text system crew)
include crewed

variable {write : DaemonWrite}

theorem proper {scope : Scope} {before after : Progress} (does : Does scope system.daemon before write after)
    {runner : Runner} (spawned : runner ∈ (write.apply system.daemon).spawned) : runner.Proper := by
  rcases does.spawned with ⟨same, _⟩ | ⟨_, _, other, same, proper, _⟩
  · rw [same, crewed.spawned_nil] at spawned
    cases spawned
  · rw [same, crewed.spawned_nil, nil_append, mem_singleton] at spawned
    exact spawned ▸ proper

theorem stepped {index : Nat} {outside : SessionOutside} (enabled : system.enabled (.step index outside))
    (may : ∀ member, crew[index]? = some member → watch.allowed member.task.role outside system.daemon)
    (held : ∀ member ∈ crew, member.task.isFinished = false → member.point.claim system.daemon) :
    ∃ later member write next,
      CrewStep watch text system crew index (system.next text (.step index outside)) later member write next := by
  have found : system.tasks[index]? = (crew[index]?).map (·.task) := by
    rw [crewed.tasks, getElem?_map]
  have enabled : (system.tasks[index]?).any (!·.isFinished) = true := enabled.1
  cases present : crew[index]? with
  | none =>
    rw [found, present] at enabled
    cases enabled
  | some member =>
    rw [present] at found
    obtain ⟨⟨role, program, written⟩, point⟩ := member
    have outlined := crewed.outlined _ (mem_of_getElem? present)
    cases program with
    | pure value =>
      rw [found] at enabled
      cases enabled
    | step act rest =>
      obtain ⟨later, holds, moves, outline⟩ :=
        outlined.outline.advance (may _ present) (crewed.holds (held _ (mem_of_getElem? present) rfl))
      obtain ⟨write, wrote, does⟩ := moves.does
      let next : Member := ⟨⟨role, rest outside system.daemon, written ++ (act outside system.daemon).written⟩, later⟩
      have stepped : MemberStep watch text system.daemon ⟨⟨role, .step act rest, written⟩, point⟩ write next := by
        refine ⟨rfl, rfl, ?_, does, moves.claimed, wrote ▸ holds, ⟨outline, ?_, ?_, outlined.proper⟩, ?_⟩
        · rw [← wrote]
        · intro spec same
          exact (outlined.ends spec same outside system.daemon).2
        · intro id owed
          rcases does.owing owed with before | written
          · exact outlined.owing id before
          · exact .inr written
        · intro ensure spawned
          obtain ⟨spec, same⟩ := ensure
          exact (outlined.ends spec same outside system.daemon).1 (wrote ▸ spawned)
      have keyed : (write.apply system.daemon).settled.sessions.Keyed := does.keyed crewed.keyed
      rcases SessionSystem.taskStep_cases text found outside with ⟨starts, fails⟩ | goes
      · refine ⟨[], ⟨⟨role, .step act rest, written⟩, point⟩, write, next, present, stepped, ?_, ?_, ?_, ?_⟩
        all_goals
          change system.next text (.step index outside) = _ at fails
          rw [wrote] at fails
          rw [fails]
        · refine ⟨rfl, ?_, keyed, rfl, crewed.plain⟩
          intro _ never
          cases never
        · exact .inl ⟨rfl, rfl, rfl, starts⟩
      · refine ⟨_, ⟨⟨role, .step act rest, written⟩, point⟩, write, next, present, stepped, ?_, ?_, ?_, .inr ⟨rfl, ?_⟩⟩
        all_goals
          change system.next text (.step index outside) = _ at goes
          rw [goes, wrote]
        · refine ⟨?_, ?_, keyed, rfl, crewed.plain⟩
          · rw [crewed.tasks, map_append, map_set, map_map, ← wrote]
            rfl
          · intro member present
            rcases mem_append.mp present with old | spawned
            · rcases mem_or_eq_of_mem_set old with earlier | rfl
              · exact crewed.outlined member earlier
              · exact stepped.outlined
            · obtain ⟨runner, mine, rfl⟩ := mem_map.mp spawned
              exact Member.runner_outlined crewed.plain (crewed.proper does mine)
        · refine ⟨rfl, ?_⟩
          rw [← wrote]

theorem requested {member : Member} (outlined : member.Outlined watch text) (task : member.task = .request text asked) :
    Crew watch text (system.next text (.request asked)) (crew ++ [member]) where
  tasks := by
    change system.tasks ++ [.request text asked] = _
    rw [map_append, ← crewed.tasks, ← task]
    rfl
  outlined := by
    intro other present
    rcases mem_append.mp present with old | new
    · exact crewed.outlined other old
    · exact mem_singleton.mp new ▸ outlined
  keyed := crewed.keyed
  settled := crewed.settled
  plain := crewed.plain

theorem restarted (outlined : (Member.reconcile text claim).Outlined watch text) :
    Crew watch text (system.next text .restart) [Member.reconcile text claim] where
  tasks := rfl
  outlined _ present := mem_singleton.mp present ▸ outlined
  keyed := ⟨crewed.keyed.file, crewed.keyed.file⟩
  settled := rfl
  plain := crewed.plain

theorem routeEnded (id : Text) : ∃ routes : RouteTable,
    system.next text (.routeEnds id) = { system with daemon := { system.daemon with routes }, answered := none } ∧
      (∀ key, system.daemon.routes.get key = none → routes.get key = none) ∧
      Crew watch text { system with daemon := { system.daemon with routes }, answered := none } crew := by
  obtain ⟨routes, ended, gone⟩ := system.endRoute_eq id
  exact ⟨routes, ended, gone, crewed.tasks, crewed.outlined, crewed.keyed,
    congrArg (fun daemon => { daemon with routes }) crewed.settled, crewed.plain⟩

end Crew

namespace CrewStep
variable {system after : SessionSystem} {crew later : List Member} {index : Nat} {member next : Member} {write : DaemonWrite}
  (stepped : CrewStep watch text system crew index after later member write next)
include stepped

theorem answered {response : SessionResponse} (answered : after.answered = some (asked, response)) :
    next.task.role = .request asked ∧ next.task.isFinished = true ∧ watch.post text (.request asked) (.ok response) next.point := by
  rcases stepped.outcome with ⟨_, _, none, _⟩ | ⟨_, _, answers⟩
  · rw [none] at answered
    cases answered
  · rw [answers] at answered
    obtain ⟨role, result⟩ := SessionSystem.answer_eq_some answered
    have outline := stepped.step.outlined.outline
    rw [result, role] at outline
    refine ⟨role, ?_, ?_⟩
    · unfold SessionTask.isFinished
      rw [result]
      rfl
    · cases outline with
      | pure done => exact done

theorem replaced (up : member.task.role ≠ .reconcile) : next ∈ later := by
  rcases stepped.outcome with ⟨_, _, _, starts⟩ | ⟨rfl, _⟩
  · exact absurd starts up
  · exact List.mem_append_left _ (List.mem_set (List.getElem?_eq_some_iff.mp stepped.present).1 next)

theorem kept (up : member.task.role ≠ .reconcile) {place : Nat} {other : Member} (apart : place ≠ index)
    (found : crew[place]? = some other) : other ∈ later := by
  rcases stepped.outcome with ⟨_, _, _, starts⟩ | ⟨rfl, _⟩
  · exact absurd starts up
  · apply List.mem_append_left
    apply mem_of_getElem? (i := place)
    rwa [getElem?_set_ne apart.symm]

variable (crewed : Crew watch text system crew)
include crewed

theorem member_cases {place : Nat} {other : Member} (found : later[place]? = some other) :
    (place ≠ index ∧ crew[place]? = some other) ∨ (place = index ∧ other = next) ∨
    (place = crew.length ∧ ∃ runner : Runner, (write.apply system.daemon).spawned = [runner] ∧
      other = Member.runner watch text runner) := by
  have bound : index < crew.length := (List.getElem?_eq_some_iff.mp stepped.present).1
  rcases stepped.outcome with ⟨none, _⟩ | ⟨rfl, _⟩
  · rw [none] at found
    cases found
  · by_cases within : place < crew.length
    · rw [getElem?_append_left (by rwa [length_set])] at found
      by_cases same : place = index
      · subst same
        rw [getElem?_set_self bound] at found
        exact .inr (.inl ⟨rfl, (Option.some.inj found).symm⟩)
      · rw [getElem?_set_ne (Ne.symm same)] at found
        exact .inl ⟨same, found⟩
    · right
      right
      rw [getElem?_append_right (by rw [length_set]; omega), length_set] at found
      rcases stepped.step.does.spawned with ⟨same, _⟩ | ⟨_, _, runner, same, _⟩
      · rw [same, crewed.spawned_nil] at found
        cases found
      · rw [crewed.spawned_nil, nil_append] at same
        rw [same] at found
        have first : place - crew.length = 0 := by
          have short := (List.getElem?_eq_some_iff.mp found).1
          simpa using short
        rw [first] at found
        exact ⟨by omega, runner, same, (Option.some.inj found).symm⟩

theorem spawner {runner : Runner} (spawned : (write.apply system.daemon).spawned = [runner]) :
    member.point.fresh = true ∧ next.point.fresh = false ∧ runner.Proper ∧
      (watch.scope member.task.role).job = some runner.jobId ∧
      ∀ spec, runner.spec? = some spec → member.task.role.touches spec.name := by
  rcases stepped.step.does.spawned with ⟨same, _⟩ | ⟨fresh, given, other, same, proper, job, within⟩
  · rw [same, crewed.spawned_nil] at spawned
    cases spawned
  · rw [crewed.spawned_nil, nil_append] at same
    cases same.symm.trans spawned
    exact ⟨fresh, given, proper, job, fun spec known => watch.scope_touches.mp (within spec known)⟩

variable {property : Member → Prop}

theorem forall_beside
    (others : ∀ place other, place ≠ index → crew[place]? = some other → property other) (own : property next)
    (spawned : ∀ runner, (write.apply system.daemon).spawned = [runner] → property (Member.runner watch text runner)) :
    ∀ other ∈ later, property other := by
  intro other present
  obtain ⟨place, found⟩ := getElem?_of_mem present
  rcases stepped.member_cases crewed found with ⟨apart, earlier⟩ | ⟨_, rfl⟩ | ⟨_, runner, mine, rfl⟩
  · exact others place other apart earlier
  · exact own
  · exact spawned runner mine

theorem forall_later (others : ∀ other ∈ crew, property other)
    (own : property member → property next) (spawned : ∀ runner, property (Member.runner watch text runner)) :
    ∀ other ∈ later, property other := by
  refine stepped.forall_beside crewed ?_ ?_ ?_
  · intro place other _ found
    exact others other (mem_of_getElem? found)
  · exact own (others member (mem_of_getElem? stepped.present))
  · exact fun runner _ => spawned runner

end CrewStep

def OnlyOne (crew : List Member) (property : Member → Prop) : Prop :=
  ∀ (first second : Nat) (one other : Member), crew[first]? = some one → crew[second]? = some other →
    property one → property other → first = second

namespace OnlyOne
variable {crew : List Member} {property : Member → Prop}

theorem singleton (member : Member) : OnlyOne [member] property := by
  intro first second one other foundOne foundOther _ _
  have boundOne := (List.getElem?_eq_some_iff.mp foundOne).1
  have boundOther := (List.getElem?_eq_some_iff.mp foundOther).1
  rw [length_singleton] at boundOne boundOther
  omega

variable {member next : Member}

theorem step {system after : SessionSystem} {later : List Member} {index : Nat} (only : OnlyOne crew property)
    (stepped : CrewStep watch text system crew index after later member write next)
    (crewed : Crew watch text system crew) (own : property next → property member)
    (given : ∀ runner, (write.apply system.daemon).spawned = [runner] → property (Member.runner watch text runner) →
      property member ∧ ¬ property next) :
    OnlyOne later property := by
  have source {place : Nat} {mate : Member} (found : later[place]? = some mate) (mine : property mate) :
      (∃ earlier, crew[place]? = some earlier ∧ property earlier) ∨
        place = crew.length ∧ property member ∧ ¬ property next := by
    rcases stepped.member_cases crewed found with ⟨_, earlier⟩ | ⟨rfl, rfl⟩ | ⟨last, runner, spawned, rfl⟩
    · exact .inl ⟨mate, earlier, mine⟩
    · exact .inl ⟨member, stepped.present, own mine⟩
    · exact .inr ⟨last, given runner spawned mine⟩
  -- who is spawned and who has spawned it do not both have the property
  have apart {place : Nat} {mate earlier : Member} (found : later[place]? = some mate) (mine : property mate)
      (present : crew[place]? = some earlier) (had : property earlier) (before : property member)
      (after : ¬ property next) : False := by
    have same := only place index earlier member present stepped.present had before
    subst same
    rcases stepped.member_cases crewed found with ⟨apart, _⟩ | ⟨_, rfl⟩ | ⟨last, _⟩
    · exact apart rfl
    · exact after mine
    · have bound := (List.getElem?_eq_some_iff.mp present).1
      omega
  intro first second one other foundOne foundOther mineOne mineOther
  rcases source foundOne mineOne with ⟨_, presentOne, hadOne⟩ | ⟨lastOne, before, after⟩
  · rcases source foundOther mineOther with ⟨_, presentOther, hadOther⟩ | ⟨_, before, after⟩
    · exact only first second _ _ presentOne presentOther hadOne hadOther
    · exact (apart foundOne mineOne presentOne hadOne before after).elim
  · rcases source foundOther mineOther with ⟨_, presentOther, hadOther⟩ | ⟨lastOther, _⟩
    · exact (apart foundOther mineOther presentOther hadOther before after).elim
    · exact lastOne.trans lastOther.symm

end OnlyOne

variable {crew : List Member}

theorem joined_cases {member other : Member} {place : Nat}
    (found : (crew ++ [member])[place]? = some other) : crew[place]? = some other ∨ place = crew.length ∧ other = member := by
  rcases Nat.lt_trichotomy place crew.length with within | rfl | beyond
  · rw [getElem?_append_left within] at found
    exact .inl found
  · rw [getElem?_concat_length] at found
    exact .inr ⟨rfl, (Option.some.inj found).symm⟩
  · have bound := (List.getElem?_eq_some_iff.mp found).1
    rw [length_append, length_singleton] at bound
    omega

variable {property : Member → Prop}

theorem OnlyOne.joined (only : OnlyOne crew property) {member : Member}
    (new : property member → ∀ other ∈ crew, ¬ property other) : OnlyOne (crew ++ [member]) property := by
  intro first second one other foundOne foundOther mineOne mineOther
  rcases joined_cases foundOne with old | ⟨last, rfl⟩
  · rcases joined_cases foundOther with older | ⟨_, rfl⟩
    · exact only first second one other old older mineOne mineOther
    · exact absurd mineOne (new mineOther one (mem_of_getElem? old))
  · rcases joined_cases foundOther with older | ⟨same, rfl⟩
    · exact absurd mineOther (new mineOne other (mem_of_getElem? older))
    · exact last.trans same.symm

theorem forall_joined {member : Member}
    (old : ∀ other ∈ crew, property other) (new : property member) : ∀ other ∈ crew ++ [member], property other :=
  forall_mem_append.mpr ⟨old, forall_mem_singleton.mpr new⟩

variable {member next : Member} {write : DaemonWrite}

theorem MemberStep.relies (unalone : ¬ watch.alone)
    (step : MemberStep watch text daemon member write next) : (∀ daemon, next.point.claim daemon) ∨
    (∃ spec, member.task.role = .request (.ensure spec) ∧ watch.keeps next.point.expected) ∨
    ∃ id spec name, member.task.role = .request (.down id spec) ∧ watch.stopped = some name ∧
      Watch.downNames id spec name ∧ Watch.Kept name next.point.claim := by
  have trusts {scope : Scope} (known : scope.alone → watch.alone) (recalled : next.point.claim = scope.recall next.point.toProgress) :
      ∀ daemon, next.point.claim daemon := by
    rw [recalled]
    intro daemon alone
    exact absurd (known alone) unalone
  have claimed := step.claimed
  cases role : member.task.role with
  | request asked =>
    rw [role] at claimed
    cases asked with
    | ensure spec =>
      rcases claimed with recalled | keeps | always | ⟨alone, _⟩ | ⟨sure, _⟩
      · exact .inl (trusts id recalled)
      · exact .inr (.inl ⟨spec, rfl, keeps⟩)
      · exact .inl always
      · exact absurd alone unalone
      · exact absurd (watch.certain sure) unalone
    | remotePeer operation spec bootstrap | apply settings => exact .inl (trusts False.elim (claimed.resolve_right id))
    | down key spec =>
      rcases claimed with recalled | always | ⟨name, stopped, named, kept⟩
      · exact .inl (trusts False.elim recalled)
      · exact .inl always
      · exact .inr (.inr ⟨key, spec, name, rfl, stopped, named, kept⟩)
  | runner spawned =>
    rw [role] at claimed
    cases spawned with
    | session spec jobId => exact .inl (trusts id (claimed.resolve_right id))
    | remotePeer => exact .inl (trusts False.elim (claimed.resolve_right id))
  | reconcile =>
    rw [role] at claimed
    exact .inl (trusts id (claimed.resolve_right id))

theorem MemberStep.trusting (step : MemberStep watch text daemon member write next)
    (unalone : ¬ watch.alone) (unfrozen : ¬ watch.frozen) (unstopped : watch.stopped = none)
    (plain : next.point.expected = false) : ∀ daemon, next.point.claim daemon := by
  rcases step.relies unalone with always | ⟨_, _, frozen | expected⟩ | ⟨_, _, _, _, stopped, _⟩
  · exact always
  · exact absurd frozen unfrozen
  · rw [plain] at expected
    cases expected
  · rw [unstopped] at stopped
    cases stopped

theorem Member.request_expected (asked : SessionRequest) : (Member.request watch text asked).point.expected = false := by
  cases asked <;> rfl

theorem Member.request_trusting (asked : SessionRequest) (daemon : Daemon) :
    (Member.request watch text asked).point.claim daemon := by
  cases asked with
  | ensure => exact trivial
  | remotePeer | down | apply => exact False.elim

theorem Member.runner_trusting (spawned : Runner) (daemon : Daemon) :
    (Member.runner watch text spawned).point.claim daemon := by
  intro _ record last
  cases last

theorem Member.request_task (watch : Watch) (text : IpText) (asked : SessionRequest) :
    (Member.request watch text asked).task = .request text asked := by
  cases asked <;> rfl

namespace SessionSystem

def onward (text : IpText) (system : SessionSystem) : Machine SessionSystem SessionAction :=
  { machine text with initial := system }

instance (text : IpText) (before system : SessionSystem) (action : SessionAction) :
    Decidable ((before.onward text).enabled system action) :=
  inferInstanceAs (Decidable (system.enabled action))

theorem exists_onward (text : IpText) (allowed later : SessionSystem → SessionAction → Prop)
    [∀ system action, Decidable (allowed system action)] [∀ system action, Decidable (later system action)]
    (reached property : SessionSystem → Prop) [DecidablePred reached] [DecidablePred property]
    (first second : List SessionAction)
    (holds : ((machine text).execute allowed first (machine text).initial).any (fun before => decide (reached before) &&
      ((before.onward text).execute later second before).any fun system => decide (property system)) = true) :
    ∃ before system, (machine text).Run allowed before ∧ reached before ∧ (before.onward text).Run later system ∧
      property system := by
  obtain ⟨before, run, both⟩ := Machine.exists_run (machine text) allowed (fun before => (decide (reached before) &&
    ((before.onward text).execute later second before).any fun system => decide (property system)) = true) first
    (by simpa only [Bool.decide_eq_true] using holds)
  obtain ⟨here, onward⟩ := Bool.and_eq_true_iff.mp both
  obtain ⟨system, since, found⟩ := Machine.exists_run (before.onward text) later property second onward
  exact ⟨before, system, run, of_decide_eq_true here, since, found⟩

/-- The session that an ensure has just reported as reused. -/
def reused? (system : SessionSystem) : Option ProxySessionSpec :=
  match system.answered with
  | some (.ensure spec, .accepted _ _ _ true) => some spec
  | _ => none

end SessionSystem

instance (daemon : Daemon) : Decidable daemon.Few := inferInstanceAs (Decidable (_ < _))

/-! A session of one host, to show runs with. -/

def loopbackText : IpText := ⟨fun _ => "127.0.0.1", fun _ => some (.v4 0x7f000001#32)⟩

def hostSpec : ProxySessionSpec where
  target := "host".toList
  workspaceId := none
  ssh := none
  workspacePaths := []
  localProxy := "http://127.0.0.1:10808/".toList
  remoteBind := .v4 0x7f000001#32
  remotePortPolicy := .new 17890
  connectMode := .reverseLink
  applyPolicy := {}

def accepts (spec : ProxySessionSpec) : List SessionAction := .request (.ensure spec) :: replicate 4 (.step 0 {})

/-- The route is up, but something else answers at the port. -/
def portTaken (spec : ProxySessionSpec) : List SessionAction :=
  let message := "remote port accepted TCP but did not speak ssh_proxy HTTP/SOCKS handoff protocol"
  accepts spec ++ replicate 35 (.step 1 {}) ++ [.step 1 { probe := .error ⟨"remote_port_conflict", message⟩ }] ++
    replicate 3 (.step 1 {})

def givesUp (spec : ProxySessionSpec) : List SessionAction :=
  accepts spec ++ [.step 1 { save := .error "no space left on device" }, .step 1 {}]

end SshProxy
