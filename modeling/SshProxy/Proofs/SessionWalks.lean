import SshProxy.Proofs.SessionSteps

/-! Outlines of the parts of a task. Some parts leave the task where it is; the others write a job
record, and with it the job goes on or comes to its end. -/

namespace SshProxy
open Library Daemon ProxySessionSpec Program.Outline SessionRegistry

abbrev Walk {α : Type} (allowed : SessionOutside → Daemon → Prop) (scope : Scope) (post : Except String α → TaskPoint → Prop)
    (point : TaskPoint) (program : SessionProgram α) : Prop :=
  Program.Outline allowed TaskPoint.holds (StepOf scope) post point program.run

variable {allowed : SessionOutside → Daemon → Prop} {scope : Scope} {sure : Prop} {α β : Type}
  {change : SessionOutside → Daemon → Daemon × Except String α} {post : Except String α → TaskPoint → Prop}

theorem Walk.perform {progress : Progress} (later : SessionOutside → Daemon → Progress)
    (write : SessionOutside → Daemon → DaemonWrite)
    (each : ∀ outside daemon, allowed outside daemon → daemon.sessions.Keyed → scope.recall progress daemon →
      Does scope daemon progress (write outside daemon) (later outside daemon) ∧
        post (change outside daemon).2 ((later outside daemon).at scope))
    (writes : ∀ outside daemon, (change outside daemon).1 = (write outside daemon).apply daemon := by intros; rfl) :
    Walk allowed scope post (progress.at scope) (Program.perform change) := by
  apply Program.Outline.act fun outside daemon => (later outside daemon).at scope
  intro outside daemon may here
  obtain ⟨does, done⟩ := each outside daemon may here.1 here.2
  rw [writes]
  exact ⟨⟨does.keyed here.1, does.recalls here.2⟩, ⟨⟨_, rfl, does⟩, .inl rfl⟩, done⟩

variable {point : TaskPoint}

theorem Walk.act (later : SessionOutside → Daemon → TaskPoint)
    (write : SessionOutside → Daemon → DaemonWrite)
    (each : ∀ outside daemon, allowed outside daemon → daemon.sessions.Keyed → point.claim daemon.settled →
      Does scope daemon point.toProgress (write outside daemon) (later outside daemon).toProgress ∧
        scope.claims (later outside daemon).expected (later outside daemon).claim ∧
        (later outside daemon).claim ((write outside daemon).apply daemon).settled ∧
        post (change outside daemon).2 (later outside daemon))
    (writes : ∀ outside daemon, (change outside daemon).1 = (write outside daemon).apply daemon := by intros; rfl) :
    Walk allowed scope post point (Program.perform change) := by
  apply Program.Outline.act later
  intro outside daemon may here
  obtain ⟨does, claims, claimed, done⟩ := each outside daemon may here.1 here.2
  rw [writes]
  exact ⟨⟨does.keyed here.1, claimed⟩, ⟨⟨_, rfl, does⟩, .inr claims⟩, done⟩

theorem Walk.hold (claims : scope.claims point.expected point.claim) (answer : SessionOutside → Except String α) :
    Walk allowed scope (fun _ reached => reached = point) point (Daemon.ask answer) := by
  refine Walk.act (fun _ _ => point) (fun _ _ => .nothing) ?_
  intro outside daemon _ _ here
  exact ⟨.nothing _, claims, here, rfl⟩

variable {next : α → SessionProgram β}

theorem Walk.read {read : Daemon → α} (plain : ∀ daemon, read daemon.settled = read daemon)
    (keep : Prop)
    (claims : ∀ value, scope.claims point.expected fun daemon => point.claim daemon ∧ (keep → read daemon = value))
    {post : Except String β → TaskPoint → Prop} (rest : ∀ value, (∃ daemon, point.claim daemon ∧ read daemon = value) →
      Walk allowed scope post
        { point with claim := fun daemon => point.claim daemon ∧ (keep → read daemon = value) } (next value)) :
    Walk allowed scope post point (Daemon.look read >>= next) := by
  have looked : Walk allowed scope
      (fun result reached => ∃ value, result = .ok value ∧ (∃ daemon, point.claim daemon ∧ read daemon = value) ∧
        reached = { point with claim := fun daemon => point.claim daemon ∧ (keep → read daemon = value) })
      point (Daemon.look read) := by
    refine Walk.act
      (fun _ daemon => { point with claim := fun other => point.claim other ∧ (keep → read other = read daemon) })
      (fun _ _ => .nothing) ?_
    intro outside daemon _ _ here
    exact ⟨.nothing _, claims (read daemon), ⟨here, fun _ => plain daemon⟩, read daemon, rfl,
      ⟨daemon.settled, here, plain daemon⟩, rfl⟩
  apply andThen looked
  · intro error point reached
    obtain ⟨_, same, _⟩ := reached
    cases same
  · intro value point reached
    obtain ⟨_, same, known, rfl⟩ := reached
    cases same
    exact rest value known

/-- The part leaves its task where it is. Where it is sure to succeed, it does. -/
def Steady (allowed : SessionOutside → Daemon → Prop) (scope : Scope) (sure : Prop) (facts : α → Prop)
    (program : SessionProgram α) : Prop :=
  ∀ progress : Progress, Walk allowed scope
    (fun result reached => reached = progress.at scope ∧
      match result with
      | .ok value => facts value
      | .error _ => ¬ sure)
    (progress.at scope) program

namespace Steady
variable {facts : α → Prop} {others : β → Prop}

theorem perform (write : SessionOutside → Daemon → DaemonWrite)
    (does : ∀ outside daemon progress, Does scope daemon progress (write outside daemon) progress)
    (results : ∀ outside daemon, allowed outside daemon →
      match (change outside daemon).2 with | .ok value => facts value | .error _ => ¬ sure)
    (writes : ∀ outside daemon, (change outside daemon).1 = (write outside daemon).apply daemon := by intros; rfl) :
    Steady allowed scope sure facts (Program.perform change) := by
  intro progress
  refine Walk.perform (fun _ _ => progress) write ?_ writes
  intro outside daemon may _ _
  exact ⟨does outside daemon progress, rfl, results outside daemon may⟩

theorem pure {value : α} (fact : facts value) : Steady allowed scope sure facts (Pure.pure value : SessionProgram α) := by
  intro progress
  exact .pure ⟨rfl, fact⟩

variable {program : SessionProgram α}

theorem bind (first : Steady allowed scope sure facts program)
    (rest : ∀ value, facts value → Steady allowed scope sure others (next value)) :
    Steady allowed scope sure others (program >>= next) := by
  intro progress
  apply andThen (first progress)
  · intro error point reached
    exact reached
  · intro value point reached
    rw [reached.1]
    exact rest value reached.2 progress

theorem tried (steady : Steady allowed scope False facts program) :
    Steady allowed scope sure (fun result => ∀ value, result = .ok value → facts value) (Program.tried program) := by
  intro progress
  apply (Program.Outline.tried (steady progress)).weaken
  intro result point reached
  obtain ⟨inner, rfl, same, fact⟩ := reached
  refine ⟨same, ?_⟩
  intro value ok
  subst ok
  exact fact

theorem look {read : Daemon → α} (fact : ∀ daemon, facts (read daemon)) :
    Steady allowed scope sure facts (Daemon.look read) := by
  refine perform (fun _ _ => .nothing) (fun _ _ => .nothing) ?_
  intro outside daemon _
  exact fact daemon

theorem lookKeyed {read : Daemon → α}
    (fact : ∀ outside daemon, allowed outside daemon → daemon.sessions.Keyed → facts (read daemon)) :
    Steady allowed scope sure facts (Daemon.look read) := by
  intro progress
  refine Walk.perform (fun _ _ => progress) (fun _ _ => .nothing) ?_
  intro outside daemon may keyed _
  exact ⟨.nothing progress, rfl, fact outside daemon may keyed⟩

theorem ask {answer : SessionOutside → Except String α} (results : ∀ outside daemon, allowed outside daemon →
      match answer outside with
      | .ok value => facts value
      | .error _ => ¬ sure) :
    Steady allowed scope sure facts (Daemon.ask answer) :=
  perform (fun _ _ => .nothing) (fun _ _ => .nothing) results

theorem askAny (answer : SessionOutside → Except String α) :
    Steady allowed scope False (fun _ => True) (Daemon.ask answer) := by
  apply ask
  intro outside daemon _
  split
  next => trivial
  next => exact not_false

variable (saves : ∀ outside daemon, allowed outside daemon → sure → outside.save = .ok ())
include saves

theorem changeFirst {condition : SessionOutside → ProxySessionRecord → Bool}
    {change : SessionOutside → ProxySessionRecord → ProxySessionRecord}
    (alike : ∀ outside record, (change outside record).Alike record) : Steady allowed scope sure (fun _ => True)
      (Daemon.withSessions fun outside registry => registry.changeFirst outside.save (condition outside) (change outside)) := by
  refine perform (fun outside _ => .status outside.save (condition outside) (change outside))
    (fun outside _ progress => .status progress outside.save (condition outside) (alike outside)) ?_
  intro outside daemon may
  split
  next => trivial
  next error failed =>
    intro certain
    dsimp only at failed
    rw [saves outside daemon may certain] at failed
    unfold SessionRegistry.changeFirst at failed
    split at failed <;> cases failed

theorem updateRemoteSetupStatus (sessionId jobId : Text) (state : RemoteSetupState) :
    Steady allowed scope sure (fun _ => True) (Daemon.updateRemoteSetupStatus sessionId jobId state) := by
  apply changeFirst saves
  intro outside record
  exact ⟨rfl, rfl, rfl, rfl, rfl, rfl, rfl, rfl, rfl, rfl⟩

theorem updateHandoffProbeStatus (sessionId jobId : Text) (state : HandoffProbeState) :
    Steady allowed scope sure (fun _ => True) (Daemon.updateHandoffProbeStatus sessionId jobId state) := by
  apply changeFirst saves
  intro outside record
  exact ⟨rfl, rfl, rfl, rfl, rfl, rfl, rfl, rfl, rfl, rfl⟩

theorem upsertPeerStatus (record : Nat → PeerStatusRecord) :
    Steady allowed scope sure (fun _ => True) (Daemon.upsertPeerStatus record) := by
  refine perform (fun outside _ => .peers fun peers => (peers.upsert outside.save (record outside.now)).1)
    (fun _ _ progress => .peers progress _) ?_
  intro outside daemon may
  split
  next => trivial
  next error failed =>
    intro certain
    dsimp only at failed
    rw [saves outside daemon may certain] at failed
    cases failed

omit saves

theorem withRoutes {change : SessionOutside → RouteTable → RouteTable × Except String α}
    (kept : ∀ outside routes name, ¬ scope.touches name → routes.get (routeIdOf name) = none →
      (change outside routes).1.get (routeIdOf name) = none)
    (live : ∀ outside routes name task, ¬ scope.reaches name → routes.get (routeIdOf name) = some task →
      task.finished = false → (change outside routes).1.get (routeIdOf name) = some task) :
    Steady allowed scope False (fun _ => True) (Daemon.withRoutes change) := by
  refine perform (fun outside _ => .routes fun routes => (change outside routes).1)
    (fun outside _ progress => .routes progress (kept outside) (live outside)) ?_
  intro outside daemon _
  split
  next => trivial
  next => exact not_false

section
variable {id : Text} (own : ∀ name, id = routeIdOf name → scope.touches name ∧ scope.reaches name)
include own

theorem startRoute (text : IpText) (spec : ReverseRoute) (persist : Bool) :
    Steady allowed scope False (fun _ => True) (Daemon.startRoute text id spec persist) := by
  have other {name : Text} (apart : ¬ scope.reaches name) : routeIdOf name ≠ id := fun same => apart (own name same.symm).2
  have start : Steady allowed scope False (fun _ => True) (startRouteSpec text id spec persist) := by
    apply bind (withRoutes (fun _ routes name _ gone => RouteTable.checkStart_none gone)
      fun _ _ _ _ apart => RouteTable.checkStart_live (other apart))
    intro outcome _
    cases outcome with
    | some outcome => exact pure trivial
    | none =>
      refine withRoutes ?_ fun outside _ _ _ apart => RouteTable.register_live (other apart) outside.now none
      intro outside routes name apart gone
      have other : routeIdOf name ≠ id := fun same => apart (own name same.symm).1
      exact RouteTable.register_none other outside.now none gone
  apply bind start
  intro outcome _
  split
  next => exact askAny _
  next => exact pure trivial

theorem stopRoute : Steady allowed scope False (fun _ => True) (Daemon.stopRoute id) := by
  apply bind (withRoutes (fun _ routes name _ gone => RouteTable.take_none gone)
    fun _ _ name _ apart found _ => RouteTable.take_live (fun same => apart (own name same.symm).2) found)
  intro task _
  split
  next => exact askAny _
  next => exact pure trivial

end

end Steady

namespace Progress
variable {id : Text} {progress : Progress}

structure Idle (id : Text) (progress : Progress) : Prop where
  fresh : progress.fresh = false
  owes : progress.owes = none ∨ progress.owes = some id

structure AtWork (scope : Scope) (sure : Prop) (id : Text) (progress : Progress) : Prop extends Idle id progress where
  onward : scope.final → progress.owes = some id
  synced : sure → progress.synced = true

structure Ended (sure : Prop) (progress : Progress) : Prop where
  fresh : progress.fresh = false
  owes : progress.owes = none
  synced : sure → progress.synced = true

theorem Ended.idle (ended : progress.Ended sure) : progress.Idle id := ⟨ended.fresh, .inl ended.owes⟩

end Progress

def Leaves (scope : Scope) (sure : Prop) (id : Text) (ends facts : α → Prop) (result : Except String α)
    (reached : TaskPoint) : Prop :=
  ∃ progress : Progress, reached = progress.at scope ∧
    match result with
    | .ok value => facts value ∧ (ends value → progress.Ended sure) ∧ (¬ ends value → progress.AtWork scope sure id)
    | .error _ => ¬ sure ∧ progress.Idle id

def Goes (allowed : SessionOutside → Daemon → Prop) (scope : Scope) (sure : Prop) (id : Text) (ends facts : α → Prop)
    (program : SessionProgram α) : Prop :=
  ∀ progress : Progress, progress.AtWork scope sure id →
    Walk allowed scope (Leaves scope sure id ends facts) (progress.at scope) program

def Closes (allowed : SessionOutside → Daemon → Prop) (scope : Scope) (sure : Prop) (id : Text) (facts : α → Prop)
    (program : SessionProgram α) : Prop :=
  ∀ progress : Progress, progress.Idle id →
    Walk allowed scope (Leaves scope sure id (fun _ => True) facts) (progress.at scope) program

section
variable {id : Text} {ends facts : α → Prop} {stops others : β → Prop}

theorem Steady.goes (steady : Steady allowed scope sure facts program) :
    Goes allowed scope sure id (fun _ => False) facts program := by
  intro progress work
  apply (steady progress).weaken
  intro result point reached
  refine ⟨progress, reached.1, ?_⟩
  cases result with
  | ok value => exact ⟨reached.2, False.elim, fun _ => work⟩
  | error => exact ⟨reached.2, work.toIdle⟩

theorem Goes.bind (first : Goes allowed scope sure id (fun _ => False) facts program)
    (rest : ∀ value, facts value → Goes allowed scope sure id stops others (next value)) :
    Goes allowed scope sure id stops others (program >>= next) := by
  intro progress work
  apply andThen (first progress work)
  · intro error point reached
    exact reached
  · intro value point reached
    obtain ⟨later, rfl, fact, _, going⟩ := reached
    exact rest value fact later (going not_false)

theorem Goes.map {form : α → β} (first : Goes allowed scope sure id ends facts program)
    (formed : ∀ value, facts value → others (form value)) (alike : ∀ value, stops (form value) ↔ ends value) :
    Goes allowed scope sure id stops others (program >>= fun value => Pure.pure (form value)) := by
  intro progress work
  apply andThen (first progress work)
  · intro error point reached
    exact reached
  · intro value point reached
    obtain ⟨later, rfl, fact, ended, going⟩ := reached
    refine .pure ⟨later, rfl, formed value fact, ?_, ?_⟩
    · intro stop
      exact ended ((alike value).mp stop)
    · intro onward
      exact going fun stop => onward ((alike value).mpr stop)

theorem Steady.before (first : Steady allowed scope sure facts program)
    (rest : ∀ value, facts value → Goes allowed scope sure id stops others (next value)) :
    Goes allowed scope sure id stops others (program >>= next) := first.goes.bind rest

theorem Closes.bind (first : Closes allowed scope sure id facts program)
    (rest : ∀ value, facts value → Steady allowed scope sure others (next value)) :
    Closes allowed scope sure id others (program >>= next) := by
  intro progress idle
  apply andThen (first progress idle)
  · intro error point reached
    exact reached
  · intro value point reached
    obtain ⟨later, rfl, fact, ended, _⟩ := reached
    apply (rest value fact later).weaken
    intro result point reached
    refine ⟨later, reached.1, ?_⟩
    cases result with
    | ok value => exact ⟨reached.2, fun _ => ended trivial, fun never => absurd trivial never⟩
    | error => exact ⟨reached.2, (ended trivial).idle⟩

theorem Closes.goes (closes : Closes allowed scope sure id facts program) :
    Goes allowed scope sure id (fun _ => True) facts program := by
  intro progress work
  exact closes progress work.toIdle

theorem Steady.beforeClosing (first : Steady allowed scope sure facts program)
    (rest : ∀ value, facts value → Closes allowed scope sure id others (next value)) :
    Closes allowed scope sure id others (program >>= next) := by
  intro progress idle
  apply andThen (first progress)
  · intro error point reached
    exact ⟨progress, reached.1, reached.2, idle⟩
  · intro value point reached
    rw [reached.1]
    exact rest value reached.2 progress idle

end

structure Serves (scope : Scope) (id : Text) (spec : ProxySessionSpec) : Prop where
  touches : scope.touches spec.name
  own : OwnJob spec.name id

section
variable {id : Text} (saves : ∀ outside daemon, allowed outside daemon → sure → outside.save = .ok ())
include saves

theorem Walk.upsertJob (record : Nat → JobRecord) (message : String) (progress : Progress)
    (may : ∀ now, scope.writes (record now))
    (turn : ∀ now, scope.careful → progress.owes = none ∨ progress.owes = some (record now).id)
    (onward : ∀ now, scope.final → (record now).isAwaited = true → progress.owes = some (record now).id) :
    Walk allowed scope
      (fun result reached => ∃ now, reached = (progress.wrote (record now)).at scope ∧
        match result with
        | .ok job => job = record now
        | .error _ => ¬ sure)
      (progress.at scope) (Daemon.upsertJob record message) := by
  refine Walk.perform (fun outside _ => progress.wrote (record outside.now))
    (fun outside _ => .job outside.now outside.save (record outside.now) message) ?_
  intro outside daemon allows _ _
  refine ⟨.job progress outside.now outside.save (record outside.now) message (may _) (turn _) (onward _), outside.now, rfl, ?_⟩
  cases saved : outside.save with
  | ok => simp only [JobRegistry.upsert]
  | error error =>
    simp only [JobRegistry.upsert]
    intro certain
    rw [saves outside daemon allows certain] at saved
    cases saved

theorem Walk.upsertSession {text : IpText} {spec : ProxySessionSpec} {job : JobRecord} (progress : Progress)
    (serves : Serves scope job.id spec)
    (address : scope.addressed → ∀ url, job.remoteUrl = some url → IsAddress text spec url)
    (last : scope.sourced → progress.last = some job) (plain : scope.addressed → scope.reads text) : Walk allowed scope
      (fun result reached => reached = ({ progress with synced := true } : Progress).at scope ∧
        match result with
        | .ok session => session.routeId = spec.routeId
        | .error _ => ¬ sure)
      (progress.at scope) (Daemon.upsertSession text spec job) := by
  refine Walk.perform (fun _ _ => { progress with synced := true })
    (fun outside _ => .session text outside.now outside.save spec job) ?_
  intro outside daemon allows _ _
  refine ⟨.session progress text outside.now outside.save spec job serves.touches serves.own address
    (fun sourced => .inl (last sourced)) plain, rfl, ?_⟩
  cases saved : outside.save with
  | ok => simp only [upsertFromJob, save, saved, ProxySessionRecord.updateFromJob]
  | error error =>
    simp only [upsertFromJob, save, saved]
    intro certain
    rw [saves outside daemon allows certain] at saved
    cases saved

end

theorem Walk.spawn (runner : Runner) (progress : Progress) (fresh : progress.fresh = true) (proper : runner.Proper)
    (mine : scope.job = some runner.jobId) (touches : ∀ spec, runner.spec? = some spec → scope.touches spec.name)
    (turn : scope.careful → progress.owes = none ∨ progress.owes = some runner.jobId)
    (told : scope.sourced → progress.synced = true) : Walk allowed scope
      (fun result reached => result = .ok () ∧ reached = ({ progress with fresh := false, owes := none } : Progress).at scope)
      (progress.at scope) (Daemon.spawn runner) := by
  refine Walk.perform (fun _ _ => { progress with fresh := false, owes := none }) (fun _ _ => .spawn runner) ?_
  intro outside daemon _ _ _
  exact ⟨.spawn progress runner fresh proper mine touches turn told, rfl, rfl⟩

theorem Walk.getJob (id : Text) (progress : Progress) : Walk allowed scope
      (fun result reached => reached = progress.at scope ∧ ∃ found, result = .ok found ∧
        (∀ job, found = some job → job.id = id) ∧
        (scope.alone → ∀ record, progress.last = some record → record.state.isTerminal = false → record.id = id →
          found = some record))
      (progress.at scope) (Daemon.getJob id) := by
  refine Walk.perform (fun _ _ => progress) (fun _ _ => .nothing) ?_
  intro outside daemon _ _ recalled
  refine ⟨.nothing progress, rfl, _, rfl, ?_, ?_⟩
  · intro job found
    exact JobRegistry.get_id found
  · intro alone record last unfinished same
    rw [← same]
    exact recalled alone record last unfinished

end SshProxy
