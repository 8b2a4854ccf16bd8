import SshProxy.Proofs.Watch

/-! The outlines of the other requests, and of what the daemon does with the stored sessions when it
starts. -/

namespace SshProxy
open Library Daemon ProxySessionSpec Program.Outline Steady Walk

variable {watch : Watch} {text : IpText}

abbrev PeerWalk {α : Type} (watch : Watch) (operation : RemotePeerOperation) (spec : Option ProxySessionSpec)
    (bootstrap : Option PeerBootstrapArgs) : SessionProgram α → Prop :=
  Walk (watch.allowed (.request (.remotePeer operation spec bootstrap))) (watch.peerScope spec bootstrap)
    (fun _ _ => True) (({ fresh := true } : Progress).at (watch.peerScope spec bootstrap))

theorem acceptRemotePeerJob_walk (operation : RemotePeerOperation) (spec : Option ProxySessionSpec)
    (bootstrap : Option PeerBootstrapArgs) :
    PeerWalk watch operation spec bootstrap (acceptRemotePeerJob operation spec bootstrap) := by
  have accepts (peer : Text) (force : Bool) (named : Watch.peerOf spec bootstrap = some peer) :
      PeerWalk watch operation spec bootstrap (acceptRemotePeer operation peer spec force) := by
    apply andThen (askAny (·.config) _)
    · intro error point _
      trivial
    intro _ point reached
    rw [reached.1]
    let job (now : Nat) :=
      ((JobRecord.new now (remotePeerJobId peer) operation.jobKind).withTarget peer).transition now .queued .queued 0
    let progress : Progress := { fresh := true }
    have written : Walk (watch.allowed (.request (.remotePeer operation spec bootstrap))) (watch.peerScope spec bootstrap) _
        (progress.at _) (upsertJob job operation.acceptedMessage) :=
      upsertJob (fun _ _ _ => False.elim) job _ progress (fun _ => ⟨peer, rfl⟩) (fun _ _ => .inl rfl) (fun _ => False.elim)
    apply andThen written
    · intro error point _
      trivial
    intro _ point reached
    obtain ⟨now, rfl, _⟩ := reached
    have mine : (watch.peerScope spec bootstrap).job = some (remotePeerJobId peer) := congrArg (Option.map remotePeerJobId) named
    have touches (session : ProxySessionSpec) (known : spec = some session) : spec.map (·.name) = some session.name := by
      cases known
      rfl
    apply andThen (spawn (.remotePeer peer (remotePeerJobId peer) operation.jobKind spec force)
      (progress.wrote (job now)) rfl (fun name => ⟨remotePeerJobId_ne_jobIdOf peer name, ids_ne _ name (by decide)⟩)
      mine touches (fun _ => .inr rfl) False.elim)
    · intro error point _
      trivial
    intro _ point reached
    rw [reached.2]
    apply andThen (getJob _ _)
    · intro error point _
      trivial
    intro _ point reached
    rw [reached.1]
    have looked : Steady (watch.allowed (.request (.remotePeer operation spec bootstrap))) (watch.peerScope spec bootstrap)
        False (fun _ => True) (look (·.peers.store.get peer)) := .look fun _ => trivial
    apply andThen (looked _)
    · intro error point _
      trivial
    intro _ point _
    exact .pure trivial
  cases spec with
  | some spec => exact accepts spec.target _ rfl
  | none =>
    cases bootstrap with
    | some bootstrap => exact accepts (bootstrap.peerAlias.getD bootstrap.target) _ rfl
    | none => exact .pure trivial

/-! Settings that are applied once more. -/

section
variable {request : ApplyRequest} {spec : ProxySessionSpec}

theorem apply_saves (request : ApplyRequest) (outside : SessionOutside) (daemon : Daemon)
    (_ : watch.allowed (.request (.apply request)) outside daemon) : False → outside.save = .ok () := False.elim

abbrev ApplyGoes {α : Type} (watch : Watch) (request : ApplyRequest) (spec : ProxySessionSpec) :
    (α → Prop) → SessionProgram α → Prop :=
  Goes (watch.allowed (.request (.apply request))) (watch.applyScope request) False spec.applyId (fun _ => False)

theorem applyUpsertJob_goes (job : Nat → JobRecord) (message : String) (same : ∀ now, (job now).id = spec.applyId) :
    ApplyGoes watch request spec (fun job => job.id = spec.applyId) (upsertJob job message) := by
  intro progress work
  have writes (now : Nat) : (watch.applyScope request).writes (job now) := ⟨spec.name, same now⟩
  apply (upsertJob (apply_saves request) job message progress writes
    (fun now _ => (same now).symm ▸ work.owes) (fun _ => False.elim)).weaken
  intro result point reached
  obtain ⟨now, rfl, given⟩ := reached
  have idle : (progress.wrote (job now)).Idle spec.applyId := by
    refine ⟨work.fresh, ?_⟩
    unfold Progress.wrote
    dsimp only
    split
    next => exact .inr (congrArg some (same now))
    next => exact .inl rfl
  refine ⟨_, rfl, ?_⟩
  cases result with
  | ok value =>
    refine ⟨?_, False.elim, fun _ => ⟨idle, False.elim, False.elim⟩⟩
    cases given
    exact same now
  | error => exact ⟨not_false, idle⟩

theorem applyEnded_goes (ok : Bool) (state : RemoteSetupState) (job : Nat → JobRecord) (message : String)
    (same : ∀ now, (job now).id = spec.applyId) :
    ApplyGoes watch request spec (fun _ => True) (applyEnded spec ok state job message) := by
  apply (updateRemoteSetupStatus (apply_saves request) _ _ _).before
  intro _ _
  apply Goes.bind (applyUpsertJob_goes job message same)
  intro _ _
  exact (Steady.pure trivial).goes

theorem applySetup_goes (remoteUrl : Text) :
    ApplyGoes watch request spec (fun _ => True) (applySetup spec remoteUrl) := by
  apply (askAny (·.call)).tried.before
  intro applied _
  cases applied with
  | ok | error => exact applyEnded_goes _ _ _ _ fun _ => rfl

variable (named : request.name = some spec.name) (remoteUrl : Text)
include named

theorem applyRecord_goes (job : Nat → JobRecord) (message : String) (same : ∀ now, (job now).id = spec.applyId) :
    ApplyGoes watch request spec (fun _ => True) (record text spec job message) := by
  apply Goes.bind (applyUpsertJob_goes job message same)
  intro written mine progress work
  have serves : Serves (watch.applyScope request) written.id spec :=
    ⟨named, .inr fun name => mine ▸ ⟨applyIdOf_ne_jobIdOf spec.name name, ids_ne spec.name name (by decide)⟩⟩
  apply andThen (upsertSession (apply_saves request) progress serves False.elim
    False.elim False.elim)
  · intro error point reached
    exact ⟨_, reached.1, not_false, work.fresh, work.owes⟩
  · intro session point reached
    rw [reached.1]
    exact .pure ⟨_, rfl, trivial, False.elim, fun _ => ⟨⟨work.fresh, work.owes⟩, False.elim, False.elim⟩⟩

theorem applyVerified_goes :
    ApplyGoes watch request spec (fun _ => True) (applyVerified text spec remoteUrl) := by
  apply (updateHandoffProbeStatus (apply_saves request) _ _ _).before
  intro _ _
  apply Goes.bind (applyRecord_goes named _ _ fun _ => rfl)
  intro _ _
  apply (askAny _).before
  intro probe _
  cases probe with
  | ok =>
    apply (updateHandoffProbeStatus (apply_saves request) _ _ _).before
    intro _ _
    exact applySetup_goes remoteUrl
  | error failure =>
    apply (updateHandoffProbeStatus (apply_saves request) _ _ _).before
    intro _ _
    exact applyEnded_goes _ _ _ _ fun _ => rfl

theorem applyAt_goes :
    ApplyGoes watch request spec (fun _ => True) (applyAt text spec remoteUrl) := by
  apply Goes.bind (applyRecord_goes named _ _ fun _ => rfl)
  intro _ _
  apply (updateRemoteSetupStatus (apply_saves request) _ _ _).before
  intro _ _
  split
  next => exact applyVerified_goes named remoteUrl
  next =>
    apply (updateHandoffProbeStatus (apply_saves request) _ _ _).before
    intro _ _
    exact applySetup_goes remoteUrl

end

theorem requestedSpec_name {request : ApplyRequest} {session : Option ProxySessionRecord} {spec : ProxySessionSpec}
    (found : ∀ record, session = some record → ∃ key, request.id = some key ∧ record.name = sanitizeKey key)
    (requested : requestedSpec text request session = .ok spec) : request.name = some spec.name := by
  unfold requestedSpec at requested
  unfold ApplyRequest.name
  split at requested
  next given named =>
    cases requested
    rw [named]
    rfl
  next record named =>
    obtain ⟨key, identified, same⟩ := found record rfl
    split at requested
    next given read =>
      cases requested
      rw [named, identified, ProxySessionRecord.toSpec_name read, same]
      rfl
    next => cases requested
  next named =>
    unfold specFromApplyRequest at requested
    split at requested
    next => cases requested
    next => cases requested
    next => cases requested
    next target workspace remoteUrl _ identified _ =>
      cases read : remoteEndpointFromUrl text remoteUrl with
      | error error =>
        rw [read] at requested
        cases requested
      | ok endpoint =>
        rw [read] at requested
        cases requested
        rw [named, identified]
        rfl

theorem atEndpoint_name (remoteUrl : Text) (spec : ProxySessionSpec) : (atEndpoint text remoteUrl spec).name = spec.name := by
  unfold atEndpoint
  split <;> rfl

theorem applyRemoteSettings_walk (request : ApplyRequest) :
    Walk (watch.allowed (.request (.apply request))) (watch.applyScope request) (fun _ _ => True)
      (({} : Progress).at (watch.applyScope request)) (applyRemoteSettings text request) := by
  unfold applyRemoteSettings
  cases identified : request.id
  all_goals
    refine andThen ((?_ : Steady (watch.allowed (.request (.apply request))) (watch.applyScope request) False
      (fun session => ∀ record : ProxySessionRecord, session = some record →
        ∃ key, request.id = some key ∧ record.name = sanitizeKey key) _) {}) (fun _ _ _ => trivial) ?_
    · first
      | exact lookKeyed fun _ daemon _ keyed record found => ⟨_, identified, SessionRegistry.sessionByJob_name keyed found⟩
      | exact fun progress => .pure ⟨rfl, fun record never => by cases never⟩
    intro session point reached
    rw [reached.1]
    dsimp only
    split
    next => exact .pure trivial
    next spec requested =>
      let remoteUrl := (request.remoteUrl.or (session.map (·.remoteUrl))).getD (spec.remoteUrl text)
      have named : request.name = some (atEndpoint text remoteUrl spec).name := by
        rw [atEndpoint_name]
        exact requestedSpec_name reached.2 requested
      apply (applyAt_goes named remoteUrl {} ⟨⟨rfl, .inl rfl⟩, False.elim, False.elim⟩).weaken
      intro _ _ _
      trivial

/-! A session that is stopped. -/

section
variable {id : Option Text} {spec : Option ProxySessionSpec} {routeId jobId : Text}

def Stops (watch : Watch) (id : Option Text) (spec : Option ProxySessionSpec) (routeId name : Text) : Prop :=
  watch.stopped = some name ∧ Watch.downNames id spec name ∧ routeId = routeIdOf name

def OfNamed (watch : Watch) (id : Option Text) (spec : Option ProxySessionSpec) (routeId : Text)
    (fact : Text → Daemon → Prop) (daemon : Daemon) : Prop :=
  ∀ name, Stops watch id spec routeId name → fact name daemon

/-- The ids that a request comes to are those of the session in it, unless it names a route or a job. -/
structure DownIds (watch : Watch) (id : Option Text) (spec : Option ProxySessionSpec) (routeId jobId : Text) : Prop where
  mine : ∀ name, Stops watch id spec routeId name → jobId = jobIdOf name
  job : ∀ session, spec = some session → jobId = session.jobId
  route : ∀ session, id = none → spec = some session → routeId = session.routeId

theorem DownIds.reaches (ids : DownIds watch id spec routeId jobId) {name : Text}
    (own : routeId = routeIdOf name ∨ OwnJob name jobId) : (SessionRole.request (.down id spec)).reaches name := by
  intro session unnamed known
  rcases own with route | job
  · exact routeIdOf_inj.mp (route.symm.trans (ids.route session unnamed known))
  · exact (job.name_eq (ids.job session known)).symm

theorem down_claims {fact : Text → Daemon → Prop} (kept : ∀ name, Watch.Kept name (fact name)) (fresh : Bool) :
    (watch.downScope id spec).claims fresh (OfNamed watch id spec routeId fact) := by
  by_cases about : ∃ name, Stops watch id spec routeId name
  · obtain ⟨name, stops⟩ := about
    refine .inr ⟨name, stops.1, stops.2.1, ?_⟩
    intro before after few spares held other others
    cases Option.some.inj (stops.1.symm.trans others.1)
    exact kept name before after few spares (held name stops)
  · left
    intro daemon name stops
    exact absurd ⟨name, stops⟩ about

abbrev DownWalk {α : Type} (watch : Watch) (id : Option Text) (spec : Option ProxySessionSpec) :
    (Except String α → TaskPoint → Prop) → TaskPoint → SessionProgram α → Prop :=
  Walk (watch.allowed (.request (.down id spec))) (watch.downScope id spec)

def DownEnd (watch : Watch) (id : Option Text) (spec : Option ProxySessionSpec) (result : Except String SessionResponse)
    (reached : TaskPoint) : Prop :=
  ∀ name routeId job session routeStop cleanup, Stops watch id spec routeId name →
    result = .ok (.stopped routeId job session routeStop cleanup) → ∀ daemon, reached.claim daemon → daemon.Stopped name

theorem DownEnd.error (error : String) (reached : TaskPoint) : DownEnd watch id spec (.error error) reached := by
  intro _ _ _ _ _ _ _ never
  cases never

section
variable (ids : DownIds watch id spec routeId jobId)
include ids

variable (progress : Progress)

theorem stopRoute_walk : DownWalk watch id spec
      (fun _ reached => reached = ⟨progress, OfNamed watch id spec routeId RouteGone⟩)
      (progress.at (watch.downScope id spec)) (stopRoute routeId) := by
  have claims : (watch.downScope id spec).claims progress.fresh (OfNamed watch id spec routeId RouteGone) :=
    down_claims (fun _ _ _ _ spares => spares.route) progress.fresh
  have taken : DownWalk watch id spec
      (fun _ reached => reached = ⟨progress, OfNamed watch id spec routeId RouteGone⟩)
      (progress.at (watch.downScope id spec)) (takeRoute routeId) := by
    refine act (fun _ _ => ⟨progress, OfNamed watch id spec routeId RouteGone⟩)
      (fun _ _ => .routes fun routes => (RouteTable.take routeId routes).1) ?_
    intro outside daemon _ _ _
    refine ⟨.routes progress (fun routes name _ gone => RouteTable.take_none gone) ?_, claims, ?_, rfl⟩
    · intro routes name task apart found _
      exact RouteTable.take_live (fun same => apart (ids.reaches (.inl same.symm))) found
    intro name stops
    change (RouteTable.take routeId daemon.routes).1.get (routeIdOf name) = none
    rw [← stops.2.2]
    exact RouteTable.take_gone routeId daemon.routes
  apply andThen taken
  · intro error point reached
    exact reached
  · intro task point reached
    rw [reached]
    split
    next => exact hold claims _
    next => exact .pure rfl

theorem cancelJob_walk (idle : progress.owes = none) (record : Nat → JobRecord) (message : String)
    (cancelled : ∀ now, (record now).state = .cancelled) (same : ∀ now, (record now).id = jobId) :
    DownWalk watch id spec
      (fun result reached => ∃ later : Progress,
        reached = ⟨later, OfNamed watch id spec routeId fun name daemon => daemon.RouteGone name ∧ daemon.JobCancelled name⟩ ∧
        ∀ job, result = .ok job → job.id = jobId)
      ⟨progress, OfNamed watch id spec routeId RouteGone⟩ (upsertJob record message) := by
  refine act (fun outside _ => ⟨progress.wrote (record outside.now), OfNamed watch id spec routeId fun name daemon =>
      daemon.RouteGone name ∧ daemon.JobCancelled name⟩)
    (fun outside _ => .job outside.now outside.save (record outside.now) message) ?_
  intro outside daemon may _ here
  refine ⟨?_, ?_, ?_, _, rfl, ?_⟩
  · exact .job progress outside.now outside.save _ message
      ⟨cancelled _, fun session known => (same _).trans (ids.job session known)⟩ (fun _ => .inl idle) False.elim
  · apply down_claims
    intro name before after few spares held
    exact ⟨spares.route held.1, spares.job few held.2⟩
  · intro name stops
    refine ⟨here name stops, record outside.now, ?_, cancelled _⟩
    have few : daemon.Few := (may name stops.1).1
    change (daemon.jobs.upsert outside.now outside.save (record outside.now) message).1.get (jobIdOf name) = _
    rw [JobRegistry.get, JobRegistry.upsert_jobs_of_few few, ← ids.mine name stops, ← same outside.now]
    exact JobStore.get_insert_self _ _
  · intro job given
    rw [JobRegistry.upsert_ok given]
    exact same outside.now

theorem cancelSession_walk (error : Option String) :
    DownWalk watch id spec
      (fun _ reached => reached = ⟨progress, OfNamed watch id spec routeId Stopped⟩)
      ⟨progress, OfNamed watch id spec routeId fun name daemon => daemon.RouteGone name ∧ daemon.JobCancelled name⟩
      (cancelSession routeId jobId error) := by
  refine act (fun _ _ => ⟨progress, OfNamed watch id spec routeId Stopped⟩)
    (fun outside _ => .cancel outside.now outside.save routeId jobId error) ?_
  intro outside daemon _ keyed here
  refine ⟨.cancel progress outside.now outside.save routeId jobId error not_false fun _ => ids.reaches, ?_, ?_, rfl⟩
  · apply down_claims
    intro name before after few spares held
    exact ⟨spares.route held.route, spares.job few held.job, spares.session held.session⟩
  · intro name stops
    obtain ⟨gone, cancelled⟩ := here name stops
    refine ⟨gone, cancelled, ?_⟩
    cases stops.2.2
    cases ids.mine name stops
    exact SessionRegistry.cancelSession_cancelled keyed name outside.now error

theorem cancelStopped_walk (routeStop cleanup : Except String Unit) :
    DownWalk watch id spec (DownEnd watch id spec)
      ⟨{}, OfNamed watch id spec routeId RouteGone⟩ (cancelStopped routeId jobId routeStop cleanup) := by
  apply andThen (cancelJob_walk ids {} rfl _ _ (fun _ => rfl) fun _ => rfl)
  · intro error point _
    exact DownEnd.error error point
  intro job point reached
  obtain ⟨later, rfl, same⟩ := reached
  cases same job rfl
  apply andThen (cancelSession_walk ids later _)
  · intro error point _
    exact DownEnd.error error point
  intro session point reached
  rw [reached]
  apply Program.Outline.pure
  intro name _ _ _ _ _ stops answered daemon here
  cases answered
  exact here name stops

end

variable {stored : Option ProxySessionRecord}

theorem downSession_walk {key : Text} (ids : DownIds watch id spec (downRouteId key spec stored) (downJobId text key spec stored)) :
    DownWalk watch id spec (DownEnd watch id spec)
      (({} : Progress).at (watch.downScope id spec)) (downSession text key spec stored) := by
  apply triedThen (stopRoute_walk ids {})
  intro routeStop point reached
  rw [reached]
  cases (stored.bind (·.toSpec text)).or spec with
  | none => exact cancelStopped_walk ids routeStop _
  | some _ =>
    have claims : (watch.downScope id spec).claims false (OfNamed watch id spec (downRouteId key spec stored) RouteGone) :=
      down_claims (fun _ _ _ _ spares => spares.route) false
    apply triedThen (hold claims _)
    intro cleanup point reached
    rw [reached]
    exact cancelStopped_walk ids routeStop cleanup

theorem downIds {key : Text} (keyed : id.or (spec.map (·.routeId)) = some key)
    (found : ∀ record, stored = some record → record.routeId = key ∨ record.jobId = key ∧ OwnJob record.name record.jobId)
    (mine : ∀ name, Stops watch id spec (downRouteId key spec stored) name → downJobId text key spec stored = jobIdOf name) :
    DownIds watch id spec (downRouteId key spec stored) (downJobId text key spec stored) := by
  refine ⟨mine, ?_, ?_⟩
  · intro session known
    rw [known]
    rfl
  · intro session unnamed known
    rw [unnamed, known] at keyed
    cases keyed
    rw [known]
    cases stored with
    | none => rfl
    | some record =>
      rcases found record rfl with byRoute | byJob
      · exact byRoute
      · exact absurd byJob.1 byJob.2.ne_routeIdOf

theorem stops_job {daemon : Daemon} {key : Text} (keyed : daemon.sessions.Keyed)
    (comes : ∀ name, watch.stopped = some name → Watch.downNames id spec name → Watch.ComesToJob name daemon spec)
    (present : ∀ record, stored = some record → ∃ entry ∈ daemon.sessions.store.entries, entry.2 = record)
    (absent : stored = none → ∀ entry ∈ daemon.sessions.store.entries, entry.2.routeId ≠ key) {name : Text}
    (stops : Stops watch id spec (downRouteId key spec stored) name) : downJobId text key spec stored = jobIdOf name := by
  obtain ⟨watched, named, route⟩ := stops
  have comes := comes name watched named
  cases spec with
  | some session => exact congrArg jobIdOf comes
  | none =>
    obtain ⟨own, there, job⟩ := comes
    have belongs := keyed.store _ (SortedMap.mem_of_get there)
    have sameName : own.name = name := (sessionIdOf_inj.mp belongs.key).symm
    cases stored with
    | none =>
      refine absurd ?_ (absent rfl _ (SortedMap.mem_of_get there))
      rw [belongs.route, sameName]
      exact route.symm
    | some record =>
      obtain ⟨entry, inStore, rfl⟩ := present record rfl
      have entryBelongs := keyed.store entry inStore
      have entryName : entry.2.name = name := routeIdOf_inj.mp (entryBelongs.route.symm.trans route)
      have found : daemon.sessions.get entry.1 = some entry.2 := SortedMap.get_of_mem inStore
      rw [entryBelongs.key, entryName] at found
      cases Option.some.inj (there.symm.trans found)
      exact job

end

theorem proxySessionDown_walk (id : Option Text) (spec : Option ProxySessionSpec) :
    DownWalk watch id spec (DownEnd watch id spec)
      (({} : Progress).at (watch.downScope id spec)) (proxySessionDown text id spec) := by
  unfold proxySessionDown
  cases keyed : id.or (spec.map (·.routeId)) with
  | none => exact .pure (DownEnd.error _ _)
  | some key =>
    have byRoute : Steady (watch.allowed (.request (.down id spec))) (watch.downScope id spec) False
        (fun stored => (∀ record, stored = some record → record.routeId = key) ∧
          ∀ name, Stops watch id spec (downRouteId key spec stored) name → downJobId text key spec stored = jobIdOf name)
        (look (·.sessions.sessionByRoute key)) := by
      apply Steady.lookKeyed
      intro outside daemon may keyed
      refine ⟨fun record found => (SessionRegistry.found_entry found).2, ?_⟩
      intro name
      apply stops_job keyed (fun name watched => (may name watched).2)
      · intro record found
        exact (SessionRegistry.found_entry found).1
      · intro missing entry inStore same
        have other := List.find?_eq_none.mp (Option.map_eq_none_iff.mp missing) entry inStore
        exact other (decide_eq_true same)
    have byJob : Steady (watch.allowed (.request (.down id spec))) (watch.downScope id spec) False
        (fun stored => ∀ record, stored = some record → (record.jobId = key ∧ OwnJob record.name record.jobId) ∧
          ∀ name, Stops watch id spec (downRouteId key spec stored) name → downJobId text key spec stored = jobIdOf name)
        (look (·.sessions.sessionByJob key)) := by
      apply Steady.lookKeyed
      intro outside daemon may keyed record found
      obtain ⟨⟨entry, inStore, rfl⟩, met⟩ := SessionRegistry.found_entry found
      refine ⟨⟨met, (keyed.store entry inStore).job⟩, ?_⟩
      intro name
      rw [found]
      apply stops_job keyed (fun name watched => (may name watched).2)
      · intro record same
        cases same
        exact ⟨entry, inStore, rfl⟩
      · intro never
        cases never
    apply andThen (byRoute _)
    · intro error point _
      exact DownEnd.error error point
    intro stored point reached
    rw [reached.1]
    obtain ⟨_, routed, mine⟩ := reached
    cases stored with
    | some session => exact downSession_walk (downIds keyed (fun record same => .inl (routed record same)) mine)
    | none =>
      apply andThen (byJob _)
      · intro error point _
        exact DownEnd.error error point
      intro stored point reached
      rw [reached.1]
      obtain ⟨_, found⟩ := reached
      cases stored with
      | none => exact downSession_walk (downIds keyed (fun record never => by cases never) mine)
      | some session => exact downSession_walk (downIds keyed (fun record same => .inr (found record same).1) (found session rfl).2)

/-! What the daemon does when it starts. -/

structure Reconcilable (watch : Watch) (text : IpText) (record : ProxySessionRecord) : Prop where
  own : OwnJob record.name record.jobId
  terminal : watch.careful → record.isUnfinished = false
  address : watch.addressed → ∀ spec, record.toSpec text = some spec → IsAddress text spec record.remoteUrl

def Reconciled (watch : Watch) (reached : TaskPoint) : Prop :=
  ∃ later : Progress, reached = later.at watch.reconcileScope ∧ (watch.careful → later.owes = none)

theorem reconciledJob_blocked (session : ProxySessionRecord) (now : Nat) : (reconciledJob session true now).isAwaited = false := by
  simp [JobRecord.isAwaited, reusableProxySessionJob, reconciledJob, JobRecord.transition, JobRecord.withNextAction]

theorem reconcileSession_walk (plain : watch.addressed → watch.reads text) {session : ProxySessionRecord}
    (fit : Reconcilable watch text session) {missing : Bool}
    (due : session.isUnfinished = true ∨ missing = true) {progress : Progress}
    (idle : watch.careful → progress.owes = none) :
    Walk (watch.allowed .reconcile) watch.reconcileScope (fun _ => Reconciled watch) (progress.at watch.reconcileScope)
      (reconcileSession text session missing) := by
  have saves (outside : SessionOutside) (daemon : Daemon) (_ : watch.allowed .reconcile outside daemon) (never : False) :
      outside.save = .ok () := never.elim
  let job := reconciledJob session missing
  have same (now : Nat) : (job now).id = session.jobId := by
    cases missing <;> rfl
  have unfinished (now : Nat) : (job now).state.isTerminal = false := by
    cases missing <;> rfl
  have blocked (careful : watch.careful) (now : Nat) : (job now).isAwaited = false := by
    rcases due with unfinished | rfl
    · rw [fit.terminal careful] at unfinished
      cases unfinished
    · exact reconciledJob_blocked session now
  have quiet (now : Nat) (synced : Bool) :
      Reconciled watch (({ progress.wrote (job now) with synced } : Progress).at watch.reconcileScope) := by
    refine ⟨_, rfl, ?_⟩
    intro careful
    apply if_neg
    rw [blocked careful now]
    exact Bool.false_ne_true
  have written (message : String) : Walk (watch.allowed .reconcile) watch.reconcileScope _
      (progress.at watch.reconcileScope) (upsertJob job message) :=
    upsertJob saves job message progress (fun now careful => blocked careful now)
      (fun _ careful => .inl (idle careful)) fun _ => False.elim
  apply andThen (written _)
  · intro error point reached
    obtain ⟨now, rfl, _⟩ := reached
    exact quiet now false
  intro value point reached
  obtain ⟨now, rfl, _⟩ := reached
  split
  next => exact .pure (quiet now false)
  next spec read =>
    apply andThen (getJob session.jobId (progress.wrote (job now)))
    · intro error point reached
      obtain ⟨_, _, ok, _⟩ := reached
      cases ok
    intro found point reached
    obtain ⟨rfl, _, ok, mine, known⟩ := reached
    cases ok
    cases found with
    | none => exact .pure (quiet now false)
    | some stored =>
      have serves : Serves watch.reconcileScope stored.id spec := by
        refine ⟨trivial, ?_⟩
        rw [mine stored rfl, ProxySessionRecord.toSpec_name read]
        exact fit.own
      have address (located : watch.addressed) : ∀ url, stored.remoteUrl = some url → IsAddress text spec url := by
        intro url given
        cases known (watch.located located) (job now) rfl (unfinished now) (same now)
        have kept : (job now).remoteUrl = some session.remoteUrl := by
          cases missing <;> rfl
        cases kept.symm.trans given
        exact fit.address located spec read
      apply andThen (upsertSession saves (progress.wrote (job now)) serves address False.elim
        plain)
      · intro error point reached
        rw [reached.1]
        exact quiet now true
      · intro _ point reached
        rw [reached.1]
        exact .pure (quiet now true)

theorem reconcileSessions_walk (plain : watch.addressed → watch.reads text) (sessions : List ProxySessionRecord)
    (fit : ∀ session ∈ sessions, Reconcilable watch text session) {progress : Progress}
    (idle : watch.careful → progress.owes = none) :
    Walk (watch.allowed .reconcile) watch.reconcileScope (fun _ => Reconciled watch) (progress.at watch.reconcileScope)
      (reconcileSessions text sessions) := by
  induction sessions generalizing progress with
  | nil => exact .pure ⟨progress, rfl, idle⟩
  | cons session rest ih =>
    have later : ∀ session ∈ rest, Reconcilable watch text session :=
      fun session present => fit session (List.mem_cons_of_mem _ present)
    have each (live : Bool) : Walk (watch.allowed .reconcile) watch.reconcileScope (fun _ => Reconciled watch)
        (progress.at watch.reconcileScope)
        (if session.isUnfinished || !live then do reconcileSession text session (!live); reconcileSessions text rest
        else reconcileSessions text rest) := by
      split
      next due =>
        apply andThen
          (reconcileSession_walk plain (fit session List.mem_cons_self) (Bool.or_eq_true_iff.mp due) idle)
        · intro error point reached
          exact reached
        · intro _ point reached
          obtain ⟨_, rfl, idle⟩ := reached
          exact ih later idle
      next => exact ih later idle
    unfold reconcileSessions
    split
    next =>
      have looked : Steady (watch.allowed .reconcile) watch.reconcileScope False (fun _ => True)
          (look (·.routes.isLive session.routeId)) := .look fun _ => trivial
      apply andThen (looked progress)
      · intro error point reached
        exact ⟨progress, reached.1, idle⟩
      · intro live point reached
        rw [reached.1]
        exact each live
    next => exact each true

theorem reconcileProxySessions_walk (plain : watch.addressed → watch.reads text) {claim : Daemon → Prop}
    (fit : ∀ daemon : Daemon, daemon.sessions.Keyed → claim daemon → ∀ session ∈ daemon.sessions.sessions,
      Reconcilable watch text session) :
    Walk (watch.allowed .reconcile) watch.reconcileScope (fun _ => Reconciled watch) ⟨{}, claim⟩
      (reconcileProxySessions text) := by
  have looked : Walk (watch.allowed .reconcile) watch.reconcileScope
      (fun result reached => reached = ({} : Progress).at watch.reconcileScope ∧
        ∃ sessions, result = .ok sessions ∧ ∀ session ∈ sessions, Reconcilable watch text session)
      ⟨{}, claim⟩ (look (·.sessions.sessions)) := by
    apply act fun _ _ => ({} : Progress).at watch.reconcileScope
    intro outside daemon _ here
    refine ⟨⟨here.1, ?_⟩, ⟨⟨.nothing, rfl, .nothing _⟩, .inl rfl⟩, rfl, _, rfl, fit daemon.settled here.1 here.2⟩
    intro _ record last
    cases last
  apply andThen looked
  · intro error point reached
    obtain ⟨_, _, ok, _⟩ := reached
    cases ok
  · intro sessions point reached
    obtain ⟨rfl, _, ok, fits⟩ := reached
    cases ok
    exact reconcileSessions_walk plain sessions fits fun _ => rfl

end SshProxy
