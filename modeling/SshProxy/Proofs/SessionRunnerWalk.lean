import SshProxy.Proofs.RunnerWalk

/-! The outline of the runner of a session, from the first phase to the last port. -/

namespace SshProxy
open Library Daemon ProxySessionSpec Steady Program.Outline Closes Goes

variable {allowed : SessionOutside → Daemon → Prop} {scope : Scope} {sure multi : Prop} {text : IpText} {id : Text}
  {spec : ProxySessionSpec}

def Addressed (text : IpText) (spec : ProxySessionSpec) (remoteUrl : Option Text) : Prop :=
  ∀ url, remoteUrl = some url → IsAddress text spec url

theorem addressed_own (text : IpText) (spec : ProxySessionSpec) : Addressed text spec (some (spec.remoteUrl text)) := by
  intro url same
  exact .inl (Option.some.inj same).symm

theorem Addressed.value {remoteUrl : Option Text} (addressed : Addressed text spec remoteUrl) :
    Addressed text spec (some (remoteUrlValue text spec remoteUrl)) := by
  intro url same
  cases remoteUrl with
  | none => exact .inl (Option.some.inj same).symm
  | some given => exact addressed url same

/-- The handoff probe says that something else has the port; a failed route is no answer of a probe. -/
def SessionOutside.findsPortTaken (outside : SessionOutside) : Bool :=
  match outside.probe with
  | .error failure => failure.blocker = "remote_port_conflict" ∨ failure.blocker = "route_failed"
  | .ok () => false

/-- Nothing from outside makes the runner go on to another port. -/
structure SessionOutside.Quiet (outside : SessionOutside) : Prop where
  shown : outside.routeState.isShown = true
  free : outside.findsPortTaken = false

theorem SessionOutside.Quiet.probe {outside : SessionOutside} (quiet : outside.Quiet) {failure : HandoffProbeFailure}
    (failed : outside.probe = .error failure) : remotePortFailureIsRetryable failure.blocker failure.message = false := by
  have free := quiet.free
  simp only [findsPortTaken, failed, decide_eq_false_iff_not, not_or] at free
  simp [remotePortFailureIsRetryable, free.1, free.2]

def OutcomeOf (text : IpText) (scope : Scope) (multi : Prop) (spec : ProxySessionSpec) : RouteReadyOutcome → Prop
  | .healthy => True
  | .failed blocker message remoteUrl =>
    (scope.final → multi → remotePortFailureIsRetryable blocker message = false) ∧ Addressed text spec remoteUrl

theorem routeStartBlocker_final (error message : String) :
    remotePortFailureIsRetryable (routeStartBlocker error) message = false := by
  unfold routeStartBlocker
  split
  next => simp [remotePortFailureIsRetryable]
  next =>
    split
    next => simp [remotePortFailureIsRetryable]
    next =>
      split
      next => simp [remotePortFailureIsRetryable]
      next => simp [remotePortFailureIsRetryable]

theorem jobForPhase_of (text : IpText) (id : Text) (spec : ProxySessionSpec) (phase : JobPhase) (percent now : Nat) :
    JobOf text id (some spec) (jobForPhase text spec id phase percent now) := by
  refine ⟨rfl, ?_⟩
  intro session same
  cases same
  exact addressed_own text spec

theorem jobOf_url {record : JobRecord} (same : record.id = id) (addressed : Addressed text spec record.remoteUrl) :
    JobOf text id (some spec) record := by
  refine ⟨same, ?_⟩
  intro session known
  cases known
  exact addressed

theorem RunnerOf.withPort (runner : RunnerOf text allowed scope sure id (some spec)) (port : UInt16) :
    RunnerOf text allowed scope sure id (some (spec.withRemotePort port)) where
  writes := runner.writes
  touches := by
    intro session same
    cases same
    exact runner.touches spec rfl
  own := by
    intro session same
    cases same
    exact runner.own spec rfl
  known := fun _ => rfl
  alone := runner.alone
  located := runner.located
  plain := runner.plain
  sourced := runner.sourced
  saves := runner.saves
  config := runner.config

section
variable (runner : RunnerOf text allowed scope sure id (some spec))
include runner

theorem proxyJobPhase_goes (phase : JobPhase) (percent : Nat) (message : String) :
    Goes allowed scope sure id (fun _ => False) (fun _ => True) (proxyJobPhase text spec id phase percent message) := by
  apply Goes.recordJob runner
  · intro now
    exact jobForPhase_of text id spec phase percent now
  · intro now
    rfl

theorem ownRoute (name : Text) (same : spec.routeId = routeIdOf name) : scope.touches name ∧ scope.reaches name :=
  routeIdOf_inj.mp same ▸ runner.touches spec rfl

theorem handleRouteIntent_steady :
    Steady allowed scope False (fun response => Addressed text spec response) (handleRouteIntent text spec) := by
  have done : Steady allowed scope False (fun response => Addressed text spec response)
      (pure (remoteProxyUrlFromPlan text spec)) := by
    apply Steady.pure
    intro url same
    exact .inr same
  apply (askAny _).bind
  intro plan _
  cases plan with
  | reverseLink =>
    apply (askAny _).bind
    intro defaults _
    apply (startRoute (ownRoute runner) text _ false).bind
    intro _ _
    exact done
  | direct localPeer =>
    apply (askAny _).bind
    intro _ _
    apply (askAny _).bind
    intro _ _
    apply (askAny _).bind
    intro _ _
    exact done

section
variable {remoteUrl : Option Text} (addressed : Addressed text spec remoteUrl)
include addressed

theorem routeFailed_closes (error : Option String) (unseen : scope.final → ¬ multi) :
    Closes allowed scope sure id (OutcomeOf text scope multi spec) (routeFailed text spec id remoteUrl error) := by
  refine onRecord runner _ _ (fun _ => jobOf_url rfl addressed) (fun _ => rfl) ?_
  exact Steady.pure ⟨fun final several => absurd several (unseen final), addressed⟩

theorem handoffFailed_closes (failure : HandoffProbeFailure)
    (quiet : scope.final → multi → remotePortFailureIsRetryable failure.blocker failure.message = false) :
    Closes allowed scope sure id (OutcomeOf text scope multi spec) (handoffFailed text spec id remoteUrl failure) := by
  apply (updateHandoffProbeStatus runner.saves _ _ _).beforeClosing
  intro _ _
  refine onRecord runner _ _ (fun _ => jobOf_url rfl addressed.value) (fun _ => rfl) ?_
  exact Steady.pure ⟨quiet, addressed.value⟩

theorem readyTimeout_closes :
    Closes allowed scope sure id (OutcomeOf text scope multi spec) (readyTimeout text spec id remoteUrl) := by
  refine onRecord runner _ _ (fun _ => jobOf_url rfl addressed) (fun _ => rfl) ?_
  apply Steady.pure
  refine ⟨fun _ _ => ?_, addressed⟩
  decide

theorem applySettings_goes :
    Goes allowed scope sure id (fun _ => True) (OutcomeOf text scope multi spec) (applySettings text spec id remoteUrl) := by
  refine onRecord runner _ _ (fun _ => jobOf_url rfl addressed) (fun _ => rfl) ?_
  apply (updateRemoteSetupStatus runner.saves _ _ _).before
  intro _ _
  apply (askAny (·.call)).tried.before
  intro applied _
  cases applied with
  | ok =>
    apply (updateRemoteSetupStatus runner.saves _ _ _).before
    intro _ _
    refine onRecord runner _ _ (fun _ => jobOf_url rfl addressed.value) (fun _ => rfl) ?_
    apply Closes.goes
    refine onRecord runner _ _ (fun _ => jobOf_url rfl addressed.value) (fun _ => rfl) ?_
    exact Steady.pure trivial
  | error error =>
    apply Closes.goes
    refine onRecord runner _ _ (fun _ => jobOf_url rfl addressed.value) (fun _ => rfl) ?_
    apply (updateRemoteSetupStatus runner.saves _ _ _).bind
    intro _ _
    apply Steady.pure
    refine ⟨fun _ _ => ?_, addressed.value⟩
    simp [remotePortFailureIsRetryable]

variable (quiet : ∀ outside daemon, allowed outside daemon → scope.final → multi → outside.Quiet)
include quiet

theorem routeReady_goes :
    Goes allowed scope sure id (fun _ => True) (OutcomeOf text scope multi spec) (routeReady text spec id remoteUrl) := by
  refine onRecord runner _ _ (fun _ => jobOf_url rfl addressed) (fun _ => rfl) ?_
  split
  next =>
    apply (updateHandoffProbeStatus runner.saves _ _ _).before
    intro _ _
    refine onRecord runner _ _ (fun _ => jobOf_url rfl addressed) (fun _ => rfl) ?_
    have probed : Steady allowed scope sure
        (fun probe => ∀ failure, probe = .error failure → scope.final → multi →
          remotePortFailureIsRetryable failure.blocker failure.message = false)
        (ask fun outside => .ok outside.probe) := by
      apply Steady.ask
      intro outside daemon may failure failed final several
      exact (quiet outside daemon may final several).probe failed
    apply probed.before
    intro probe fact
    cases probe with
    | ok =>
      apply (updateHandoffProbeStatus runner.saves _ _ _).before
      intro _ _
      exact applySettings_goes runner addressed
    | error failure => exact (handoffFailed_closes runner addressed failure (fact failure rfl)).goes
  next =>
    apply (updateHandoffProbeStatus runner.saves _ _ _).before
    intro _ _
    exact applySettings_goes runner addressed

theorem pollRoute_goes {again : SessionProgram RouteReadyOutcome}
    (rest : Goes allowed scope sure id (fun _ => True) (OutcomeOf text scope multi spec) again) :
    Goes allowed scope sure id (fun _ => True) (OutcomeOf text scope multi spec)
      (pollRoute text spec id remoteUrl again) := by
  have polled : Steady allowed scope sure
      (fun seen => ∀ state error, seen = some (state, error) → scope.final → multi → state.isShown = true)
      (Program.perform fun outside daemon =>
        (daemon, .ok ((daemon.routes.get spec.routeId).map fun _ => (outside.routeState, outside.routeError)))) := by
    refine perform (fun _ _ => .nothing) (fun _ _ => .nothing) ?_
    intro outside daemon may state error seen final several
    cases found : daemon.routes.get spec.routeId with
    | none =>
      rw [found] at seen
      cases seen
    | some task =>
      rw [found] at seen
      cases seen
      exact (quiet outside daemon may final several).shown
  apply polled.before
  intro seen fact
  split
  next error => exact (routeFailed_closes runner addressed error fun final several => nomatch fact _ error rfl final several).goes
  next error => exact (routeFailed_closes runner addressed error fun final several => nomatch fact _ error rfl final several).goes
  next => exact routeReady_goes runner addressed quiet
  next => exact routeReady_goes runner addressed quiet
  next => exact routeReady_goes runner addressed quiet
  next => exact rest
  next => exact rest
  next => exact rest

theorem waitRouteReady_goes (sleeps : Nat) :
    Goes allowed scope sure id (fun _ => True) (OutcomeOf text scope multi spec)
      (waitRouteReady text spec id remoteUrl sleeps) := by
  have timeout : Goes allowed scope sure id (fun _ => True) (OutcomeOf text scope multi spec)
      (readyTimeout text spec id remoteUrl) := (readyTimeout_closes runner addressed).goes
  induction sleeps with
  | zero => exact pollRoute_goes runner addressed quiet timeout
  | succ sleeps ih =>
    apply pollRoute_goes runner addressed quiet
    have asked : Steady allowed scope sure (fun _ => True) (ask fun outside => .ok outside.expired) :=
      .ask fun _ _ _ => trivial
    apply asked.before
    intro expired _
    split
    next => exact timeout
    next => exact ih

end

variable (quiet : ∀ outside daemon, allowed outside daemon → scope.final → multi → outside.Quiet)
include quiet

theorem recordRouteIntentAccepted_goes {response : Option Text} (answered : Addressed text spec response)
    (recoveryAttempts : Nat) : Goes allowed scope sure id (fun _ => True) (OutcomeOf text scope multi spec)
      (recordRouteIntentAccepted text spec id response recoveryAttempts) := by
  intro progress work
  let remoteUrl := some (response.getD (spec.remoteUrl text))
  have addressed : Addressed text spec remoteUrl := answered.value
  let job (now : Nat) := ((jobForPhase text spec id .startRoute 70 now).withRemoteUrl remoteUrl).withRecoveryAttempts
    recoveryAttempts
  have waits := waitRouteReady_goes runner addressed quiet routeReadySleeps
  have written := Walk.upsertJob runner.saves job "route intent accepted" progress
    (fun now => runner.writes _ rfl (.inl rfl)) (fun now _ => work.owes) (fun now final _ => work.onward final)
  have awaited (now : Nat) : (job now).isAwaited = true := rfl
  have owes (now : Nat) : (progress.wrote (job now)).owes = some id := Progress.wrote_awaited (awaited now) progress
  apply andThen written
  · intro error point reached
    obtain ⟨now, rfl, unsure⟩ := reached
    exact ⟨_, rfl, unsure, work.fresh, .inr (owes now)⟩
  · intro value point reached
    obtain ⟨now, rfl, _⟩ := reached
    apply andThen (Walk.getJob id (progress.wrote (job now)))
    · intro error point reached
      obtain ⟨_, _, ok, _⟩ := reached
      cases ok
    · intro found point reached
      obtain ⟨rfl, _, ok, same, known⟩ := reached
      cases ok
      have mine (alone : scope.alone) : found = some (job now) := known alone (job now) rfl rfl rfl
      cases found with
      | none =>
        have unsure : ¬ sure := fun certain => nomatch mine (runner.alone certain)
        exact waits _ ⟨⟨work.fresh, .inr (owes now)⟩, fun _ => owes now, fun certain => absurd certain unsure⟩
      | some stored =>
        have serves : Serves scope stored.id spec :=
          ⟨(runner.touches spec rfl).1, same stored rfl ▸ runner.own spec rfl⟩
        have address (located : scope.addressed) : Addressed text spec stored.remoteUrl := by
          cases mine (runner.located located)
          exact addressed
        apply andThen (Walk.upsertSession runner.saves (progress.wrote (job now)) serves address
          (fun sourced => (mine (runner.sourced sourced)).symm) runner.plain)
        · intro error point reached
          exact ⟨_, reached.1, reached.2, work.fresh, .inr (owes now)⟩
        · intro session point reached
          rw [reached.1]
          exact waits _ ⟨⟨work.fresh, .inr (owes now)⟩, fun _ => owes now, fun _ => rfl⟩

theorem repairRouteConflict_goes (recoveryAttempts : Nat) :
    Goes allowed scope sure id (fun _ => True) (OutcomeOf text scope multi spec)
      (repairRouteConflict text spec id recoveryAttempts) := by
  refine onRecord runner _ _ (fun _ => jobOf_url rfl (addressed_own text spec)) (fun _ => rfl) ?_
  apply (Steady.stopRoute (ownRoute runner)).tried.before
  intro _ _
  apply (handleRouteIntent_steady runner).tried.before
  intro response answered
  cases response with
  | ok response => exact recordRouteIntentAccepted_goes runner quiet (answered response rfl) _
  | error error =>
    apply Closes.goes
    refine onRecord runner _ _ (fun _ => jobOf_url rfl (addressed_own text spec)) (fun _ => rfl) ?_
    apply Steady.pure
    refine ⟨fun _ _ => ?_, addressed_own text spec⟩
    simp [remotePortFailureIsRetryable]

theorem runRouteAttempt_goes (recoveryAttempts : Nat) :
    Goes allowed scope sure id (fun _ => True) (OutcomeOf text scope multi spec)
      (runRouteAttempt text spec id recoveryAttempts) := by
  apply (handleRouteIntent_steady runner).tried.before
  intro response answered
  cases response with
  | ok response => exact recordRouteIntentAccepted_goes runner quiet (answered response rfl) _
  | error error =>
    dsimp only
    split
    next => exact repairRouteConflict_goes runner quiet _
    next =>
      apply Closes.goes
      refine onRecord runner _ _ (fun _ => jobOf_url rfl (addressed_own text spec)) (fun _ => rfl) ?_
      exact Steady.pure ⟨fun _ _ => routeStartBlocker_final error error, addressed_own text spec⟩

end

section
variable (runner : RunnerOf text allowed scope sure id (some spec))
include runner

theorem recordRemotePortRangeExhausted_closes (failure : PortAttemptFailure)
    (addressed : Addressed text (spec.withRemotePort failure.port) failure.remoteUrl) :
    Closes allowed scope sure id (fun _ => True) (recordRemotePortRangeExhausted text spec id failure) := by
  apply Closes.recordJob (runner.withPort failure.port)
  · intro now
    exact jobOf_url rfl addressed.value
  · intro now
    rfl

variable (quiet : ∀ outside daemon, allowed outside daemon → scope.final → multi → outside.Quiet)
  (several : spec.remotePortPolicy.autoPick = true → 1 < spec.remotePortPolicy.candidates.length → multi)
include quiet several

omit quiet in
theorem afterAttempt_walk (index : Nat) (port : UInt16) {again : PortAttemptFailure → SessionProgram Unit}
    (rest : ∀ failure : PortAttemptFailure, Addressed text (spec.withRemotePort failure.port) failure.remoteUrl →
      Goes allowed scope sure id (fun _ => True) (fun _ => True) (again failure))
    (outcome : RouteReadyOutcome) (fact : OutcomeOf text scope multi (spec.withRemotePort port) outcome) {progress : Progress}
    (ended : progress.Ended sure) :
    Walk allowed scope (Leaves scope sure id (fun _ => True) (fun _ => True)) (progress.at scope)
      (afterAttempt text spec id index port again outcome) := by
  have stays : Leaves scope sure id (fun _ => True) (fun _ => True) (.ok ()) (progress.at scope) :=
    ⟨progress, rfl, trivial, fun _ => ended, fun never => absurd trivial never⟩
  cases outcome with
  | healthy => exact .pure stays
  | failed blocker message remoteUrl =>
    obtain ⟨quietly, addressed⟩ := fact
    unfold afterAttempt
    dsimp only
    split
    next retryable =>
      obtain ⟨retry, autoPick⟩ := Bool.and_eq_true_iff.mp retryable
      split
      next more =>
        have unfinal : ¬ scope.final := by
          intro final
          rw [quietly final (several autoPick (by omega))] at retry
          cases retry
        have work : progress.AtWork scope sure id :=
          ⟨ended.idle, fun final => absurd final unfinal, ended.synced⟩
        have next := rest { port, blocker, message, remoteUrl } addressed
        exact (Steady.stopRoute (ownRoute (runner.withPort port))).tried.before (fun _ _ => next) progress work
      next =>
        exact recordRemotePortRangeExhausted_closes runner { port, blocker, message, remoteUrl } addressed progress ended.idle
    next => exact .pure stays

theorem tryCandidates_goes (index : Nat) (ports : List UInt16) (last : Option PortAttemptFailure)
    (nonempty : ports ≠ [] ∨ last.isSome = true)
    (kept : ∀ failure, last = some failure → Addressed text (spec.withRemotePort failure.port) failure.remoteUrl) :
    Goes allowed scope sure id (fun _ => True) (fun _ => True) (tryCandidates text spec id index ports last) := by
  induction ports generalizing index last with
  | nil =>
    cases last with
    | none => simp at nonempty
    | some failure => exact (recordRemotePortRangeExhausted_closes runner failure (kept failure rfl)).goes
  | cons port ports ih =>
    have attempt : Goes allowed scope sure id (fun _ => True) (fun _ => True)
        (runRouteAttempt text (spec.withRemotePort port) id index >>=
          afterAttempt text spec id index port fun failure => tryCandidates text spec id (index + 1) ports (some failure)) := by
      intro progress work
      apply andThen (runRouteAttempt_goes (runner.withPort port) quiet index progress work)
      · intro error point reached
        exact reached
      · intro outcome point reached
        obtain ⟨later, rfl, fact, ended, _⟩ := reached
        apply afterAttempt_walk runner several index port _ outcome fact (ended trivial)
        intro failure addressed
        apply ih
        · exact .inr rfl
        · intro other same
          cases same
          exact addressed
    unfold tryCandidates
    dsimp only
    split
    next =>
      refine onRecord (runner.withPort port) _ _ (fun _ => jobOf_url rfl (addressed_own text _)) (fun _ => rfl) ?_
      exact attempt
    next => exact attempt

theorem runRoute_goes : Goes allowed scope sure id (fun _ => True) (fun _ => True) (runRoute text spec id) := by
  apply bind (proxyJobPhase_goes runner _ _ _)
  intro _ _
  apply bind (proxyJobPhase_goes runner _ _ _)
  intro _ _
  apply tryCandidates_goes runner quiet several
  · exact .inl (candidates_ne_nil _)
  · intro failure none
    cases none

theorem runProxySessionJob_goes :
    Goes allowed scope sure id (fun _ => True) (fun _ => True) (runProxySessionJob text spec id) := by
  apply bind (proxyJobPhase_goes runner _ _ _)
  intro _ _
  split
  next =>
    apply Closes.goes
    apply Closes.recordJob runner
    · intro now
      exact (jobForPhase_of text id spec .failed 100 now).like rfl rfl
    · intro now
      rfl
  next =>
    apply bind (proxyJobPhase_goes runner _ _ _)
    intro _ _
    apply bind (proxyJobPhase_goes runner _ _ _)
    intro _ _
    apply bind (proxyJobPhase_goes runner _ _ _)
    intro _ _
    apply runner.asksConfig.before
    intro _ _ progress work
    apply andThen (RemotePeer.runEnsureJob_goes runner false progress work)
    · intro error point reached
      exact reached
    · intro ready point reached
      obtain ⟨later, rfl, _, ended, going⟩ := reached
      cases ready with
      | false =>
        exact .pure ⟨later, rfl, trivial, fun _ => ended (.inl rfl), fun never => absurd trivial never⟩
      | true => exact runRoute_goes runner quiet several later (going (by simp))

theorem run_session_walk {progress : Progress} (work : progress.AtWork scope sure id) :
    Walk allowed scope (fun _ reached => ∃ later : Progress, reached = later.at scope ∧ later.Ended sure) (progress.at scope)
      (Runner.run text (.session spec id)) := by
  apply triedThen (runProxySessionJob_goes runner quiet several progress work)
  intro result point reached
  obtain ⟨later, rfl, left⟩ := reached
  cases result with
  | ok => exact .pure ⟨later, rfl, left.2.1 trivial⟩
  | error error =>
    have written := Walk.upsertJob runner.saves (failedJobFor text spec id error "job_task_failed")
      "proxy session job task failed" later (fun now => runner.writes _ rfl (.inr rfl)) (fun now _ => left.2.owes)
      (fun now _ awaited => nomatch awaited)
    apply triedThen written
    intro _ point reached
    obtain ⟨now, rfl, _⟩ := reached
    refine .pure ⟨_, rfl, left.2.fresh, Progress.wrote_terminal rfl later, ?_⟩
    intro certain
    exact absurd certain left.1

end

theorem run_remotePeer_walk {peer : Text} {kind : JobKind} {session : Option ProxySessionSpec}
    (runner : RunnerOf text allowed scope False id session) (force : Bool) {progress : Progress}
    (work : progress.AtWork scope False id) :
    Walk allowed scope (fun _ reached => ∃ later : Progress, reached = later.at scope ∧ later.Idle id) (progress.at scope)
      (Runner.run text (.remotePeer peer id kind session force)) := by
  apply triedThen (RemotePeer.runEnsureJob_goes runner force progress work)
  intro result point reached
  obtain ⟨later, rfl, left⟩ := reached
  cases result with
  | ok ready =>
    by_cases ends : ready = false ∨ session = none
    · exact .pure ⟨later, rfl, (left.2.1 ends).idle⟩
    · exact .pure ⟨later, rfl, (left.2.2 ends).toIdle⟩
  | error error =>
    have of (now : Nat) := RemotePeer.job_of text peer id kind session .failed 100 now
    have written := Walk.upsertJob runner.saves
      (fun now => ((RemotePeer.job text peer id kind session .failed 100 now).failed now error
        (some "job_task_failed")).withNextAction "run ssh_proxy doctor --json --report") "remote peer job task failed" later
      (fun now => runner.writes _ (of now).id (.inr rfl)) (fun now _ => (of now).id.symm ▸ left.2.owes)
      (fun now _ awaited => nomatch awaited)
    apply triedThen written
    intro _ point reached
    obtain ⟨now, rfl, _⟩ := reached
    exact .pure ⟨_, rfl, left.2.fresh, .inl (Progress.wrote_terminal rfl later)⟩

end SshProxy
