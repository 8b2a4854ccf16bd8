import SshProxy.Proofs.SessionWalks

/-! The outline of a runner. Whatever comes from outside, it works on its one job, tells the session
of each record after it has written it, and leaves the job at an end. -/

namespace SshProxy
open Library Daemon ProxySessionSpec Program.Outline

variable {allowed : SessionOutside → Daemon → Prop} {scope : Scope} {sure : Prop} {α : Type}

structure JobOf (text : IpText) (id : Text) (spec : Option ProxySessionSpec) (record : JobRecord) : Prop where
  id : record.id = id
  address : ∀ session, spec = some session → ∀ url, record.remoteUrl = some url → IsAddress text session url

theorem JobOf.like {text : IpText} {id : Text} {spec : Option ProxySessionSpec} {record other : JobRecord}
    (of : JobOf text id spec record) (sameId : other.id = record.id) (sameUrl : other.remoteUrl = record.remoteUrl) :
    JobOf text id spec other :=
  ⟨sameId.trans of.id, fun session known url found => of.address session known url (sameUrl.symm.trans found)⟩

/-- A runner works on a job, for a session if that has one. Where it is sure, there is a session, the
runner is alone with it, and stores and config can be written. -/
structure RunnerOf (text : IpText) (allowed : SessionOutside → Daemon → Prop) (scope : Scope) (sure : Prop) (id : Text)
    (spec : Option ProxySessionSpec) : Prop where
  writes : ∀ record : JobRecord, record.id = id → record.isAwaited = true ∨ record.state.isTerminal = true → scope.writes record
  touches : ∀ session, spec = some session → scope.touches session.name ∧ scope.reaches session.name
  own : ∀ session, spec = some session → OwnJob session.name id
  known : sure → spec.isSome = true
  alone : sure → scope.alone
  located : scope.addressed → scope.alone
  plain : scope.addressed → scope.reads text
  sourced : scope.sourced → scope.alone
  saves : ∀ outside daemon, allowed outside daemon → sure → outside.save = .ok ()
  config : ∀ outside daemon, allowed outside daemon → sure → outside.config = .ok ()

section
variable {text : IpText} {id : Text} {spec : Option ProxySessionSpec} (runner : RunnerOf text allowed scope sure id spec)
  (job : Nat → JobRecord) (message : String)
include runner

theorem Walk.recordJob (of : ∀ now, JobOf text id spec (job now))
    (kind : ∀ now, (job now).isAwaited = true ∨ (job now).state.isTerminal = true) {progress : Progress}
    (idle : progress.Idle id)
    (onward : ∀ now, scope.final → (job now).isAwaited = true → progress.owes = some (job now).id) : Walk allowed scope
      (fun result reached => ∃ now synced, reached = ({ progress.wrote (job now) with synced } : Progress).at scope ∧
        match result with
        | .ok _ => sure → synced = true
        | .error _ => ¬ sure)
      (progress.at scope) (SshProxy.recordJob text spec job message) := by
  have written := Walk.upsertJob runner.saves job message progress
    (fun now => runner.writes (job now) (of now).id (kind now)) (fun now _ => (of now).id.symm ▸ idle.owes) onward
  apply andThen written
  · intro error point reached
    obtain ⟨now, here, unsure⟩ := reached
    exact ⟨now, false, here, unsure⟩
  · intro value point reached
    obtain ⟨now, rfl, rfl⟩ := reached
    cases known : spec with
    | none =>
      refine .pure ⟨now, false, rfl, ?_⟩
      intro certain
      have some := runner.known certain
      rw [known] at some
      cases some
    | some session =>
      have serves : Serves scope (job now).id session :=
        ⟨(runner.touches session known).1, (of now).id ▸ runner.own session known⟩
      apply andThen
        (Walk.upsertSession runner.saves (progress.wrote (job now)) serves (fun _ => (of now).address session known) (fun _ => rfl)
          runner.plain)
      · intro error point reached
        exact ⟨now, true, reached.1, reached.2⟩
      · intro session point reached
        exact .pure ⟨now, true, reached.1, fun _ => rfl⟩

theorem Goes.recordJob (of : ∀ now, JobOf text id spec (job now)) (awaited : ∀ now, (job now).isAwaited = true) :
    Goes allowed scope sure id (fun _ => False) (fun _ => True) (SshProxy.recordJob text spec job message) := by
  intro progress work
  apply (Walk.recordJob runner job message of (fun now => .inl (awaited now)) work.toIdle
    (fun now final _ => (of now).id.symm ▸ work.onward final)).weaken
  intro result point reached
  obtain ⟨now, synced, rfl, told⟩ := reached
  have owes := (Progress.wrote_awaited (awaited now) progress).trans (congrArg some (of now).id)
  refine ⟨_, rfl, ?_⟩
  cases result with
  | ok => exact ⟨trivial, False.elim, fun _ => ⟨⟨work.fresh, .inr owes⟩, fun _ => owes, told⟩⟩
  | error => exact ⟨told, work.fresh, .inr owes⟩

theorem Closes.recordJob (of : ∀ now, JobOf text id spec (job now))
    (terminal : ∀ now, (job now).state.isTerminal = true) :
    Closes allowed scope sure id (fun _ => True) (SshProxy.recordJob text spec job message) := by
  intro progress idle
  have unawaited (now : Nat) : (job now).isAwaited = false := JobRecord.isAwaited_of_terminal (terminal now)
  apply (Walk.recordJob runner job message of (fun now => .inr (terminal now)) idle
    (fun now _ awaited => absurd ((unawaited now).symm.trans awaited) Bool.false_ne_true)).weaken
  intro result point reached
  obtain ⟨now, synced, rfl, told⟩ := reached
  have owes := Progress.wrote_terminal (terminal now) progress
  refine ⟨_, rfl, ?_⟩
  cases result with
  | ok => exact ⟨trivial, fun _ => ⟨idle.fresh, owes, told⟩, fun never => absurd trivial never⟩
  | error => exact ⟨told, idle.fresh, .inl owes⟩

variable {next : Unit → SessionProgram α} {ends facts : α → Prop}

theorem Goes.onRecord (of : ∀ now, JobOf text id spec (job now)) (awaited : ∀ now, (job now).isAwaited = true)
    (rest : Goes allowed scope sure id ends facts (next ())) :
    Goes allowed scope sure id ends facts (SshProxy.recordJob text spec job message >>= next) :=
  (Goes.recordJob runner job message of awaited).bind fun _ _ => rest

theorem Closes.onRecord (of : ∀ now, JobOf text id spec (job now)) (terminal : ∀ now, (job now).state.isTerminal = true)
    (rest : Steady allowed scope sure facts (next ())) :
    Closes allowed scope sure id facts (SshProxy.recordJob text spec job message >>= next) :=
  (Closes.recordJob runner job message of terminal).bind fun _ _ => rest

omit job message in
theorem RunnerOf.asksConfig : Steady allowed scope sure (fun _ => True) (ask (·.config)) := by
  apply Steady.ask
  intro outside daemon may
  split
  next => trivial
  next error failed =>
    intro certain
    rw [runner.config outside daemon may certain] at failed
    cases failed

end

namespace RemotePeer
variable {text : IpText} {peer id : Text} {kind : JobKind} {spec : Option ProxySessionSpec}

theorem job_of (text : IpText) (peer id : Text) (kind : JobKind) (spec : Option ProxySessionSpec) (phase : JobPhase)
    (progress now : Nat) : JobOf text id spec (RemotePeer.job text peer id kind spec phase progress now) := by
  cases spec with
  | none =>
    refine ⟨rfl, ?_⟩
    intro session same
    cases same
  | some spec =>
    refine ⟨rfl, ?_⟩
    intro session same url found
    cases same
    exact .inl (Option.some.inj found).symm

variable (runner : RunnerOf text allowed scope sure id spec)
include runner

theorem recordEvent_walk (phase : JobPhase) (percent : Nat) (message : String) {progress : Progress}
    (work : progress.AtWork scope sure id) : Walk allowed scope
      (fun _ reached => ∃ later : Progress, reached = later.at scope ∧ later.AtWork scope sure id ∧
        ∃ record, later.last = some record ∧ record.isAwaited = true ∧ record.id = id)
      (progress.at scope) (recordEvent text peer id kind spec phase percent message) := by
  let job (now : Nat) := (RemotePeer.job text peer id kind spec phase percent now).withNextAction "wait_for_remote_peer"
  have of (now : Nat) : JobOf text id spec (job now) := (job_of text peer id kind spec phase percent now).like rfl rfl
  have awaited (now : Nat) : (job now).isAwaited = true := by
    cases spec <;> rfl
  have atWork (now : Nat) (synced : Bool) (told : sure → synced = true) :
      ({ progress.wrote (job now) with synced } : Progress).AtWork scope sure id := by
    have owes := (Progress.wrote_awaited (awaited now) progress).trans (congrArg some (of now).id)
    exact ⟨⟨work.fresh, .inr owes⟩, fun _ => owes, told⟩
  have recorded := Walk.recordJob runner job message of (fun now => .inl (awaited now)) work.toIdle
    (fun now final _ => (of now).id.symm ▸ work.onward final)
  apply andThen recorded
  · intro error point reached
    obtain ⟨now, synced, rfl, unsure⟩ := reached
    exact ⟨_, rfl, atWork now synced fun certain => absurd certain unsure, job now, rfl, awaited now, (of now).id⟩
  · intro value point reached
    obtain ⟨now, synced, rfl, told⟩ := reached
    apply (Steady.upsertPeerStatus runner.saves _ _).weaken
    intro result point reached
    exact ⟨_, reached.1, atWork now synced told, job now, rfl, awaited now, (of now).id⟩

theorem phase_goes (phase : JobPhase) (percent : Nat) (message : String) :
    Goes allowed scope sure id (fun _ => False) (fun _ => True)
      (RemotePeer.phase text peer id kind spec phase percent message) := by
  intro progress work
  apply triedThen (recordEvent_walk runner phase percent message work)
  intro _ point reached
  obtain ⟨later, rfl, atWork, record, last, awaited, same⟩ := reached
  apply andThen (Walk.getJob id later)
  · intro error point reached
    obtain ⟨_, _, ok, _⟩ := reached
    cases ok
  · intro value point reached
    obtain ⟨rfl, found, ok, _, known⟩ := reached
    cases ok
    cases value with
    | some job => exact .pure ⟨later, rfl, trivial, False.elim, fun _ => atWork⟩
    | none =>
      refine .pure ⟨later, rfl, ?_, atWork.toIdle⟩
      intro certain
      cases known (runner.alone certain) record last (JobRecord.unfinished_of_isAwaited awaited) same

theorem recordPeerWaiting_goes (lastError : Option String) (message : String) :
    Goes allowed scope sure id (fun _ => False) (fun _ => True)
      (recordPeerWaiting text peer id kind spec lastError message) := by
  refine Goes.onRecord runner _ _ (fun now => (job_of text peer id kind spec _ _ now).like rfl rfl) ?_ ?_
  · intro now
    cases spec <;> rfl
  have looked : Steady allowed scope sure (fun _ => True) (look (·.peers.store.get peer)) := .look fun _ => trivial
  apply looked.before
  intro existing _
  cases existing with
  | some existing => exact (Steady.upsertPeerStatus runner.saves _).goes
  | none => exact (Steady.pure trivial).goes

theorem finishDirectJob_goes :
    Goes allowed scope sure id (fun _ => spec = none) (fun _ => True) (finishDirectJob text peer id kind spec) := by
  cases known : spec with
  | some session =>
    intro progress work
    refine .pure ⟨progress, rfl, trivial, ?_, fun _ => work⟩
    intro never
    cases never
  | none =>
    intro progress work
    have written := Walk.upsertJob runner.saves
      (fun now => (RemotePeer.job text peer id kind none .healthy 100 now).transition now .healthy .healthy 100)
      "remote peer ready" progress (fun now => runner.writes _ rfl (.inr rfl)) (fun now _ => work.owes)
      (fun now _ awaited => nomatch awaited)
    have unsure : ¬ sure := by
      intro certain
      have some := runner.known certain
      rw [known] at some
      cases some
    apply andThen written
    · intro error point reached
      obtain ⟨now, rfl, _⟩ := reached
      exact ⟨_, rfl, unsure, work.fresh, .inl rfl⟩
    · intro value point reached
      obtain ⟨now, rfl, _⟩ := reached
      exact .pure ⟨_, rfl, trivial, fun _ => ⟨work.fresh, rfl, fun certain => absurd certain unsure⟩,
        fun never => absurd rfl never⟩

theorem recordPeer_goes (descriptor : PeerDescriptor) (message : String) :
    Goes allowed scope sure id (fun _ => spec = none) (fun _ => True)
      (recordPeer text peer id kind spec descriptor message) := by
  apply runner.asksConfig.before
  intro _ _
  refine Goes.onRecord runner _ _ (fun now => (job_of text peer id kind spec _ _ now).like rfl rfl) ?_ ?_
  · intro now
    cases spec <;> rfl
  apply (Steady.upsertPeerStatus runner.saves _).before
  intro _ _
  exact finishDirectJob_goes runner

theorem recordInstallFailed_closes (error : String) :
    Closes allowed scope sure id (fun _ => True) (recordInstallFailed text peer id kind spec error) := by
  refine Closes.onRecord runner _ _ (fun now => (job_of text peer id kind spec _ _ now).like rfl rfl) (fun _ => rfl) ?_
  exact Steady.upsertPeerStatus runner.saves _

theorem install_goes : Goes allowed scope sure id (fun ready => ready = false ∨ spec = none) (fun _ => True)
      (install text peer id kind spec) := by
  apply Goes.bind (phase_goes runner _ _ _)
  intro _ _
  apply Goes.bind (phase_goes runner _ _ _)
  intro _ _
  apply Goes.bind (phase_goes runner _ _ _)
  intro _ _
  apply Goes.bind (phase_goes runner _ _ _)
  intro _ _
  apply (Steady.askAny (·.installed)).tried.before
  intro installed _
  cases installed with
  | ok descriptor =>
    apply Goes.bind (phase_goes runner _ _ _)
    intro _ _
    apply (recordPeer_goes runner _ _).map
    · intro _ _
      trivial
    · intro _
      simp
  | error error =>
    apply (recordInstallFailed_closes runner error).goes.map
    · intro _ _
      trivial
    · intro _
      simp

theorem runEnsureJob_goes (force : Bool) :
    Goes allowed scope sure id (fun ready => ready = false ∨ spec = none) (fun _ => True)
      (runEnsureJob text peer id kind spec force) := by
  apply Goes.bind (phase_goes runner _ _ _)
  intro _ _
  apply (Steady.askAny (·.descriptor)).tried.before
  intro descriptor _
  cases descriptor with
  | ok descriptor =>
    dsimp only
    split
    next =>
      apply Goes.bind (recordPeerWaiting_goes runner _ _)
      intro _ _
      exact install_goes runner
    next =>
      apply (recordPeer_goes runner _ _).map
      · intro _ _
        trivial
      · intro _
        simp
  | error error =>
    apply Goes.bind (recordPeerWaiting_goes runner _ _)
    intro _ _
    exact install_goes runner

end RemotePeer
end SshProxy
