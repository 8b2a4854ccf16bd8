import SshProxy.Proofs.SessionRunnerWalk

/-! The scopes of the tasks. What a task may rely on depends on the purpose for which the daemon is
watched. -/

namespace SshProxy
open Library Daemon ProxySessionSpec

/-- For which purpose the tasks of the daemon are looked at. -/
structure Watch where
  careful : Prop := False
  final : Prop := False
  /-- A session has one task at a time. -/
  alone : Prop := False
  addressed : Prop := False
  reads : IpText → Prop := fun _ => True
  /-- Stores and config can be written. -/
  sure : Prop := False
  /-- Nothing else happens while an ensure is handled. -/
  frozen : Prop := False
  /-- The session that is to stay stopped. -/
  stopped : Option Text := none
  still : careful → frozen := by exact False.elim
  located : addressed → alone := by exact False.elim
  certain : sure → alone := by exact False.elim

def Fading (id : Text) (claim : Daemon → Prop) : Prop :=
  ∀ before after : Daemon, after.jobs.get id = before.jobs.get id ∨ after.jobs.get id = none → claim before → claim after

def OnJob (id : Text) (claim : Daemon → Prop) : Prop :=
  ∀ before after : Daemon, after.jobs.get id = before.jobs.get id → claim before → claim after

def ApplyRequest.name (request : ApplyRequest) : Option Text := (request.spec.map (·.name)).or (request.id.map sanitizeKey)

def SessionRole.touches (name : Text) : SessionRole → Prop
  | .request (.ensure spec) => name = spec.name
  | .request (.remotePeer _ spec _) => spec.map (·.name) = some name
  | .request (.down _ _) => False
  | .request (.apply settings) => settings.name = some name
  | .runner (.session spec _) => name = spec.name
  | .runner (.remotePeer _ _ _ spec _) => spec.map (·.name) = some name
  | .reconcile => True

/-- Which sessions a task may stop: one that names a route or a job, any at all. -/
def SessionRole.reaches (name : Text) : SessionRole → Prop
  | .request (.down id spec) => ∀ session, id = none → spec = some session → name = session.name
  | role => role.touches name

theorem SessionRole.reaches_of_touches {name : Text} {role : SessionRole} (touches : role.touches name) : role.reaches name := by
  rcases role with (_ | _ | _ | _) | _ | _
  case request.down => cases touches
  all_goals exact touches

namespace Watch
variable (watch : Watch)

/-- Whoever handles an ensure relies on what it has read, because nothing else happens or because it
arrived at a session that it can only reuse. -/
def keeps (expected : Bool) : Prop := watch.frozen ∨ expected = true

def ensureScope (spec : ProxySessionSpec) : Scope where
  job := some spec.jobId
  touches name := name = spec.name
  writes record := record.id = spec.jobId
  apart _ _ mine same :=
    have own := jobIdOf_inj.mp (same.symm.trans mine)
    ⟨own, .inl own⟩
  claims expected claim := watch.keeps expected ∨ (∀ daemon, claim daemon) ∨ watch.alone ∧ Fading spec.jobId claim ∨
    watch.sure ∧ OnJob spec.jobId claim
  careful := watch.careful
  final := False
  alone := watch.alone
  addressed := watch.addressed
  reads := watch.reads
  sourced := watch.sure

def peerOf (spec : Option ProxySessionSpec) (bootstrap : Option PeerBootstrapArgs) : Option Text :=
  (spec.map (·.target)).or (bootstrap.map fun args => args.peerAlias.getD args.target)

def peerScope (spec : Option ProxySessionSpec) (bootstrap : Option PeerBootstrapArgs) : Scope where
  job := (peerOf spec bootstrap).map remotePeerJobId
  touches name := spec.map (·.name) = some name
  writes record := ∃ peer, record.id = remotePeerJobId peer
  apart _ name mine same := by
    obtain ⟨peer, mine⟩ := mine
    exact absurd (mine.symm.trans same) (remotePeerJobId_ne_jobIdOf peer name)
  claims _ _ := False
  careful := watch.careful
  final := False
  alone := False
  addressed := False
  sourced := False

def downNames (id : Option Text) (spec : Option ProxySessionSpec) (name : Text) : Prop :=
  (∃ session, spec = some session ∧ session.name = name) ∨ id = some (routeIdOf name) ∨ id = some (jobIdOf name)

/-- A request to stop the session comes to the job of the session in it, or else to that of the record. -/
def ComesToJob (name : Text) (daemon : Daemon) : Option ProxySessionSpec → Prop
  | some session => session.name = name
  | none => ∃ record ∈ daemon.sessions.get (sessionIdOf name), record.jobId = jobIdOf name

def Kept (name : Text) (claim : Daemon → Prop) : Prop :=
  ∀ before after : Daemon, before.Few → Spares name before after → claim before → claim after

def downScope (id : Option Text) (spec : Option ProxySessionSpec) : Scope where
  job := none
  touches _ := False
  reaches := (SessionRole.request (.down id spec)).reaches
  writes record := record.state = .cancelled ∧ ∀ session, spec = some session → record.id = session.jobId
  apart _ _ mine same := by
    refine ⟨?_, .inr mine.1⟩
    intro session _ known
    exact jobIdOf_inj.mp (same.symm.trans (mine.2 session known))
  claims _ claim := (∀ daemon, claim daemon) ∨ ∃ name, watch.stopped = some name ∧ downNames id spec name ∧ Kept name claim
  careful := watch.careful
  final := False
  alone := False
  addressed := False
  sourced := False

def applyScope (request : ApplyRequest) : Scope where
  job := none
  touches name := request.name = some name
  writes record := ∃ name, record.id = applyIdOf name
  apart _ name mine same := by
    obtain ⟨other, mine⟩ := mine
    exact absurd (mine.symm.trans same) (applyIdOf_ne_jobIdOf other name)
  claims _ _ := False
  careful := watch.careful
  final := False
  alone := False
  addressed := False
  sourced := False

def reconcileScope : Scope where
  job := none
  touches _ := True
  writes record := watch.careful → record.isAwaited = false
  apart _ _ _ _ := ⟨trivial, .inl trivial⟩
  claims _ _ := False
  careful := watch.careful
  final := False
  alone := watch.alone
  addressed := watch.addressed
  reads := watch.reads
  sourced := False

def runnerScope : Runner → Scope
  | .session spec jobId =>
    { job := some jobId
      touches := fun name => name = spec.name
      writes := fun record => record.id = jobId ∧ jobId = spec.jobId ∧
        (record.isAwaited = true ∨ record.state.isTerminal = true)
      apart := fun _ _ mine same =>
        have own := jobIdOf_inj.mp (same.symm.trans (mine.1.trans mine.2.1))
        ⟨own, .inl own⟩
      claims := fun _ _ => False
      careful := watch.careful
      final := watch.final
      alone := watch.alone
      addressed := watch.addressed
      reads := watch.reads
      sourced := watch.sure }
  | .remotePeer _ jobId _ spec _ =>
    { job := some jobId
      touches := fun name => spec.map (·.name) = some name
      writes := fun record => record.id = jobId ∧ ∀ name, jobId ≠ jobIdOf name
      apart := fun _ name mine same => absurd (mine.1.symm.trans same) (mine.2 name)
      claims := fun _ _ => False
      careful := watch.careful
      final := False
      alone := False
      addressed := False
      sourced := False }

def scope : SessionRole → Scope
  | .request (.ensure spec) => watch.ensureScope spec
  | .request (.remotePeer _ spec bootstrap) => watch.peerScope spec bootstrap
  | .request (.down id spec) => watch.downScope id spec
  | .request (.apply request) => watch.applyScope request
  | .runner runner => watch.runnerScope runner
  | .reconcile => watch.reconcileScope

theorem scope_touches {role : SessionRole} {name : Text} : (watch.scope role).touches name ↔ role.touches name := by
  cases role with
  | request request => cases request <;> exact Iff.rfl
  | runner runner => cases runner <;> exact Iff.rfl
  | reconcile => exact Iff.rfl

theorem scope_reaches {role : SessionRole} {name : Text} : (watch.scope role).reaches name ↔ role.reaches name := by
  cases role with
  | request request => cases request <;> exact Iff.rfl
  | runner runner => cases runner <;> exact Iff.rfl
  | reconcile => exact Iff.rfl

theorem scope_careful {role : SessionRole} : (watch.scope role).careful ↔ watch.careful := by
  cases role with
  | request request => cases request <;> exact Iff.rfl
  | runner runner => cases runner <;> exact Iff.rfl
  | reconcile => exact Iff.rfl

def triesPorts (spec : ProxySessionSpec) : Prop :=
  spec.remotePortPolicy.autoPick = true ∧ 1 < spec.remotePortPolicy.candidates.length

instance (spec : ProxySessionSpec) : Decidable (triesPorts spec) := inferInstanceAs (Decidable (_ ∧ _))

def allowed : SessionRole → SessionOutside → Daemon → Prop
  | .request (.ensure _), outside, _ => watch.careful ∨ watch.sure → outside.save = .ok ()
  | .request (.down id spec), _, daemon => ∀ name, watch.stopped = some name →
    daemon.Few ∧ (downNames id spec name → ComesToJob name daemon spec)
  | .runner (.session spec _), outside, _ =>
    (watch.final → triesPorts spec → outside.Quiet) ∧ (watch.sure → outside.save = .ok () ∧ outside.config = .ok ())
  | _, _, _ => True

end Watch

variable {watch : Watch} {text : IpText}

theorem sessionRunner_of (plain : watch.addressed → watch.reads text) {spec : ProxySessionSpec} {id : Text}
    (proper : id = spec.jobId) :
    RunnerOf text (watch.allowed (.runner (.session spec id))) (watch.scope (.runner (.session spec id))) watch.sure id
      (some spec) where
  writes record same kind := ⟨same, proper, kind⟩
  touches session known := by
    cases known
    exact ⟨rfl, rfl⟩
  own session known := by
    cases known
    exact .inl proper
  known _ := rfl
  alone := watch.certain
  located := watch.located
  plain := plain
  sourced := watch.certain
  saves _ _ may certain := (may.2 certain).1
  config _ _ may certain := (may.2 certain).2

theorem peerRunner_of {peer id : Text} {kind : JobKind} {spec : Option ProxySessionSpec} {force : Bool}
    (proper : ∀ name, id ≠ jobIdOf name ∧ id ≠ routeIdOf name) :
    RunnerOf text (watch.allowed (.runner (.remotePeer peer id kind spec force)))
      (watch.scope (.runner (.remotePeer peer id kind spec force))) False id spec where
  writes _ same _ := ⟨same, fun name => (proper name).1⟩
  touches session known := by
    cases known
    exact ⟨rfl, rfl⟩
  own _ _ := .inr proper
  known := False.elim
  alone := False.elim
  located := False.elim
  plain := False.elim
  sourced := False.elim
  saves _ _ _ := False.elim
  config _ _ _ := False.elim

def Runner.start (runner : Runner) : Progress := { owes := some runner.jobId }

theorem Runner.start_atWork (runner : Runner) (scope : Scope) (sure : Prop) :
    runner.start.AtWork scope sure runner.jobId where
  fresh := rfl
  owes := .inr rfl
  onward _ := rfl
  synced _ := rfl

theorem sessionRunner_walk (plain : watch.addressed → watch.reads text) {spec : ProxySessionSpec} {id : Text}
    (proper : (Runner.session spec id).Proper) :
    Walk (watch.allowed (.runner (.session spec id))) (watch.scope (.runner (.session spec id)))
      (fun _ reached => reached.toProgress.Ended watch.sure)
      ((Runner.session spec id).start.at (watch.scope (.runner (.session spec id)))) (Runner.run text (.session spec id)) := by
  have quiet (outside : SessionOutside) (daemon : Daemon)
      (may : watch.allowed (.runner (.session spec id)) outside daemon) (final : watch.final)
      (several : Watch.triesPorts spec) : outside.Quiet := may.1 final several
  have work := (Runner.session spec id).start_atWork (watch.scope (.runner (.session spec id))) watch.sure
  apply (run_session_walk (sessionRunner_of plain proper) quiet (fun auto more => ⟨auto, more⟩) work).weaken
  intro _ point reached
  obtain ⟨later, rfl, ended⟩ := reached
  exact ended

end SshProxy
