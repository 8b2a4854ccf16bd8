import SshProxy.Proofs.Watch

/-! The outline of `ensure_proxy_session`: four questions, each a step of its own, and then a session
that is told of its job once more, or a new job with a runner. -/

namespace SshProxy
open Library Daemon ProxySessionSpec Program.EndsAt Program.Outline

variable {watch : Watch} {text : IpText}

/-- The reuse check of `ensure_proxy_session` against the daemon as it is. -/
def reusesExisting (text : IpText) (spec : ProxySessionSpec) (daemon : Daemon) : Bool :=
  match daemon.jobs.get spec.jobId with
  | none => false
  | some existing =>
    reusableProxySessionJob existing (daemon.routes.isLive spec.routeId) &&
      matchesExisting text spec (daemon.sessions.sessionByJob spec.jobId) &&
      (daemon.peers.store.get spec.target).all peerStatusAllowsProxySessionReuse

theorem reusable_live {job : JobRecord} {live : Bool} (reusable : reusableProxySessionJob job live = true) :
    reusableProxySessionJob job true = true := by
  unfold reusableProxySessionJob at reusable ⊢
  split
  next => simp_all
  next => rfl
  next => rfl
  next => rfl
  next => simp_all
  next => simp_all

theorem pending_or_live {daemon : Daemon} {id : Text} {job : JobRecord} {live : Bool} (found : daemon.jobs.get id = some job)
    (reusable : reusableProxySessionJob job live = true) : daemon.Pending id ∨ live = true := by
  cases live with
  | true => exact .inr rfl
  | false => exact .inl ⟨job, found, reusable⟩

theorem Fading.onJob {id : Text} {claim : Daemon → Prop} (fading : Fading id claim) : OnJob id claim :=
  fun before after same => fading before after (.inl same)

namespace Watch
variable {spec : ProxySessionSpec} {expected : Bool} {claim : Daemon → Prop}

theorem ensure_claims_and (claims : (watch.ensureScope spec).claims expected claim) {condition : Prop} {fact : Daemon → Prop}
    (rests : condition → watch.keeps expected ∨ watch.sure ∧ OnJob spec.jobId fact) :
    (watch.ensureScope spec).claims expected fun daemon => claim daemon ∧ (condition → fact daemon) := by
  by_cases holds : condition
  · rcases rests holds with keeps | ⟨sure, factOnJob⟩
    · exact .inl keeps
    · have both (onJob : OnJob spec.jobId claim) :
          OnJob spec.jobId fun daemon => claim daemon ∧ (condition → fact daemon) :=
        fun before after same here =>
          ⟨onJob before after same here.1, fun _ => factOnJob before after same (here.2 holds)⟩
      rcases claims with keeps | always | ⟨_, fading⟩ | ⟨_, onJob⟩
      · exact .inl keeps
      · exact .inr (.inr (.inr ⟨sure, both fun _ after _ _ => always after⟩))
      · exact .inr (.inr (.inr ⟨sure, both fading.onJob⟩))
      · exact .inr (.inr (.inr ⟨sure, both onJob⟩))
  · have same : (fun daemon => claim daemon ∧ (condition → fact daemon)) = claim :=
      funext fun _ => propext (and_iff_left fun met => absurd met holds)
    rwa [same]

theorem ensure_claims_kept (claims : (watch.ensureScope spec).claims expected claim) (fact : Daemon → Prop) :
    (watch.ensureScope spec).claims expected fun daemon => claim daemon ∧ (watch.keeps expected → fact daemon) :=
  ensure_claims_and claims .inl

theorem ensure_claims_job (claims : (watch.ensureScope spec).claims expected claim) (found : Option JobRecord) :
    (watch.ensureScope spec).claims expected fun daemon =>
      claim daemon ∧ (watch.keeps expected ∨ watch.sure → daemon.jobs.get spec.jobId = found) :=
  ensure_claims_and claims fun kept => kept.imp_right fun sure => ⟨sure, fun _ _ same held => same.trans held⟩

end Watch

structure EnsureEnd (watch : Watch) (text : IpText) (spec : ProxySessionSpec) (result : Except String SessionResponse)
    (reached : TaskPoint) : Prop where
  owes : watch.careful → reached.owes = none
  synced : watch.sure → reached.synced = true
  claim : watch.careful → ∀ asked job session, result = .ok (.accepted asked job session true) →
    reached.claim = fun daemon => watch.careful → daemon.Pending spec.jobId ∨ daemon.routes.isLive spec.routeId = true
  address : watch.addressed → ∀ asked job session, result = .ok (.accepted asked job session true) →
    job.remoteUrl = some (asked.remoteUrl text)
  own : ∀ asked job session reused, result = .ok (.accepted asked job session reused) →
    asked = spec ∧ job.id = spec.jobId ∧ session.routeId = spec.routeId

abbrev EnsureWalk (watch : Watch) (text : IpText) (spec : ProxySessionSpec) :
    TaskPoint → SessionProgram SessionResponse → Prop :=
  Walk (watch.allowed (.request (.ensure spec))) (watch.ensureScope spec) (EnsureEnd watch text spec)

/-- Where the handling of an ensure starts, or goes on as long as it has only read. -/
def ensureStart (expected : Bool) (claim : Daemon → Prop) : TaskPoint := { fresh := !expected, expected, claim }

section
variable {spec : ProxySessionSpec} (plain : watch.addressed → watch.reads text)
include plain

theorem acceptProxySession_walk :
    EnsureWalk watch text spec (({ fresh := true } : Progress).at (watch.ensureScope spec)) (acceptProxySession text spec) := by
  have saves (outside : SessionOutside) (daemon : Daemon) (may : watch.allowed (.request (.ensure spec)) outside daemon)
      (certain : watch.careful ∨ watch.sure) : outside.save = .ok () := may certain
  have failed (error : String) (point : TaskPoint) (unsure : ¬ (watch.careful ∨ watch.sure)) :
      EnsureEnd watch text spec (.error error) point := by
    refine ⟨?_, ?_, by simp, by simp, by simp⟩
    · intro careful
      exact absurd (.inl careful) unsure
    · intro sure
      exact absurd (.inr sure) unsure
  let job (now : Nat) := (((((JobRecord.new now spec.jobId .ensureProxySession).withTarget spec.target).withWorkspace
    spec.workspaceId).withRoute spec.routeId).withRemoteUrl (some (spec.remoteUrl text))).transition now .queued .queued 0
  let progress : Progress := { fresh := true }
  have written : Walk (watch.allowed (.request (.ensure spec))) (watch.ensureScope spec) _ (progress.at _)
      (upsertJob job "proxy session accepted") :=
    Walk.upsertJob saves job _ progress (fun _ => rfl) (fun _ _ => .inl rfl) (fun _ => False.elim)
  apply andThen written
  · intro error point reached
    obtain ⟨now, _, unsure⟩ := reached
    exact failed error point unsure
  · intro value point reached
    obtain ⟨now, rfl, rfl⟩ := reached
    have serves : Serves (watch.ensureScope spec) (job now).id spec :=
      ⟨rfl, .inl rfl⟩
    apply andThen (Walk.upsertSession saves (progress.wrote (job now)) serves
      (fun _ => addressed_own text spec) (fun _ => rfl) plain)
    · intro error point reached
      exact failed error point reached.2
    · intro session point reached
      rw [reached.1]
      have routed := reached.2
      have touches (other : ProxySessionSpec) (same : (Runner.session spec (job now).id).spec? = some other) :
          (watch.ensureScope spec).touches other.name := by
        cases same
        rfl
      apply andThen (Walk.spawn (.session spec (job now).id) { progress.wrote (job now) with synced := true }
        rfl rfl rfl touches (fun _ => .inr rfl) fun _ => rfl)
      · intro error point reached
        cases reached.1
      · intro _ point reached
        rw [reached.2]
        refine .pure ⟨fun _ => rfl, fun _ => rfl, by simp, by simp, ?_⟩
        intro _ _ _ _ same
        cases same
        exact ⟨rfl, rfl, routed⟩

theorem reuseProxySession_walk {expected live : Bool} {claim : Daemon → Prop} {existing : JobRecord}
    (same : existing.id = spec.jobId) (reusable : reusableProxySessionJob existing live = true)
    (stored : ∀ daemon, claim daemon → watch.keeps expected ∨ watch.sure → daemon.jobs.get spec.jobId = some existing)
    (routed : ∀ daemon, claim daemon → watch.keeps expected → daemon.routes.isLive spec.routeId = live)
    (address : watch.addressed → existing.remoteUrl = some (spec.remoteUrl text)) :
    EnsureWalk watch text spec (ensureStart expected claim)
      (upsertSession text spec existing >>= fun session => pure (.accepted spec existing session true)) := by
  let reused : Daemon → Prop := fun daemon =>
    watch.careful → daemon.Pending spec.jobId ∨ daemon.routes.isLive spec.routeId = true
  have claims : (watch.ensureScope spec).claims expected reused := by
    by_cases careful : watch.careful
    · exact .inl (.inl (watch.still careful))
    · exact .inr (.inl fun daemon held => absurd held careful)
  have told : Walk (watch.allowed (.request (.ensure spec))) (watch.ensureScope spec)
      (fun result reached => reached = ensureStart expected reused ∧ ∀ session, result = .ok session →
        session.routeId = spec.routeId) (ensureStart expected claim) (upsertSession text spec existing) := by
    refine Walk.act (fun _ _ => ensureStart expected reused)
      (fun outside _ => .session text outside.now outside.save spec existing) ?_
    intro outside daemon _ _ here
    refine ⟨?_, claims, ?_, rfl, ?_⟩
    · refine .session _ text outside.now outside.save spec existing rfl (.inl same) ?_ ?_ plain
      · intro located
        rw [address located]
        exact addressed_own text spec
      · intro sure
        exact .inr ⟨rfl, stored daemon.settled here (.inr sure)⟩
    · intro careful
      have keeps : watch.keeps expected := .inl (watch.still careful)
      rcases pending_or_live (stored _ here (.inl keeps)) reusable with pending | isLive
      · exact .inl pending
      · exact .inr ((routed _ here keeps).trans isLive)
    · intro session answered
      cases saved : outside.save <;> simp only [SessionRegistry.upsertFromJob, SessionRegistry.save, saved] at answered <;>
        cases answered
      rfl
  apply andThen told
  · intro error point reached
    rw [reached.1]
    exact ⟨fun _ => rfl, fun _ => rfl, by simp, by simp, by simp⟩
  · intro session point reached
    rw [reached.1]
    refine .pure ⟨fun _ => rfl, fun _ => rfl, fun _ _ _ _ _ => rfl, ?_, ?_⟩
    · intro located _ _ _ same
      cases same
      exact address located
    · intro _ _ _ _ answered
      cases answered
      exact ⟨rfl, same, reached.2 session rfl⟩

theorem ensureProxySession_walk {expected : Bool} {claim : Daemon → Prop}
    (claims : (watch.ensureScope spec).claims expected claim)
    (reuses : expected = true → ∀ daemon, claim daemon → reusesExisting text spec daemon = true)
    (addresses : watch.addressed → ∀ daemon job, claim daemon → daemon.jobs.get spec.jobId = some job →
      reusableProxySessionJob job true = true → job.remoteUrl = some (spec.remoteUrl text)) :
    EnsureWalk watch text spec (ensureStart expected claim) (ensureProxySession text spec) := by
  -- what is refused on the way is no ensure that arrived at a session to reuse
  have accepts {seen : Daemon → Prop} (implied : ∀ daemon, seen daemon → claim daemon)
      (refused : expected = true → ∀ daemon, seen daemon → reusesExisting text spec daemon = false) :
      EnsureWalk watch text spec (ensureStart expected seen) (acceptProxySession text spec) := by
    cases expected with
    | true =>
      apply unreached
      intro daemon here
      have reuses := reuses rfl _ (implied _ here.2)
      rw [refused rfl _ here.2] at reuses
      cases reuses
    | false =>
      apply strengthen (acceptProxySession_walk plain)
      · intro daemon here
        refine ⟨here.1, ?_⟩
        intro _ record last
        cases last
      · intro later before after moves
        exact ⟨moves.does, moves.claimed⟩
  apply Walk.read (fun _ => rfl) (watch.keeps expected ∨ watch.sure) (Watch.ensure_claims_job claims)
  intro found stored
  obtain ⟨before, began, stored⟩ := stored
  have claimsJob := Watch.ensure_claims_job claims found
  cases found with
  | none =>
    apply accepts
    · intro daemon here
      exact here.1
    · intro arrived daemon here
      simp only [reusesExisting, here.2 (.inl (.inr arrived))]
  | some existing =>
    apply Walk.read (fun _ => rfl) (watch.keeps expected) fun live => Watch.ensure_claims_kept claimsJob _
    intro live _
    have claimsLive := Watch.ensure_claims_kept claimsJob fun daemon => daemon.routes.isLive spec.routeId = live
    split
    next reusable =>
      apply Walk.read (fun _ => rfl) (watch.keeps expected) fun session => Watch.ensure_claims_kept claimsLive _
      intro session _
      have claimsSession := Watch.ensure_claims_kept claimsLive fun daemon =>
        daemon.sessions.sessionByJob spec.jobId = session
      split
      next =>
        apply Walk.read (fun _ => rfl) (watch.keeps expected) fun peer => Watch.ensure_claims_kept claimsSession _
        intro peer _
        split
        next =>
          apply reuseProxySession_walk plain (JobRegistry.get_id stored) reusable
          · intro daemon here
            exact here.1.1.1.2
          · intro daemon here
            exact here.1.1.2
          · intro located
            exact addresses located before existing began stored (reusable_live reusable)
        next outdated =>
          apply accepts
          · intro daemon here
            exact here.1.1.1.1
          · intro arrived daemon here
            simp only [reusesExisting, here.1.1.1.2 (.inl (.inr arrived)), here.2 (.inr arrived), outdated, Bool.and_false]
      next unlike =>
        apply accepts
        · intro daemon here
          exact here.1.1.1
        · intro arrived daemon here
          simp only [reusesExisting, here.1.1.2 (.inl (.inr arrived)), here.2 (.inr arrived), unlike, Bool.and_false,
            Bool.false_and]
    next unusable =>
      apply accepts
      · intro daemon here
        exact here.1.1
      · intro arrived daemon here
        simp only [reusesExisting, here.1.2 (.inl (.inr arrived)), here.2 (.inr arrived), unusable, Bool.false_and]

omit plain in
theorem ensureProxySession_endsAt (text : IpText) (spec : ProxySessionSpec) :
    (ensureProxySession text spec).run.EndsAt fun before after => after.spawned ≠ before.spawned := by
  have accepts : (acceptProxySession text spec).run.EndsAt fun before after => after.spawned ≠ before.spawned := by
    apply andThen (fun _ _ other => other rfl)
    intro job
    apply andThen (fun _ _ other => other rfl)
    intro session
    exact last _ _
  apply andThen (fun _ _ other => other rfl)
  intro found
  cases found with
  | none => exact accepts
  | some existing =>
    apply andThen (fun _ _ other => other rfl)
    intro live
    split
    next =>
      apply andThen (fun _ _ other => other rfl)
      intro session
      split
      next =>
        apply andThen (fun _ _ other => other rfl)
        intro peer
        split
        next => exact last _ _
        next => exact accepts
      next => exact accepts
    next => exact accepts

end

end SshProxy
