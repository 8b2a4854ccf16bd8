import SshProxy.Proofs.SessionPool
import SshProxy.RouteSupervisor

/-! What the stats of a route can say while a session waits for it. -/

namespace SshProxy
open Library Daemon

namespace RouteSupervisor

/-- What an attempt came to is never seen: it is overwritten before the lock is given back. -/
structure Shown (supervisor : RouteSupervisor) : Prop where
  state : supervisor.stats.state =
    if supervisor.underway then .running else if supervisor.results = [] then .starting else .restarting

theorem new_shown (now : Nat) : (new now).Shown := ⟨rfl⟩

theorem Shown.advance {supervisor : RouteSupervisor} (now : Nat) (result : Except String Unit) :
    (supervisor.advance now result).Shown := by
  constructor
  unfold RouteSupervisor.advance
  split
  next => rfl
  next => rfl

namespace Shown
variable {supervisor : RouteSupervisor} (shown : supervisor.Shown)
include shown

/-- What the tasks of sessions are taken to see of a route is what its supervisor shows. -/
theorem isShown : supervisor.stats.state.isShown = true := by
  rw [shown.state]
  cases supervisor.underway with
  | true => rfl
  | false => cases supervisor.results <;> rfl

theorem underway_of_seen (awake : supervisor.stats.state ≠ .restarting) (past : supervisor.stats.state ≠ .starting) :
    supervisor.underway = true := by
  rw [shown.state] at awake past
  by_cases underway : supervisor.underway = true
  · exact underway
  · rw [if_neg underway] at awake past
    by_cases none : supervisor.results = []
    · exact absurd (if_pos none) past
    · exact absurd (if_neg none) awake

theorem restarting_of_allFailed (failed : supervisor.allFailed = true) : supervisor.stats.state = .restarting := by
  unfold allFailed at failed
  rw [Bool.and_eq_true, Bool.and_eq_true, Bool.not_eq_true', Bool.not_eq_true', List.isEmpty_eq_false_iff] at failed
  obtain ⟨⟨idle, some⟩, _⟩ := failed
  rw [shown.state, idle, if_neg Bool.false_ne_true, if_neg some]

end Shown
end RouteSupervisor

namespace AwaitedRoute

variable {route : AwaitedRoute}

theorem step_shown (shown : route.supervisor.Shown) (move : Move) :
    (route.step move).supervisor.Shown := by
  cases move with
  | supervisor now result => exact .advance now result
  | waiter outside =>
    rw [step]
    split
    next => exact shown
    next => exact shown
  | others daemon => exact shown

theorem run_shown (shown : route.supervisor.Shown) (moves : List Move) :
    (route.run moves).supervisor.Shown := by
  induction moves generalizing route with
  | nil => exact shown
  | cons move moves ih => exact ih (step_shown shown move)

section
variable (text : IpText) (spec : ProxySessionSpec) (jobId : Text) (remoteUrl : Option Text)

structure TakesReady (before after : AwaitedRoute) : Prop where
  looks : ∃ sleeps, before.waiter = (waitRouteReady text spec jobId remoteUrl sleeps).run
  goes : after.waiter = (routeReady text spec jobId remoteUrl).run

/-- A step in which the route is not taken for ready unless an attempt is under way, and in which the
wait ends with a failure of the route if every attempt has failed. -/
structure OverRunning (before after : AwaitedRoute) : Prop where
  ready : TakesReady text spec jobId remoteUrl before after → before.supervisor.underway = true
  failed : before.waiter.result? = none → ∀ result, after.waiter.result? = some result → after.supervisor.allFailed = true →
    ∃ message url, result = .ok (.failed "route_failed" message url)

end

/-- The phases of the jobs that the next step of a program writes where it starts from nothing. -/
private def nextPhases {α : Type} : Program Daemon SessionOutside α → List JobPhase
  | .pure _ => []
  | .step write _ => (write {} {}).written.map (·.phase)

variable {text : IpText} {spec : ProxySessionSpec} {jobId : Text} {remoteUrl : Option Text}

theorem pollRoute_run (again : SessionProgram RouteReadyOutcome) :
    (pollRoute text spec jobId remoteUrl again).run = .step (fun _ daemon => daemon) fun outside daemon =>
      match (daemon.routes.get spec.routeId).map fun _ => (outside.routeState, outside.routeError) with
      | some (.error, error) | some (.failed, error) => (routeFailed text spec jobId remoteUrl error).run
      | some (.running, _) | some (.ready, _) | some (.restarting, _) => (routeReady text spec jobId remoteUrl).run
      | some (.starting, _) | some (.exited, _) | none => again.run := rfl

theorem look_starting {again : SessionProgram RouteReadyOutcome} (outside : SessionOutside)
    (looks : route.waiter = (pollRoute text spec jobId remoteUrl again).run)
    (starting : route.supervisor.stats.state = .starting) : (route.step (.waiter outside)).waiter = again.run := by
  have told : (route.seen outside).routeState = .starting := starting
  rw [step, looks, pollRoute_run]
  dsimp only
  rw [told]
  cases route.daemon.routes.get spec.routeId with
  | none | some task => rfl

theorem waiter_of_changed {move : Move} (changed : (route.step move).waiter ≠ route.waiter) :
    ∃ outside, move = .waiter outside := by
  cases move with
  | supervisor now result | others daemon => exact absurd rfl changed
  | waiter outside => exact ⟨outside, rfl⟩

namespace TakesReady

theorem nextPhases_eq {before after : AwaitedRoute} (takes : TakesReady text spec jobId remoteUrl before after) :
    nextPhases after.waiter = [.verifyRemotePort] := by
  rw [takes.goes]
  rfl

theorem is_waiter {before : AwaitedRoute} {move : Move}
    (takes : TakesReady text spec jobId remoteUrl before (before.step move)) : ∃ outside, move = .waiter outside := by
  apply waiter_of_changed
  intro same
  have ready := takes.nextPhases_eq
  obtain ⟨sleeps, looks⟩ := takes.looks
  rw [same, looks] at ready
  cases sleeps with
  | zero | succ sleeps => cases ready

theorem not_starting {before : AwaitedRoute} {outside : SessionOutside}
    (takes : TakesReady text spec jobId remoteUrl before (before.step (.waiter outside))) :
    before.supervisor.stats.state ≠ .starting := by
  intro starting
  have ready := takes.nextPhases_eq
  obtain ⟨sleeps, looks⟩ := takes.looks
  -- The wait goes on without a job, or with the one of the timeout.
  cases sleeps with
  | zero | succ sleeps =>
    rw [look_starting outside looks starting] at ready
    cases ready

end TakesReady

theorem step_supervisor_waiter (route : AwaitedRoute) (outside : SessionOutside) :
    (route.step (.waiter outside)).supervisor = route.supervisor := by
  rw [step]
  split
  next => rfl
  next => rfl

/-- Whatever the interleaving, a step that the waiting task does not take between two attempts takes
the route for ready over an attempt that is under way, and does not end where all of them have failed. -/
theorem ready_over_running (text : IpText) (spec : ProxySessionSpec) (jobId : Text) (remoteUrl : Option Text) (now : Nat)
    (daemon : Daemon) (moves : List Move) (move : Move) (awake : ∀ outside, move = .waiter outside →
      ((start text spec jobId remoteUrl now daemon).run moves).supervisor.stats.state ≠ .restarting) :
    OverRunning text spec jobId remoteUrl ((start text spec jobId remoteUrl now daemon).run moves)
      (((start text spec jobId remoteUrl now daemon).run moves).step move) := by
  have shown : ((start text spec jobId remoteUrl now daemon).run moves).supervisor.Shown :=
    run_shown (RouteSupervisor.new_shown now) moves
  generalize (start text spec jobId remoteUrl now daemon).run moves = before at awake shown
  constructor
  · intro takes
    obtain ⟨outside, rfl⟩ := takes.is_waiter
    exact shown.underway_of_seen (awake outside rfl) takes.not_starting
  · intro unended result ended failed
    by_cases changed : (before.step move).waiter = before.waiter
    · rw [changed, unended] at ended
      cases ended
    · obtain ⟨outside, rfl⟩ := waiter_of_changed changed
      rw [step_supervisor_waiter] at failed
      exact absurd (shown.restarting_of_allFailed failed) (awake outside rfl)

/-- A session whose remote port is not verified, and the daemon in which its route has been started. -/
def unverifiedSpec : ProxySessionSpec := { hostSpec with applyPolicy := { verifyRemotePort := false } }

def startedDaemon : Daemon :=
  { routes := SortedMap.empty.insert unverifiedSpec.routeId
      { spec := .reverse (.ofSpec [] unverifiedSpec), persist := false, createdAtUnix := 0 } }

def unverified : AwaitedRoute := start loopbackText unverifiedSpec unverifiedSpec.jobId none 0 startedDaemon

theorem ready_over_running_attempt :
    let before := unverified.run [.supervisor 0 (.ok ())]
    TakesReady loopbackText unverifiedSpec unverifiedSpec.jobId none before (before.step (.waiter {})) ∧
      before.supervisor.underway = true := by
  have takes : TakesReady loopbackText unverifiedSpec unverifiedSpec.jobId none (unverified.run [.supervisor 0 (.ok ())])
      ((unverified.run [.supervisor 0 (.ok ())]).step (.waiter {})) := ⟨⟨routeReadySleeps, rfl⟩, rfl⟩
  have awake (outside : SessionOutside) (_ : Move.waiter {} = .waiter outside) :
      (unverified.run [.supervisor 0 (.ok ())]).supervisor.stats.state ≠ .restarting := by decide
  exact ⟨takes, (ready_over_running _ _ _ _ 0 _ _ (.waiter {}) awake).ready takes⟩

/-- The only attempt fails, and after it the route is taken for ready and the session is healthy. -/
theorem ready_over_failed :
    let failed := unverified.run [.supervisor 0 (.ok ()), .supervisor 0 (.error "connection refused")]
    let healthy := failed.run (List.replicate 13 (.waiter {}))
    TakesReady loopbackText unverifiedSpec unverifiedSpec.jobId none failed (failed.step (.waiter {})) ∧
      failed.supervisor.underway = false ∧ healthy.supervisor.allFailed = true ∧
      healthy.waiter.result? = some (.ok .healthy) := by
  refine ⟨⟨⟨routeReadySleeps, rfl⟩, rfl⟩, rfl, rfl, ?_⟩
  decide +kernel

end AwaitedRoute
end SshProxy
