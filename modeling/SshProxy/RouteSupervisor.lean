import SshProxy.SessionRunner

/-! The task of a route, `spawn_route_supervisor`, which makes one attempt after the other, beside the
task that waits for the route to be ready. They share the stats of the route, which are behind a
lock. -/

namespace SshProxy
open Library Daemon

structure RouteStats where
  state : RouteState := .starting
  attempts : Nat := 0
  restartCount : Nat := 0
  lastError : Option String := none
  lastEvent : Option String := some "route task created"
  updatedAtUnix : Nat
  deriving DecidableEq

namespace RouteStats

def attempting (now : Nat) (stats : RouteStats) : RouteStats :=
  { stats with
    state := .running
    attempts := stats.attempts + 1
    lastEvent := some "route task starting"
    updatedAtUnix := now }

def ended (now : Nat) (result : Except String Unit) (stats : RouteStats) : RouteStats :=
  match result with
  | .ok () => { stats with state := .exited, lastEvent := some "route task exited cleanly", updatedAtUnix := now }
  | .error error =>
    { stats with
      state := .error
      lastError := some error
      lastEvent := some "route task failed"
      updatedAtUnix := now }

def restarting (now delay : Nat) (stats : RouteStats) : RouteStats :=
  { stats with
    state := .restarting
    restartCount := stats.restartCount + 1
    lastEvent := some ("route task restarting in " ++ toString delay ++ "s")
    updatedAtUnix := now }

end RouteStats

/-- The task of a route, with whether an attempt is under way and what those before it came to, the
latest first. -/
structure RouteSupervisor where
  stats : RouteStats
  delay : Nat := 1
  underway : Bool := false
  results : List (Except String Unit) := []

namespace RouteSupervisor

def new (now : Nat) : RouteSupervisor where
  stats := { updatedAtUnix := now }

/-- The next time that the task has the lock: an attempt starts, or it has ended. What it came to is
written, and that it will be made again, before the lock is given back. -/
def advance (now : Nat) (result : Except String Unit) (supervisor : RouteSupervisor) : RouteSupervisor :=
  if supervisor.underway then
    { stats := (supervisor.stats.ended now result).restarting now supervisor.delay
      delay := min (supervisor.delay * 2) 30
      underway := false
      results := result :: supervisor.results }
  else { supervisor with stats := supervisor.stats.attempting now, underway := true }

/-- There were attempts, all of them have ended, and each one in an error. -/
def allFailed (supervisor : RouteSupervisor) : Bool :=
  !supervisor.underway && !supervisor.results.isEmpty && supervisor.results.all fun result => result matches .error _

end RouteSupervisor

/-- A route and the task that waits for it in `wait_for_proxy_route_ready`. -/
structure AwaitedRoute where
  supervisor : RouteSupervisor
  daemon : Daemon
  waiter : Program Daemon SessionOutside (Except String RouteReadyOutcome)

/-- The task of the route takes the lock, the waiting task takes a step, or others change what the
daemon holds. -/
inductive AwaitedRoute.Move where
  | supervisor (now : Nat) (result : Except String Unit)
  | waiter (outside : SessionOutside)
  | others (daemon : Daemon)

namespace AwaitedRoute

def start (text : IpText) (spec : ProxySessionSpec) (jobId : Text) (remoteUrl : Option Text) (now : Nat) (daemon : Daemon) :
    AwaitedRoute where
  supervisor := .new now
  daemon := daemon
  waiter := (waitRouteReady text spec jobId remoteUrl routeReadySleeps).run

def seen (route : AwaitedRoute) (outside : SessionOutside) : SessionOutside :=
  { outside with routeState := route.supervisor.stats.state, routeError := route.supervisor.stats.lastError }

def step (route : AwaitedRoute) : Move → AwaitedRoute
  | .supervisor now result => { route with supervisor := route.supervisor.advance now result }
  | .waiter outside =>
    match route.waiter with
    | .pure _ => route
    | .step write next =>
      { route with
        daemon := write (route.seen outside) route.daemon
        waiter := next (route.seen outside) route.daemon }
  | .others daemon => { route with daemon }

def run (route : AwaitedRoute) (moves : List Move) : AwaitedRoute := moves.foldl step route

end AwaitedRoute
end SshProxy
