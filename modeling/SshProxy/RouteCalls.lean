import SshProxy.Library.Pool
import SshProxy.RouteTable

/-! The calls on the routes of the daemon, with the file that the persistent ones are stored in. A call
takes the lock of the registry several times; the store is taken from the registry under the lock and
written to the file without it. -/

namespace SshProxy
open Library

structure StoredRoute where
  id : Text
  createdAtUnix : Nat
  fallbackReason : Option String
  spec : RouteSpec
  deriving DecidableEq

def RouteTask.stored (id : Text) (task : RouteTask) : Option StoredRoute :=
  if task.persist then some ⟨id, task.createdAtUnix, task.fallbackReason, task.spec⟩ else none

namespace RouteTable

def stored (routes : RouteTable) : List StoredRoute := routes.entries.filterMap fun (id, task) => task.stored id

def finish (id : Text) (routes : RouteTable) : RouteTable :=
  match routes.get id with
  | some task => routes.insert id { task with finished := true }
  | none => routes

end RouteTable

/-- The registry and the file; `unwritten` is how many stores have been taken from the registry and not
been written yet. -/
structure RouteDaemon where
  routes : RouteTable := .empty
  file : List StoredRoute := []
  unwritten : Nat := 0

/-- What comes from outside in one step: the clock, whether the port of a forward route could be bound,
how the file was read and written, what the config makes of the arguments of a forward route, and
whether a task ended in time. -/
structure RouteOutside where
  now : Nat := 0
  port : Except String Unit := .ok ()
  read : Except String Unit := .ok ()
  save : Except String Unit := .ok ()
  defaults : ForwardRoute → Except String ForwardRoute := .ok
  stopConfirmed : Bool := true

structure RouteRequest where
  id : Option Text := none
  direction : Option String := none
  proxy : Option ForwardRoute := none
  reverse : Option ReverseRoute := none
  persist : Option Bool := none
  fallbackReason : Option String := none

inductive RouteResponse where
  | started (reusedExisting persist : Bool)
  | stopped (removedPersistent stopConfirmed : Bool)
  | restarted (persist : Bool)
  | restored
  deriving DecidableEq

namespace RouteStartOutcome

def isReused : RouteStartOutcome → Bool
  | .started => false
  | .reusedExisting _ _ => true

def persists (requested : Bool) : RouteStartOutcome → Bool
  | .started => requested
  | .reusedExisting persist _ => persist

end RouteStartOutcome

abbrev RouteProgram := ExceptT String (Program RouteDaemon RouteOutside)

namespace RouteDaemon

def ask {α : Type} (answer : RouteOutside → Except String α) : RouteProgram α :=
  Program.perform fun outside daemon => (daemon, answer outside)

def withRoutes {α : Type} (change : RouteOutside → RouteTable → RouteTable × Except String α) : RouteProgram α :=
  Program.perform fun outside daemon =>
    let (routes, result) := change outside daemon.routes
    ({ daemon with routes }, result)

def takeStore : RouteProgram (List StoredRoute) :=
  Program.perform fun _ daemon =>
    ({ daemon with unwritten := daemon.unwritten + 1 }, .ok daemon.routes.stored)

def writeStore (store : List StoredRoute) : RouteProgram Unit :=
  Program.perform fun outside daemon =>
    let unwritten := daemon.unwritten - 1
    match outside.save with
    | .ok () => ({ daemon with file := store, unwritten }, .ok ())
    | .error error => ({ daemon with unwritten }, .error error)

def saveRoutes : RouteProgram Unit := do
  let store ← takeStore
  writeStore store

section
variable (text : IpText)

/-- `start_route_spec`, which has the lock twice. -/
def startRouteSpec (id : Text) (spec : RouteSpec) (persist : Bool) (createdAtUnix : Nat) (fallbackReason : Option String) :
    RouteProgram RouteStartOutcome := do
  match ← withRoutes fun outside => RouteTable.checkStart text outside.port id spec persist with
  | some outcome => return outcome
  | none =>
    withRoutes fun outside => RouteTable.register text outside.port createdAtUnix fallbackReason id spec persist

/-- The spec that is asked for, with what the config says for a forward route. -/
def requestedSpec (request : RouteRequest) : RouteProgram RouteSpec :=
  match request.direction with
  | none => throw "route_start requires direction"
  | some direction =>
    if direction = "forward" then
      match request.proxy with
      | none => throw "forward route requires proxy args"
      | some args => do return .forward (← ask (·.defaults args))
    else if direction = "reverse" then
      match request.reverse with
      | none => throw "reverse route requires reverse args"
      | some args => return .reverse args
    else throw ("unknown route direction " ++ direction.quote)

def startRoute (request : RouteRequest) : RouteProgram RouteResponse :=
  match request.id with
  | none => throw "route_start requires id"
  | some id => do
    let spec ← requestedSpec request
    let persist := request.persist.getD true
    let now ← ask fun outside => .ok outside.now
    let outcome ← startRouteSpec text id spec persist now request.fallbackReason
    if outcome.shouldSaveRouteStore persist then saveRoutes
    return .started outcome.isReused (outcome.persists persist)

def takeRoute (id : Text) : RouteProgram RouteTask := withRoutes fun _ => RouteTable.take id

def stopRoute (request : RouteRequest) : RouteProgram RouteResponse :=
  match request.id with
  | none => throw "route_stop requires id"
  | some id => do
    let task ← takeRoute id
    let stopConfirmed ← ask fun outside => .ok outside.stopConfirmed
    if task.persist then saveRoutes
    return .stopped task.persist stopConfirmed

def restartRoute (request : RouteRequest) : RouteProgram RouteResponse :=
  match request.id with
  | none => throw "route_restart requires id"
  | some id => do
    let task ← takeRoute id
    let _ ← startRouteSpec text id task.spec task.persist task.createdAtUnix task.fallbackReason
    if task.persist then saveRoutes
    return .restarted task.persist

/-- One route after the other; that one could not be started is logged. -/
def restoreEach : List StoredRoute → RouteProgram Unit
  | [] => pure ()
  | route :: rest => do
    let _ ← Program.tried (startRouteSpec text route.id route.spec true route.createdAtUnix route.fallbackReason)
    restoreEach rest

def readStore : RouteProgram (List StoredRoute) :=
  Program.perform fun outside daemon =>
    (daemon, .ok (match outside.read with
      | .ok () => daemon.file
      | .error _ => []))

def restoreRoutes : RouteProgram RouteResponse := do
  restoreEach text (← readStore)
  return .restored

end
end RouteDaemon

inductive RouteCall where
  | start (request : RouteRequest)
  | stop (request : RouteRequest)
  | restart (request : RouteRequest)
  | restore

def RouteCall.program (text : IpText) : RouteCall → Program RouteDaemon RouteOutside (Except String RouteResponse)
  | .start request => (RouteDaemon.startRoute text request).run
  | .stop request => (RouteDaemon.stopRoute request).run
  | .restart request => (RouteDaemon.restartRoute text request).run
  | .restore => (RouteDaemon.restoreRoutes text).run

/-- The calls that are under way, with the tasks of routes that end by themselves as events. -/
abbrev RouteCalls := Pool RouteDaemon RouteOutside RouteCall (Except String RouteResponse)

abbrev RouteAction := Pool.Action RouteOutside RouteCall Text

def RouteCalls.system (text : IpText) : Pool.System RouteDaemon RouteOutside RouteCall Text (Except String RouteResponse) where
  program := RouteCall.program text
  happens id daemon := { daemon with routes := daemon.routes.finish id }

end SshProxy
