import Mathlib.Data.List.Lex
import Mathlib.Data.String.Basic
import SshProxy.Address
import SshProxy.Library.SortedMap

/-! The routes that the daemon has registered, and what decides whether another one may be started. -/

namespace SshProxy
open Library

/-- What a route is given besides that by which routes are told apart here, in serialised form. -/
abbrev RouteSettings := Text

structure ForwardRoute where
  target : Text
  listen : SocketAddr
  settings : RouteSettings
  deriving DecidableEq

structure ReverseRoute where
  target : Text
  remoteListen : SocketAddr
  sshArgs : List Text
  user : Option Text
  port : Option UInt16
  identity : List Text
  config : Option Text
  knownHosts : Option Text
  acceptNew : Bool
  jump : List Text
  egressProxy : Option Text
  settings : RouteSettings
  deriving DecidableEq

inductive RouteSpec where
  | forward (args : ForwardRoute)
  | reverse (args : ReverseRoute)
  deriving DecidableEq

inductive RouteDirection where
  | forward | reverse
  deriving DecidableEq, Repr

def RouteDirection.name : RouteDirection → String
  | .forward => "forward"
  | .reverse => "reverse"

namespace RouteSpec

def direction : RouteSpec → RouteDirection
  | .forward _ => .forward
  | .reverse _ => .reverse

def listen : RouteSpec → SocketAddr
  | .forward args => args.listen
  | .reverse args => args.remoteListen

def peer : RouteSpec → Text
  | .forward args => args.target
  | .reverse args => args.target

/-- `normalized_route_spec`: the keys of a reverse route make no difference. -/
def normalized : RouteSpec → RouteSpec
  | .forward args => .forward args
  | .reverse args => .reverse { args with identity := [] }

def isSame (route candidate : RouteSpec) : Bool :=
  route.direction = candidate.direction ∧ route.listen = candidate.listen ∧ route.peer = candidate.peer ∧
    route.normalized = candidate.normalized

def reservesListener (route candidate : RouteSpec) : Bool :=
  route.direction = candidate.direction ∧ route.listen = candidate.listen ∧
    (candidate.direction = .forward ∨ route.peer = candidate.peer)

end RouteSpec

structure RouteTask where
  spec : RouteSpec
  persist : Bool
  createdAtUnix : Nat
  fallbackReason : Option String := none
  finished : Bool := false
  deriving DecidableEq

inductive RouteStartOutcome where
  | started
  | reusedExisting (persist upgradedPersist : Bool)
  deriving DecidableEq

namespace RouteStartOutcome

def shouldSaveRouteStore (requested : Bool) : RouteStartOutcome → Bool
  | .started => requested
  | .reusedExisting _ upgradedPersist => upgradedPersist

end RouteStartOutcome

/-- The routes of the daemon by their ids. They stand in no order that matters. -/
abbrev RouteTable := SortedMap Text RouteTask

namespace RouteTable

def differentSpec (id : Text) : String :=
  "route " ++ (String.ofList id).quote ++ " is already running with a different spec"

def notRunning (id : Text) : String := "route " ++ (String.ofList id).quote ++ " is not running"

def showSocketAddr (text : IpText) (addr : SocketAddr) : String :=
  match addr.ip with
  | .v4 _ => text.display addr.ip ++ ":" ++ toString addr.port.toNat
  | .v6 _ => "[" ++ text.display addr.ip ++ "]:" ++ toString addr.port.toNat

/-- `ensure_new_route_can_start`. For a forward route the port is bound for a moment, and `port` says
how that went. -/
def ensureNewRouteCanStart (text : IpText) (port : Except String Unit) (routes : RouteTable) (spec : RouteSpec) :
    Except String Unit :=
  match routes.entries.find? fun entry => entry.2.spec.reservesListener spec with
  | some (owner, _) => .error ("route " ++ (String.ofList owner).quote ++ " already owns " ++ spec.direction.name ++
      " listener " ++ showSocketAddr text spec.listen)
  | none =>
    match spec with
    | .forward _ => port
    | .reverse _ => .ok ()

/-- What `start_route_spec` does under the lock, the first and the second time: it drops the tasks
that have ended, and finds a task to use again, a conflict, or that the route may be started. -/
def checkStart (text : IpText) (port : Except String Unit) (id : Text) (spec : RouteSpec) (persist : Bool) (routes : RouteTable) :
    RouteTable × Except String (Option RouteStartOutcome) :=
  let routes := routes.retain fun entry => !entry.2.finished
  match routes.get id with
  | some task =>
    if task.spec.isSame spec then
      let upgradedPersist := persist && !task.persist
      (if upgradedPersist then routes.insert id { task with persist := true } else routes,
        .ok (some (.reusedExisting (task.persist || persist) upgradedPersist)))
    else (routes, .error (differentSpec id))
  | none =>
    match ensureNewRouteCanStart text port routes spec with
    | .ok () => (routes, .ok none)
    | .error error => (routes, .error error)

def register (text : IpText) (port : Except String Unit) (createdAtUnix : Nat) (fallbackReason : Option String) (id : Text)
    (spec : RouteSpec) (persist : Bool) (routes : RouteTable) : RouteTable × Except String RouteStartOutcome :=
  match checkStart text port id spec persist routes with
  | (routes, .ok none) => (routes.insert id { spec, persist, createdAtUnix, fallbackReason }, .ok .started)
  | (routes, .ok (some outcome)) => (routes, .ok outcome)
  | (routes, .error error) => (routes, .error error)

def take (id : Text) (routes : RouteTable) : RouteTable × Except String RouteTask :=
  match routes.get id with
  | some task => (routes.erase id, .ok task)
  | none => (routes, .error (notRunning id))

def isLive (routes : RouteTable) (id : Text) : Bool := (routes.get id).any (!·.finished)

end RouteTable
end SshProxy
