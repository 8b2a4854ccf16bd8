import SshProxy.Library.Program
import SshProxy.RouteTable
import SshProxy.SessionSpec

/-! The part of the node daemon that proxy sessions live in: the registries of jobs, sessions, peers
and routes, each behind a lock of its own, and the steps in which its tasks use them. -/

namespace SshProxy
open Library

def packageVersion : Text := "0.1.2".toList

inductive PeerState where
  | unknown | running | healthy | failed
  deriving DecidableEq, Repr

structure PeerStatusRecord where
  target : Text
  state : PeerState := .unknown
  version : Option Text := none
  updateRequired : Bool := false
  blocker : Option String := none
  lastError : Option String := none
  retryAfterMs : Option Nat := none
  recoveryAttempts : Nat := 0
  updatedAtUnix : Nat
  deriving DecidableEq

structure PeerRegistry where
  store : SortedMap Text PeerStatusRecord := .empty
  file : SortedMap Text PeerStatusRecord := .empty

namespace PeerRegistry

def load (registry : PeerRegistry) : PeerRegistry := { registry with store := registry.file }

def upsert (saved : Except String Unit) (record : PeerStatusRecord) (registry : PeerRegistry) :
    PeerRegistry × Except String Unit :=
  let store := registry.store.insert record.target record
  match saved with
  | .ok () => ({ store, file := store }, .ok ())
  | .error error => ({ registry with store }, .error error)

end PeerRegistry

namespace ReverseRoute

/-- `route_request_from_spec` and `node_reverse_from_route`. -/
def ofSpec (defaults : RouteSettings) (spec : ProxySessionSpec) : ReverseRoute :=
  let ssh := spec.ssh.getD {}
  { target := spec.target
    remoteListen := ⟨spec.remoteBind, spec.remotePortPolicy.preferred⟩
    sshArgs := ssh.sshArgs
    user := ssh.user
    port := ssh.port
    identity := ssh.identity
    config := ssh.config
    knownHosts := ssh.knownHosts
    acceptNew := ssh.acceptNew
    jump := ssh.jump
    egressProxy := some spec.localProxy
    settings := defaults }

end ReverseRoute

structure PeerDescriptor where
  version : Option Text
  deriving DecidableEq

structure HandoffProbeFailure where
  blocker : String
  message : String
  deriving DecidableEq

inductive RouteState where
  | starting | running | ready | restarting | exited | error | failed
  deriving DecidableEq, Repr

/-- What the stats of a route say while its supervisor runs: how an attempt ended is overwritten under one lock. -/
def RouteState.isShown : RouteState → Bool
  | .starting | .running | .restarting => true
  | .ready | .exited | .error | .failed => false

/-- What comes from outside in one step: the clock, how a store was saved, what a call of the system
or of the remote host came to, how the config was read and written and what it says, and how the
task of a route is doing. -/
structure SessionOutside where
  now : Nat := 0
  save : Except String Unit := .ok ()
  call : Except String Unit := .ok ()
  config : Except String Unit := .ok ()
  descriptor : Except String PeerDescriptor := .ok ⟨some packageVersion⟩
  installed : Except String (Option PeerDescriptor) := .ok none
  transportListen : Option SocketAddr := none
  routeDefaults : Except String RouteSettings := .ok []
  routeState : RouteState := .running
  routeError : Option String := none
  expired : Bool := false
  probe : Except HandoffProbeFailure Unit := .ok ()

inductive Runner where
  | session (spec : ProxySessionSpec) (jobId : Text)
  | remotePeer (peer jobId : Text) (kind : JobKind) (spec : Option ProxySessionSpec) (force : Bool)
  deriving DecidableEq

def Runner.jobId : Runner → Text
  | .session _ jobId => jobId
  | .remotePeer _ jobId _ _ _ => jobId

/-- What the tasks share. `written` are the job records and `spawned` the tasks of the step that is
being taken. -/
structure Daemon where
  jobs : JobRegistry := {}
  sessions : SessionRegistry := {}
  peers : PeerRegistry := {}
  routes : RouteTable := .empty
  written : List JobRecord := []
  spawned : List Runner := []

abbrev SessionProgram := ExceptT String (Program Daemon SessionOutside)

namespace Daemon

/-- A daemon that starts: the stores are read, and no route of a session comes back. -/
def load (daemon : Daemon) : Daemon where
  jobs := daemon.jobs.load
  sessions := daemon.sessions.load
  peers := daemon.peers.load

def settled (daemon : Daemon) : Daemon := { daemon with written := [], spawned := [] }

def look {α : Type} (read : Daemon → α) : SessionProgram α := Program.perform fun _ daemon => (daemon, .ok (read daemon))

def ask {α : Type} (answer : SessionOutside → Except String α) : SessionProgram α :=
  Program.perform fun outside daemon => (daemon, answer outside)

def upsertJob (record : Nat → JobRecord) (message : String) : SessionProgram JobRecord :=
  Program.perform fun outside daemon =>
    let (jobs, result) := daemon.jobs.upsert outside.now outside.save (record outside.now) message
    ({ daemon with jobs, written := daemon.written ++ [record outside.now] }, result)

def getJob (id : Text) : SessionProgram (Option JobRecord) := look (·.jobs.get id)

def withSessions {α : Type} (change : SessionOutside → SessionRegistry → SessionRegistry × Except String α) :
    SessionProgram α :=
  Program.perform fun outside daemon =>
    let (sessions, result) := change outside daemon.sessions
    ({ daemon with sessions }, result)

def upsertSession (text : IpText) (spec : ProxySessionSpec) (job : JobRecord) : SessionProgram ProxySessionRecord :=
  withSessions fun outside => SessionRegistry.upsertFromJob text outside.now outside.save spec job

def cancelSession (routeId jobId : Text) (error : Option String) : SessionProgram (Option ProxySessionRecord) :=
  withSessions fun outside => SessionRegistry.cancelSession outside.now outside.save routeId jobId error

def updateRemoteSetupStatus (sessionId jobId : Text) (state : RemoteSetupState) :
    SessionProgram (Option ProxySessionRecord) :=
  withSessions fun outside => SessionRegistry.updateRemoteSetupStatus outside.now outside.save sessionId jobId state

def updateHandoffProbeStatus (sessionId jobId : Text) (state : HandoffProbeState) :
    SessionProgram (Option ProxySessionRecord) :=
  withSessions fun outside => SessionRegistry.updateHandoffProbeStatus outside.now outside.save sessionId jobId state

def upsertPeerStatus (record : Nat → PeerStatusRecord) : SessionProgram Unit :=
  Program.perform fun outside daemon =>
    let (peers, result) := daemon.peers.upsert outside.save (record outside.now)
    ({ daemon with peers }, result)

def withRoutes {α : Type} (change : SessionOutside → RouteTable → RouteTable × Except String α) : SessionProgram α :=
  Program.perform fun outside daemon =>
    let (routes, result) := change outside daemon.routes
    ({ daemon with routes }, result)

/-- `start_route_spec` for the route of a session, for which no port is probed. -/
def startRouteSpec (text : IpText) (id : Text) (spec : ReverseRoute) (persist : Bool) : SessionProgram RouteStartOutcome := do
  match ← withRoutes fun _ => RouteTable.checkStart text (.ok ()) id (.reverse spec) persist with
  | some outcome => return outcome
  | none => withRoutes fun outside => RouteTable.register text (.ok ()) outside.now none id (.reverse spec) persist

def startRoute (text : IpText) (id : Text) (spec : ReverseRoute) (persist : Bool) : SessionProgram Unit := do
  let outcome ← startRouteSpec text id spec persist
  if outcome.shouldSaveRouteStore persist then ask (·.save)

def takeRoute (id : Text) : SessionProgram RouteTask := withRoutes fun _ => RouteTable.take id

def stopRoute (id : Text) : SessionProgram Unit := do
  let task ← takeRoute id
  if task.persist then ask (·.save)

def spawn (runner : Runner) : SessionProgram Unit :=
  Program.perform fun _ daemon => ({ daemon with spawned := daemon.spawned ++ [runner] }, .ok ())

end Daemon
end SshProxy
