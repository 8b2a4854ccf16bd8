import SshProxy.ApplySettings
import SshProxy.Library.Machine

/-! What clients ask of the daemon about proxy sessions, what it does with the stored sessions when
it starts, and the daemon as a whole: a task for each request, the tasks that requests spawn, and
restarts, at which all tasks and routes are lost. -/

namespace SshProxy
open Library Daemon

def reusableProxySessionJob (job : JobRecord) (liveRoute : Bool) : Bool :=
  match job.state with
  | .waitingRetry => job.blocker ≠ some "route_not_running"
  | .queued | .running => true
  | .healthy => liveRoute
  | .failed | .cancelled => false

def peerStatusAllowsProxySessionReuse (peer : PeerStatusRecord) : Bool := !peer.updateRequired

structure PeerBootstrapArgs where
  target : Text
  peerAlias : Option Text
  force : Bool
  deriving DecidableEq

inductive RemotePeerOperation where
  | ensure | repair | update
  deriving DecidableEq, Repr

namespace RemotePeerOperation

def jobKind : RemotePeerOperation → JobKind
  | .ensure => .ensureRemotePeer
  | .repair | .update => .remotePeerUpdate

def acceptedMessage : RemotePeerOperation → String
  | .ensure => "remote peer ensure accepted"
  | .repair => "remote peer repair accepted"
  | .update => "remote peer update accepted"

end RemotePeerOperation

inductive SessionRequest where
  | ensure (spec : ProxySessionSpec)
  | remotePeer (operation : RemotePeerOperation) (spec : Option ProxySessionSpec) (bootstrap : Option PeerBootstrapArgs)
  | down (id : Option Text) (spec : Option ProxySessionSpec)
  | apply (request : ApplyRequest)
  deriving DecidableEq

inductive SessionResponse where
  | accepted (spec : ProxySessionSpec) (job : JobRecord) (session : ProxySessionRecord) (reusedExisting : Bool)
  | peerAccepted (peer jobId : Text) (job : Option JobRecord) (status : Option PeerStatusRecord)
  | stopped (routeId : Text) (job : JobRecord) (session : Option ProxySessionRecord) (routeStop cleanup : Except String Unit)
  | applied (outcome : ApplyOutcome)
  | done
  deriving DecidableEq

section
variable (text : IpText)

def matchesExisting (spec : ProxySessionSpec) (session : Option ProxySessionRecord) : Bool :=
  match session.bind (·.toSpec text) with
  | some existing => proxySessionSpecsMatch existing spec
  | none => false

def acceptProxySession (spec : ProxySessionSpec) : SessionProgram SessionResponse := do
  let job ← upsertJob
    (fun now => (((((JobRecord.new now spec.jobId .ensureProxySession).withTarget spec.target).withWorkspace
      spec.workspaceId).withRoute spec.routeId).withRemoteUrl (some (spec.remoteUrl text))).transition now .queued .queued 0)
    "proxy session accepted"
  let session ← upsertSession text spec job
  spawn (.session spec job.id)
  return .accepted spec job session false

/-- `ensure_proxy_session`. Each of the questions is a step of its own. -/
def ensureProxySession (spec : ProxySessionSpec) : SessionProgram SessionResponse := do
  match ← getJob spec.jobId with
  | none => acceptProxySession text spec
  | some existing =>
    let live ← look (·.routes.isLive spec.routeId)
    if reusableProxySessionJob existing live then
      let session ← look (·.sessions.sessionByJob spec.jobId)
      if matchesExisting text spec session then
        let peer ← look (·.peers.store.get spec.target)
        if peer.all peerStatusAllowsProxySessionReuse then
          let session ← upsertSession text spec existing
          return .accepted spec existing session true
        else acceptProxySession text spec
      else acceptProxySession text spec
    else acceptProxySession text spec

def remotePeerJobId (peer : Text) : Text := "remote-peer:".toList ++ RemotePeer.sanitizeKey peer

/-- `accept_remote_peer_job` from the alias on. -/
def acceptRemotePeer (operation : RemotePeerOperation) (peer : Text) (spec : Option ProxySessionSpec) (force : Bool) :
    SessionProgram SessionResponse := do
  ask (·.config)
  let jobId := remotePeerJobId peer
  let _ ← upsertJob
    (fun now => ((JobRecord.new now jobId operation.jobKind).withTarget peer).transition now .queued .queued 0)
    operation.acceptedMessage
  spawn (.remotePeer peer jobId operation.jobKind spec force)
  let job ← getJob jobId
  let status ← look (·.peers.store.get peer)
  return .peerAccepted peer jobId job status

def acceptRemotePeerJob (operation : RemotePeerOperation) (spec : Option ProxySessionSpec)
    (bootstrap : Option PeerBootstrapArgs) : SessionProgram SessionResponse :=
  let force := bootstrap.any (·.force)
  match spec, bootstrap with
  | some spec, _ => acceptRemotePeer operation spec.target (some spec) force
  | none, some bootstrap => acceptRemotePeer operation (bootstrap.peerAlias.getD bootstrap.target) none force
  | none, none => throw "remote_peer_ensure requires bootstrap or proxy_session"

/-- Which route and which job a request to stop a session is about: the stored session comes first
for the route, the request for the job. -/
def downRouteId (id : Text) (requestSpec : Option ProxySessionSpec) (stored : Option ProxySessionRecord) : Text :=
  ((stored.map (·.routeId)).or (requestSpec.map (·.routeId))).getD id

def downJobId (id : Text) (requestSpec : Option ProxySessionSpec) (stored : Option ProxySessionRecord) : Text :=
  (((requestSpec.map (·.jobId)).or (stored.map (·.jobId))).or
    (((stored.bind (·.toSpec text)).or requestSpec).map (·.jobId))).getD ("proxy:".toList ++ id)

def cancelStopped (routeId jobId : Text) (routeStop cleanup : Except String Unit) : SessionProgram SessionResponse := do
  let job ← upsertJob
    (fun now => ((JobRecord.new now jobId .ensureProxySession).withRoute routeId).transition now .cancelled .cancelled 100)
    "proxy session stopped"
  let session ← cancelSession routeId job.id (match routeStop with
    | .ok _ => none
    | .error error => some error)
  return .stopped routeId job session routeStop cleanup

/-- `proxy_session_down` from the session on that was found under the id. -/
def downSession (id : Text) (requestSpec : Option ProxySessionSpec) (stored : Option ProxySessionRecord) :
    SessionProgram SessionResponse := do
  let routeId := downRouteId id requestSpec stored
  let routeStop ← Program.tried (stopRoute routeId)
  let cleanup ← match (stored.bind (·.toSpec text)).or requestSpec with
    | some _ => Program.tried (ask (·.call))
    | none => pure (.error "no proxy session spec was available for remote cleanup")
  cancelStopped routeId (downJobId text id requestSpec stored) routeStop cleanup

def proxySessionDown (id : Option Text) (spec : Option ProxySessionSpec) : SessionProgram SessionResponse :=
  match id.or (spec.map (·.routeId)) with
  | none => throw "proxy_session_down requires id or proxy_session spec"
  | some id => do
    match ← look (·.sessions.sessionByRoute id) with
    | some session => downSession text id spec (some session)
    | none => downSession text id spec (← look (·.sessions.sessionByJob id))

def reconciledJob (session : ProxySessionRecord) (missingLiveRoute : Bool) (now : Nat) : JobRecord :=
  let job := ((((((JobRecord.new now session.jobId .ensureProxySession).withTarget session.target).withWorkspace
    session.workspaceId).withRoute session.routeId).withRemoteUrl (some session.remoteUrl)).transition now .waitingRetry
    .reconciling 5).withNextAction "rerun_ensure_proxy_session"
  if missingLiveRoute then
    { job with blocker := some "route_not_running", lastError := some "daemon has no live route task for this proxy session" }
  else job

def reconcileSession (session : ProxySessionRecord) (missingLiveRoute : Bool) : SessionProgram Unit := do
  let _ ← upsertJob (reconciledJob session missingLiveRoute)
    (if missingLiveRoute then "healthy proxy session lost its live route after daemon restart"
    else "proxy session requires reconciliation after daemon restart")
  match session.toSpec text with
  | none => pure ()
  | some spec =>
    match ← getJob session.jobId with
    | some job => do let _ ← upsertSession text spec job
    | none => pure ()

def reconcileSessions : List ProxySessionRecord → SessionProgram Unit
  | [] => pure ()
  | session :: rest => do
    let live ← if session.state = .healthy then look (·.routes.isLive session.routeId) else pure true
    if session.isUnfinished || !live then reconcileSession text session (!live)
    reconcileSessions rest

def reconcileProxySessions : SessionProgram Unit := do
  reconcileSessions text (← look (·.sessions.sessions))

def SessionRequest.handle : SessionRequest → SessionProgram SessionResponse
  | .ensure spec => ensureProxySession text spec
  | .remotePeer operation spec bootstrap => acceptRemotePeerJob operation spec bootstrap
  | .down id spec => proxySessionDown text id spec
  | .apply request => do return .applied (← applyRemoteSettings text request)

end

inductive SessionRole where
  | request (request : SessionRequest)
  | runner (runner : Runner)
  | reconcile
  deriving DecidableEq

/-- A task, with what is left of its program and the job records that it has written. -/
structure SessionTask where
  role : SessionRole
  program : Program Daemon SessionOutside (Except String SessionResponse)
  written : List JobRecord := []

namespace SessionTask

def isFinished (task : SessionTask) : Bool := task.program.result?.isSome

def request (text : IpText) (request : SessionRequest) : SessionTask :=
  { role := .request request, program := (request.handle text).run }

def runner (text : IpText) (runner : Runner) : SessionTask :=
  { role := .runner runner, program := (runner.run text >>= fun _ => pure .done).run }

def reconcile (text : IpText) : SessionTask :=
  { role := .reconcile, program := (reconcileProxySessions text >>= fun _ => pure .done).run }

end SessionTask

/-- The daemon with its tasks, what the last step has answered to a request, and all job records that
were ever written, the newest of them last. -/
structure SessionSystem where
  daemon : Daemon := {}
  tasks : List SessionTask := []
  running : Bool := true
  answered : Option (SessionRequest × SessionResponse) := none
  history : List JobRecord := []

inductive SessionAction where
  | request (request : SessionRequest)
  | step (index : Nat) (outside : SessionOutside)
  | routeEnds (id : Text)
  | restart

namespace SessionSystem
variable (text : IpText)

def answer (task : SessionTask) : Option (SessionRequest × SessionResponse) :=
  match task.role, task.program with
  | .request request, .pure (.ok response) => some (request, response)
  | _, _ => none

/-- A task takes a step, and what it has spawned joins the tasks. A start that fails ends the daemon. -/
def taskStep (system : SessionSystem) (index : Nat) (outside : SessionOutside) : SessionSystem :=
  match system.tasks[index]? with
  | some { role, program := .step write next, written } =>
    let daemon := write outside system.daemon
    let task : SessionTask :=
      { role, program := next outside system.daemon, written := written ++ daemon.written }
    let history := system.history ++ daemon.written
    match role, task.program.result? with
    | .reconcile, some (.error _) => { daemon := daemon.settled, running := false, history }
    | _, _ =>
      { system with
        daemon := daemon.settled
        tasks := system.tasks.set index task ++ daemon.spawned.map (.runner text)
        answered := answer task
        history }
  | _ => system

def endRoute (id : Text) (system : SessionSystem) : SessionSystem :=
  match system.daemon.routes.get id with
  | some task =>
    { system with
      daemon := { system.daemon with routes := system.daemon.routes.insert id { task with finished := true } }
      answered := none }
  | none => { system with answered := none }

def next (system : SessionSystem) : SessionAction → SessionSystem
  | .request request =>
    { system with tasks := system.tasks ++ [.request text request], answered := none }
  | .step index outside => system.taskStep text index outside
  | .routeEnds id => system.endRoute id
  | .restart => { daemon := system.daemon.load, tasks := [.reconcile text], history := system.history }

/-- Requests are served from the start on, before the stored sessions have been looked at. -/
def enabled (system : SessionSystem) : SessionAction → Prop
  | .request _ => system.running = true
  | .step index outside => (system.tasks[index]?).any (!·.isFinished) = true ∧ outside.routeState.isShown = true
  | .routeEnds id => system.daemon.routes.isLive id = true
  | .restart => True

instance (system : SessionSystem) (action : SessionAction) : Decidable (system.enabled action) := by
  cases action <;> dsimp only [enabled] <;> infer_instance

abbrev machine : Machine SessionSystem SessionAction where
  initial := {}
  enabled := enabled
  next := next text

end SessionSystem
end SshProxy
