import SshProxy.SessionDaemon

/-! The task that brings a proxy session up, `run_proxy_session_job`: it makes sure of the remote
peer, then starts a route on one remote port after the other until one of them is ready, and writes
each phase to the job first and to the session after it. -/

namespace SshProxy
open Library Daemon Program

def contains (text part : String) : Bool := (Text.afterFirst part.toList text.toList).isSome

/-- A job is written, and after it the session if the job has one. -/
def recordJob (text : IpText) (spec : Option ProxySessionSpec) (job : Nat → JobRecord) (message : String) :
    SessionProgram Unit := do
  let job ← upsertJob job message
  match spec with
  | some spec => do let _ ← upsertSession text spec job
  | none => pure ()

namespace RemotePeer

def job (text : IpText) (peer jobId : Text) (kind : JobKind) (spec : Option ProxySessionSpec) (phase : JobPhase)
    (progress : Nat) (now : Nat) : JobRecord :=
  let job := ((JobRecord.new now jobId kind).withTarget peer).transition now .running phase progress
  match spec with
  | some spec => ((job.withWorkspace spec.workspaceId).withRoute spec.routeId).withRemoteUrl (some (spec.remoteUrl text))
  | none => job

/-- The sanitize_key of the remote peers, which knows neither a length nor a default. -/
def sanitizeKey (value : Text) : Text :=
  Text.trimMatches '-' (value.foldl (fun out char =>
    if char.isAlphanum then out ++ [char.toLower] else if out.getLast? = some '-' then out else out ++ ['-']) [])

def descriptorUpdateRequired (descriptor : PeerDescriptor) : Bool := descriptor.version ≠ some packageVersion

def blocker (error : String) : String :=
  if contains error "SSH authentication failed" then "ssh_auth_failed"
  else if contains error "ProxyCommand" || contains error "unsupported --ssh-arg" || contains error "unsupported -o" then
    "ssh_config_unsupported"
  else "remote_peer_install_failed"

section
variable (text : IpText) (peer jobId : Text) (kind : JobKind) (spec : Option ProxySessionSpec)

def recordEvent (phase : JobPhase) (progress : Nat) (message : String) : SessionProgram Unit := do
  recordJob text spec (fun now => (job text peer jobId kind spec phase progress now).withNextAction "wait_for_remote_peer")
    message
  upsertPeerStatus fun now => { target := peer, state := .running, updatedAtUnix := now }

/-- `remote_peer_phase`: an event that could not be recorded is only logged. -/
def phase (phase : JobPhase) (progress : Nat) (message : String) : SessionProgram JobRecord := do
  let _ ← tried (recordEvent text peer jobId kind spec phase progress message)
  match ← getJob jobId with
  | some job => return job
  | none => throw ("remote peer lifecycle event did not record job " ++ String.ofList jobId)

def recordPeerWaiting (lastError : Option String) (message : String) : SessionProgram Unit := do
  recordJob text spec
    (fun now => (((job text peer jobId kind spec .inspectPeerDescriptor 33 now).transition now .waitingRetry
      .inspectPeerDescriptor 33).withNextAction "bootstrap_remote_peer").withRetryAfterMs 250) message
  match ← look (·.peers.store.get peer) with
  | some existing => upsertPeerStatus fun _ => { existing with lastError, retryAfterMs := some 250 }
  | none => pure ()

/-- `finish_direct_remote_peer_job`: a job that belongs to a session goes on. -/
def finishDirectJob : SessionProgram Unit :=
  match spec with
  | some _ => pure ()
  | none => do
    let _ ← upsertJob (fun now => (job text peer jobId kind none .healthy 100 now).transition now .healthy .healthy 100)
      "remote peer ready"

def recordPeer (descriptor : PeerDescriptor) (message : String) : SessionProgram Unit := do
  ask (·.config)
  recordJob text spec (fun now => (job text peer jobId kind spec .recordPeer 44 now).withNextAction "continue_proxy_session")
    message
  upsertPeerStatus fun now =>
    { target := peer, state := .healthy, version := descriptor.version
      updateRequired := descriptorUpdateRequired descriptor, updatedAtUnix := now }
  finishDirectJob text peer jobId kind spec

def recordInstallFailed (error : String) : SessionProgram Unit := do
  recordJob text spec
    (fun now => ((job text peer jobId kind spec .failed 100 now).failed now error (some (blocker error))).withNextAction
      "run ssh_proxy doctor --json --report")
    "remote peer ensure failed"
  upsertPeerStatus fun now =>
    { target := peer, state := .failed, blocker := some (blocker error), lastError := some error
      retryAfterMs := some 1000, updatedAtUnix := now }

/-- The part of `run_remote_peer_ensure_job` that installs the peer. -/
def install : SessionProgram Bool := do
  let _ ← phase text peer jobId kind spec .dependencyCheck 25 "checking remote peer dependencies"
  let _ ← phase text peer jobId kind spec .stageRemotePeer 35 "staging remote peer binary"
  let _ ← phase text peer jobId kind spec .writePeerConfig 45 "writing remote peer configuration"
  let _ ← phase text peer jobId kind spec .installPeerService 60 "installing remote peer service"
  match ← tried (ask (·.installed)) with
  | .ok descriptor =>
    let _ ← phase text peer jobId kind spec .peerHealthProbe 85 "remote peer service answered health probe"
    recordPeer text peer jobId kind spec (descriptor.getD ⟨some packageVersion⟩) "persistent remote peer installed and recorded"
    return true
  | .error error =>
    recordInstallFailed text peer jobId kind spec error
    return false

def staleMessage (force : Bool) (descriptor : PeerDescriptor) : String :=
  if force then "remote peer update forced by caller"
  else
    "remote peer version " ++ String.ofList (descriptor.version.getD "unknown".toList) ++ " does not match local " ++
      String.ofList packageVersion

def runEnsureJob (force : Bool) : SessionProgram Bool := do
  let _ ← phase text peer jobId kind spec .inspectPeerDescriptor 15 "inspecting persistent remote peer descriptor"
  match ← tried (ask (·.descriptor)) with
  | .ok descriptor =>
    if force || descriptorUpdateRequired descriptor then
      recordPeerWaiting text peer jobId kind spec (some (staleMessage force descriptor))
        "remote descriptor is stale; bootstrapping persistent peer"
      install text peer jobId kind spec
    else
      recordPeer text peer jobId kind spec descriptor "persistent remote peer descriptor adopted"
      return true
  | .error error =>
    recordPeerWaiting text peer jobId kind spec (some error) "remote descriptor unavailable; bootstrapping persistent peer"
    install text peer jobId kind spec

end
end RemotePeer

def jobForPhase (text : IpText) (spec : ProxySessionSpec) (jobId : Text) (phase : JobPhase) (progress : Nat) (now : Nat) :
    JobRecord :=
  (((((JobRecord.new now jobId .ensureProxySession).withTarget spec.target).withWorkspace spec.workspaceId).withRoute
    spec.routeId).withRemoteUrl (some (spec.remoteUrl text))).transition now .running phase progress

def failedJobFor (text : IpText) (spec : ProxySessionSpec) (jobId : Text) (error blocker : String) (now : Nat) : JobRecord :=
  (jobForPhase text spec jobId .failed 100 now).failed now error (some blocker)

def authorityPort (authority : Text) : Option Text :=
  let bracketed := match authority with
    | '[' :: rest => (Text.splitOnce ']' rest).bind fun (_, tail) => if tail.head? = some ':' then some tail.tail else none
    | _ => none
  bracketed.or (((Text.splitLast ':' authority).filter fun (host, _) => ':' ∉ host).map (·.2))

def validateProxySessionSpec (spec : ProxySessionSpec) : Except String Unit :=
  match Text.afterFirst "://".toList spec.localProxy with
  | none => .error "local proxy URL must include a scheme"
  | some rest =>
    let scheme := spec.localProxy.take (spec.localProxy.length - rest.length - 3)
    if scheme ≠ "http".toList ∧ scheme ≠ "socks5".toList ∧ scheme ≠ "socks5h".toList then
      .error ("unsupported local proxy scheme " ++ (String.ofList scheme).quote ++ "; use http:// or socks5h://")
    else
      let authority := rest.takeWhile fun char => char ≠ '/' ∧ char ≠ '?' ∧ char ≠ '#'
      let authority := ((Text.splitLast '@' authority).map (·.2)).getD authority
      if authority = [] then .error "local proxy URL is missing a host"
      else
        match authorityPort authority with
        | some port =>
          if (Text.parseUnsigned 65535 port).isSome then .ok () else .error "local proxy URL has an invalid port"
        | none => .ok ()

def routeStartConflictIsRepairable (error : String) : Bool := contains error "is already running with a different spec"

def routeStartBlocker (error : String) : String :=
  if routeStartConflictIsRepairable error then "route_already_running_different_spec"
  else if contains error "SSH authentication failed" then "ssh_auth_failed"
  else if contains error "ProxyCommand" || contains error "unsupported --ssh-arg" || contains error "unsupported -o" then
    "ssh_config_unsupported"
  else "route_start_failed"

def remotePortFailureIsRetryable (blocker message : String) : Bool :=
  blocker = "remote_port_conflict" ∨
    blocker = "route_failed" ∧ ["address already in use", "already in use", "cannot assign requested address", "bind"].any
      (contains message.toLower)

inductive RouteReadyOutcome where
  | healthy
  | failed (blocker message : String) (remoteUrl : Option Text)
  deriving DecidableEq

inductive RemoteUsePlan where
  | reverseLink
  | direct (localPeer : SocketAddr)
  deriving DecidableEq

def IpAddr.isLoopback : IpAddr → Bool
  | .v4 bits => bits.extractLsb' 24 8 = 127#8
  | .v6 bits => bits = 1#128

/-- `resolve_remote_use_local_peer`; a session names no local peer of its own. -/
def resolveRemoteUseLocalPeer (text : IpText) (transportListen : Option SocketAddr) : Except String SocketAddr :=
  match transportListen with
  | none => .error ("--direction remote-uses-local needs --local-peer or [daemon].transport_listen; " ++
      "run `ssh_proxy daemon install --scope system --elevate` first")
  | some addr =>
    if addr.ip.isLoopback then
      .error ("local daemon transport " ++ RouteTable.showSocketAddr text addr ++ " is loopback-only; " ++
        "pass --local-peer <reachable-ip:port>, or use a public/TLS/QUIC relay route when this machine is behind NAT")
    else .ok addr

def decideRemoteUse (text : IpText) (connectMode : RouteConnectMode) (transportListen : Option SocketAddr) :
    Except String RemoteUsePlan :=
  match connectMode, resolveRemoteUseLocalPeer text transportListen with
  | .reverseLink, _ => .ok .reverseLink
  | .direct, .ok addr | .auto, .ok addr => .ok (.direct addr)
  | .direct, .error error => .error error
  | .auto, .error _ => .ok .reverseLink

def remoteProxyUrlFromPlan (text : IpText) (spec : ProxySessionSpec) : Option Text :=
  (splitProxyUrl spec.localProxy).map fun (scheme, userinfo, suffix) =>
    scheme ++ "://".toList ++ userinfo ++
      (RouteTable.showSocketAddr text ⟨spec.remoteBind, spec.remotePortPolicy.preferred⟩).toList ++ suffix

section
variable (text : IpText)

/-- `handle_route_intent`, which answers with the URL of the proxy. A direct route is one of the
remote node and no task of this daemon. -/
def handleRouteIntent (spec : ProxySessionSpec) : SessionProgram (Option Text) := do
  match ← ask fun outside => decideRemoteUse text spec.connectMode outside.transportListen with
  | .reverseLink =>
    let defaults ← ask (·.routeDefaults)
    startRoute text spec.routeId (.ofSpec defaults spec) false
  | .direct _ =>
    ask (·.call)
    ask (·.call)
    ask (·.call)
  return remoteProxyUrlFromPlan text spec

def record (spec : ProxySessionSpec) (job : Nat → JobRecord) (message : String) : SessionProgram Unit :=
  recordJob text (some spec) job message

def proxyJobPhase (spec : ProxySessionSpec) (jobId : Text) (phase : JobPhase) (progress : Nat) (message : String) :
    SessionProgram Unit :=
  record text spec (jobForPhase text spec jobId phase progress) message

section
variable (spec : ProxySessionSpec) (jobId : Text) (remoteUrl : Option Text)

def remoteUrlValue : Text := remoteUrl.getD (spec.remoteUrl text)

def routeFailed (error : Option String) : SessionProgram RouteReadyOutcome := do
  let error := error.getD "route failed"
  record text spec (fun now => ((jobForPhase text spec jobId .failed 100 now).withRemoteUrl remoteUrl).failed now error
    (some "route_failed")) "route failed"
  return .failed "route_failed" error remoteUrl

def handoffFailed (failure : HandoffProbeFailure) : SessionProgram RouteReadyOutcome := do
  let _ ← updateHandoffProbeStatus spec.sessionId jobId .failed
  record text spec (fun now => (((jobForPhase text spec jobId .failed 100 now).withRemoteUrl
    (some (remoteUrlValue text spec remoteUrl))).failed now failure.message (some failure.blocker)).withNextAction
    "run ssh_proxy doctor --json") "remote handoff probe failed"
  return .failed failure.blocker failure.message (some (remoteUrlValue text spec remoteUrl))

def applySettings : SessionProgram RouteReadyOutcome := do
  record text spec (fun now => (jobForPhase text spec jobId .applyRemoteSettings 92 now).withRemoteUrl remoteUrl)
    "remote settings application required"
  let _ ← updateRemoteSetupStatus spec.sessionId jobId .running
  match ← tried (ask (·.call)) with
  | .ok () =>
    let _ ← updateRemoteSetupStatus spec.sessionId jobId .applied
    record text spec (fun now => (jobForPhase text spec jobId .healthMonitoring 98 now).withRemoteUrl
      (some (remoteUrlValue text spec remoteUrl))) "proxy session entered health monitoring"
    record text spec (fun now => ((jobForPhase text spec jobId .healthy 100 now).transition now .healthy .healthy 100).withRemoteUrl
      (some (remoteUrlValue text spec remoteUrl))) "proxy session healthy"
    return .healthy
  | .error error =>
    record text spec (fun now => (((jobForPhase text spec jobId .failed 100 now).withRemoteUrl
      (some (remoteUrlValue text spec remoteUrl))).failed now error (some "remote_setup_failed")).withNextAction
      "rerun_apply_remote_settings") "remote settings failed"
    let _ ← updateRemoteSetupStatus spec.sessionId jobId .failed
    return .failed "remote_setup_failed" error (some (remoteUrlValue text spec remoteUrl))

def routeReady : SessionProgram RouteReadyOutcome := do
  record text spec (fun now => (jobForPhase text spec jobId .verifyRemotePort 85 now).withRemoteUrl remoteUrl)
    "route is ready for remote verification"
  if spec.applyPolicy.verifyRemotePort then
    let _ ← updateHandoffProbeStatus spec.sessionId jobId .checking
    record text spec (fun now => ((((jobForPhase text spec jobId .verifyRemotePort 85 now).withRemoteUrl remoteUrl).transition now
      .waitingRetry .verifyRemotePort 85).withNextAction "wait_for_remote_handoff").withRetryAfterMs 250)
      "waiting for remote handoff probe"
    match ← ask fun outside => .ok outside.probe with
    | .ok () =>
      let _ ← updateHandoffProbeStatus spec.sessionId jobId .ready
      applySettings text spec jobId remoteUrl
    | .error failure => handoffFailed text spec jobId remoteUrl failure
  else
    let _ ← updateHandoffProbeStatus spec.sessionId jobId .skipped
    applySettings text spec jobId remoteUrl

def readyTimeout : SessionProgram RouteReadyOutcome := do
  let error := "route readiness timed out before remote handoff could start"
  record text spec (fun now => (((jobForPhase text spec jobId .failed 100 now).withRemoteUrl remoteUrl).failed now error
    (some "route_ready_timeout")).withNextAction "rerun_ensure_proxy_session") "route readiness timed out"
  return .failed "route_ready_timeout" error remoteUrl

/-- One look at the route; `again` is what comes where it is neither ready nor failed. -/
def pollRoute (again : SessionProgram RouteReadyOutcome) : SessionProgram RouteReadyOutcome := do
  let seen ← perform fun outside daemon =>
    (daemon, .ok ((daemon.routes.get spec.routeId).map fun _ => (outside.routeState, outside.routeError)))
  match seen with
  | some (.error, error) | some (.failed, error) => routeFailed text spec jobId remoteUrl error
  | some (.running, _) | some (.ready, _) | some (.restarting, _) => routeReady text spec jobId remoteUrl
  | some (.starting, _) | some (.exited, _) | none => again

/-- The loop of `wait_for_proxy_route_ready`. It sleeps a quarter of a second after each look, so
that the deadline has passed when none is left. -/
def waitRouteReady : (sleeps : Nat) → SessionProgram RouteReadyOutcome
  | 0 => pollRoute text spec jobId remoteUrl (readyTimeout text spec jobId remoteUrl)
  | sleeps + 1 => pollRoute text spec jobId remoteUrl do
    let expired ← ask fun outside => .ok outside.expired
    if expired then readyTimeout text spec jobId remoteUrl else waitRouteReady sleeps

def routeReadySleeps : Nat := 90 * 4

end

def recordRouteIntentAccepted (spec : ProxySessionSpec) (jobId : Text) (response : Option Text) (recoveryAttempts : Nat) :
    SessionProgram RouteReadyOutcome := do
  let remoteUrl := some (response.getD (spec.remoteUrl text))
  let _ ← upsertJob (fun now => ((jobForPhase text spec jobId .startRoute 70 now).withRemoteUrl remoteUrl).withRecoveryAttempts
    recoveryAttempts) "route intent accepted"
  match ← getJob jobId with
  | some job => do let _ ← upsertSession text spec job
  | none => pure ()
  waitRouteReady text spec jobId remoteUrl routeReadySleeps

def repairRouteConflict (spec : ProxySessionSpec) (jobId : Text) (recoveryAttempts : Nat) :
    SessionProgram RouteReadyOutcome := do
  record text spec (fun now => ((((jobForPhase text spec jobId .startRoute 68 now).transition now .waitingRetry .startRoute
    68).withNextAction "restart_conflicting_route").withRetryAfterMs 250).withRecoveryAttempts (recoveryAttempts + 1))
    "route conflict detected; restarting daemon-owned route"
  let _ ← tried (stopRoute spec.routeId)
  match ← tried (handleRouteIntent text spec) with
  | .ok response => recordRouteIntentAccepted text spec jobId response (recoveryAttempts + 1)
  | .error error =>
    let blocker := "route_already_running_different_spec"
    record text spec (fun now => (((jobForPhase text spec jobId .failed 100 now).withRecoveryAttempts
      (recoveryAttempts + 1)).failed now error (some blocker)).withNextAction "ssh_proxy down --target <target> --json")
      "route conflict repair failed"
    return .failed blocker error (some (spec.remoteUrl text))

def runRouteAttempt (spec : ProxySessionSpec) (jobId : Text) (recoveryAttempts : Nat) : SessionProgram RouteReadyOutcome := do
  match ← tried (handleRouteIntent text spec) with
  | .ok response => recordRouteIntentAccepted text spec jobId response recoveryAttempts
  | .error error =>
    if routeStartConflictIsRepairable error then repairRouteConflict text spec jobId recoveryAttempts
    else
      let blocker := routeStartBlocker error
      record text spec (fun now => ((jobForPhase text spec jobId .failed 100 now).withRecoveryAttempts recoveryAttempts).failed
        now error (some blocker)) "route intent failed"
      return .failed blocker error (some (spec.remoteUrl text))

structure PortAttemptFailure where
  port : UInt16
  blocker : String
  message : String
  remoteUrl : Option Text

def exhaustedMessage (policy : RemotePortPolicy) (failure : PortAttemptFailure) : String :=
  let first := policy.candidates.head?.getD policy.preferred
  let last := policy.candidates.getLast?.getD first
  if first = last then "remote port " ++ toString first.toNat ++ " is unavailable: " ++ failure.message
  else
    "remote port range " ++ toString first.toNat ++ "-" ++ toString last.toNat ++ " exhausted after " ++
      toString policy.candidates.length ++ " attempts; last failure on " ++ toString failure.port.toNat ++ ": " ++ failure.message

def recordRemotePortRangeExhausted (spec : ProxySessionSpec) (jobId : Text) (failure : PortAttemptFailure) :
    SessionProgram Unit :=
  let selected := spec.withRemotePort failure.port
  record text selected (fun now => ((((jobForPhase text selected jobId .failed 100 now).withRemoteUrl
    (some (failure.remoteUrl.getD (selected.remoteUrl text)))).withRecoveryAttempts
    (spec.remotePortPolicy.candidates.length - 1)).failed now (exhaustedMessage spec.remotePortPolicy failure)
    (some "remote_port_range_exhausted")).withNextAction "choose another remote port or increase remote port range size")
    "remote port range exhausted"

/-- What follows an attempt at a port: it was the last one, or `again` tries the next. -/
def afterAttempt (spec : ProxySessionSpec) (jobId : Text) (index : Nat) (port : UInt16)
    (again : PortAttemptFailure → SessionProgram Unit) : RouteReadyOutcome → SessionProgram Unit
  | .healthy => pure ()
  | .failed blocker message remoteUrl => do
    let failure := { port, blocker, message, remoteUrl }
    if remotePortFailureIsRetryable blocker message && spec.remotePortPolicy.autoPick then
      if index + 1 < spec.remotePortPolicy.candidates.length then
        let _ ← tried (stopRoute (spec.withRemotePort port).routeId)
        again failure
      else recordRemotePortRangeExhausted text spec jobId failure
    else pure ()

/-- The loop over the candidates, from the one with the given index on. -/
def tryCandidates (spec : ProxySessionSpec) (jobId : Text) :
    (index : Nat) → List UInt16 → Option PortAttemptFailure → SessionProgram Unit
  | _, [], some failure => recordRemotePortRangeExhausted text spec jobId failure
  | _, [], none => pure ()
  | index, port :: ports, _ => do
    let attempt := spec.withRemotePort port
    if 0 < index then
      record text attempt (fun now => ((((jobForPhase text attempt jobId .selectRemotePort 24 now).transition now .waitingRetry
        .selectRemotePort 24).withNextAction "try_next_remote_port").withRetryAfterMs 250).withRecoveryAttempts index)
        "remote port conflict detected; trying next candidate"
    let outcome ← runRouteAttempt text attempt jobId index
    afterAttempt text spec jobId index port (fun failure => tryCandidates spec jobId (index + 1) ports (some failure)) outcome

/-- The part of `run_proxy_session_job` that follows when there is a peer. -/
def runRoute (spec : ProxySessionSpec) (jobId : Text) : SessionProgram Unit := do
  proxyJobPhase text spec jobId .ensureTransport 45 "selected Rust transport strategy"
  proxyJobPhase text spec jobId .planRoute 50 "planned daemon-owned route"
  tryCandidates text spec jobId 0 spec.remotePortPolicy.candidates none

def runProxySessionJob (spec : ProxySessionSpec) (jobId : Text) : SessionProgram Unit := do
  proxyJobPhase text spec jobId .resolveTarget 10 "resolved proxy session target"
  match validateProxySessionSpec spec with
  | .error error =>
    record text spec (fun now => (failedJobFor text spec jobId error "invalid_local_proxy" now).withNextAction
      "set remoteProxy.localProxy.url to http:// or socks5h://") "proxy session validation failed"
  | .ok () =>
    proxyJobPhase text spec jobId .validateLocalProxy 18 "validated local proxy URL"
    proxyJobPhase text spec jobId .selectRemotePort 24 "selected preferred remote port"
    proxyJobPhase text spec jobId .ensurePeer 35 "ensuring persistent remote peer"
    ask (·.config)
    match ← RemotePeer.runEnsureJob text spec.target jobId .ensureProxySession (some spec) false with
    | true => runRoute text spec jobId
    | false => pure ()

/-- What is spawned: a job that fails in between is marked as failed. -/
def Runner.run : Runner → SessionProgram Unit
  | .session spec jobId => do
    match ← tried (runProxySessionJob text spec jobId) with
    | .ok () => pure ()
    | .error error =>
      let _ ← tried (upsertJob (failedJobFor text spec jobId error "job_task_failed") "proxy session job task failed")
  | .remotePeer peer jobId kind spec force => do
    match ← tried (RemotePeer.runEnsureJob text peer jobId kind spec force) with
    | .ok _ => pure ()
    | .error error =>
      let _ ← tried (upsertJob (fun now => ((RemotePeer.job text peer jobId kind spec .failed 100 now).failed now error
        (some "job_task_failed")).withNextAction "run ssh_proxy doctor --json --report") "remote peer job task failed")

end
end SshProxy
