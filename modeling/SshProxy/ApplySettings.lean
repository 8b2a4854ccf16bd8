import SshProxy.SessionRunner

/-! `apply_remote_settings`, which puts the settings of a session on the remote host once more. It
has a job of its own, and writes each phase of that job to the session of the proxy. -/

namespace SshProxy
open Library Daemon ProxySessionSpec

structure ApplyRequest where
  id : Option Text := none
  peerAlias : Option Text := none
  remoteUrl : Option Text := none
  spec : Option ProxySessionSpec := none
  deriving DecidableEq

def splitEndpoint (authority : Text) : Except String (Text × Text) :=
  match authority with
  | '[' :: stripped =>
    match Text.splitOnce ']' stripped with
    | none => .error "remote proxy URL has an invalid IPv6 host"
    | some (host, ':' :: port) => .ok (host, port)
    | some _ => .error "remote proxy URL is missing a port"
  | _ =>
    match Text.splitLast ':' authority with
    | none => .error "remote proxy URL is missing a port"
    | some endpoint => .ok endpoint

def remoteEndpointFromUrl (text : IpText) (url : Text) : Except String (IpAddr × UInt16) := do
  match Text.afterFirst "://".toList url with
  | none => .error "remote proxy URL must include a scheme"
  | some rest =>
    let authority := rest.takeWhile fun char => char ≠ '/' ∧ char ≠ '?' ∧ char ≠ '#'
    let (host, port) ← splitEndpoint (((Text.splitLast '@' authority).map (·.2)).getD authority)
    match text.parse (String.ofList host) with
    | none => .error "remote proxy URL host must be an IP address"
    | some bind =>
      match Text.parseUnsigned 65535 port with
      | none => .error "remote proxy URL port is invalid"
      | some port => .ok (bind, UInt16.ofNat port)

def specFromApplyRequest (text : IpText) (request : ApplyRequest) : Except String ProxySessionSpec :=
  match request.peerAlias, request.id, request.remoteUrl with
  | none, _, _ => .error "apply_remote_settings requires target"
  | some _, none, _ => .error "apply_remote_settings requires workspace"
  | some _, some _, none => .error "apply_remote_settings requires remote_url"
  | some target, some workspace, some remoteUrl =>
    (remoteEndpointFromUrl text remoteUrl).map fun (remoteBind, remotePort) =>
      { target
        workspaceId := some workspace
        ssh := none
        workspacePaths := []
        localProxy := remoteUrl
        remoteBind
        remotePortPolicy := .new remotePort
        connectMode := .reverseLink
        applyPolicy := {} }

def ProxySessionSpec.applyIdOf (name : Text) : Text := "apply-settings:".toList ++ name

def ProxySessionSpec.applyId (spec : ProxySessionSpec) : Text := applyIdOf spec.name

def requestedSpec (text : IpText) (request : ApplyRequest) (session : Option ProxySessionRecord) :
    Except String ProxySessionSpec :=
  match request.spec, session with
  | some spec, _ => .ok spec
  | none, some session =>
    match session.toSpec text with
    | some spec => .ok spec
    | none => .error "invalid IP address syntax"
  | none, none => specFromApplyRequest text request

def atEndpoint (text : IpText) (remoteUrl : Text) (spec : ProxySessionSpec) : ProxySessionSpec :=
  match remoteEndpointFromUrl text remoteUrl with
  | .ok (remoteBind, remotePort) => { spec.withRemotePort remotePort with remoteBind }
  | .error _ => spec

def applyJob (spec : ProxySessionSpec) (remoteUrl : Text) (now : Nat) : JobRecord :=
  ((((JobRecord.new now spec.applyId .applyRemoteSettings).withTarget spec.target).withWorkspace spec.workspaceId).withRoute
    spec.routeId).withRemoteUrl (some remoteUrl)

structure ApplyOutcome where
  ok : Bool
  job : JobRecord
  session : Option ProxySessionRecord
  remoteSetup : RemoteSetupState
  deriving DecidableEq

section
variable (text : IpText) (spec : ProxySessionSpec) (remoteUrl : Text)

/-- The setup goes to the session, and the job of the settings ends; that end the session is not told of. -/
def applyEnded (ok : Bool) (state : RemoteSetupState) (job : Nat → JobRecord) (message : String) :
    SessionProgram ApplyOutcome := do
  let session ← updateRemoteSetupStatus spec.sessionId spec.applyId state
  let job ← upsertJob job message
  return ⟨ok, job, session, state⟩

def applyFailed (error blocker nextAction message : String) : SessionProgram ApplyOutcome :=
  applyEnded spec false .failed
    (fun now => ((applyJob spec remoteUrl now).failed now error (some blocker)).withNextAction nextAction) message

def applySetup : SessionProgram ApplyOutcome := do
  match ← Program.tried (ask (·.call)) with
  | .ok () =>
    applyEnded spec true .applied
      (fun now => ((applyJob spec remoteUrl now).transition now .healthy .healthy 100).withNextAction
        "monitor_remote_setup_drift") "remote settings apply healthy"
  | .error error =>
    applyFailed spec remoteUrl error "remote_setup_failed" "rerun_vscode_apply_settings" "remote settings apply failed"

def applyVerified : SessionProgram ApplyOutcome := do
  let _ ← updateHandoffProbeStatus spec.sessionId spec.applyId .checking
  record text spec (fun now => (((applyJob spec remoteUrl now).transition now .waitingRetry .verifyRemotePort 45).withNextAction
    "wait_for_remote_handoff").withRetryAfterMs 250) "waiting for remote handoff before applying settings"
  match ← ask fun outside => .ok outside.probe with
  | .ok () =>
    let _ ← updateHandoffProbeStatus spec.sessionId spec.applyId .ready
    applySetup spec remoteUrl
  | .error failure =>
    let _ ← updateHandoffProbeStatus spec.sessionId spec.applyId .failed
    applyFailed spec remoteUrl failure.message failure.blocker "run ssh_proxy doctor --json"
      "remote handoff probe failed before applying settings"

def applyAt : SessionProgram ApplyOutcome := do
  record text spec (fun now => ((applyJob spec remoteUrl now).transition now .running .applyRemoteSettings 50).withNextAction
    "wait_for_remote_setup") "remote settings apply started"
  let _ ← updateRemoteSetupStatus spec.sessionId spec.applyId .running
  if spec.applyPolicy.verifyRemotePort then applyVerified text spec remoteUrl
  else
    let _ ← updateHandoffProbeStatus spec.sessionId spec.applyId .skipped
    applySetup spec remoteUrl

end

def applyRemoteSettings (text : IpText) (request : ApplyRequest) : SessionProgram ApplyOutcome := do
  let session ← match request.id with
    | some key => look (·.sessions.sessionByJob (jobIdOf (sanitizeKey key)))
    | none => pure none
  match requestedSpec text request session with
  | .error error => throw error
  | .ok spec =>
    let remoteUrl := (request.remoteUrl.or (session.map (·.remoteUrl))).getD (spec.remoteUrl text)
    applyAt text (atEndpoint text remoteUrl spec) remoteUrl

end SshProxy
