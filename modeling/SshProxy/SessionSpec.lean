import SshProxy.Address
import SshProxy.Jobs
import SshProxy.RemoteCleanup

/-! A proxy session: what a request asks for, the ids that follow from it, and the record that
`sessions.json` keeps of it. -/

namespace SshProxy
open Library

deriving instance DecidableEq for ApplyPolicy

structure SessionApplyPolicy extends ApplyPolicy where
  terminalEnv : Bool := true
  gitForceOverride : Bool := true
  remoteStatusFile : Bool := true
  verifyRemotePort : Bool := true
  noProxy : String := "localhost,127.0.0.1,::1"
  proxySupport : String := "override"
  deriving DecidableEq

structure SshTargetSpec where
  hostName : Option Text := none
  user : Option Text := none
  port : Option UInt16 := none
  identity : List Text := []
  config : Option Text := none
  knownHosts : Option Text := none
  jump : List Text := []
  acceptNew : Bool := false
  deriving DecidableEq

def SshTargetSpec.sshArgs (ssh : SshTargetSpec) : List Text :=
  match ssh.hostName with
  | some hostName => ["-o".toList, "HostName=".toList ++ hostName]
  | none => []

inductive RouteConnectMode where
  | auto | direct | reverseLink
  deriving DecidableEq, Repr

def defaultRemotePortRangeSize : UInt16 := 20

structure RemotePortPolicy where
  preferred : UInt16
  autoPick : Bool
  rangeSize : UInt16
  deriving DecidableEq

namespace RemotePortPolicy

def new (preferred : UInt16) : RemotePortPolicy := ⟨preferred, true, defaultRemotePortRangeSize⟩

def fixed (preferred : UInt16) : RemotePortPolicy := ⟨preferred, false, 1⟩

/-- The ports to try: from the preferred one upwards, as far as there are ports. -/
def candidates (policy : RemotePortPolicy) : List UInt16 :=
  let count := if policy.autoPick then max policy.rangeSize.toNat 1 else 1
  let offsets := (List.range count).takeWhile fun offset => policy.preferred.toNat + offset < 2 ^ 16
  let candidates := offsets.map fun offset => UInt16.ofNat (policy.preferred.toNat + offset)
  if candidates.isEmpty then [policy.preferred] else candidates

end RemotePortPolicy

structure ProxySessionSpec where
  target : Text
  workspaceId : Option Text
  ssh : Option SshTargetSpec
  workspacePaths : List String
  localProxy : Text
  remoteBind : IpAddr
  remotePortPolicy : RemotePortPolicy
  connectMode : RouteConnectMode
  applyPolicy : SessionApplyPolicy
  deriving DecidableEq

def sanitizeKey (key : Text) : Text :=
  let normalized := key.map fun char => if char.isAlphanum ∨ char = '-' ∨ char = '_' then char.toLower else '-'
  let trimmed := (Text.trimMatches '-' normalized).take 64
  if trimmed.isEmpty then "default".toList else trimmed

/-- The parts of a proxy URL: the scheme, the user with the `@` behind it, and what follows the authority. -/
def splitProxyUrl (url : Text) : Option (Text × Text × Text) := do
  let rest ← Text.afterFirst "://".toList url
  let scheme := url.take (url.length - rest.length - 3)
  let authority := rest.takeWhile (· ≠ '/')
  let userinfo := match Text.splitLast '@' authority with
    | some (userinfo, _) => userinfo ++ ['@']
    | none => []
  return (scheme, userinfo, rest.dropWhile (· ≠ '/'))

def proxyUrlForRemote (localProxy remoteBind : Text) (remotePort : UInt16) : Text :=
  let endpoint := remoteBind ++ ':' :: (toString remotePort.toNat).toList
  match splitProxyUrl localProxy with
  | none => "http://".toList ++ endpoint
  | some (scheme, userinfo, suffix) => scheme ++ "://".toList ++ userinfo ++ endpoint ++ suffix

namespace ProxySessionSpec

def key (spec : ProxySessionSpec) : Text := spec.workspaceId.getD spec.target

def name (spec : ProxySessionSpec) : Text := sanitizeKey spec.key

def routeIdOf (name : Text) : Text := "v3-".toList ++ name

def jobIdOf (name : Text) : Text := "proxy:".toList ++ name

def sessionIdOf (name : Text) : Text := "session:".toList ++ name

def routeId (spec : ProxySessionSpec) : Text := routeIdOf spec.name

def jobId (spec : ProxySessionSpec) : Text := jobIdOf spec.name

def sessionId (spec : ProxySessionSpec) : Text := sessionIdOf spec.name

def remoteUrl (text : IpText) (spec : ProxySessionSpec) : Text :=
  proxyUrlForRemote spec.localProxy (text.display spec.remoteBind).toList spec.remotePortPolicy.preferred

def withRemotePort (remotePort : UInt16) (spec : ProxySessionSpec) : ProxySessionSpec :=
  { spec with remotePortPolicy := { spec.remotePortPolicy with preferred := remotePort } }

/-- `normalize_proxy_session_spec_for_live_reuse`: keys that were found later make no difference. -/
def withoutIdentity (spec : ProxySessionSpec) : ProxySessionSpec :=
  { spec with ssh := spec.ssh.map fun ssh => { ssh with identity := [] } }

def atSelectedPort (selectedPort : UInt16) (spec : ProxySessionSpec) : ProxySessionSpec :=
  withoutIdentity { spec.withRemotePort selectedPort with remotePortPolicy := .fixed selectedPort }

end ProxySessionSpec

/-- `proxy_session_specs_match`, on the values that are serialised. -/
def proxySessionSpecsMatch (left right : ProxySessionSpec) : Bool :=
  let selectedPort := left.remotePortPolicy.preferred
  (selectedPort = right.remotePortPolicy.preferred ∨
    right.remotePortPolicy.autoPick ∧ selectedPort ∈ right.remotePortPolicy.candidates) ∧
    left.atSelectedPort selectedPort = right.atSelectedPort selectedPort

inductive SessionHealth where
  | healthy | failed | cancelled | starting
  deriving DecidableEq, Repr

def jobHealth (job : JobRecord) : SessionHealth :=
  match job.state with
  | .healthy => .healthy
  | .failed => .failed
  | .cancelled => .cancelled
  | .queued | .running | .waitingRetry => .starting

inductive RemoteSetupState where
  | pending | required | running | applied | failed
  deriving DecidableEq, Repr

structure RemoteSetupStatus where
  state : RemoteSetupState
  updatedAtUnix : Nat
  deriving DecidableEq

inductive HandoffProbeState where
  | checking | skipped | ready | failed
  deriving DecidableEq, Repr

structure ProxySessionRecord where
  sessionId : Text
  target : Text
  workspaceId : Option Text
  ssh : Option SshTargetSpec
  workspacePaths : List String
  jobId : Text
  routeId : Text
  localProxy : Text
  remoteBind : String
  remotePort : UInt16
  remoteUrl : Text
  applyPolicy : SessionApplyPolicy
  state : JobState
  phase : JobPhase
  health : SessionHealth
  blocker : Option String
  nextAction : Option String
  lastError : Option String
  remoteSetup : RemoteSetupStatus
  handoffProbe : Option HandoffProbeState
  recoveryAttempts : Nat
  createdAtUnix : Nat
  updatedAtUnix : Nat
  deriving DecidableEq

namespace ProxySessionRecord

/-- The spec of a record, which keeps neither the port policy nor the connect mode. -/
def toSpec (text : IpText) (record : ProxySessionRecord) : Option ProxySessionSpec := do
  let remoteBind ← text.parse record.remoteBind
  return {
    target := record.target
    workspaceId := record.workspaceId
    ssh := record.ssh
    workspacePaths := record.workspacePaths
    localProxy := record.localProxy
    remoteBind
    remotePortPolicy := .new record.remotePort
    connectMode := .reverseLink
    applyPolicy := record.applyPolicy }

def ofSpecAndJob (text : IpText) (now : Nat) (spec : ProxySessionSpec) (job : JobRecord) : ProxySessionRecord where
  sessionId := spec.sessionId
  target := spec.target
  workspaceId := spec.workspaceId
  ssh := spec.ssh
  workspacePaths := spec.workspacePaths
  jobId := job.id
  routeId := spec.routeId
  localProxy := spec.localProxy
  remoteBind := text.display spec.remoteBind
  remotePort := spec.remotePortPolicy.preferred
  remoteUrl := job.remoteUrl.getD (spec.remoteUrl text)
  applyPolicy := spec.applyPolicy
  state := job.state
  phase := job.phase
  health := jobHealth job
  blocker := job.blocker
  nextAction := job.nextAction
  lastError := job.lastError
  remoteSetup := ⟨.pending, now⟩
  handoffProbe := none
  recoveryAttempts := job.recoveryAttempts
  createdAtUnix := job.createdAtUnix
  updatedAtUnix := job.updatedAtUnix

/-- `update_proxy_session_record_from_job`, which leaves the ids of session and job. -/
def updateFromJob (text : IpText) (spec : ProxySessionSpec) (job : JobRecord) (record : ProxySessionRecord) :
    ProxySessionRecord :=
  { record with
    target := spec.target
    workspaceId := spec.workspaceId
    ssh := spec.ssh
    workspacePaths := spec.workspacePaths
    routeId := spec.routeId
    localProxy := spec.localProxy
    remoteBind := text.display spec.remoteBind
    remotePort := spec.remotePortPolicy.preferred
    remoteUrl := job.remoteUrl.getD (spec.remoteUrl text)
    applyPolicy := spec.applyPolicy
    state := job.state
    phase := job.phase
    health := jobHealth job
    blocker := job.blocker
    nextAction := job.nextAction
    lastError := job.lastError
    updatedAtUnix := job.updatedAtUnix
    remoteSetup :=
      if job.phase = .applyRemoteSettings ∨ job.phase = .healthy ∧ record.remoteSetup.state = .pending then
        ⟨.required, job.updatedAtUnix⟩
      else record.remoteSetup
    recoveryAttempts := job.recoveryAttempts }

def cancel (now : Nat) (error : Option String) (record : ProxySessionRecord) : ProxySessionRecord :=
  { record with state := .cancelled, phase := .cancelled, health := .cancelled, lastError := error, updatedAtUnix := now }

def isUnfinished (record : ProxySessionRecord) : Bool := !record.state.isTerminal

end ProxySessionRecord

structure SessionRegistry where
  store : SortedMap Text ProxySessionRecord := .empty
  file : SortedMap Text ProxySessionRecord := .empty

namespace SessionRegistry

def load (registry : SessionRegistry) : SessionRegistry := { registry with store := registry.file }

/-- `save_store`: memory is changed also when the file could not be written. -/
def save {α : Type} (saved : Except String Unit) (store : SortedMap Text ProxySessionRecord) (result : α)
    (registry : SessionRegistry) : SessionRegistry × Except String α :=
  match saved with
  | .ok () => ({ store, file := store }, .ok result)
  | .error error => ({ registry with store }, .error error)

def get (registry : SessionRegistry) (id : Text) : Option ProxySessionRecord := registry.store.get id

def upsertFromJob (text : IpText) (now : Nat) (saved : Except String Unit) (spec : ProxySessionSpec) (job : JobRecord)
    (registry : SessionRegistry) : SessionRegistry × Except String ProxySessionRecord :=
  let entry := (registry.get spec.sessionId).getD (.ofSpecAndJob text now spec job)
  let record := entry.updateFromJob text spec job
  registry.save saved (registry.store.insert spec.sessionId record) record

def find (registry : SessionRegistry) (condition : ProxySessionRecord → Bool) : Option (Text × ProxySessionRecord) :=
  registry.store.entries.find? fun entry => condition entry.2

/-- Change the first record that meets the condition; the store is saved also when there is none. -/
def changeFirst (saved : Except String Unit) (condition : ProxySessionRecord → Bool)
    (change : ProxySessionRecord → ProxySessionRecord) (registry : SessionRegistry) :
    SessionRegistry × Except String (Option ProxySessionRecord) :=
  match registry.find condition with
  | some (key, record) => registry.save saved (registry.store.insert key (change record)) (some (change record))
  | none => registry.save saved registry.store none

def cancelSession (now : Nat) (saved : Except String Unit) (routeId jobId : Text) (error : Option String)
    (registry : SessionRegistry) : SessionRegistry × Except String (Option ProxySessionRecord) :=
  registry.changeFirst saved (fun record => record.routeId = routeId ∨ record.jobId = jobId) (.cancel now error)

def updateRemoteSetupStatus (now : Nat) (saved : Except String Unit) (sessionId jobId : Text) (state : RemoteSetupState)
    (registry : SessionRegistry) : SessionRegistry × Except String (Option ProxySessionRecord) :=
  registry.changeFirst saved (fun record => record.sessionId = sessionId ∨ record.jobId = jobId) fun record =>
    { record with remoteSetup := ⟨state, now⟩, updatedAtUnix := now }

def updateHandoffProbeStatus (now : Nat) (saved : Except String Unit) (sessionId jobId : Text) (state : HandoffProbeState)
    (registry : SessionRegistry) : SessionRegistry × Except String (Option ProxySessionRecord) :=
  registry.changeFirst saved (fun record => record.sessionId = sessionId ∨ record.jobId = jobId) fun record =>
    { record with handoffProbe := some state, updatedAtUnix := now }

def sessionByJob (registry : SessionRegistry) (jobId : Text) : Option ProxySessionRecord :=
  (registry.find (·.jobId = jobId)).map (·.2)

def sessionByRoute (registry : SessionRegistry) (routeId : Text) : Option ProxySessionRecord :=
  (registry.find (·.routeId = routeId)).map (·.2)

def sessions (registry : SessionRegistry) : List ProxySessionRecord := registry.store.entries.map (·.2)

end SessionRegistry
end SshProxy
