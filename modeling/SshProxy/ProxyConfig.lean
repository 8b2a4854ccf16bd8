import SshProxy.Address
import SshProxy.Library.Layers

/-! The settings of a proxy route: the config file's profiles, `plan_profile_defaults`, and
`apply_proxy_defaults`, which loads the section `defaults` and then a profile into the arguments
of the command line. -/

namespace SshProxy
open Library

inductive DeploymentPolicy where
  | auto | always | never
  deriving DecidableEq

inductive RemotePlatform where
  | auto | unix | windows
  deriving DecidableEq

inductive TransportMode where
  | auto | sshNative | quicNative | quic | tlsTcp | plainTcp | exec | tcp
  deriving DecidableEq

inductive WorkloadHint where
  | large | concurrent | mixed
  deriving DecidableEq

def normalizeChar (first : Bool) (char : Char) : List Char :=
  if char = '_' then ['-']
  else if char.isUpper ∧ !first then ['-', char.toLower]
  else [char.toLower]

def normalize (value : String) : String :=
  match value.toList with
  | [] => ""
  | char :: rest => String.ofList (normalizeChar true char ++ rest.flatMap (normalizeChar false))

def invalid (field value : String) : String := s!"invalid {field} value {value.quote}"

def parseDeploymentPolicy (value : String) : Except String DeploymentPolicy :=
  match normalize value with
  | "auto" => .ok .auto
  | "always" => .ok .always
  | "never" => .ok .never
  | _ => .error (invalid "deploy" value)

def parseRemotePlatform (value : String) : Except String RemotePlatform :=
  match normalize value with
  | "auto" => .ok .auto
  | "unix" | "linux" | "macos" => .ok .unix
  | "windows" => .ok .windows
  | _ => .error (invalid "remote_os" value)

def parseTransportMode (value : String) : Except String TransportMode :=
  match normalize value with
  | "auto" => .ok .auto
  | "ssh-native" => .ok .sshNative
  | "quic-native" | "native-quic" => .ok .quicNative
  | "quic" => .ok .quic
  | "tls-tcp" | "tls" => .ok .tlsTcp
  | "plain-tcp" | "direct-tcp" => .ok .plainTcp
  | "exec" => .ok .exec
  | "tcp" => .ok .tcp
  | _ => .error (invalid "remote_transport" value)

/-- A profile of the config file, or its section `defaults`. Paths are texts. -/
structure ProxyProfile where
  target : Option String := none
  listen : Option SocketAddr := none
  tcpTarget : Option TcpTarget := none
  sshArgs : List String := []
  user : Option String := none
  port : Option UInt16 := none
  identity : List String := []
  config : Option String := none
  knownHosts : Option String := none
  acceptNew : Option Bool := none
  insecureIgnoreHostKey : Option Bool := none
  jump : List String := []
  remotePath : Option String := none
  remoteBin : Option String := none
  deploy : Option String := none
  remoteOs : Option String := none
  remoteTransport : Option String := none
  remoteTcp : Option SocketAddr := none
  remoteControl : Option SocketAddr := none
  remoteQuic : Option SocketAddr := none
  allowPlainTcp : Option Bool := none
  remoteTls : Option SocketAddr := none
  quicMaxBidiStreams : Option UInt32 := none
  quicStreamReceiveWindow : Option UInt32 := none
  quicReceiveWindow : Option UInt32 := none
  quicKeepAliveIntervalSecs : Option UInt64 := none
  quicIdleTimeoutSecs : Option UInt64 := none
  remoteCa : Option String := none
  remoteName : Option String := none
  remoteClientCert : Option String := none
  remoteClientKey : Option String := none
  remoteToken : Option String := none
  egressProxy : Option String := none
  reconnectDelaySecs : Option UInt64 := none
  reconnectMaxDelaySecs : Option UInt64 := none
  connectTimeoutSecs : Option UInt64 := none
  transportPoolSize : Option Nat := none
  workloadHint : Option WorkloadHint := none
  sshSessionPoolSize : Option Nat := none
  noReconnect : Option Bool := none
  controlListen : Option SocketAddr := none

structure DaemonConfig where
  controlListen : Option SocketAddr := none

structure AppConfig where
  daemon : DaemonConfig := {}
  defaults : ProxyProfile := {}
  profiles : List (String × ProxyProfile) := []

structure RouteEndpointIntent where
  controlListen : Option SocketAddr
  remoteTcp : Option SocketAddr
  remoteControl : Option SocketAddr
  remoteQuic : Option SocketAddr
  remoteTls : Option SocketAddr
  remoteName : Option String
  remoteCa : Option String
  remoteClientCert : Option String
  remoteClientKey : Option String
  egressProxy : Option String

structure QuicRuntimeTuningIntent where
  maxBidiStreams : Option UInt32
  streamReceiveWindow : Option UInt32
  receiveWindow : Option UInt32
  keepAliveIntervalSecs : Option UInt64
  idleTimeoutSecs : Option UInt64

structure RuntimeTuningIntent where
  reconnectDelaySecs : Option UInt64
  reconnectMaxDelaySecs : Option UInt64
  connectTimeoutSecs : Option UInt64
  workloadHint : Option WorkloadHint
  quic : QuicRuntimeTuningIntent

structure ProfileIntentDefaults where
  listen : Option SocketAddr
  tcpTarget : Option TcpTarget
  sshArgs : List String
  user : Option String
  port : Option UInt16
  identity : List String
  config : Option String
  knownHosts : Option String
  acceptNew : Option Bool
  insecureIgnoreHostKey : Option Bool
  jump : List String
  remotePath : Option String
  remoteBin : Option String
  deployment : Option DeploymentPolicy
  remotePlatform : Option RemotePlatform
  transport : Option TransportMode
  endpoint : RouteEndpointIntent
  remoteToken : Option String
  runtime : RuntimeTuningIntent
  transportPoolSize : Option Nat
  sshSessionPoolSize : Option Nat
  allowPlainTcp : Option Bool
  noReconnect : Option Bool

/-- Paths are expanded with `home`; a mode that does not parse is an error. -/
def planProfileDefaults (home : Option String) (profile : ProxyProfile) : Except String ProfileIntentDefaults := do
  let deployment ← profile.deploy.mapM parseDeploymentPolicy
  let remotePlatform ← profile.remoteOs.mapM parseRemotePlatform
  let transport ← profile.remoteTransport.mapM parseTransportMode
  return {
    listen := profile.listen
    tcpTarget := profile.tcpTarget
    sshArgs := profile.sshArgs
    user := profile.user
    port := profile.port
    identity := profile.identity.map (Path.expand home)
    config := profile.config.map (Path.expand home)
    knownHosts := profile.knownHosts.map (Path.expand home)
    acceptNew := profile.acceptNew
    insecureIgnoreHostKey := profile.insecureIgnoreHostKey
    jump := profile.jump
    remotePath := profile.remotePath
    remoteBin := profile.remoteBin.map (Path.expand home)
    deployment, remotePlatform, transport
    endpoint := {
      controlListen := profile.controlListen
      remoteTcp := profile.remoteTcp
      remoteControl := profile.remoteControl
      remoteQuic := profile.remoteQuic
      remoteTls := profile.remoteTls
      remoteName := profile.remoteName
      remoteCa := profile.remoteCa.map (Path.expand home)
      remoteClientCert := profile.remoteClientCert.map (Path.expand home)
      remoteClientKey := profile.remoteClientKey.map (Path.expand home)
      egressProxy := profile.egressProxy }
    remoteToken := profile.remoteToken
    runtime := {
      reconnectDelaySecs := profile.reconnectDelaySecs
      reconnectMaxDelaySecs := profile.reconnectMaxDelaySecs
      connectTimeoutSecs := profile.connectTimeoutSecs
      workloadHint := profile.workloadHint
      quic := {
        maxBidiStreams := profile.quicMaxBidiStreams
        streamReceiveWindow := profile.quicStreamReceiveWindow
        receiveWindow := profile.quicReceiveWindow
        keepAliveIntervalSecs := profile.quicKeepAliveIntervalSecs
        idleTimeoutSecs := profile.quicIdleTimeoutSecs } }
    transportPoolSize := profile.transportPoolSize
    sshSessionPoolSize := profile.sshSessionPoolSize
    allowPlainTcp := profile.allowPlainTcp
    noReconnect := profile.noReconnect }

def quicMaxBidiStreams : UInt32 := 256
def quicStreamReceiveWindow : UInt32 := 2 * 1024 * 1024
def quicReceiveWindow : UInt32 := 16 * 1024 * 1024
def quicKeepAliveIntervalSecs : UInt64 := 10
def quicIdleTimeoutSecs : UInt64 := 60

/-- The arguments of `ssh_proxy proxy`, with the values they have when nothing is given, as
`default_proxy_args` has them. -/
structure ProxyArgs where
  target : String
  listen : SocketAddr := loopback 1080
  tcpTarget : Option TcpTarget := none
  sshArgs : List String := []
  user : Option String := none
  port : Option UInt16 := none
  identity : List String := []
  config : Option String := none
  knownHosts : Option String := none
  acceptNew : Bool := false
  insecureIgnoreHostKey : Bool := false
  jump : List String := []
  remotePath : Option String := none
  remoteBin : Option String := none
  deploy : DeploymentPolicy := .auto
  remoteOs : RemotePlatform := .auto
  remoteTransport : TransportMode := .auto
  remoteTcp : SocketAddr := loopback 19080
  remoteControl : SocketAddr := loopback 19081
  remoteQuic : Option SocketAddr := none
  allowPlainTcp : Bool := false
  remoteTls : Option SocketAddr := none
  remoteCa : Option String := none
  remoteName : String := "localhost"
  remoteClientCert : Option String := none
  remoteClientKey : Option String := none
  remoteToken : Option String := none
  egressProxy : Option String := none
  reconnectDelaySecs : UInt64 := 5
  reconnectMaxDelaySecs : UInt64 := 60
  connectTimeoutSecs : UInt64 := 30
  transportPoolSize : Nat := 1
  workloadHint : Option WorkloadHint := none
  quicMaxBidiStreams : UInt32 := SshProxy.quicMaxBidiStreams
  quicStreamReceiveWindow : UInt32 := SshProxy.quicStreamReceiveWindow
  quicReceiveWindow : UInt32 := SshProxy.quicReceiveWindow
  quicKeepAliveIntervalSecs : UInt64 := SshProxy.quicKeepAliveIntervalSecs
  quicIdleTimeoutSecs : UInt64 := SshProxy.quicIdleTimeoutSecs
  sshSessionPoolSize : Option Nat := none
  sshSessionPoolSource : Option String := none
  sshSessionPoolReason : Option String := none
  sshSessionPoolWarning : Option String := none
  transportPoolSource : Option String := none
  transportPoolReason : Option String := none
  transportSelectionSource : Option String := none
  transportSelectionReason : Option String := none
  noReconnect : Bool := false
  controlListen : Option SocketAddr := none

def defaultProxyArgs (target : String) : ProxyArgs := { target }

inductive ProfileSource where
  | defaults
  | profile
  deriving DecidableEq

def ProfileSource.text : ProfileSource → String
  | .defaults => "defaults"
  | .profile => "profile"

structure TransportSelection where
  transport : TransportMode
  source : Option String
  reason : Option String

def TransportSelection.load (source : ProfileSource) (value : Option TransportMode) (current : TransportSelection) :
    TransportSelection :=
  match value with
  | none => current
  | some transport =>
    if current.transport = .auto then
      if transport ≠ .auto ∧ current.source = none then
        { transport, source := some source.text, reason := some s!"loaded from {source.text} remote_transport" }
      else { current with transport }
    else current

structure TransportPool where
  size : Nat
  source : Option String
  reason : Option String

def TransportPool.load (source : ProfileSource) (value : Option Nat) (current : TransportPool) : TransportPool :=
  match value with
  | none => current
  | some value =>
    let effective := max value 1
    { size := effective
      source := some source.text
      reason := some (
        if value = effective then s!"loaded from {source.text} transport_pool_size"
        else s!"loaded from {source.text} transport_pool_size; clamped to minimum 1") }

structure SshSessionPool where
  size : Option Nat
  source : Option String
  reason : Option String
  warning : Option String

def sshSessionPoolWarning (size : Nat) : Option String :=
  if 2 < size then
    some ("ssh-native session pools above 2 can lose to handshake and scheduling overhead; " ++
      "benchmark before relying on this explicit value")
  else none

namespace SshSessionPool

/-- The size that a section asks for: at least one, and at most two in `defaults`. -/
def effective (source : ProfileSource) (value : Nat) : Nat :=
  if source = .defaults then min (max value 1) 2 else max value 1

def capped (source : ProfileSource) (value : Nat) : Bool := source = .defaults ∧ effective source value < max value 1

def loaded (source : ProfileSource) (value : Nat) : SshSessionPool where
  size := some (effective source value)
  source := some source.text
  reason := some (
    if capped source value then
      s!"loaded from defaults ssh_session_pool_size={value}; capped to pool=2 because only command-line/profile " ++
        "benchmark experiments may exceed the implicit-safe ssh-native range"
    else if value = effective source value then s!"loaded from {source.text} ssh_session_pool_size"
    else s!"loaded from {source.text} ssh_session_pool_size; clamped to minimum 1")
  warning :=
    if capped source value then
      some ("ssh-native defaults above 2 are not auto-selected; use --ssh-session-pool-size or a target profile " ++
        "for explicit benchmark experiments")
    else sshSessionPoolWarning (effective source value)

/-- A size that no section has given yet is noted as one of the command line. -/
def noteCommandLine (pool : SshSessionPool) : SshSessionPool :=
  match pool.size, pool.source with
  | some size, none =>
    { pool with
      source := some "command-line"
      reason := some "loaded from --ssh-session-pool-size"
      warning := sshSessionPoolWarning size }
  | _, _ => pool

def load (source : ProfileSource) (value : Option Nat) (pool : SshSessionPool) : SshSessionPool :=
  match value with
  | some value =>
    if pool.size = none ∨ (source = .profile ∧ pool.source = some "defaults") then (loaded source value).noteCommandLine
    else pool.noteCommandLine
  | none => pool.noteCommandLine

end SshSessionPool

namespace ProxyArgs

def transportSelection (args : ProxyArgs) : TransportSelection :=
  ⟨args.remoteTransport, args.transportSelectionSource, args.transportSelectionReason⟩

def transportPool (args : ProxyArgs) : TransportPool :=
  ⟨args.transportPoolSize, args.transportPoolSource, args.transportPoolReason⟩

def sshSessionPool (args : ProxyArgs) : SshSessionPool :=
  ⟨args.sshSessionPoolSize, args.sshSessionPoolSource, args.sshSessionPoolReason, args.sshSessionPoolWarning⟩

def load (source : ProfileSource) (defaults : ProfileIntentDefaults) (args : ProxyArgs) : ProxyArgs :=
  let selection := args.transportSelection.load source defaults.transport
  let transportPool := args.transportPool.load source defaults.transportPoolSize
  let sessionPool := args.sshSessionPool.load source defaults.sshSessionPoolSize
  { target := args.target
    listen := fillSentinel (loopback 1080) args.listen defaults.listen
    tcpTarget := args.tcpTarget.or defaults.tcpTarget
    sshArgs := fillEmpty args.sshArgs defaults.sshArgs
    user := args.user.or defaults.user
    port := args.port.or defaults.port
    identity := fillEmpty args.identity defaults.identity
    config := args.config.or defaults.config
    knownHosts := args.knownHosts.or defaults.knownHosts
    acceptNew := fillFalse args.acceptNew defaults.acceptNew
    insecureIgnoreHostKey := fillFalse args.insecureIgnoreHostKey defaults.insecureIgnoreHostKey
    jump := fillEmpty args.jump defaults.jump
    remotePath := args.remotePath.or defaults.remotePath
    remoteBin := args.remoteBin.or defaults.remoteBin
    deploy := defaults.deployment.getD args.deploy
    remoteOs := defaults.remotePlatform.getD args.remoteOs
    remoteTransport := selection.transport
    transportSelectionSource := selection.source
    transportSelectionReason := selection.reason
    remoteTcp := defaults.endpoint.remoteTcp.getD args.remoteTcp
    remoteControl := defaults.endpoint.remoteControl.getD args.remoteControl
    remoteQuic := args.remoteQuic.or defaults.endpoint.remoteQuic
    allowPlainTcp := fillFalse args.allowPlainTcp defaults.allowPlainTcp
    remoteTls := args.remoteTls.or defaults.endpoint.remoteTls
    remoteCa := args.remoteCa.or defaults.endpoint.remoteCa
    remoteName := fillSentinel "localhost" args.remoteName defaults.endpoint.remoteName
    remoteClientCert := args.remoteClientCert.or defaults.endpoint.remoteClientCert
    remoteClientKey := args.remoteClientKey.or defaults.endpoint.remoteClientKey
    remoteToken := args.remoteToken.or defaults.remoteToken
    egressProxy := args.egressProxy.or defaults.endpoint.egressProxy
    reconnectDelaySecs := defaults.runtime.reconnectDelaySecs.getD args.reconnectDelaySecs
    reconnectMaxDelaySecs := defaults.runtime.reconnectMaxDelaySecs.getD args.reconnectMaxDelaySecs
    connectTimeoutSecs := defaults.runtime.connectTimeoutSecs.getD args.connectTimeoutSecs
    quicMaxBidiStreams := defaults.runtime.quic.maxBidiStreams.getD args.quicMaxBidiStreams
    quicStreamReceiveWindow := defaults.runtime.quic.streamReceiveWindow.getD args.quicStreamReceiveWindow
    quicReceiveWindow := defaults.runtime.quic.receiveWindow.getD args.quicReceiveWindow
    quicKeepAliveIntervalSecs := defaults.runtime.quic.keepAliveIntervalSecs.getD args.quicKeepAliveIntervalSecs
    quicIdleTimeoutSecs := defaults.runtime.quic.idleTimeoutSecs.getD args.quicIdleTimeoutSecs
    transportPoolSize := transportPool.size
    transportPoolSource := transportPool.source
    transportPoolReason := transportPool.reason
    workloadHint := (defaults.runtime.workloadHint.map some).getD args.workloadHint
    sshSessionPoolSize := sessionPool.size
    sshSessionPoolSource := sessionPool.source
    sshSessionPoolReason := sessionPool.reason
    sshSessionPoolWarning := sessionPool.warning
    noReconnect := fillFalse args.noReconnect defaults.noReconnect
    controlListen := args.controlListen.or defaults.endpoint.controlListen }

end ProxyArgs

def applyProfile (home : Option String) (source : ProfileSource) (profile : ProxyProfile) (args : ProxyArgs) :
    Except String ProxyArgs := do
  let defaults ← planProfileDefaults home profile
  return args.load source defaults

namespace AppConfig

/-- The profile under the given name, else the one under the target. -/
def selectedProfile (config : AppConfig) (profileName : Option String) (target : String) : Option ProxyProfile :=
  (profileName.bind fun name => config.profiles.lookup name).or (config.profiles.lookup target)

def applySelectedProfile (home : Option String) (config : AppConfig) (args : ProxyArgs) (profileName : Option String) :
    Except String ProxyArgs :=
  match config.selectedProfile profileName args.target with
  | none => .ok args
  | some profile =>
    let target := if profileName.isSome then profile.target.getD args.target else args.target
    applyProfile home .profile profile { args with target }

def applyProxyDefaults (home : Option String) (config : AppConfig) (args : ProxyArgs) (profileName : Option String) :
    Except String ProxyArgs := do
  let args ← applyProfile home .defaults config.defaults args
  let args ← config.applySelectedProfile home args profileName
  return { args with controlListen := args.controlListen.or config.daemon.controlListen }

end AppConfig
end SshProxy
