import SshProxy.Library.Wire
import SshProxy.ProxyConfig

/-! The order of precedence among the command line, a profile and the section `defaults`. It is
stated for every field a profile can set, with its type, and holds where the sections do not
disagree in the way the field's merge gets wrong. -/

namespace SshProxy
open Library

/-- The fields of the arguments that a profile can set. The target, which has no built-in value,
is not among them. -/
inductive ProxyField : Type → Type where
  | listen : ProxyField SocketAddr
  | remoteTcp : ProxyField SocketAddr
  | remoteControl : ProxyField SocketAddr
  | remoteQuic : ProxyField (Option SocketAddr)
  | remoteTls : ProxyField (Option SocketAddr)
  | controlListen : ProxyField (Option SocketAddr)
  | tcpTarget : ProxyField (Option TcpTarget)
  | sshArgs : ProxyField (List String)
  | identity : ProxyField (List String)
  | jump : ProxyField (List String)
  | user : ProxyField (Option String)
  | config : ProxyField (Option String)
  | knownHosts : ProxyField (Option String)
  | remotePath : ProxyField (Option String)
  | remoteBin : ProxyField (Option String)
  | remoteCa : ProxyField (Option String)
  | remoteClientCert : ProxyField (Option String)
  | remoteClientKey : ProxyField (Option String)
  | remoteToken : ProxyField (Option String)
  | egressProxy : ProxyField (Option String)
  | port : ProxyField (Option UInt16)
  | acceptNew : ProxyField Bool
  | insecureIgnoreHostKey : ProxyField Bool
  | allowPlainTcp : ProxyField Bool
  | noReconnect : ProxyField Bool
  | deploy : ProxyField DeploymentPolicy
  | remoteOs : ProxyField RemotePlatform
  | remoteTransport : ProxyField TransportMode
  | remoteName : ProxyField String
  | reconnectDelaySecs : ProxyField UInt64
  | reconnectMaxDelaySecs : ProxyField UInt64
  | connectTimeoutSecs : ProxyField UInt64
  | quicKeepAliveIntervalSecs : ProxyField UInt64
  | quicIdleTimeoutSecs : ProxyField UInt64
  | quicMaxBidiStreams : ProxyField UInt32
  | quicStreamReceiveWindow : ProxyField UInt32
  | quicReceiveWindow : ProxyField UInt32
  | transportPoolSize : ProxyField Nat
  | workloadHint : ProxyField (Option WorkloadHint)
  | sshSessionPoolSize : ProxyField (Option Nat)

/-- How `apply_profile` merges a field: it fills in what is not set, with or without a last resort
outside of the profiles, overwrites it, or looks at where the value came from. -/
inductive MergeRule where
  | fillIn
  | fillInLast
  | overwrite
  | bySource
  deriving DecidableEq

namespace ProxyField
variable {α : Type}

def read : {α : Type} → ProxyField α → ProxyArgs → α
  | _, .listen, args => args.listen
  | _, .remoteTcp, args => args.remoteTcp
  | _, .remoteControl, args => args.remoteControl
  | _, .remoteQuic, args => args.remoteQuic
  | _, .remoteTls, args => args.remoteTls
  | _, .controlListen, args => args.controlListen
  | _, .tcpTarget, args => args.tcpTarget
  | _, .sshArgs, args => args.sshArgs
  | _, .identity, args => args.identity
  | _, .jump, args => args.jump
  | _, .user, args => args.user
  | _, .config, args => args.config
  | _, .knownHosts, args => args.knownHosts
  | _, .remotePath, args => args.remotePath
  | _, .remoteBin, args => args.remoteBin
  | _, .remoteCa, args => args.remoteCa
  | _, .remoteClientCert, args => args.remoteClientCert
  | _, .remoteClientKey, args => args.remoteClientKey
  | _, .remoteToken, args => args.remoteToken
  | _, .egressProxy, args => args.egressProxy
  | _, .port, args => args.port
  | _, .acceptNew, args => args.acceptNew
  | _, .insecureIgnoreHostKey, args => args.insecureIgnoreHostKey
  | _, .allowPlainTcp, args => args.allowPlainTcp
  | _, .noReconnect, args => args.noReconnect
  | _, .deploy, args => args.deploy
  | _, .remoteOs, args => args.remoteOs
  | _, .remoteTransport, args => args.remoteTransport
  | _, .remoteName, args => args.remoteName
  | _, .reconnectDelaySecs, args => args.reconnectDelaySecs
  | _, .reconnectMaxDelaySecs, args => args.reconnectMaxDelaySecs
  | _, .connectTimeoutSecs, args => args.connectTimeoutSecs
  | _, .quicKeepAliveIntervalSecs, args => args.quicKeepAliveIntervalSecs
  | _, .quicIdleTimeoutSecs, args => args.quicIdleTimeoutSecs
  | _, .quicMaxBidiStreams, args => args.quicMaxBidiStreams
  | _, .quicStreamReceiveWindow, args => args.quicStreamReceiveWindow
  | _, .quicReceiveWindow, args => args.quicReceiveWindow
  | _, .transportPoolSize, args => args.transportPoolSize
  | _, .workloadHint, args => args.workloadHint
  | _, .sshSessionPoolSize, args => args.sshSessionPoolSize

def builtIn (field : ProxyField α) : α := field.read (defaultProxyArgs "")

/-- The value a planned section gives a field, brought into the range the field has. -/
def planned (source : ProfileSource) (defaults : ProfileIntentDefaults) : {α : Type} → ProxyField α → Option α
  | _, .listen => defaults.listen
  | _, .remoteTcp => defaults.endpoint.remoteTcp
  | _, .remoteControl => defaults.endpoint.remoteControl
  | _, .remoteQuic => defaults.endpoint.remoteQuic.map some
  | _, .remoteTls => defaults.endpoint.remoteTls.map some
  | _, .controlListen => defaults.endpoint.controlListen.map some
  | _, .tcpTarget => defaults.tcpTarget.map some
  | _, .sshArgs => listed defaults.sshArgs
  | _, .identity => listed defaults.identity
  | _, .jump => listed defaults.jump
  | _, .user => defaults.user.map some
  | _, .config => defaults.config.map some
  | _, .knownHosts => defaults.knownHosts.map some
  | _, .remotePath => defaults.remotePath.map some
  | _, .remoteBin => defaults.remoteBin.map some
  | _, .remoteCa => defaults.endpoint.remoteCa.map some
  | _, .remoteClientCert => defaults.endpoint.remoteClientCert.map some
  | _, .remoteClientKey => defaults.endpoint.remoteClientKey.map some
  | _, .remoteToken => defaults.remoteToken.map some
  | _, .egressProxy => defaults.endpoint.egressProxy.map some
  | _, .port => defaults.port.map some
  | _, .acceptNew => defaults.acceptNew
  | _, .insecureIgnoreHostKey => defaults.insecureIgnoreHostKey
  | _, .allowPlainTcp => defaults.allowPlainTcp
  | _, .noReconnect => defaults.noReconnect
  | _, .deploy => defaults.deployment
  | _, .remoteOs => defaults.remotePlatform
  | _, .remoteTransport => defaults.transport
  | _, .remoteName => defaults.endpoint.remoteName
  | _, .reconnectDelaySecs => defaults.runtime.reconnectDelaySecs
  | _, .reconnectMaxDelaySecs => defaults.runtime.reconnectMaxDelaySecs
  | _, .connectTimeoutSecs => defaults.runtime.connectTimeoutSecs
  | _, .quicKeepAliveIntervalSecs => defaults.runtime.quic.keepAliveIntervalSecs
  | _, .quicIdleTimeoutSecs => defaults.runtime.quic.idleTimeoutSecs
  | _, .quicMaxBidiStreams => defaults.runtime.quic.maxBidiStreams
  | _, .quicStreamReceiveWindow => defaults.runtime.quic.streamReceiveWindow
  | _, .quicReceiveWindow => defaults.runtime.quic.receiveWindow
  | _, .transportPoolSize => defaults.transportPoolSize.map (max · 1)
  | _, .workloadHint => defaults.runtime.workloadHint.map some
  | _, .sshSessionPoolSize => defaults.sshSessionPoolSize.map fun value => some (SshSessionPool.effective source value)

def rule : {α : Type} → ProxyField α → MergeRule
  | _, .controlListen => .fillInLast
  | _, .deploy | _, .remoteOs | _, .remoteTcp | _, .remoteControl | _, .reconnectDelaySecs | _, .reconnectMaxDelaySecs
  | _, .connectTimeoutSecs | _, .quicKeepAliveIntervalSecs | _, .quicIdleTimeoutSecs | _, .quicMaxBidiStreams
  | _, .quicStreamReceiveWindow | _, .quicReceiveWindow | _, .transportPoolSize | _, .workloadHint => .overwrite
  | _, .sshSessionPoolSize => .bySource
  | _, _ => .fillIn

/-- The value of a field that nothing sets: the daemon's control listener, or the built-in one. -/
def lastResort (config : AppConfig) : {α : Type} → ProxyField α → α
  | _, .controlListen => config.daemon.controlListen
  | _, field => field.builtIn

def loaded (home : Option String) (source : ProfileSource) (profile : ProxyProfile) (field : ProxyField α) : Option α :=
  match planProfileDefaults home profile with
  | .ok defaults => field.planned source defaults
  | .error _ => none

variable (home : Option String) (config : AppConfig) (args : ProxyArgs) (profileName : Option String)

def defaultsValue (field : ProxyField α) : Option α := field.loaded home .defaults config.defaults

def profileValue (field : ProxyField α) : Option α :=
  (config.selectedProfile profileName args.target).bind fun profile => field.loaded home .profile profile

/-- The command line comes first, then the profile, then `defaults`, then the built-in value or, for
`control_listen`, the daemon's. A pool size of a section counts as the one it is clamped to. -/
def Precedence (field : ProxyField α) (after : ProxyArgs) : Prop :=
  Layered field.builtIn (field.lastResort config) (field.read args) (field.profileValue home config args profileName)
    (field.defaultsValue home config) (field.read after)

/-- A field that is filled in keeps what `defaults` says; one that is overwritten does not keep
what the command line says. -/
def SectionsAgree (field : ProxyField α) : Prop :=
  match field.rule with
  | .fillIn | .fillInLast =>
    field.read args = field.builtIn → ∀ low high, field.defaultsValue home config = some low →
      field.profileValue home config args profileName = some high → low = field.builtIn ∨ high = low
  | .overwrite =>
    field.read args ≠ field.builtIn → ∀ value,
      (field.profileValue home config args profileName).or (field.defaultsValue home config) = some value →
        value = field.read args
  | .bySource =>
    field.read args ≠ field.builtIn → args.sshSessionPoolSource = some "defaults" → ∀ value,
      field.profileValue home config args profileName = some value → value = field.read args

end ProxyField

theorem TransportSelection.load_transport (source : ProfileSource) (value : Option TransportMode)
    (current : TransportSelection) :
    (current.load source value).transport = fillSentinel .auto current.transport value := by
  cases value with
  | none => simp [TransportSelection.load, fillSentinel]
  | some transport =>
    simp only [TransportSelection.load, fillSentinel, Option.getD_some]
    split
    · split <;> rfl
    · rfl

theorem TransportPool.load_size (source : ProfileSource) (value : Option Nat) (current : TransportPool) :
    (current.load source value).size = (value.map (max · 1)).getD current.size := by
  cases value <;> rfl

namespace SshSessionPool

theorem noteCommandLine_size (pool : SshSessionPool) : pool.noteCommandLine.size = pool.size := by
  unfold noteCommandLine
  split <;> rfl

theorem load_size (source : ProfileSource) (value : Option Nat) (pool : SshSessionPool) :
    (pool.load source value).size =
      if pool.size = none ∨ (source = .profile ∧ pool.source = some "defaults") then
        (value.map fun value => some (effective source value)).getD pool.size
      else pool.size := by
  cases value with
  | none => simp [load, noteCommandLine_size]
  | some value =>
    simp only [load, Option.map_some, Option.getD_some]
    split
    · exact noteCommandLine_size _
    · exact noteCommandLine_size _

theorem load_none_size (source : ProfileSource) (pool : SshSessionPool) : (pool.load source none).size = pool.size :=
  noteCommandLine_size pool

theorem load_defaults_of_size {pool : SshSessionPool} {size : Nat} (set : pool.size = some size) (value : Option Nat) :
    pool.load .defaults value = pool.noteCommandLine := by
  cases value <;> simp [load, set]

theorem noteCommandLine_source {pool : SshSessionPool} :
    pool.noteCommandLine.source = some "defaults" ↔ pool.source = some "defaults" := by
  unfold noteCommandLine
  split
  · simp [*]
  · rfl

theorem layered_iff (pool : SshSessionPool) (upper lower : Option Nat) :
    Layered none none pool.size (upper.map fun value => some (effective .profile value))
        (lower.map fun value => some (effective .defaults value)) ((pool.load .defaults lower).load .profile upper).size ↔
      (pool.size ≠ none → pool.source = some "defaults" → ∀ value,
        (upper.map fun value => some (effective .profile value)) = some value → value = pool.size) := by
  cases set : pool.size with
  | none =>
    have last : ((pool.load .defaults lower).load .profile upper).size =
        (upper.map fun value => some (effective .profile value)).getD (pool.load .defaults lower).size := by
      rw [load_size, if_pos]
      cases lower with
      | none => left; rw [load_size, set]; simp
      | some value =>
        right
        refine ⟨rfl, ?_⟩
        rw [load, if_pos (.inl set), noteCommandLine_source]
        rfl
    rw [last, load_size, set]
    cases upper <;> cases lower <;> simp [Layered]
  | some size =>
    simp only [load_defaults_of_size set, load_size, noteCommandLine_size, noteCommandLine_source, set]
    by_cases source : pool.source = some "defaults"
    · cases upper <;> simp [Layered, source, eq_comm]
    · simp [Layered, source]

end SshSessionPool

namespace ProxyField
variable {α : Type} {home : Option String} {config : AppConfig} {args : ProxyArgs} {profileName : Option String}

variable (source : ProfileSource) (defaults : ProfileIntentDefaults) (field : ProxyField α)

theorem read_load_fillsIn (fills : field.rule = .fillIn) :
    FillsIn field.builtIn (field.read args) (field.planned source defaults) (field.read (args.load source defaults)) := by
  cases field with
  | listen | remoteName => exact fillSentinel_fillsIn ..
  | remoteTransport =>
    show FillsIn TransportMode.auto args.remoteTransport defaults.transport (args.transportSelection.load ..).transport
    rw [TransportSelection.load_transport]
    exact fillSentinel_fillsIn ..
  | remoteQuic | remoteTls | tcpTarget | user | config | knownHosts | remotePath | remoteBin | remoteCa
  | remoteClientCert | remoteClientKey | remoteToken | egressProxy | port => exact or_fillsIn ..
  | sshArgs | identity | jump => exact fillEmpty_fillsIn ..
  | acceptNew | insecureIgnoreHostKey | allowPlainTcp | noReconnect => exact fillFalse_fillsIn ..
  | _ => cases fills

theorem read_load_overwrites (overwrites : field.rule = .overwrite) :
    field.read (args.load source defaults) = (field.planned source defaults).getD (field.read args) := by
  cases field with
  | transportPoolSize => exact TransportPool.load_size ..
  | _ => first | rfl | cases overwrites

end ProxyField

def ProxyArgs.loadSections (lower : ProfileIntentDefaults) (upper : Option ProfileIntentDefaults) (args : ProxyArgs) :
    ProxyArgs :=
  upper.elim (args.load .defaults lower) fun upper => (args.load .defaults lower).load .profile upper

def ProxyArgs.settle (target : String) (controlListen : Option SocketAddr) (args : ProxyArgs) : ProxyArgs :=
  { args with target, controlListen := args.controlListen.or controlListen }

namespace ProxyField
variable {α : Type} {config : AppConfig} {args : ProxyArgs} {lower : ProfileIntentDefaults}

variable (field : ProxyField α)

theorem read_loadSections_fillsIn (fills : field.rule = .fillIn) (upper : Option ProfileIntentDefaults) :
    FillsIn field.builtIn (field.read (args.load .defaults lower)) (upper.bind fun upper => field.planned .profile upper)
      (field.read (args.loadSections lower upper)) := by
  cases upper with
  | none => exact ⟨fun _ => rfl, fun unset => unset⟩
  | some upper => exact field.read_load_fillsIn .profile upper fills

theorem read_loadSections_overwrites (overwrites : field.rule = .overwrite) (upper : Option ProfileIntentDefaults) :
    field.read (args.loadSections lower upper) =
      (upper.bind fun upper => field.planned .profile upper).getD
        ((field.planned .defaults lower).getD (field.read args)) := by
  rw [← field.read_load_overwrites .defaults lower overwrites]
  cases upper with
  | none => rfl
  | some upper => exact field.read_load_overwrites .profile upper overwrites

theorem lastResort_eq (plain : field.rule ≠ .fillInLast) : field.lastResort config = field.builtIn := by
  cases field with
  | controlListen => exact absurd rfl plain
  | _ => rfl

theorem read_settle (plain : field.rule ≠ .fillInLast) (target : String) (controlListen : Option SocketAddr) :
    field.read (args.settle target controlListen) = field.read args := by
  cases field with
  | controlListen => exact absurd rfl plain
  | _ => rfl

end ProxyField

namespace AppConfig
variable {home : Option String} {config : AppConfig} {args after : ProxyArgs} {profileName : Option String}

/-- Only a profile that is asked for by name replaces the target. -/
def selectedTarget (config : AppConfig) (profileName : Option String) (target : String) : String :=
  if profileName.isSome then ((config.selectedProfile profileName target).bind ProxyProfile.target).getD target else target

theorem applyProfile_ok {source : ProfileSource} {profile : ProxyProfile}
    (applied : applyProfile home source profile args = .ok after) :
    ∃ defaults, planProfileDefaults home profile = .ok defaults ∧ after = args.load source defaults := by
  obtain ⟨defaults, planned, same⟩ := attempt_bind_eq_ok.mp applied
  cases same
  exact ⟨defaults, planned, rfl⟩

theorem applyProxyDefaults_ok (applied : config.applyProxyDefaults home args profileName = .ok after) : ∃ lower upper,
      after = (args.loadSections lower upper).settle (config.selectedTarget profileName args.target)
        config.daemon.controlListen ∧
      ∀ (α : Type) (field : ProxyField α), field.defaultsValue home config = field.planned .defaults lower ∧
        field.profileValue home config args profileName = upper.bind fun upper => field.planned .profile upper := by
  obtain ⟨first, loaded, rest⟩ := attempt_bind_eq_ok.mp applied
  obtain ⟨lower, low, rfl⟩ := applyProfile_ok loaded
  obtain ⟨second, loaded, same⟩ := attempt_bind_eq_ok.mp rest
  cases same
  cases selected : config.selectedProfile profileName args.target with
  | none =>
    rw [applySelectedProfile, show (args.load .defaults lower).target = args.target from rfl, selected] at loaded
    cases loaded
    refine ⟨lower, none, ?_, fun α field => ⟨?_, ?_⟩⟩
    · rw [selectedTarget, selected, Option.bind_none, Option.getD_none, ite_self]
      rfl
    · rw [ProxyField.defaultsValue, ProxyField.loaded, low]
    · rw [ProxyField.profileValue, selected]
      rfl
  | some profile =>
    rw [applySelectedProfile, show (args.load .defaults lower).target = args.target from rfl, selected] at loaded
    obtain ⟨upper, high, rfl⟩ := applyProfile_ok loaded
    refine ⟨lower, some upper, ?_, fun α field => ⟨?_, ?_⟩⟩
    · rw [selectedTarget, selected]
      rfl
    · rw [ProxyField.defaultsValue, ProxyField.loaded, low]
    · rw [ProxyField.profileValue, selected, Option.bind_some, ProxyField.loaded, high]
      rfl

end AppConfig

namespace ProxyField
variable {α : Type} {home : Option String} {config : AppConfig} {args after : ProxyArgs} {profileName : Option String}

/-- The order of precedence holds for a field exactly when the sections agree on it as far as
its merge needs them to. -/
theorem precedence_iff_sectionsAgree (applied : config.applyProxyDefaults home args profileName = .ok after)
    (field : ProxyField α) :
    field.Precedence home config args profileName after ↔ field.SectionsAgree home config args profileName := by
  obtain ⟨lower, upper, rfl, values⟩ := AppConfig.applyProxyDefaults_ok applied
  obtain ⟨low, high⟩ := values α field
  unfold Precedence SectionsAgree
  rw [low, high]
  cases rule : field.rule with
  | fillIn =>
    have plain : field.rule ≠ .fillInLast := by rw [rule]; decide
    rw [field.read_settle plain, field.lastResort_eq plain]
    exact (field.read_load_fillsIn .defaults lower rule).layered_iff (field.read_loadSections_fillsIn rule upper)
  | overwrite =>
    have plain : field.rule ≠ .fillInLast := by rw [rule]; decide
    rw [field.read_settle plain, field.lastResort_eq plain, field.read_loadSections_overwrites rule]
    exact overwritten_layered_iff
  | fillInLast =>
    cases field with
    | controlListen =>
      cases upper with
      | none =>
        have alone := @or_layered_iff _ args.controlListen none lower.endpoint.controlListen config.daemon.controlListen
        rw [Option.or_none] at alone
        exact alone
      | some upper => exact or_layered_iff
    | _ => cases rule
  | bySource =>
    cases field with
    | sshSessionPoolSize =>
      cases upper with
      | none =>
        have alone := args.sshSessionPool.layered_iff none lower.sshSessionPoolSize
        rw [SshSessionPool.load_none_size] at alone
        exact alone
      | some upper => exact args.sshSessionPool.layered_iff upper.sshSessionPoolSize lower.sshSessionPoolSize
    | _ => cases rule

def officeConfig (defaults profile : Option Bool) : AppConfig where
  defaults := { insecureIgnoreHostKey := defaults }
  profiles := [("office", { insecureIgnoreHostKey := profile })]

theorem profile_ignores_host_key :
    ∃ after, (officeConfig (some false) (some true)).applyProxyDefaults none (defaultProxyArgs "office") none = .ok after ∧
      after.insecureIgnoreHostKey = true ∧
      insecureIgnoreHostKey.Precedence none (officeConfig (some false) (some true)) (defaultProxyArgs "office") none after := by
  refine ⟨_, rfl, rfl, (precedence_iff_sectionsAgree rfl _).mpr ?_⟩
  intro _ low high below _
  left
  exact (Option.some.inj below).symm

/-- The profile says to check the host key, and it is not checked. -/
theorem profile_check_lost :
    ∃ after, (officeConfig (some true) (some false)).applyProxyDefaults none (defaultProxyArgs "office") none = .ok after ∧
      after.insecureIgnoreHostKey = true ∧
      ¬ insecureIgnoreHostKey.Precedence none (officeConfig (some true) (some false)) (defaultProxyArgs "office") none after := by
  refine ⟨_, rfl, rfl, fun precedence => ?_⟩
  have checked : true = false := precedence.2 rfl
  cases checked

end ProxyField
end SshProxy
