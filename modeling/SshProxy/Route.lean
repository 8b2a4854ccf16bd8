import SshProxy.ProxyConfig

/-! How a route comes by its transport: `transport_selection_policy` picks one from the command
line, the profile, the section `defaults` and the endpoints that are known, and after the probes
of the preflight `decide_route_fallback` may put another in its place. -/

namespace SshProxy.Route

/-- `parse_transport_mode` of the route, which knows other spellings than the one of the config. -/
def parseTransportMode (value : String) : Except String TransportMode :=
  match value.toLower with
  | "auto" => .ok .auto
  | "quic-native" | "quic_native" | "native-quic" | "native_quic" => .ok .quicNative
  | "ssh-native" | "ssh_native" | "native-ssh" | "native_ssh" => .ok .sshNative
  | "quic" => .ok .quic
  | "tls-tcp" | "tls_tcp" | "tls" => .ok .tlsTcp
  | "plain-tcp" | "plain_tcp" | "tcp-plain" | "direct-tcp" | "direct_tcp" => .ok .plainTcp
  | "exec" => .ok .exec
  | "tcp" => .ok .tcp
  | other => .error s!"invalid remote transport value {other.quote}"

def remoteTransportName : TransportMode → String
  | .auto => "auto"
  | .sshNative => "ssh-native"
  | .quicNative => "quic-native"
  | .quic => "quic"
  | .tlsTcp => "tls-tcp"
  | .plainTcp => "plain-tcp"
  | .exec => "ssh-exec"
  | .tcp => "ssh-direct-tcpip"

structure TransportSelection where
  transport : TransportMode
  source : String
  reason : String
  deriving DecidableEq

structure TransportSelectionPolicyInput where
  requestedTransport : TransportMode := .auto
  profileRemoteTransport : Option String := none
  defaultsRemoteTransport : Option String := none
  remoteQuic : Option SocketAddr := none
  remoteTls : Option SocketAddr := none
  allowPlainTcp : Bool := false
  cliAllowPlainTcp : Bool := false
  profileAllowPlainTcp : Option Bool := none
  defaultsAllowPlainTcp : Option Bool := none
  tcpTargetPresent : Bool := false
  remoteSideListens : Bool := false
  persistentPeerReady : Bool := false

def plainTcpAutoSource (input : TransportSelectionPolicyInput) : Option String :=
  if input.cliAllowPlainTcp then some "cli"
  else if input.profileAllowPlainTcp = some true then some "profile"
  else if input.defaultsAllowPlainTcp = some true then some "benchmark-tuned default"
  else none

def plainTcpSelectionReason (source : String) : String :=
  s!"plain TCP peer transport is enabled by {source}; use only for lab or private trusted links"

/-- What the policy comes to where neither the command line nor the profile, an endpoint or
`defaults` settles it. -/
def policyWithoutNames (input : TransportSelectionPolicyInput) : TransportSelection :=
  if input.allowPlainTcp then
    let source := (plainTcpAutoSource input).getD "cli"
    { transport := .plainTcp, source, reason := plainTcpSelectionReason source }
  else if input.persistentPeerReady then
    { transport := .tcp
      source := "peer-default"
      reason := "persistent remote peer is recorded; using SPX over Rust SSH direct-tcpip to the peer transport" }
  else
    let workload :=
      if input.tcpTargetPresent then "fixed --tcp-target route"
      else if input.remoteSideListens then "remote-owned proxy route"
      else "SOCKS/HTTP proxy route"
    { transport := .sshNative
      source := "topology"
      reason := s!"no reachable direct peer transport is configured for this {workload}; " ++
        "using ssh-native direct-tcpip as the SSH-only simple egress default" }

def policyFromDefaults (input : TransportSelectionPolicyInput) : Except String TransportSelection :=
  match input.defaultsRemoteTransport with
  | none => .ok (policyWithoutNames input)
  | some value => do
    match ← parseTransportMode value with
    | .auto => return policyWithoutNames input
    | .plainTcp =>
      if input.allowPlainTcp then
        let source := (plainTcpAutoSource input).getD "benchmark-tuned default"
        return { transport := .plainTcp, source, reason := plainTcpSelectionReason source }
      else return policyWithoutNames input
    | transport =>
      return { transport, source := "defaults", reason := "selected by [defaults].remote_transport" }

/-- The part of the policy from the endpoints on. `display` shows an address. -/
def policyFromTopology (display : SocketAddr → String) (input : TransportSelectionPolicyInput) :
    Except String TransportSelection :=
  match input.remoteTls, input.remoteQuic with
  | some addr, _ =>
    .ok { transport := .tlsTcp
          source := "topology"
          reason := s!"direct TLS/TCP peer endpoint {display addr} is configured; TLS is the production direct default" }
  | none, some addr =>
    .ok { transport := .quic
          source := "topology"
          reason := s!"direct QUIC peer endpoint {display addr} is configured; " ++
            "framed QUIC is selected while quic-native remains opt-in" }
  | none, none => policyFromDefaults input

def transportSelectionPolicy (display : SocketAddr → String) (input : TransportSelectionPolicyInput) :
    Except String TransportSelection :=
  if input.requestedTransport ≠ .auto then
    .ok { transport := input.requestedTransport
          source := "cli"
          reason := s!"selected by --remote-transport {remoteTransportName input.requestedTransport}" }
  else
    match input.profileRemoteTransport with
    | none => policyFromTopology display input
    | some value => do
      match ← parseTransportMode value with
      | .auto => policyFromTopology display input
      | transport => return { transport, source := "profile", reason := "selected by target profile remote_transport" }

structure RouteProbeResult where
  protocol : String
  endpoint : Option String
  reachable : Option Bool
  status : String
  message : String
  deriving DecidableEq

def isDirectProbeProtocol (protocol : String) : Bool := protocol ∈ ["quic", "tls-tcp", "plain-tcp"]

namespace RouteProbeResult

def directFailed (result : RouteProbeResult) : Bool := isDirectProbeProtocol result.protocol ∧ result.reachable = some false

def directReachable (result : RouteProbeResult) : Bool :=
  isDirectProbeProtocol result.protocol ∧ result.reachable = some true

end RouteProbeResult

structure RoutePreflightInput where
  timeoutMs : UInt64
  results : List RouteProbeResult

structure RoutePreflightDecision where
  timeoutMs : UInt64
  results : List RouteProbeResult
  candidateFailures : List RouteProbeResult
  recommendedFallback : Option String
  selectedReason : String
  repairHint : String

def candidateFailures (results : List RouteProbeResult) : List RouteProbeResult :=
  results.filter RouteProbeResult.directFailed

def decideRoutePreflight (input : RoutePreflightInput) : RoutePreflightDecision :=
  let failures := candidateFailures input.results
  let directSuccesses := input.results.countP RouteProbeResult.directReachable
  let recommendedFallback := if 0 < failures.length ∧ directSuccesses = 0 then some "ssh-native" else none
  { timeoutMs := input.timeoutMs
    results := input.results
    candidateFailures := failures
    recommendedFallback
    selectedReason :=
      if recommendedFallback.isSome then
        "all probed direct peer transports failed; SSH fallback is recommended before starting the route"
      else if 0 < directSuccesses then "at least one direct peer transport was reachable before route start"
      else "no failing direct peer transport was observed before route start"
    repairHint :=
      if recommendedFallback.isSome then "use ssh-native fallback, or publish a peer endpoint reachable from this client"
      else if failures.isEmpty then "none"
      else "publish a reachable peer endpoint, adjust firewall/NAT, or switch to an SSH fallback transport" }

structure RouteFallbackInput where
  recommendedFallback : Option String
  currentTransport : TransportMode
  selectionSource : Option String

structure RouteFallbackDecision where
  selectedTransport : Option TransportMode := none
  selectionSource : Option String := none
  selectionReason : Option String := none
  nextAction : Option String := none
  deriving DecidableEq

def decideRouteFallback (input : RouteFallbackInput) : RouteFallbackDecision :=
  match input.recommendedFallback with
  | none => {}
  | some recommended =>
    let mayOverride := input.currentTransport = .auto ∨
      input.selectionSource ∈ [some "topology", some "benchmark-tuned default"]
    if ¬ mayOverride then {}
    else if recommended ≠ "ssh-native" ∧ recommended ≠ "ssh-direct-tcpip" then {}
    else
      { selectedTransport := some .sshNative
        selectionSource := some "route-preflight"
        selectionReason :=
          some "direct private transport preflight failed; selected SSH native direct-tcpip fallback"
        nextAction := some "using ssh-native fallback; no user action required" }

end SshProxy.Route
