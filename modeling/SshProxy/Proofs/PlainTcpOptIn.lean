import SshProxy.RemoteHelper
import SshProxy.Route

/-! Plain TCP is opt-in: for the policy that selects the transport of a route, for the fallback
that may replace it, and for the loop that tries one transport after the other. -/

namespace SshProxy
open Library

namespace Route
variable {display : SocketAddr → String} {input : TransportSelectionPolicyInput} {selection : TransportSelection}

def NamesPlainTcp (input : TransportSelectionPolicyInput) : Prop :=
  input.requestedTransport = .plainTcp ∨
    (∃ value, input.profileRemoteTransport = some value ∧ parseTransportMode value = .ok .plainTcp) ∨
    input.allowPlainTcp = true

/-- Neither the command line nor the profile names a transport. -/
def Unnamed (input : TransportSelectionPolicyInput) : Prop :=
  input.requestedTransport = .auto ∧
    ∀ value, input.profileRemoteTransport = some value → parseTransportMode value = .ok .auto

def DefaultsName (input : TransportSelectionPolicyInput) (mode : TransportMode) : Prop :=
  ∃ value, input.defaultsRemoteTransport = some value ∧ parseTransportMode value = .ok mode

/-- Plain TCP that only `[defaults]` has enabled. -/
def PlainByDefaults (input : TransportSelectionPolicyInput) : Prop :=
  input.cliAllowPlainTcp = false ∧ input.profileAllowPlainTcp ≠ some true ∧
    (input.defaultsAllowPlainTcp = some true ∨ DefaultsName input .plainTcp)

/-- The transport follows from an endpoint or from nothing at all, or is plain TCP by `[defaults]`. -/
def Overridable (input : TransportSelectionPolicyInput) : Prop :=
  Unnamed input ∧ (input.remoteTls.isSome = true ∨ input.remoteQuic.isSome = true ∨
    (∀ mode, DefaultsName input mode → mode = .auto ∨ mode = .plainTcp) ∧
      if input.allowPlainTcp then PlainByDefaults input else input.persistentPeerReady = false)

/-- A direct transport was probed and failed, and none was reached. -/
def DirectFails (preflight : RoutePreflightInput) : Prop :=
  (∃ result ∈ preflight.results, result.protocol ∈ ["quic", "tls-tcp", "plain-tcp"] ∧ result.reachable = some false) ∧
    ∀ result ∈ preflight.results, result.protocol ∈ ["quic", "tls-tcp", "plain-tcp"] → result.reachable ≠ some true

def mayReplace (source : String) : Prop := source = "topology" ∨ source = "benchmark-tuned default"

theorem withoutNames_source (unnamed : input.allowPlainTcp = true → ¬ DefaultsName input .plainTcp) :
    mayReplace (policyWithoutNames input).source ↔
      if input.allowPlainTcp then PlainByDefaults input else input.persistentPeerReady = false := by
  unfold policyWithoutNames mayReplace
  cases allowed : input.allowPlainTcp with
  | false =>
    cases ready : input.persistentPeerReady with
    | false | true => simp
  | true =>
    have unnamed := unnamed allowed
    simp only [if_true, plainTcpAutoSource, PlainByDefaults, unnamed, or_false]
    split_ifs with cli profile defaults <;> simp_all

theorem fromDefaults_source (selected : policyFromDefaults input = .ok selection) : mayReplace selection.source ↔
    (∀ mode, DefaultsName input mode → mode = .auto ∨ mode = .plainTcp) ∧
      if input.allowPlainTcp then PlainByDefaults input else input.persistentPeerReady = false := by
  unfold policyFromDefaults at selected
  split at selected
  next none =>
    have names (mode : TransportMode) : ¬ DefaultsName input mode := by
      rintro ⟨value, given, _⟩
      rw [none] at given
      cases given
    cases selected
    rw [withoutNames_source fun _ => names _]
    simp [names]
  next value given =>
    obtain ⟨mode, parsed, selected⟩ := attempt_bind_eq_ok.mp selected
    have names (other : TransportMode) : DefaultsName input other ↔ other = mode := by
      constructor
      · rintro ⟨again, same, read⟩
        rw [given] at same
        cases same
        rw [parsed] at read
        exact (Except.ok.inj read).symm
      · rintro rfl
        exact ⟨value, given, parsed⟩
    simp only [names, forall_eq]
    cases mode with
    | auto =>
      cases selected
      rw [withoutNames_source fun _ never => nomatch (names _).mp never]
      simp
    | plainTcp =>
      dsimp only at selected
      split at selected
      next allowed =>
        cases selected
        have named : DefaultsName input .plainTcp := (names _).mpr rfl
        simp only [allowed, if_true, mayReplace, plainTcpAutoSource, PlainByDefaults, named, or_true, and_true, true_and]
        split_ifs with cli profile defaults <;> simp_all
      next refused =>
        cases selected
        rw [withoutNames_source fun allowed => absurd allowed refused]
        simp
    | _ =>
      cases selected
      simp [mayReplace]

theorem policy_source (selected : transportSelectionPolicy display input = .ok selection) :
    mayReplace selection.source ↔ Overridable input := by
  have topology (unnamed : Unnamed input) (selected : policyFromTopology display input = .ok selection) :
      mayReplace selection.source ↔ Overridable input := by
    unfold policyFromTopology at selected
    unfold Overridable
    split at selected
    next tls =>
      cases selected
      simp [mayReplace, tls, unnamed]
    next quic =>
      cases selected
      simp [mayReplace, quic, unnamed]
    next noTls noQuic =>
      rw [fromDefaults_source selected, noTls, noQuic]
      simp [unnamed]
  unfold transportSelectionPolicy at selected
  split at selected
  next requested =>
    cases selected
    refine iff_of_false (by simp [mayReplace]) fun overridable => requested overridable.1.1
  next auto =>
    have auto := not_not.mp auto
    split at selected
    next none => exact topology ⟨auto, fun value given => by rw [none] at given; cases given⟩ selected
    next value given =>
      obtain ⟨mode, parsed, selected⟩ := attempt_bind_eq_ok.mp selected
      have unnamed (left : mode = .auto) : Unnamed input := by
        refine ⟨auto, fun other same => ?_⟩
        rw [given] at same
        cases same
        rw [parsed, left]
      have named (mode_ne : mode ≠ .auto) : ¬ Overridable input := by
        intro overridable
        have read := overridable.1.2 value given
        rw [parsed] at read
        exact mode_ne (Except.ok.inj read)
      cases mode with
      | auto => exact topology (unnamed rfl) selected
      | _ =>
        cases selected
        exact iff_of_false (by simp [mayReplace]) (named nofun)

structure Sound (input : TransportSelectionPolicyInput) (selection : TransportSelection) : Prop where
  named : selection.transport = .plainTcp → NamesPlainTcp input
  concrete : selection.transport ≠ .auto

theorem policyWithoutNames_sound (input : TransportSelectionPolicyInput) : Sound input (policyWithoutNames input) := by
  unfold policyWithoutNames
  split
  next allowed => exact ⟨fun _ => .inr (.inr allowed), nofun⟩
  next =>
    split
    · exact ⟨nofun, nofun⟩
    · exact ⟨nofun, nofun⟩

theorem policyFromDefaults_sound (selected : policyFromDefaults input = .ok selection) : Sound input selection := by
  unfold policyFromDefaults at selected
  split at selected
  next =>
    cases selected
    exact policyWithoutNames_sound input
  next value _ =>
    obtain ⟨mode, _, selected⟩ := attempt_bind_eq_ok.mp selected
    cases mode with
    | auto =>
      cases selected
      exact policyWithoutNames_sound input
    | plainTcp =>
      dsimp only at selected
      split at selected
      next allowed =>
        cases selected
        exact ⟨fun _ => .inr (.inr allowed), nofun⟩
      next =>
        cases selected
        exact policyWithoutNames_sound input
    | _ =>
      cases selected
      exact ⟨nofun, nofun⟩

theorem policyFromTopology_sound (selected : policyFromTopology display input = .ok selection) :
    Sound input selection := by
  unfold policyFromTopology at selected
  split at selected
  · cases selected
    exact ⟨nofun, nofun⟩
  · cases selected
    exact ⟨nofun, nofun⟩
  · exact policyFromDefaults_sound selected

theorem transportSelectionPolicy_sound (selected : transportSelectionPolicy display input = .ok selection) :
    Sound input selection := by
  unfold transportSelectionPolicy at selected
  split at selected
  next requested =>
    cases selected
    exact ⟨.inl, requested⟩
  next =>
    split at selected
    next => exact policyFromTopology_sound selected
    next value given =>
      obtain ⟨mode, parsed, selected⟩ := attempt_bind_eq_ok.mp selected
      cases mode with
      | auto => exact policyFromTopology_sound selected
      | plainTcp =>
        cases selected
        exact ⟨fun _ => .inr (.inl ⟨value, given, parsed⟩), nofun⟩
      | _ =>
        cases selected
        exact ⟨nofun, nofun⟩

def fallbackAfterPreflight (preflight : RoutePreflightInput) (currentTransport : TransportMode)
    (selectionSource : Option String) : RouteFallbackDecision :=
  decideRouteFallback
    { recommendedFallback := (decideRoutePreflight preflight).recommendedFallback, currentTransport, selectionSource }

theorem recommended_iff (preflight : RoutePreflightInput) (fallback : String) :
    (decideRoutePreflight preflight).recommendedFallback = some fallback ↔
      fallback = "ssh-native" ∧ DirectFails preflight := by
  have failed : 0 < (candidateFailures preflight.results).length ↔ ∃ result ∈ preflight.results,
      result.protocol ∈ ["quic", "tls-tcp", "plain-tcp"] ∧ result.reachable = some false := by
    simp [candidateFailures, List.length_pos_iff_exists_mem, RouteProbeResult.directFailed, isDirectProbeProtocol]
  have unreached : preflight.results.countP RouteProbeResult.directReachable = 0 ↔ ∀ result ∈ preflight.results,
      result.protocol ∈ ["quic", "tls-tcp", "plain-tcp"] → result.reachable ≠ some true := by
    simp [List.countP_eq_zero, RouteProbeResult.directReachable, isDirectProbeProtocol]
  simp only [decideRoutePreflight, failed, unreached]
  split
  next fails =>
    constructor
    · rintro ⟨⟩
      exact ⟨rfl, fails⟩
    · rintro ⟨rfl, _⟩
      rfl
  next holds => exact iff_of_false nofun fun recommended => holds recommended.2

/-- Only ssh-native takes the place of a transport, and only where the direct ones failed. -/
theorem fallback_iff (preflight : RoutePreflightInput) (transport : TransportMode) (source : Option String)
    (mode : TransportMode) : (fallbackAfterPreflight preflight transport source).selectedTransport = some mode ↔
      mode = .sshNative ∧ DirectFails preflight ∧ (transport = .auto ∨ ∃ name ∈ source, mayReplace name) := by
  have listed : source ∈ [some "topology", some "benchmark-tuned default"] ↔ ∃ name ∈ source, mayReplace name := by
    cases source <;> simp [mayReplace]
  unfold fallbackAfterPreflight decideRouteFallback
  cases recommended : (decideRoutePreflight preflight).recommendedFallback with
  | none =>
    refine iff_of_false nofun fun replaced => ?_
    have some := (recommended_iff preflight "ssh-native").mpr ⟨rfl, replaced.2.1⟩
    rw [recommended] at some
    cases some
  | some fallback =>
    obtain ⟨rfl, fails⟩ := (recommended_iff preflight fallback).mp recommended
    rw [← listed]
    dsimp only
    split
    next kept => exact iff_of_false nofun fun replaced => kept replaced.2.2
    next replaced =>
      have replaced := not_not.mp replaced
      constructor
      · intro same
        cases same
        exact ⟨rfl, fails, replaced⟩
      · rintro ⟨rfl, _⟩
        rfl

end Route

namespace RemoteHelperOpenIntent
variable (intent : RemoteHelperOpenIntent)

/-- The candidates that are configured, in their order. -/
def plan : List PeerProtocol :=
  match intent.transport with
  | .auto =>
    (if intent.remoteQuic.isSome then [.quic] else []) ++ (if intent.remoteTls.isSome then [.tlsTcp] else []) ++
      (if intent.allowPlainTcp then [.tcp] else []) ++ [.sshDirect]
  | .sshNative | .quicNative => []
  | .quic => if intent.remoteQuic.isSome then [.quic] else []
  | .tlsTcp => if intent.remoteTls.isSome then [.tlsTcp] else []
  | .plainTcp => if intent.allowPlainTcp then [.tcp] else []
  | .exec => [.sshExec]
  | .tcp => [.sshDirect]

def configured : PeerProtocol → Bool
  | .sshNative | .quicNative => false
  | .quic => intent.remoteQuic.isSome
  | .tlsTcp => intent.remoteTls.isSome
  | .tcp => intent.allowPlainTcp
  | .sshDirect | .sshExec => true

theorem filter_configured : intent.candidateProtocols.filter intent.configured = intent.plan := by
  unfold candidateProtocols plan
  cases intent.transport with
  | auto =>
    have known : ∃ addr, intent.networkHints.peerAddr = some addr := by
      unfold networkHints
      cases intent.remoteQuic <;> cases intent.remoteTls <;> exact ⟨_, rfl⟩
    obtain ⟨addr, known⟩ := known
    have hints : intent.networkHints.preferLowLatency = true ∧ intent.networkHints.sshAvailable = true ∧
        intent.networkHints.allowPlainTcp = intent.allowPlainTcp := ⟨rfl, rfl, rfl⟩
    simp only [implementedAutoCandidates, autoCandidates, known, hints]
    cases quic : intent.remoteQuic.isSome <;> cases tls : intent.remoteTls.isSome <;>
      cases plain : intent.allowPlainTcp <;> simp [configured, quic, tls, plain]
  | sshNative | quicNative | exec | tcp => rfl
  | quic | tlsTcp | plainTcp =>
    simp only [List.filter_cons, configured, List.filter_nil]
    rfl

/-- The connection that a candidate stands for. -/
def dialOf : PeerProtocol → Option Dial
  | .sshNative | .quicNative => none
  | .quic => intent.remoteQuic.map .quic
  | .tlsTcp => intent.remoteTls.map .tls
  | .tcp => some (.plainTcp intent.remoteTcp)
  | .sshDirect => some (.sshDirect intent.remoteTcp)
  | .sshExec => some .sshExec

/-- The options of a candidate go together, and its files can be read. -/
def Prepared (net : HelperNet) : PeerProtocol → Prop
  | .quic => (∃ ca ∈ intent.remoteCa, net.loadPem ca = .ok ()) ∧ intent.remoteClientCert = none ∧
    intent.remoteClientKey = none
  | .tlsTcp => (∃ ca ∈ intent.remoteCa, net.loadPem ca = .ok ()) ∧
    (intent.remoteClientCert.isSome = intent.remoteClientKey.isSome) ∧
    (∀ cert ∈ intent.remoteClientCert, net.loadPem cert = .ok ()) ∧ ∀ key ∈ intent.remoteClientKey, net.loadPem key = .ok ()
  | _ => True

/-- What has to go well on the connection of a candidate. -/
def Greeted (net : HelperNet) (before : List Dial) (dial : Dial) : PeerProtocol → Prop
  | .tcp | .sshDirect => (∀ token ∈ intent.remoteToken, token.utf8ByteSize ≤ 65535) ∧ net.handshake before dial = .ok ()
  | .sshExec => True
  | _ => net.handshake before dial = .ok ()

end RemoteHelperOpenIntent

/-- What an attempt dials, and when it succeeds. -/
structure Attempt.Fits (net : HelperNet) (intent : RemoteHelperOpenIntent) (before : List Dial) (protocol : PeerProtocol)
    (attempt : Attempt) : Prop where
  dialled : ∀ dial, attempt.dialled = some dial ↔ intent.dialOf protocol = some dial ∧ intent.Prepared net protocol
  succeeds : attempt.outcome = .ok () ↔ ∃ dial, attempt.dialled = some dial ∧ net.connect before dial = .ok () ∧
    intent.Greeted net before dial protocol

section
variable {net : HelperNet} {intent : RemoteHelperOpenIntent} {before : List Dial} {protocol : PeerProtocol}

theorem seq_eq_ok {first second : Except String Unit} :
    (do first; second : Except String Unit) = .ok () ↔ first = .ok () ∧ second = .ok () := by
  cases first with
  | error => exact iff_of_false nofun fun both => nomatch both.1
  | ok => exact (and_iff_right rfl).symm

theorem Attempt.Fits.refused {error : String}
    (unprepared : ¬ ((∃ dial, intent.dialOf protocol = some dial) ∧ intent.Prepared net protocol)) :
    Attempt.Fits net intent before protocol (.refused error) where
  dialled dial := iff_of_false nofun fun prepared => unprepared ⟨⟨dial, prepared.1⟩, prepared.2⟩
  succeeds := iff_of_false nofun fun ⟨_, never, _⟩ => nomatch never

theorem Attempt.Fits.dial {dial : Dial} {onStream : Except String Unit} (known : intent.dialOf protocol = some dial)
    (prepared : intent.Prepared net protocol) (greeted : onStream = .ok () ↔ intent.Greeted net before dial protocol) :
    Attempt.Fits net intent before protocol (.dial net before dial onStream) where
  dialled other := by simp [Attempt.dial, known, prepared]
  succeeds := by
    simp only [Attempt.dial, Option.some.injEq, exists_eq_left', ← greeted]
    exact seq_eq_ok

theorem loadClientAuth_iff : loadClientAuth net intent = .ok () ↔
    intent.remoteClientCert.isSome = intent.remoteClientKey.isSome ∧
      (∀ cert ∈ intent.remoteClientCert, net.loadPem cert = .ok ()) ∧
      ∀ key ∈ intent.remoteClientKey, net.loadPem key = .ok () := by
  unfold loadClientAuth
  split
  next cert key =>
    rw [seq_eq_ok, cert, key]
    simp
  next => simp [*]
  next unpaired none =>
    refine iff_of_false nofun fun fine => ?_
    cases cert : intent.remoteClientCert <;> cases key : intent.remoteClientKey <;> simp_all

theorem openQuicTransport_fits : (openQuicTransport net intent before).Fits net intent before .quic := by
  unfold openQuicTransport
  split
  next none => exact .refused (by simp [RemoteHelperOpenIntent.dialOf, none])
  next noCa => exact .refused (by simp [RemoteHelperOpenIntent.Prepared, noCa])
  next addr ca known authority =>
    split
    next client => exact .refused (by
      simp only [RemoteHelperOpenIntent.Prepared, not_and]
      intro _ _ cert key
      simp [cert, key] at client)
    next plain =>
      simp only [not_or, Option.not_isSome_iff_eq_none] at plain
      split
      next error failed => exact .refused (by simp [RemoteHelperOpenIntent.Prepared, authority, failed])
      next loaded =>
        refine .dial (by simp [RemoteHelperOpenIntent.dialOf, known]) ?_ Iff.rfl
        exact ⟨⟨ca, authority, loaded⟩, plain⟩

theorem openTlsTransport_fits : (openTlsTransport net intent before).Fits net intent before .tlsTcp := by
  unfold openTlsTransport
  split
  next none => exact .refused (by simp [RemoteHelperOpenIntent.dialOf, none])
  next noCa => exact .refused (by simp [RemoteHelperOpenIntent.Prepared, noCa])
  next addr ca known authority =>
    have prepared : (do net.loadPem ca; loadClientAuth net intent : Except String Unit) = .ok () ↔
        intent.Prepared net .tlsTcp := by
      rw [seq_eq_ok, loadClientAuth_iff]
      simp [RemoteHelperOpenIntent.Prepared, authority]
    split
    next error failed =>
      exact .refused fun ready => by
        rw [prepared.mpr ready.2] at failed
        cases failed
    next loaded => exact .dial (by simp [RemoteHelperOpenIntent.dialOf, known]) (prepared.mp loaded) Iff.rfl

theorem sendTransportToken_iff (token : Option String) :
    sendTransportToken token = .ok () ↔ ∀ text ∈ token, text.utf8ByteSize ≤ 65535 := by
  unfold sendTransportToken
  cases token with
  | none => simp
  | some text =>
    dsimp only
    split
    next long => simpa using long
    next short => simpa using short

theorem openCandidate_fits {attempt : Attempt} (tried : openCandidate net intent before protocol = some attempt) :
    attempt.Fits net intent before protocol := by
  have token {dial : Dial} : (do sendTransportToken intent.remoteToken; net.handshake before dial : Except String Unit) =
      .ok () ↔ (∀ text ∈ intent.remoteToken, text.utf8ByteSize ≤ 65535) ∧ net.handshake before dial = .ok () := by
    rw [seq_eq_ok, sendTransportToken_iff]
  cases protocol with
  | sshNative | quicNative => cases tried
  | sshDirect =>
    cases tried
    exact .dial rfl trivial token
  | sshExec =>
    cases tried
    exact .dial rfl trivial (iff_of_true rfl trivial)
  | quic =>
    simp only [openCandidate] at tried
    split at tried
    · cases tried
    · cases tried
      exact openQuicTransport_fits
  | tlsTcp =>
    simp only [openCandidate] at tried
    split at tried
    · cases tried
    · cases tried
      exact openTlsTransport_fits
  | tcp =>
    simp only [openCandidate] at tried
    split at tried
    · cases tried
    · cases tried
      exact .dial rfl trivial token

theorem isSome_openCandidate : (openCandidate net intent before protocol).isSome = intent.configured protocol := by
  cases protocol with
  | sshNative | quicNative | sshDirect | sshExec => rfl
  | quic => cases quic : intent.remoteQuic <;> simp [openCandidate, RemoteHelperOpenIntent.configured, quic]
  | tlsTcp => cases tls : intent.remoteTls <;> simp [openCandidate, RemoteHelperOpenIntent.configured, tls]
  | tcp => cases allowed : intent.allowPlainTcp <;> simp [openCandidate, RemoteHelperOpenIntent.configured, allowed]

end

def FailedWith (tried : PeerProtocol × Attempt) (failure : TransportCandidateFailure) : Prop :=
  failure.protocol = tried.1.display ∧ tried.2.outcome = .error failure.error

def AllFit (net : HelperNet) (intent : RemoteHelperOpenIntent) (tried : OpenLog) : Prop :=
  ∀ front protocol attempt rest, tried = front ++ (protocol, attempt) :: rest →
    attempt.Fits net intent (OpenLog.dials front) protocol

/-- The candidates are tried in order up to the first success, and failures are reported for all. -/
structure TriesInOrder (net : HelperNet) (intent : RemoteHelperOpenIntent) (candidates : List PeerProtocol) (tried : OpenLog)
    (result : Except (List TransportCandidateFailure) PeerProtocol) : Prop where
  order : tried.map Prod.fst <+: candidates
  attempts : AllFit net intent tried
  first : ∀ opened, result = .ok opened → ∃ front attempt, tried = front ++ [(opened, attempt)] ∧ attempt.outcome = .ok () ∧
    ∀ entry ∈ front, ∃ error, entry.2.outcome = .error error
  reported : ∀ failures, result = .error failures →
    tried.map Prod.fst = candidates ∧ List.Forall₂ FailedWith tried failures

section
variable {net : HelperNet} {intent : RemoteHelperOpenIntent}

theorem AllFit.concat {tried : OpenLog} (all : AllFit net intent tried) {protocol : PeerProtocol} {attempt : Attempt}
    (fits : attempt.Fits net intent tried.dials protocol) : AllFit net intent (tried ++ [(protocol, attempt)]) := by
  intro front other made rest split
  rcases List.eq_nil_or_concat rest with rfl | ⟨rest, last, rfl⟩
  · obtain ⟨rfl, same⟩ := List.append_inj' split rfl
    cases same
    exact fits
  · rw [List.concat_eq_append, ← List.cons_append, ← List.append_assoc] at split
    exact all front other made rest (List.append_inj' split rfl).1

theorem FailedWith.all {tried : OpenLog} {failures : List TransportCandidateFailure}
    (failed : List.Forall₂ FailedWith tried failures) : ∀ entry ∈ tried, ∃ error, entry.2.outcome = .error error := by
  induction failed with
  | nil => exact nofun
  | cons here _ ih => exact List.forall_mem_cons.mpr ⟨⟨_, here.2⟩, ih⟩

theorem openCandidates_tries (candidates : List PeerProtocol) (log : OpenLog) (failures : List TransportCandidateFailure)
    (failed : List.Forall₂ FailedWith log failures) (all : AllFit net intent log) :
    TriesInOrder net intent (log.map Prod.fst ++ candidates.filter intent.configured)
      (openCandidates net intent candidates log failures).2 (openCandidates net intent candidates log failures).1 := by
  induction candidates generalizing log failures with
  | nil =>
    rw [List.filter_nil, List.append_nil]
    refine ⟨List.prefix_rfl, all, nofun, ?_⟩
    rintro _ ⟨⟩
    exact ⟨rfl, failed⟩
  | cons protocol rest ih =>
    have configured : (openCandidate net intent log.dials protocol).isSome = _ := isSome_openCandidate
    unfold openCandidates
    cases candidate : openCandidate net intent log.dials protocol with
    | none =>
      rw [candidate] at configured
      rw [List.filter_cons_of_neg (by rw [← configured]; exact Bool.false_ne_true)]
      exact ih log failures failed all
    | some attempt =>
      rw [candidate] at configured
      rw [List.filter_cons_of_pos configured.symm]
      have all' := all.concat (openCandidate_fits candidate)
      dsimp only
      cases outcome : attempt.outcome with
      | ok value =>
        refine ⟨?_, all', ?_, nofun⟩
        · simp
        · rintro _ ⟨⟩
          exact ⟨log, attempt, rfl, outcome, FailedWith.all failed⟩
      | error error =>
        have failed' : List.Forall₂ FailedWith (log ++ [(protocol, attempt)]) (failures ++ [⟨protocol.display, error⟩]) :=
          List.rel_append failed (.cons ⟨rfl, outcome⟩ .nil)
        have rest := ih _ _ failed' all'
        simpa using rest

theorem openAutoTransport_tries (net : HelperNet) (intent : RemoteHelperOpenIntent) :
    TriesInOrder net intent intent.plan (openAutoTransport net intent).2 (openAutoTransport net intent).1 := by
  have tries : TriesInOrder net intent _ _ _ := openCandidates_tries intent.candidateProtocols [] [] .nil
    fun front _ _ _ split => by cases (List.append_eq_nil_iff.mp split.symm).2
  rwa [List.map_nil, List.nil_append, intent.filter_configured] at tries

end

/-- In the clear only where that is allowed. -/
theorem TriesInOrder.plain {net : HelperNet} {intent : RemoteHelperOpenIntent} {tried : OpenLog}
    {result : Except (List TransportCandidateFailure) PeerProtocol} (tries : TriesInOrder net intent intent.plan tried result)
    {addr : SocketAddr} (dialled : .plainTcp addr ∈ tried.dials) : intent.allowPlainTcp = true := by
  obtain ⟨⟨protocol, attempt⟩, present, same⟩ := List.mem_filterMap.mp dialled
  obtain ⟨front, rest, split⟩ := List.append_of_mem present
  obtain ⟨known, _⟩ := ((tries.attempts front protocol attempt rest split).dialled _).mp same
  have planned : protocol ∈ intent.plan := tries.order.subset (List.mem_map.mpr ⟨_, present, rfl⟩)
  rw [← intent.filter_configured] at planned
  have configured := (List.mem_filter.mp planned).2
  cases protocol with
  | tcp => exact configured
  | quic | tlsTcp => simp [RemoteHelperOpenIntent.dialOf] at known
  | sshNative | quicNative | sshDirect | sshExec => cases known

/-- Plain TCP is selected only where it is named or allowed, it never takes the place of another transport, and it is
dialled only where it is allowed. A transport is replaced only if it is not the user's own, or is plain TCP by `[defaults]`. -/
theorem plain_tcp_opt_in (display : SocketAddr → String) (input : Route.TransportSelectionPolicyInput)
    (preflight : Route.RoutePreflightInput) (net : HelperNet) (intent : RemoteHelperOpenIntent) :
    (∀ selection, Route.transportSelectionPolicy display input = .ok selection →
      (selection.transport = .plainTcp → Route.NamesPlainTcp input) ∧
      ∀ mode, (Route.fallbackAfterPreflight preflight selection.transport (some selection.source)).selectedTransport =
        some mode ↔ mode = .sshNative ∧ Route.DirectFails preflight ∧ Route.Overridable input) ∧
    (∀ transport source, (Route.fallbackAfterPreflight preflight transport source).selectedTransport ≠ some .plainTcp) ∧
    (∀ addr, .plainTcp addr ∈ (openAutoTransport net intent).2.dials → intent.allowPlainTcp = true) ∧
    TriesInOrder net intent intent.plan (openAutoTransport net intent).2 (openAutoTransport net intent).1 := by
  have tries := openAutoTransport_tries net intent
  refine ⟨?_, ?_, fun addr => tries.plain, tries⟩
  · intro selection selected
    have sound := Route.transportSelectionPolicy_sound selected
    refine ⟨sound.named, fun mode => ?_⟩
    rw [Route.fallback_iff, ← Route.policy_source selected]
    simp [sound.concrete]
  · intro transport source selected
    cases ((Route.fallback_iff ..).mp selected).1

/-- QUIC has no certificate authority to go by, so plain TCP is tried next. -/
theorem plain_tcp_opt_in_second :
    let addr : SocketAddr := ⟨.v4 0x7f000001, 19081⟩
    let intent : RemoteHelperOpenIntent := { transport := .auto, remoteTcp := addr, remoteQuic := some addr, allowPlainTcp := true }
    let net : HelperNet := { loadPem _ := .ok (), connect _ _ := .ok (), handshake _ _ := .ok () }
    intent.plan = [.quic, .tcp, .sshDirect] ∧ (openAutoTransport net intent).1 = .ok .tcp ∧
      (openAutoTransport net intent).2.map Prod.fst = [.quic, .tcp] ∧
      TriesInOrder net intent intent.plan (openAutoTransport net intent).2 (openAutoTransport net intent).1 := by
  intro addr intent net
  exact ⟨rfl, rfl, rfl, (plain_tcp_opt_in (fun _ => "") {} ⟨0, []⟩ net intent).2.2.2⟩

/-- A plain TCP that `[defaults]` names and allows is replaced after its probe has failed. -/
theorem default_plain_replaced :
    let input : Route.TransportSelectionPolicyInput :=
      { defaultsRemoteTransport := some "plain-tcp", allowPlainTcp := true, defaultsAllowPlainTcp := some true }
    let selection : Route.TransportSelection := ⟨.plainTcp, "benchmark-tuned default",
      "plain TCP peer transport is enabled by benchmark-tuned default; use only for lab or private trusted links"⟩
    let probe : Route.RouteProbeResult := ⟨"plain-tcp", some "192.0.2.1:9", some false, "connect-failed", "connection refused"⟩
    Route.transportSelectionPolicy (fun _ => "") input = .ok selection ∧
      (Route.fallbackAfterPreflight ⟨1000, [probe]⟩ selection.transport (some selection.source)).selectedTransport =
        some .sshNative := by
  decide +kernel

end SshProxy
