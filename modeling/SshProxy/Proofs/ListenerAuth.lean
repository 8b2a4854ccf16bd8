import SshProxy.Listeners
import SshProxy.Remote

/-! Which listeners the token protects. Only the plain listener reads it: a TLS listener
without a client CA and a QUIC listener serve whoever completes the peer handshake. -/

namespace SshProxy
open Library NodeManager Reader List

/-- The welcome that accepts a peer fits into a handshake. -/
def PeerJson.Welcomes (json : PeerJson) (node : String) (protocol : PeerProtocol) : Prop :=
  (json.encodeWelcome { version := peerVersion, node, accepted := some protocol, message := "ok" }).length ≤
    maxHandshake

instance (json : PeerJson) (node : String) (protocol : PeerProtocol) : Decidable (json.Welcomes node protocol) :=
  inferInstanceAs (Decidable (_ ≤ _))

theorem serverHandshake_welcomes {json : PeerJson} {node : String} {supported : List PeerProtocol} {input rest : Bytes}
    {hello : PeerHello} (accepted : serverHandshake json node supported input = .ok (hello, rest)) :
    ∃ protocol ∈ supported, selectSupportedProtocol hello.protocols supported = some protocol ∧
      json.Welcomes node protocol := by
  simp only [serverHandshake, bind_eq_ok, require_eq_ok] at accepted
  obtain ⟨found, _, _, _, _, ⟨fits, _⟩, _, _, ⟨agreed, _⟩, returned⟩ := accepted
  cases returned
  by_cases current : hello.version = peerVersion
  · obtain ⟨protocol, selected⟩ := Option.ne_none_iff_exists'.mp agreed
    have same : selectSupportedProtocol hello.protocols supported = some protocol := by
      simpa [PeerWelcome.answer, current] using selected
    refine ⟨protocol, ?_, same, ?_⟩
    · exact contains_iff_mem.mp (find?_some same)
    · simpa [PeerJson.Welcomes, PeerWelcome.answer, current, same] using fits
  · simp [PeerWelcome.answer, current] at agreed

variable {payload : Bytes}

theorem serverHandshake_append {json : PeerJson} {node : String} {supported : List PeerProtocol}
    {protocol : PeerProtocol} (fits : payload.length ≤ maxHandshake)
    (decoded : json.decodeHello payload = some { version := peerVersion, node := "", protocols := [protocol] })
    (offered : protocol ∈ supported) (welcomes : json.Welcomes node protocol) (rest : Bytes) :
    serverHandshake json node supported (handshakeBytes payload ++ rest) =
      .ok ({ version := peerVersion, node := "", protocols := [protocol] }, rest) := by
  have selected : selectSupportedProtocol [protocol] supported = some protocol := by
    simp [selectSupportedProtocol, offered]
  rw [serverHandshake, bind_of_ok (readHandshake_append fits decoded rest)]
  simp only [bind_eq_ok, require_eq_ok]
  refine ⟨(), rest, ⟨?_, rfl⟩, (), rest, ⟨?_, rfl⟩, rfl⟩
  · simpa [PeerWelcome.answer, selected, PeerJson.Welcomes] using welcomes
  · simp [PeerWelcome.answer, selected]

section
variable {Certificate Key : Type} {env : Env Certificate Key} {manager : NodeManager} {token : String}

/-- The client presented the token before anything else, or a certificate that the
verifier built from the configured client CA accepts. -/
def Authenticated (env : Env Certificate Key) (manager : NodeManager) (token : String) : Client Certificate → Prop
  | .plain input => tokenBytes token <+: input
  | .tls certificate input =>
    tokenBytes token <+: input ∨
      ∃ clientCa roots client, manager.tlsClientCa = some clientCa ∧ env.loadCertChain clientCa = .ok roots ∧
        certificate = some client ∧ env.accepts roots client = true
  | .quic streams => ∃ control, streams.head? = some control ∧ tokenBytes token <+: control

def Protected (env : Env Certificate Key) (manager : NodeManager) (token : String) : Prop :=
  ∀ client, manager.acts env client ≠ [] → Authenticated env manager token client

/-- No QUIC listener is up, and a TLS listener that is up has a client CA; a listener
that cannot answer any hello, because the welcome with the name of the node is too
large, does no harm. -/
structure Guarded (env : Env Certificate Key) (manager : NodeManager) : Prop where
  tls : ∀ config, manager.tlsListener env = some config → env.peer.Welcomes manager.name .tlsTcp →
    manager.tlsClientCa ≠ none
  quic : ∀ config, manager.quicListener env = some config →
    ∀ protocol ∈ supportedQuicProtocols, ¬ env.peer.Welcomes manager.name protocol

/-- The JSON library reads short hellos of the current version. -/
structure Env.Conforms (env : Env Certificate Key) : Prop where
  hello : ∀ protocol, ∃ payload : Bytes, payload.length ≤ 1024 ∧
    env.peer.decodeHello payload = some { version := peerVersion, node := "", protocols := [protocol] }
  route : ∃ payload : Bytes, payload.length ≤ 1024 ∧
    env.control.decode payload = some (.hello { version := controlFrameVersion, routeId := "", node := "" })
  welcome : (env.control.encode (.welcome (nativeWelcome
    { version := controlFrameVersion, routeId := "", node := "" }))).length ≤ maxControlFrame

theorem whenOk_ne_nil {α : Type} {result : Except String α} {serve : α → List Act} (acted : whenOk result serve ≠ []) :
    ∃ value, result = .ok value ∧ serve value ≠ [] := by
  cases result with
  | error error => exact absurd rfl acted
  | ok value => exact ⟨value, rfl, acted⟩

private theorem bind_ok {α β : Type} {first : Except String α} {next : α → Except String β} {value : β}
    (ok : (first >>= next) = .ok value) : ∃ middle, first = .ok middle ∧ next middle = .ok value := by
  cases first with
  | error error => cases ok
  | ok middle => exact ⟨middle, rfl, ok⟩

private theorem toOption_some {α : Type} {result : Except String α} {value : α} (some : result.toOption = some value) :
    result = .ok value := by
  cases result with
  | error error => cases some
  | ok found =>
    cases some
    rfl

private theorem bound_ok {addr error : String} {config bound : ServerConfig Certificate}
    (ok : (if env.binds addr then pure config else throw error : Except String _) = .ok bound) : config = bound := by
  split at ok
  · cases ok
    rfl
  · cases ok

variable {config : ServerConfig Certificate}

theorem tlsListener_roots (up : manager.tlsListener env = some config) : match manager.tlsClientCa with
    | none => config.clientRoots = none
    | some clientCa => ∃ roots, env.loadCertChain clientCa = .ok roots ∧ config.clientRoots = some roots := by
  obtain ⟨addr, _, ran⟩ := Option.bind_eq_some_iff.mp up
  obtain ⟨certPath, _, ran⟩ := bind_ok (toOption_some ran)
  obtain ⟨keyPath, _, ran⟩ := bind_ok ran
  obtain ⟨certs, _, ran⟩ := bind_ok ran
  obtain ⟨key, _, ran⟩ := bind_ok ran
  obtain ⟨built, build, ran⟩ := bind_ok ran
  obtain rfl := bound_ok ran
  cases configured : manager.tlsClientCa with
  | none =>
    rw [configured] at build
    obtain ⟨_, _, build⟩ := bind_ok build
    cases build
    rfl
  | some clientCa =>
    rw [configured] at build
    obtain ⟨roots, loaded, build⟩ := bind_ok build
    obtain ⟨_, _, build⟩ := bind_ok build
    obtain ⟨_, _, build⟩ := bind_ok build
    cases build
    exact ⟨roots, loaded, rfl⟩

theorem quicListener_roots (up : manager.quicListener env = some config) : config.clientRoots = none := by
  obtain ⟨addr, _, ran⟩ := Option.bind_eq_some_iff.mp up
  obtain ⟨certPath, _, ran⟩ := bind_ok (toOption_some ran)
  obtain ⟨keyPath, _, ran⟩ := bind_ok ran
  obtain ⟨certs, _, ran⟩ := bind_ok ran
  obtain ⟨key, _, ran⟩ := bind_ok ran
  obtain ⟨built, build, ran⟩ := bind_ok ran
  obtain rfl := bound_ok ran
  obtain ⟨_, _, build⟩ := bind_ok build
  obtain ⟨_, _, build⟩ := bind_ok build
  cases build
  rfl

theorem servePlain_presented (token_set : manager.token = some token) {input : Bytes}
    (acted : manager.servePlain env input ≠ []) : tokenBytes token <+: input := by
  obtain ⟨⟨_, rest⟩, accepted, _⟩ := whenOk_ne_nil acted
  obtain ⟨_, middle, verified, _⟩ := bind_eq_ok.mp accepted
  rw [token_set] at verified
  exact ⟨middle, (verifyToken_eq_ok verified).symm⟩

theorem serveQuic_welcomes {streams : List Bytes} (acted : manager.serveQuic env streams ≠ []) :
    ∃ protocol ∈ supportedQuicProtocols, env.peer.Welcomes manager.name protocol := by
  cases streams with
  | nil => exact absurd rfl acted
  | cons control flows =>
    obtain ⟨⟨_, rest⟩, accepted, _⟩ := whenOk_ne_nil acted
    obtain ⟨hello, _, shaken, _⟩ := bind_eq_ok.mp accepted
    obtain ⟨protocol, offered, _, welcomes⟩ := serverHandshake_welcomes shaken
    exact ⟨protocol, offered, welcomes⟩

theorem acts_plain {input : Bytes} (acted : manager.acts env (.plain input) ≠ []) :
    manager.servePlain env input ≠ [] := by
  simp only [acts] at acted
  split at acted
  · exact acted
  · exact absurd rfl acted

theorem acts_tls {certificate : Option Certificate} {input : Bytes}
    (acted : manager.acts env (.tls certificate input) ≠ []) :
    ∃ config, manager.tlsListener env = some config ∧ config.admits env certificate ∧
      manager.serveTls env input ≠ [] := by
  simp only [acts] at acted
  split at acted
  next config up =>
    split at acted
    next admitted => exact ⟨config, up, admitted, acted⟩
    next => exact absurd rfl acted
  next => exact absurd rfl acted

theorem acts_quic {streams : List Bytes} (acted : manager.acts env (.quic streams) ≠ []) :
    ∃ config, manager.quicListener env = some config ∧ manager.serveQuic env streams ≠ [] := by
  simp only [acts] at acted
  split at acted
  next config up =>
    split at acted
    next => exact ⟨config, up, acted⟩
    next => exact absurd rfl acted
  next => exact absurd rfl acted

theorem protected_of_guarded (token_set : manager.token = some token) (guarded : Guarded env manager) :
    Protected env manager token := by
  intro client acted
  cases client with
  | plain input => exact servePlain_presented token_set (acts_plain acted)
  | tls certificate input =>
    obtain ⟨config, up, admitted, served⟩ := acts_tls acted
    obtain ⟨⟨hello, rest⟩, shaken, _⟩ := whenOk_ne_nil served
    obtain ⟨protocol, offered, _, welcomes⟩ := serverHandshake_welcomes shaken
    obtain rfl : protocol = .tlsTcp := by simpa using offered
    obtain ⟨clientCa, configured⟩ := Option.ne_none_iff_exists'.mp (guarded.tls config up welcomes)
    have asked := tlsListener_roots up
    rw [configured] at asked
    obtain ⟨roots, loaded, demanded⟩ := asked
    rw [ServerConfig.admits, demanded] at admitted
    obtain ⟨client, presented, accepted⟩ := (Option.any_eq_true _ _).mp admitted
    exact .inr ⟨clientCa, roots, client, configured, loaded, presented, accepted⟩
  | quic streams =>
    obtain ⟨config, up, served⟩ := acts_quic acted
    obtain ⟨protocol, offered, welcomes⟩ := serveQuic_welcomes served
    exact absurd welcomes (guarded.quic config up protocol offered)

def knock : Bytes := [1, 0, 0, 0, 1, 0, 0, 0, 6, 0, 1, 97, 0, 80, 0]

def knockFlow : Bytes :=
  [81, 78, 84, 49, 0, 1, 0, 21, 0, 0, 0, 0, 0, 0, 0, 0, 0, 0, 0, 1, 1, 0, 0, 0, 1, 97, 0, 80, 0]

theorem serveFrames_knock : serveFrames knock = [.frame (.openTcp 1 "a" 80 none)] := by
  have decode : Frame.decode 1 1 [0, 1, 97, 0, 80, 0] = .ok (.openTcp 1 "a" 80 none) := rfl
  have read := FrameReader.readAll_append 1 1 (by decide) (by decide) (by decide) decode []
  have done : FrameReader.readAll [] = [] := by rw [FrameReader.readAll]; rfl
  rw [done] at read
  exact congrArg (map Act.frame) read

theorem not_presented {token : String} {payload rest : Bytes} (short : payload.length + rest.length ≤ 4096) :
    ¬ tokenBytes token <+: handshakeBytes payload ++ rest := by
  rintro ⟨after, same⟩
  have length := congrArg length same
  simp only [tokenBytes, handshakeBytes, handshakeMagic, length_append, length_bigEndian, length_cons,
    length_nil] at length
  have front : bigEndian 2 (utf8 token).length = [83, 80] := by
    have taken := congrArg (take 2) same
    rwa [tokenBytes, append_assoc, take_left' (length_bigEndian ..)] at taken
  have value : (utf8 token).length = 21328 := by
    rw [← ofBigEndian_bigEndian (show (utf8 token).length < 256 ^ 2 by omega), front]
    rfl
  omega

def controlBytes (payload : Bytes) : Bytes :=
  controlFrameMagic ++ (bigEndian 2 controlFrameVersion.toNat ++ (bigEndian 4 payload.length ++ payload))

theorem readControl_append {json : ControlJson} {frame : RouteControlFrame} (fits : payload.length ≤ maxControlFrame)
    (decoded : json.decode payload = some frame) (rest : Bytes) :
    RouteControlFrame.readFrom json (controlBytes payload ++ rest) = .ok (frame, rest) := by
  have count : payload.length < 256 ^ 4 := Nat.lt_of_le_of_lt fits (by decide)
  simp only [RouteControlFrame.readFrom, readJsonControlFrame, bind_eq_ok, number_eq_ok,
    exactly_eq_ok, require_eq_ok, lift_eq_ok]
  refine ⟨controlFrameMagic, bigEndian 2 controlFrameVersion.toNat ++ (bigEndian 4 payload.length ++ (payload ++ rest)),
    ⟨?_, rfl⟩, (), _, ⟨rfl, rfl⟩, _, _, ⟨rfl, by decide⟩, (), _, ⟨rfl, rfl⟩, payload.length, payload ++ rest,
    ⟨rfl, count⟩, (), _, ⟨fits, rfl⟩, payload, rest, ⟨rfl, rfl⟩, ?_, rfl⟩
  · simp [controlBytes]
  · rw [decoded]
    rfl

theorem serverAccept_append {json : ControlJson} {hello : RouteControlHello} (fits : payload.length ≤ maxControlFrame)
    (decoded : json.decode payload = some (.hello hello))
    (welcome : (json.encode (.welcome (nativeWelcome hello))).length ≤ maxControlFrame) (rest : Bytes) :
    serverAccept json nativeWelcome (controlBytes payload ++ rest) = .ok (hello, rest) := by
  rw [serverAccept, bind_of_ok (readControl_append fits decoded rest)]
  simp only [bind_eq_ok, require_eq_ok]
  exact ⟨(), rest, ⟨rfl, rfl⟩, (), rest, ⟨welcome, rfl⟩, rfl⟩

theorem acceptQuicPeerControl_append {json : PeerJson} {node : String} {protocol : PeerProtocol}
    (fits : payload.length ≤ maxHandshake)
    (decoded : json.decodeHello payload = some { version := peerVersion, node := "", protocols := [protocol] })
    (offered : protocol ∈ supportedQuicProtocols) (welcomes : json.Welcomes node protocol) (rest : Bytes) :
    acceptQuicPeerControl json node supportedQuicProtocols (handshakeBytes payload ++ rest) = .ok (protocol, rest) := by
  have selected : selectSupportedProtocol [protocol] supportedQuicProtocols = some protocol := by
    simp [selectSupportedProtocol, offered]
  rw [acceptQuicPeerControl, bind_of_ok (serverHandshake_append fits decoded offered welcomes rest)]
  dsimp only
  rw [selected]
  rfl

theorem handleNativeQuicStream_knock : handleNativeQuicStream "" knockFlow =
    [.flow ⟨"", 1, ⟨.tcpConnect, "a", 80⟩, none, 0⟩] := by
  decide

theorem serveTls_knock (fits : payload.length ≤ maxHandshake)
    (decoded : env.peer.decodeHello payload = some { version := peerVersion, node := "", protocols := [.tlsTcp] })
    (welcomes : env.peer.Welcomes manager.name .tlsTcp) :
    manager.serveTls env (handshakeBytes payload ++ knock) = [.frame (.openTcp 1 "a" 80 none)] := by
  rw [serveTls, serverHandshake_append fits decoded (by simp) welcomes]
  exact serveFrames_knock

theorem serveQuic_knock (fits : payload.length ≤ maxHandshake)
    (decoded : env.peer.decodeHello payload = some { version := peerVersion, node := "", protocols := [.quic] })
    (welcomes : env.peer.Welcomes manager.name .quic) :
    manager.serveQuic env [handshakeBytes payload ++ knock] = [.frame (.openTcp 1 "a" 80 none)] := by
  rw [serveQuic, acceptQuicPeerControl_append fits decoded (by simp [supportedQuicProtocols]) welcomes]
  exact serveFrames_knock

theorem serveQuicNative_knock {payload route : Bytes} (fits : payload.length ≤ maxHandshake)
    (decoded : env.peer.decodeHello payload = some { version := peerVersion, node := "", protocols := [.quicNative] })
    (welcomes : env.peer.Welcomes manager.name .quicNative) (routeFits : route.length ≤ maxControlFrame)
    (routeDecoded : env.control.decode route =
      some (.hello { version := controlFrameVersion, routeId := "", node := "" }))
    (routeWelcome : (env.control.encode (.welcome (nativeWelcome
      { version := controlFrameVersion, routeId := "", node := "" }))).length ≤ maxControlFrame) :
    manager.serveQuic env [handshakeBytes payload ++ controlBytes route, knockFlow] =
      [.flow ⟨"", 1, ⟨.tcpConnect, "a", 80⟩, none, 0⟩] := by
  have session := serverAccept_append routeFits routeDecoded routeWelcome []
  rw [append_nil] at session
  rw [serveQuic, acceptQuicPeerControl_append fits decoded (by simp [supportedQuicProtocols]) welcomes]
  show runNativeQuic env (controlBytes route) [knockFlow] = _
  rw [runNativeQuic, session]
  simp [whenOk, handleNativeQuicStream_knock]

theorem acts_of_tlsListener (up : manager.tlsListener env = some config) (unasked : manager.tlsClientCa = none)
    (certificate : Option Certificate) (input : Bytes) :
    manager.acts env (.tls certificate input) = manager.serveTls env input := by
  have roots := tlsListener_roots up
  rw [unasked] at roots
  simp [acts, up, ServerConfig.admits, show config.clientRoots = none from roots]

theorem acts_of_quicListener (up : manager.quicListener env = some config) (streams : List Bytes) :
    manager.acts env (.quic streams) = manager.serveQuic env streams := by
  simp [acts, up, ServerConfig.admits, quicListener_roots up]

private theorem short_fits (short : payload.length ≤ 1024) : payload.length ≤ maxHandshake :=
  Nat.le_trans short (by decide)

theorem tls_guarded_of_protected (conforms : env.Conforms) (safe : Protected env manager token)
    (config : ServerConfig Certificate) (up : manager.tlsListener env = some config)
    (welcomes : env.peer.Welcomes manager.name .tlsTcp) : manager.tlsClientCa ≠ none := by
  intro unasked
  obtain ⟨payload, short, decoded⟩ := conforms.hello .tlsTcp
  have served := serveTls_knock (short_fits short) decoded welcomes
  have acted : manager.acts env (.tls none (handshakeBytes payload ++ knock)) ≠ [] := by
    rw [acts_of_tlsListener up unasked, served]
    exact cons_ne_nil _ _
  rcases safe _ acted with presented | ⟨clientCa, _, _, configured, _⟩
  · refine not_presented ?_ presented
    have length : knock.length = 15 := rfl
    omega
  · exact absurd (unasked.symm.trans configured) (by simp)

theorem quic_guarded_of_protected (conforms : env.Conforms) (safe : Protected env manager token)
    (config : ServerConfig Certificate) (up : manager.quicListener env = some config)
    (protocol : PeerProtocol) (offered : protocol ∈ supportedQuicProtocols) :
    ¬ env.peer.Welcomes manager.name protocol := by
  intro welcomes
  obtain ⟨payload, short, decoded⟩ := conforms.hello protocol
  have cases : protocol = .quicNative ∨ protocol = .quic := by simpa [supportedQuicProtocols] using offered
  rcases cases with rfl | rfl
  · obtain ⟨route, routeShort, routeDecoded⟩ := conforms.route
    have served := serveQuicNative_knock (short_fits short) decoded welcomes (Nat.le_trans routeShort (by decide))
      routeDecoded conforms.welcome
    have acted : manager.acts env (.quic [handshakeBytes payload ++ controlBytes route, knockFlow]) ≠ [] := by
      rw [acts_of_quicListener up, served]
      exact cons_ne_nil _ _
    obtain ⟨control, first, presented⟩ := safe _ acted
    cases first
    refine not_presented ?_ presented
    simp only [controlBytes, controlFrameMagic, length_append, length_bigEndian, length_cons, length_nil]
    omega
  · have served := serveQuic_knock (short_fits short) decoded welcomes
    have acted : manager.acts env (.quic [handshakeBytes payload ++ knock]) ≠ [] := by
      rw [acts_of_quicListener up, served]
      exact cons_ne_nil _ _
    obtain ⟨control, first, presented⟩ := safe _ acted
    cases first
    refine not_presented ?_ presented
    have length : knock.length = 15 := rfl
    omega

/-- A token protects all data-plane listeners of exactly those daemons whose TLS listener
has a client CA and that have no QUIC listener. -/
theorem token_protects_iff (env : Env Certificate Key) (conforms : env.Conforms) (manager : NodeManager)
    (token : String) (token_set : manager.token = some token) : Protected env manager token ↔ Guarded env manager := by
  constructor
  · intro safe
    exact ⟨tls_guarded_of_protected conforms safe, quic_guarded_of_protected conforms safe⟩
  · intro guarded
    exact protected_of_guarded token_set guarded

end

def PeerProtocol.json : PeerProtocol → String
  | .sshNative => "ssh-native"
  | .quicNative => "quic-native"
  | .quic => "quic"
  | .tlsTcp => "tls-tcp"
  | .tcp => "tcp"
  | .sshDirect => "ssh-direct"
  | .sshExec => "ssh-exec"

def everyProtocol : List PeerProtocol := [.sshNative, .quicNative, .quic, .tlsTcp, .tcp, .sshDirect, .sshExec]

def helloText (protocol : PeerProtocol) : Bytes :=
  utf8 ("\x7b\"version\":1,\"node\":\"\",\"protocols\":[\"" ++ protocol.json ++ "\"],\"features\":[]\x7d")

def routeHelloText : Bytes := utf8 "\x7b\"kind\":\"hello\",\"version\":1,\"route_id\":\"\",\"node\":\"\"\x7d"

/-- JSON for these hellos and their answers, and files and addresses that are all fine. -/
def Env.obliging : Env Unit Unit where
  loadCertChain _ := .ok [()]
  loadPrivateKey _ := .ok ()
  withSingleCert _ _ := .ok ()
  buildVerifier _ := .ok ()
  accepts _ _ := true
  binds _ := true
  peer :=
    { decodeHello := fun payload => (everyProtocol.find? (payload = helloText ·)).map fun protocol =>
        { version := peerVersion, node := "", protocols := [protocol] }
      encodeWelcome := fun welcome => utf8 ("\x7b\"version\":1,\"node\":\"" ++ welcome.node ++ "\",\"accepted\":" ++
        (welcome.accepted.elim "null" fun protocol => "\"" ++ protocol.json ++ "\"") ++
        ",\"features\":[],\"message\":\"" ++ welcome.message ++ "\"\x7d") }
  control :=
    { decode := fun payload =>
        if payload = routeHelloText then some (.hello { version := controlFrameVersion, routeId := "", node := "" })
        else none
      encode := fun
        | .welcome welcome => utf8 ("\x7b\"kind\":\"welcome\",\"version\":1,\"route_id\":\"" ++ welcome.routeId ++
            "\",\"accepted\":true,\"selected_protocol\":\"quic-native\",\"message\":\"" ++ welcome.message ++ "\"\x7d")
        | _ => [] }

theorem Env.obliging_conforms : Env.obliging.Conforms where
  hello protocol := ⟨helloText protocol, by cases protocol <;> decide, by cases protocol <;> decide⟩
  route := ⟨routeHelloText, by decide, by decide⟩
  welcome := by decide +kernel

def mutualTls : NodeManager :=
  { name := "node", transport := some "0.0.0.0:19080", tlsTransport := some "0.0.0.0:19081", tlsCert := some "cert.pem",
    tlsKey := some "key.pem", tlsClientCa := some "ca.pem", token := some "secret" }

theorem token_protects_iff_mutualTls : Protected Env.obliging mutualTls "secret" :=
  (token_protects_iff Env.obliging Env.obliging_conforms mutualTls "secret" rfl).mpr ⟨nofun, nofun⟩

def tokenOnly : NodeManager :=
  { mutualTls with tlsClientCa := none, quicTransport := some "0.0.0.0:19082" }

/-- Clients that present nothing get a connection out of either. -/
theorem token_bypassed : (({} : Remote).next (.read (.openTcp 1 "a" 80 none))).tasks 0 =
      { id := 1, host := "a", port := 80, egressProxy := none, phase := .connecting } ∧
    (∃ input, .frame (.openTcp 1 "a" 80 none) ∈ tokenOnly.acts Env.obliging (.tls none input) ∧
      ¬ Authenticated Env.obliging tokenOnly "secret" (.tls none input)) ∧
    ∃ stream, .frame (.openTcp 1 "a" 80 none) ∈ tokenOnly.acts Env.obliging (.quic [stream]) ∧
      ¬ Authenticated Env.obliging tokenOnly "secret" (.quic [stream]) := by
  refine ⟨rfl, ?_, ?_⟩
  · refine ⟨handshakeBytes (helloText .tlsTcp) ++ knock, ?_, ?_⟩
    · rw [acts_of_tlsListener (show _ = some ⟨none⟩ from rfl) rfl, serveTls_knock (by decide) (by decide) (by decide)]
      exact mem_singleton_self _
    · rintro (presented | ⟨_, _, _, configured, _⟩)
      · exact not_presented (by decide) presented
      · cases configured
  · refine ⟨handshakeBytes (helloText .quic) ++ knock, ?_, ?_⟩
    · rw [acts_of_quicListener (show _ = some ⟨none⟩ from rfl), serveQuic_knock (by decide) (by decide) (by decide)]
      exact mem_singleton_self _
    · rintro ⟨control, first, presented⟩
      cases first
      exact not_presented (by decide) presented

end SshProxy
