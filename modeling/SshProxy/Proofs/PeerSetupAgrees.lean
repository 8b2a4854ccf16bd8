import SshProxy.PeerSetup

/-! The two ends of a new connection agree. Their steps commute, so one schedule shows the end of
all: the client first until it waits for the welcome, then the server, then the client again. -/

namespace SshProxy
open Library Dialogue Setup Dialogue.Runs Link List

namespace Setup
variable {closed : Bool}

theorem verifyToken_reads (token : Option String) : (verifyToken token).reads = SshProxy.verifyToken token := by
  cases token with
  | none => rfl
  | some expected =>
    simp only [verifyToken, SshProxy.verifyToken, reads_bind, reads_number, reads_exactly,
      reads_require]

theorem readHandshake_reads {α : Type} (decode : Bytes → Option α) :
    (readHandshake decode).reads = SshProxy.readHandshake decode := by
  simp only [readHandshake, SshProxy.readHandshake, reads_bind, reads_number, reads_exactly,
    reads_require]
  rfl

theorem serverHandshake_reads (json : SetupJson) (node : String) (supported : List PeerProtocol) :
    (serverHandshake json node supported).reads = SshProxy.serverHandshake json.toPeerJson node supported := by
  simp only [serverHandshake, answers, SshProxy.serverHandshake, writeHandshake, reads_bind, readHandshake_reads,
    reads_require, reads_send, reads_pure, bind_assoc, pure_bind]

def tokenWire : Option String → Bytes
  | none => []
  | some token => tokenBytes token

def TokenFits (token : Option String) : Prop := ∀ text, token = some text → (utf8 text).length ≤ 65535

variable {token : Option String}

theorem sendTransportToken_runs (fits : TokenFits token) (incoming : Bytes) :
    Dialogue.Runs closed (sendTransportToken token) incoming (.done (.ok ())) incoming (tokenWire token) := by
  cases token with
  | none => exact .refl _ _
  | some token =>
    rw [sendTransportToken, require_bind (fits token rfl)]
    exact (send _ _).andThen (.send _ _)

theorem sendTransportToken_long (long : ¬ TokenFits token) :
    sendTransportToken token = .done (.error "remote token is too long") := by
  cases token with
  | none => exact (long nofun).elim
  | some token =>
    refine require_bind_of_not (fun fits => long fun text same => ?_) _ _
    cases same
    exact fits

theorem verifyToken_runs (fits : TokenFits token) (rest : Bytes) :
    Dialogue.Runs closed (verifyToken token) (tokenWire token ++ rest) (.done (.ok ())) rest [] := by
  cases token with
  | none => exact .refl _ _
  | some token =>
    have count : (utf8 token).length < 256 ^ 2 := Nat.lt_of_le_of_lt (fits token rfl) (by decide)
    have read : Dialogue.Runs closed (verifyToken (some token)) (bigEndian 2 (utf8 token).length ++ (utf8 token ++ rest))
        (.done (.ok ())) rest ([] ++ ([] ++ [])) := by
      refine (number "early eof" count _).andThen ((exactly "early eof" _ _).andThen ?_)
      rw [require, if_pos rfl]
      exact .refl _ _
    simpa only [tokenWire, tokenBytes, append_assoc, append_nil] using read

theorem verifyToken_nothing (token : String) :
    Dialogue.Runs true (verifyToken (some token)) [] (.done (.error "early eof")) [] [] :=
  ((nothing "early eof" (by decide)).fails _).fails _

variable {payload : Bytes}

theorem writeHandshake_runs (fits : payload.length ≤ maxHandshake) (incoming : Bytes) :
    Dialogue.Runs closed (writeHandshake payload) incoming (.done (.ok ())) incoming (handshakeBytes payload) := by
  rw [writeHandshake, require_bind fits]
  exact (send _ _).andThen ((send _ _).andThen (.send _ _))

theorem writeHandshake_large (large : ¬ payload.length ≤ maxHandshake) :
    ∃ error, writeHandshake payload = .done (.error error) :=
  ⟨_, require_bind_of_not large _ _⟩

theorem readHandshake_runs {α : Type} {decode : Bytes → Option α} {value : α}
    (fits : payload.length ≤ maxHandshake) (decoded : decode payload = some value) (rest : Bytes) :
    Dialogue.Runs closed (readHandshake decode) (handshakeBytes payload ++ rest) (.done (.ok value)) rest [] := by
  have count : payload.length < 256 ^ 4 := Nat.lt_of_le_of_lt fits (by decide)
  have read : Dialogue.Runs closed (readHandshake decode)
      (handshakeMagic ++ (bigEndian 4 payload.length ++ (payload ++ rest))) (.done (.ok value)) rest
      ([] ++ ([] ++ ([] ++ []))) := by
    refine (exactly _ handshakeMagic _).andThen ?_
    rw [require_bind rfl]
    refine (number _ count _).andThen ?_
    rw [require_bind fits]
    refine (exactly _ payload _).andThen ?_
    rw [decoded]
    exact .refl _ _
  simpa only [handshakeBytes, append_assoc, append_nil] using read

theorem readHandshake_nothing {α : Type} (decode : Bytes → Option α) : Dialogue.Runs true (readHandshake decode) []
    (.done (.error "failed to read peer handshake magic")) [] [] :=
  (nothing _ (by decide)).fails _

/-- Both ends have come to an end, and to the same one: accepted exactly if `accepted` says so, and
then nothing that one of them wrote is left for the other to read. -/
def Agreed (accepted : Prop) (link : Link String PeerWelcome PeerHello) : Prop :=
  ∃ clientResult serverResult, link.client = .done clientResult ∧ link.server = .done serverResult ∧
    (clientResult.isOk = true ↔ serverResult.isOk = true) ∧ (clientResult.isOk = true ↔ accepted) ∧
    (clientResult.isOk = true → link.toServer = [] ∧ link.toClient = [])

theorem Agreed.refused {accepted : Prop} (refused : ¬ accepted) {clientError serverError : String} {toServer toClient : Bytes} :
    Agreed accepted ⟨.done (.error clientError), .done (.error serverError), toServer, toClient⟩ :=
  ⟨_, _, rfl, rfl, Iff.rfl, ⟨nofun, fun holds => (refused holds).elim⟩, nofun⟩

variable {json : SetupJson} {token : Option String} {clientNode serverNode : String} {protocol : PeerProtocol}
  {supported : List PeerProtocol}

def welcome (clientNode serverNode : String) (protocol : PeerProtocol) (supported : List PeerProtocol) : PeerWelcome :=
  PeerWelcome.answer serverNode supported (hello clientNode protocol)

theorem accepted_welcome : (welcome clientNode serverNode protocol supported).accepted =
    if protocol ∈ supported then some protocol else none := by
  simp only [welcome, PeerWelcome.answer, hello, if_true, selectSupportedProtocol, find?_cons, find?_nil,
    contains_eq_mem]
  split <;> simp_all

structure Fits (json : SetupJson) (token : Option String) (clientNode serverNode : String) (protocol : PeerProtocol)
    (supported : List PeerProtocol) : Prop where
  token : TokenFits token
  hello : (json.encodeHello (hello clientNode protocol)).length ≤ maxHandshake
  welcome : (json.encodeWelcome (welcome clientNode serverNode protocol supported)).length ≤ maxHandshake

def waiting (json : SetupJson) (protocol : PeerProtocol) : Dialogue String PeerWelcome := do
  let welcome ← readHandshake json.decodeWelcome
  lift (accepts protocol welcome)

theorem client_runs (tokenFits : TokenFits token)
    (helloFits : (json.encodeHello (hello clientNode protocol)).length ≤ maxHandshake) :
    Dialogue.Runs closed (client json token clientNode protocol) []
      (waiting json protocol) []
      (tokenWire token ++ handshakeBytes (json.encodeHello (hello clientNode protocol))) := by
  refine (sendTransportToken_runs tokenFits []).andThen ?_
  exact (writeHandshake_runs helloFits []).bind fun _ => waiting json protocol

theorem server_runs (lossless : json.Lossless (hello clientNode protocol) (welcome clientNode serverNode protocol supported))
    (tokenFits : TokenFits token)
    (helloFits : (json.encodeHello (hello clientNode protocol)).length ≤ maxHandshake) :
    Dialogue.Runs closed (server json token serverNode supported)
      (tokenWire token ++ handshakeBytes (json.encodeHello (hello clientNode protocol)))
      (answers json (hello clientNode protocol) (welcome clientNode serverNode protocol supported)) [] [] := by
  have read : Dialogue.Runs closed _ _ _ _ _ :=
    readHandshake_runs helloFits lossless.hello []
  rw [append_nil] at read
  exact (verifyToken_runs tokenFits _).andThen (read.bind _)

theorem answers_runs (closed : Bool)
    (welcomeFits : (json.encodeWelcome (welcome clientNode serverNode protocol supported)).length ≤ maxHandshake) :
    ∃ result, Dialogue.Runs closed
        (answers json (hello clientNode protocol) (welcome clientNode serverNode protocol supported)) [] (.done result) []
        (handshakeBytes (json.encodeWelcome (welcome clientNode serverNode protocol supported))) ∧
      (result.isOk = true ↔ protocol ∈ supported) := by
  rw [← append_nil (handshakeBytes _)]
  by_cases member : protocol ∈ supported
  · have accepted : (welcome clientNode serverNode protocol supported).accepted ≠ none := by
      rw [accepted_welcome, if_pos member]
      nofun
    refine ⟨.ok (hello clientNode protocol), (writeHandshake_runs welcomeFits []).andThen ?_, fun _ => member, fun _ => rfl⟩
    rw [require_bind accepted]
    exact .refl _ _
  · have rejected : ¬ (welcome clientNode serverNode protocol supported).accepted ≠ none := by
      rw [accepted_welcome, if_neg member]
      exact not_not.mpr rfl
    refine ⟨.error ?error, (writeHandshake_runs welcomeFits []).andThen ?rest, nofun, fun holds => (member holds).elim⟩
    case rest =>
      rw [require_bind_of_not rejected]
      exact .refl _ _

theorem accepts_welcome (clientNode serverNode : String) (protocol : PeerProtocol) (supported : List PeerProtocol) :
    (accepts protocol (welcome clientNode serverNode protocol supported)).isOk = true ↔ protocol ∈ supported := by
  have version : (welcome clientNode serverNode protocol supported).version = peerVersion := rfl
  unfold accepts
  rw [if_neg (not_not.mpr version), accepted_welcome]
  by_cases member : protocol ∈ supported
  · rw [if_pos member]
    simp [member, Except.isOk, Except.toBool]
  · rw [if_neg member]
    simp [member, Except.isOk, Except.toBool]

def Settles (json : SetupJson) (token : Option String) (clientNode serverNode : String) (protocol : PeerProtocol)
    (supported : List PeerProtocol) : Prop :=
  ∃ bound final, (machine (client json token clientNode protocol) (server json token serverNode supported)).Leads
      bound ⟨client json token clientNode protocol, server json token serverNode supported, [], []⟩ final ∧
    (machine (client json token clientNode protocol) (server json token serverNode supported)).Final final ∧
    Agreed (protocol ∈ supported ∧ Fits json token clientNode serverNode protocol supported) final

theorem settles_of_long (json : SetupJson) (clientNode serverNode : String) (protocol : PeerProtocol)
    (supported : List PeerProtocol) (long : ¬ TokenFits token) : Settles json token clientNode serverNode protocol supported := by
  have refused : client json token clientNode protocol = .done (.error "remote token is too long") := by
    rw [client, sendTransportToken_long long]
    rfl
  cases token with
  | none => exact (long nofun).elim
  | some text =>
    have waits : Dialogue.Runs true (server json (some text) serverNode supported) [] (.done (.error "early eof")) [] [] :=
      (verifyToken_nothing text).fails _
    obtain ⟨bound, leads⟩ := leads_server (client json (some text) clientNode protocol) waits (by rw [refused]; rfl) []
    refine ⟨bound, _, leads, ?_, ?_⟩
    · rw [refused]
      exact final_of_done
    · rw [refused]
      exact .refused fun accepted => long accepted.2.token

theorem settles_of_large_hello (tokenFits : TokenFits token)
    (large : ¬ (json.encodeHello (hello clientNode protocol)).length ≤ maxHandshake) :
    Settles json token clientNode serverNode protocol supported := by
  obtain ⟨error, refused⟩ := writeHandshake_large large
  have stops : Dialogue.Runs (server json token serverNode supported).failed (client json token clientNode protocol) []
      (.done (.error error)) [] (tokenWire token ++ []) := by
    refine (sendTransportToken_runs tokenFits []).andThen ?_
    rw [clientHandshake, refused]
    exact .refl _ _
  have waits : Dialogue.Runs true (server json token serverNode supported) (tokenWire token ++ [])
      (.done (.error "failed to read peer handshake magic")) [] ([] ++ []) :=
    (verifyToken_runs tokenFits []).andThen ((readHandshake_nothing _).fails _)
  obtain ⟨first, clientEnds⟩ := leads_client (server json token serverNode supported) stops rfl []
  obtain ⟨second, serverEnds⟩ := leads_server (.done (.error error)) waits rfl []
  exact ⟨_, _, clientEnds.trans serverEnds, final_of_done, .refused fun accepted => large accepted.2.hello⟩

theorem settles_of_large_welcome
    (lossless : json.Lossless (hello clientNode protocol) (welcome clientNode serverNode protocol supported))
    (tokenFits : TokenFits token)
    (helloFits : (json.encodeHello (hello clientNode protocol)).length ≤ maxHandshake)
    (large : ¬ (json.encodeWelcome (welcome clientNode serverNode protocol supported)).length ≤ maxHandshake) :
    Settles json token clientNode serverNode protocol supported := by
  obtain ⟨error, refused⟩ := writeHandshake_large large
  have stops : Dialogue.Runs false _ _ _ _ _ := server_runs lossless tokenFits helloFits
  rw [answers, refused] at stops
  obtain ⟨first, clientWaits⟩ := leads_client _ (client_runs tokenFits helloFits) rfl []
  obtain ⟨second, serverEnds⟩ := leads_server (waiting json protocol) stops rfl []
  obtain ⟨third, clientEnds⟩ :=
    leads_client (.done (.error error)) ((readHandshake_nothing json.decodeWelcome).fails _) rfl []
  exact ⟨_, _, (clientWaits.trans serverEnds).trans clientEnds, final_of_done,
    .refused fun accepted => large accepted.2.welcome⟩

theorem settles_of_fits
    (lossless : json.Lossless (hello clientNode protocol) (welcome clientNode serverNode protocol supported))
    (fits : Fits json token clientNode serverNode protocol supported) :
    Settles json token clientNode serverNode protocol supported := by
  obtain ⟨serverResult, answered, serverOk⟩ := answers_runs false fits.welcome
  have serves := (server_runs lossless fits.token fits.hello).trans answered
  have read : Dialogue.Runs (done serverResult).failed _ _ _ _ _ :=
    readHandshake_runs fits.welcome lossless.welcome []
  rw [append_nil] at read
  obtain ⟨first, clientWaits⟩ := leads_client _ (client_runs fits.token fits.hello) rfl []
  obtain ⟨second, serverEnds⟩ := leads_server (waiting json protocol) serves rfl []
  obtain ⟨third, clientEnds⟩ := leads_client _ (read.bind fun welcome => .lift (accepts protocol welcome)) rfl []
  refine ⟨_, _, (clientWaits.trans serverEnds).trans clientEnds, final_of_done, ?_⟩
  have clientOk := accepts_welcome clientNode serverNode protocol supported
  exact ⟨_, serverResult, rfl, rfl, clientOk.trans serverOk.symm, clientOk.trans ⟨fun member => ⟨member, fits⟩, And.left⟩,
    fun _ => ⟨rfl, rfl⟩⟩

theorem settles (token : Option String)
    (lossless : json.Lossless (hello clientNode protocol) (welcome clientNode serverNode protocol supported)) :
    Settles json token clientNode serverNode protocol supported := by
  by_cases tokenFits : TokenFits token
  · by_cases helloFits : (json.encodeHello (hello clientNode protocol)).length ≤ maxHandshake
    · by_cases welcomeFits :
          (json.encodeWelcome (welcome clientNode serverNode protocol supported)).length ≤ maxHandshake
      · exact settles_of_fits lossless ⟨tokenFits, helloFits, welcomeFits⟩
      · exact settles_of_large_welcome lossless tokenFits helloFits welcomeFits
    · exact settles_of_large_hello tokenFits helloFits
  · exact settles_of_long json clientNode serverNode protocol supported tokenFits

end Setup

/-- Whatever the schedule, set-up comes to an end, and both sides to the same one: they accept
exactly if the protocol is supported and the token, the hello and the welcome fit, and then no
byte is left between them. And no client gets past the token without sending it. -/
theorem setup_agrees {json : SetupJson} {clientNode serverNode : String} {protocol : PeerProtocol}
    {supported : List PeerProtocol} (token : Option String)
    (lossless : json.Lossless (hello clientNode protocol) (Setup.welcome clientNode serverNode protocol supported)) :
    (∃ bound, ∀ length link, (machine (client json token clientNode protocol)
        (server json token serverNode supported)).Path (fun _ _ => True) length link → length ≤ bound) ∧
      (∀ length link, (machine (client json token clientNode protocol)
          (server json token serverNode supported)).Path (fun _ _ => True) length link →
        (machine (client json token clientNode protocol)
          (server json token serverNode supported)).Final link →
        Setup.Agreed (protocol ∈ supported ∧ Setup.Fits json token clientNode serverNode protocol supported) link) ∧
      ∀ expected input rest, (Setup.verifyToken (some expected)).reads input = .ok ((), rest) →
        input = bigEndian 2 (utf8 expected).length ++ utf8 expected ++ rest := by
  obtain ⟨bound, final, leads, ended, agreed⟩ := Setup.settles token lossless
  have ends (length : Nat) (link : Link String PeerWelcome PeerHello) (path : Machine.Path _ _ length link) :=
    (commuting _ _).ends leads ended path
  refine ⟨⟨bound, fun length link path => (ends length link path).1⟩, fun length link path stopped => ?_, ?_⟩
  · rw [(ends length link path).2 stopped]
    exact agreed
  · intro expected input rest verified
    rw [verifyToken_reads] at verified
    exact verifyToken_eq_ok verified

namespace Setup

def features : String := ",\"features\":[\"frames-v1\",\"socks5h\",\"tcp-connect\",\"udp-associate\"," ++
  "\"ssh-native-direct-tcpip\",\"quic-native-streams-v1\"],\"feature_bits\":\x7b\"frames-v1\":true," ++
  "\"quic-native-streams-v1\":true,\"socks5h\":true,\"ssh-native-direct-tcpip\":true,\"tcp-connect\":true," ++
  "\"udp-associate\":true\x7d,\"binary_version\":\"0.1.2\",\"os\":\"linux\",\"arch\":\"x86_64\""

def quoted (text : String) : String := "\"" ++ text ++ "\""

def helloText (hello : PeerHello) : Bytes := utf8 ("\x7b\"version\":" ++ toString hello.version.toNat ++ ",\"node\":" ++
  quoted hello.node ++ ",\"protocols\":[" ++ ",".intercalate (hello.protocols.map fun protocol => quoted protocol.display) ++
  "]" ++ features ++ "\x7d")

def welcomeText (welcome : PeerWelcome) : Bytes := utf8 ("\x7b\"version\":" ++ toString welcome.version.toNat ++ ",\"node\":" ++
  quoted welcome.node ++ ",\"accepted\":" ++ welcome.accepted.elim "null" (fun protocol => quoted protocol.display) ++ features ++
  ",\"message\":" ++ quoted welcome.message ++ "\x7d")

/-- What the two structs are written as where their texts need no escapes, and read back for these messages. -/
def plain : SetupJson where
  encodeHello := helloText
  decodeHello payload := [hello "client" .tlsTcp, hello "client" .tcp].find? fun hello => helloText hello = payload
  encodeWelcome := welcomeText
  decodeWelcome payload := [welcome "client" "server" .tlsTcp [.quic, .tlsTcp], welcome "client" "server" .tcp [.tcp]].find?
    fun welcome => welcomeText welcome = payload

end Setup

theorem setup_agrees_plain : ∃ length link, (machine (client plain (some "secret") "client" .tlsTcp)
      (server plain (some "secret") "server" [.quic, .tlsTcp])).Path (fun _ _ => True) length link ∧
    (∃ welcome hello, link.client = .done (.ok welcome) ∧ link.server = .done (.ok hello)) ∧
    link.toServer = [] ∧ link.toClient = [] := by
  have lossless : plain.Lossless (hello "client" .tlsTcp) (Setup.welcome "client" "server" .tlsTcp [.quic, .tlsTcp]) :=
    ⟨by decide +kernel, by decide +kernel⟩
  have fits : Setup.Fits plain (some "secret") "client" "server" .tlsTcp [.quic, .tlsTcp] := by
    refine ⟨fun text same => ?_, by decide +kernel, by decide +kernel⟩
    cases same
    decide +kernel
  obtain ⟨bound, final, leads, ended, _⟩ := Setup.settles (some "secret") lossless
  have path := Machine.Path.initial.leads leads
  obtain ⟨clientResult, serverResult, client, server, both, accepted, empty⟩ :=
    (setup_agrees (some "secret") lossless).2.1 _ final path ended
  have accepts : clientResult.isOk = true := accepted.mpr ⟨by decide, fits⟩
  refine ⟨_, final, path, ?_, empty accepts⟩
  cases clientResult with
  | error => cases accepts
  | ok welcome =>
    cases serverResult with
    | error => cases both.mp accepts
    | ok hello => exact ⟨welcome, hello, client, server⟩

/-- The length of a token has two bytes: with a longer one both ends fail, although the protocol is
supported. -/
theorem long_token_refused :
    let token := some (String.ofList (replicate 65536 'a'))
    plain.Lossless (hello "client" .tcp) (Setup.welcome "client" "server" .tcp [.tcp]) ∧ PeerProtocol.tcp ∈ [PeerProtocol.tcp] ∧
      ∃ length link, (machine (client plain token "client" .tcp)
          (server plain token "server" [.tcp])).Path (fun _ _ => True) length link ∧
        (machine (client plain token "client" .tcp)
          (server plain token "server" [.tcp])).Final link ∧
        ∃ error, link.client = .done (.error error) := by
  intro token
  have long : ¬ Setup.TokenFits token := by
    intro fits
    have short := fits _ rfl
    rw [length_utf8_replicate] at short
    revert short
    decide +kernel
  obtain ⟨bound, final, leads, ended, clientResult, _, client, _, _, accepted, _⟩ :=
    settles_of_long plain "client" "server" .tcp [.tcp] long
  refine ⟨⟨by decide +kernel, by decide +kernel⟩, mem_singleton.mpr rfl, 0 + bound, final,
    Machine.Path.initial.leads leads, ended, ?_⟩
  cases clientResult with
  | ok => exact (long (accepted.mp rfl).2.token).elim
  | error error => exact ⟨error, client⟩

end SshProxy
