import SshProxy.Proofs.SpxTargets

/-! What a fixed-target tunnel writes to its client. As long as the stream to the target opens
it is a beginning of what the target sent. The page of a failed open is not. -/

namespace SshProxy
open Function Library SpxFixedTunnel List NativeTunnel

namespace TunnelClient
variable {client : TunnelClient}

def Plain (client : TunnelClient) : Prop :=
  match client.phase with
  | .opening => client.written = [] ∧ client.received = []
  | .greeting left => left = [] ∧ client.written = [] ∧ client.received = []
  | .refusing _ => client.up = false ∧ client.written = []
  | .relaying left => client.written ++ left = client.received
  | .over => client.written <+: client.received

namespace Plain

variable (plain : client.Plain)
include plain

theorem isPrefix : client.written <+: client.received := by
  unfold Plain at plain
  split at plain
  next => rw [plain.1]; exact nil_prefix
  next => rw [plain.2.1]; exact nil_prefix
  next => rw [plain.2]; exact nil_prefix
  next => exact plain ▸ prefix_append _ _
  next => exact plain

theorem opens (phase : client.phase = .opening) {response : TunnelResponse} (raw : response = .none) :
    (client.opens response).Plain := by
  rw [Plain, phase] at plain
  rw [raw]
  exact ⟨rfl, plain⟩

theorem refuses (phase : client.phase = .opening) (gone : client.up = false) (response : TunnelResponse) :
    (client.refuses response).Plain := by
  rw [Plain, phase] at plain
  exact ⟨gone, plain.1⟩

theorem receives (relaying : client.isRelaying = true) (data : Bytes) : (client.receives data).Plain := by
  cases phase : client.phase with
  | relaying left =>
    rw [Plain, phase] at plain
    change client.written ++ (client.phase.left ++ data) = client.received ++ data
    rw [phase, ← plain, append_assoc]
    rfl
  | _ => simp [isRelaying, phase] at relaying

theorem next {move : ClientMove} (enabled : client.enabled move) : (client.next move).Plain := by
  cases move with
  | leave => exact plain.isPrefix
  | gone =>
    unfold Plain at plain ⊢
    simp only [TunnelClient.next]
    split <;> simp_all
  | relay =>
    have phase : client.phase = .greeting [] := enabled
    rw [Plain, phase] at plain
    change client.written ++ [] = client.received
    rw [plain.2.1, plain.2.2]
    rfl
  | write count =>
    obtain ⟨up, some, most⟩ := enabled
    unfold Plain at plain ⊢
    simp only [TunnelClient.next]
    cases phase : client.phase with
    | relaying left =>
      simp only [phase] at plain
      change client.written ++ left.take count ++ left.drop count = client.received
      rw [append_assoc, take_append_drop, plain]
    | refusing left =>
      simp only [phase] at plain
      cases up.symm.trans plain.1
    | greeting left =>
      simp only [phase] at plain
      simp only [phase, ClientPhase.left, plain.1, length_nil] at most
      omega
    | _ =>
      simp only [phase, ClientPhase.left, length_nil] at most
      omega

end Plain
end TunnelClient

namespace NativeTunnel
variable {state : NativeTunnel} {move : NativeMove}

/-- The stream opens, or there is no client left to be told. -/
def Opens (state : NativeTunnel) : NativeMove → Prop
  | .openFailed => state.client.up = false
  | _ => True

structure Carries (state : NativeTunnel) : Prop where
  conduit : state.conduit.Sound
  relay : state.conduit.out = state.client.received
  client : state.client.Plain

theorem Carries.isPrefix (carries : state.Carries) : state.client.written <+: state.conduit.sent :=
  carries.client.isPrefix.trans (carries.relay ▸ carries.conduit.out_isPrefix)

theorem Carries.next {request : TunnelRequest} (raw : request.response = .none) (carries : state.Carries)
    (enabled : state.enabled move) (opens : state.Opens move) : (state.next request move).Carries := by
  cases move with
  | targetSends data => exact ⟨carries.conduit.feed data, carries.relay, carries.client⟩
  | pass index count => exact ⟨carries.conduit.pass index count, carries.relay, carries.client⟩
  | lost index keep => exact ⟨carries.conduit.cut index keep, carries.relay, carries.client⟩
  | openFailed => exact ⟨carries.conduit, carries.relay, carries.client.refuses enabled opens _⟩
  | opened => exact ⟨carries.conduit, carries.relay, carries.client.opens enabled raw⟩
  | recv count =>
    exact ⟨carries.conduit.emit count, congrArg (· ++ state.conduit.front.take count) carries.relay,
      carries.client.receives enabled.1 _⟩
  | client move =>
    have kept : (state.client.next move).received = state.client.received := by cases move <;> rfl
    exact ⟨carries.conduit, carries.relay.trans kept.symm, carries.client.next enabled⟩

theorem ssh_carries {request : TunnelRequest} (raw : request.response = .none)
    (run : (sshMachine request).Run Opens state) : state.Carries :=
  run.invariant Carries ⟨.empty rfl, rfl, ⟨rfl, rfl⟩⟩ fun _ _ _ carries enabled opens =>
    carries.next raw enabled opens

end NativeTunnel

namespace QuicFixedTunnel

def Opens (state : QuicFixedTunnel) : QuicFixedAction → Prop
  | .tunnel move => state.tunnel.Opens move
  | _ => True

theorem carries {request : TunnelRequest} (raw : request.response = .none) {state : QuicFixedTunnel}
    (run : (machine request).Run Opens state) : state.tunnel.Carries := by
  refine run.invariant (fun state => state.tunnel.Carries) ⟨.empty rfl, rfl, ⟨rfl, rfl⟩⟩
    fun state action _ carries enabled opens => ?_
  cases action with
  | tunnel move => exact carries.next raw enabled.1 opens
  | daemonConnects | daemonEnds => exact carries

end QuicFixedTunnel

namespace SpxFixedTunnel
variable {state : SpxFixedTunnel} {request : TunnelRequest} {egressProxy defaultEgressProxy : Option String}

/-- Bridge and stream are found, or there is no client left to be told; and the ids of the
bridge do not come round. -/
def Opens (state : SpxFixedTunnel) : SpxFixedAction → Prop
  | .noBridge | .openFailed => state.client.up = false
  | .openTcp => state.pair.bridge.allocated + 1 < 2 ^ 32
  | .pair (.bridge action) => action.allocates = true → state.pair.bridge.allocated + 1 < 2 ^ 32
  | _ => True

/-- What the client got is a beginning of what its own target has sent: the task of the helper
that is connected to that target for this call. -/
def Transparent (request : TunnelRequest) (state : SpxFixedTunnel) : Prop :=
  state.client.written = [] ∨ ∃ call task, state.call = some call ∧
    (state.pair.remote.tasks task).id = (state.pair.bridge.calls call).id ∧
    (state.pair.remote.tasks task).phase.answered = true ∧
    (state.pair.remote.tasks task).host = request.host ∧ (state.pair.remote.tasks task).port = request.port ∧
    state.client.written <+: state.targets task

structure Serves (request : TunnelRequest) (bridge : Bridge) (received : Bytes) (call : Nat) : Prop where
  started : 0 < (bridge.calls call).phase.rank
  host : (bridge.calls call).host = request.host
  port : (bridge.calls call).port = request.port
  taken : ∃ chunks, chunks.flatten = received ∧ (bridge.calls call).dataRx.Taken chunks

theorem Serves.next {bridge : Bridge} {received : Bytes} {call : Nat} (serves : Serves request bridge received call)
    (valid : bridge.Valid) {action : BridgeAction} (enabled : bridge.enabled action) (other : action ≠ .recv call) :
    Serves request (bridge.next action) received call := by
  have known := Nat.ne_of_lt (valid.known call serves.started)
  obtain ⟨host, port, channel⟩ := Bridge.next_callTarget enabled call known
  refine ⟨Nat.lt_of_lt_of_le serves.started (valid.advances enabled call serves.started).rank,
    host.trans serves.host, port.trans serves.port, ?_⟩
  obtain ⟨chunks, flat, taken⟩ := serves.taken
  rcases channel with same | feeds
  · exact ⟨chunks, flat, same ▸ taken⟩
  generalize ((bridge.next action).calls call).dataRx = after at feeds ⊢
  cases feeds with
  | recv => exact absurd rfl other
  | dropReceiver => exact ⟨chunks, flat, taken.dropReceiver⟩
  | deliver data ready => exact ⟨chunks, flat, taken.send ready data⟩

structure Traced (request : TunnelRequest) (defaultEgressProxy : Option String) (state : SpxFixedTunnel) : Prop where
  reached : (Pair.machine defaultEgressProxy).Reachable state.pair
  few : state.pair.bridge.allocated < 2 ^ 32
  tapped : state.pair.Tapped state.targets
  client : state.client.Plain
  own : ∀ call, state.call = some call → Serves request state.pair.bridge state.client.received call
  uncalled : state.call = none → state.client.received = []

namespace Traced

theorem initial (request : TunnelRequest) (egressProxy defaultEgressProxy : Option String) :
    Traced request defaultEgressProxy (machine request egressProxy defaultEgressProxy).initial where
  reached := .initial
  few := Nat.two_pow_pos 32
  tapped := ⟨fun _ started => absurd started (Nat.lt_irrefl 0), fun _ _ => rfl⟩
  client := ⟨rfl, rfl⟩
  own _ called := by cases called
  uncalled _ := rfl

variable (traced : Traced request defaultEgressProxy state)
include traced

theorem coherent : state.pair.Coherent :=
  .of_reachable traced.reached

theorem pair {action : PairAction} (enabled : state.enabled (.pair action)) (opens : state.Opens (.pair action)) :
    Traced request defaultEgressProxy (state.next request egressProxy (.pair action)) where
  reached := traced.reached.step enabled.1 trivial
  few := by
    cases action with
    | bridge action => exact Bridge.next_few traced.few opens
    | _ => exact traced.few
  tapped := traced.tapped.next traced.coherent traced.few enabled.1
  client := traced.client
  own call called := by
    have serves := traced.own call called
    cases action with
    | bridge action =>
      refine serves.next traced.coherent.bridge enabled.1.1 ?_
      rintro rfl
      have foreign := enabled.2
      simp [isOwnRecv, show state.call = some call from called] at foreign
    | _ => exact serves
  uncalled := traced.uncalled

theorem openTcp (enabled : state.enabled .openTcp) (opens : state.Opens .openTcp) :
    Traced request defaultEgressProxy (state.next request egressProxy .openTcp) := by
  have asks : state.pair.enabled (.bridge (.openTcp request.host request.port egressProxy)) :=
    ⟨trivial, nil_prefix⟩
  refine ⟨traced.reached.step asks trivial, Bridge.next_few traced.few fun _ => opens,
    traced.tapped.next traced.coherent traced.few asks, traced.client, fun call called => ?_, nofun⟩
  cases called
  have fresh := Bridge.openTcp_call state.pair.bridge request.host request.port egressProxy
  refine ⟨?_, ?_, ?_, [], (traced.uncalled enabled.2).symm, ?_⟩ <;> simp only [next, Pair.next, fresh]
  · exact Nat.succ_pos 0
  · exact .fresh

theorem recv (enabled : state.enabled .recv) :
    Traced request defaultEgressProxy (state.next request egressProxy .recv) := by
  obtain ⟨relaying, returned, waiting⟩ := enabled
  cases called : state.call with
  | none =>
    simp only [queue, called] at waiting
    exact absurd rfl waiting
  | some call =>
    simp only [phase, queue, called] at returned waiting
    obtain ⟨data, rest, queued⟩ := exists_cons_of_ne_nil waiting
    have takes : state.pair.enabled (.bridge (.recv call)) := ⟨returned, nil_prefix⟩
    simp only [next, called, queue, queued, headD_cons]
    refine ⟨traced.reached.step takes trivial, Bridge.next_few traced.few nofun,
      traced.tapped.next traced.coherent traced.few takes,
      traced.client.receives (by rw [TunnelClient.isRelaying, relaying]) data, fun other same => ?_, nofun⟩
    cases same
    obtain ⟨started, host, port, chunks, flat, taken⟩ := traced.own call called
    refine ⟨?_, ?_, ?_, chunks ++ [data], ?_, ?_⟩ <;>
      simp only [Pair.next, Bridge.next, Bridge.setCall, update_self]
    · exact started
    · exact host
    · exact port
    · simp only [TunnelClient.receives, flatten_append, flatten_singleton, flat]
    · exact taken.recv queued

theorem next (raw : request.response = .none) {action : SpxFixedAction} (enabled : state.enabled action)
    (opens : state.Opens action) : Traced request defaultEgressProxy (state.next request egressProxy action) := by
  cases action with
  | pair action => exact traced.pair enabled opens
  | openTcp => exact traced.openTcp enabled opens
  | recv => exact traced.recv enabled
  | noBridge | openFailed =>
    exact { traced with client := traced.client.refuses enabled.1 opens _ }
  | opened => exact { traced with client := traced.client.opens enabled.1 raw }
  | client move =>
    have kept : (state.client.next move).received = state.client.received := by cases move <;> rfl
    exact { traced with
      client := traced.client.next enabled
      own := fun call called => kept ▸ traced.own call called
      uncalled := fun called => kept.trans (traced.uncalled called) }

theorem transparent : state.Transparent request := by
  cases called : state.call with
  | none =>
    have nothing := traced.client.isPrefix
    rw [traced.uncalled called] at nothing
    exact .inl (prefix_nil.mp nothing)
  | some call =>
    obtain ⟨started, host, port, chunks, flat, taken⟩ := traced.own call called
    have coherent := traced.coherent
    have carried := Pair.Carried.of_reachable traced.reached traced.few
    have delivered : chunks <+: payloads (state.pair.bridge.calls call).id state.pair.sentToBridge :=
      taken.isPrefix.trans (carried.toCalls.delivered_isPrefix call)
    by_cases silent : ∀ data, .data (state.pair.bridge.calls call).id data ∉ state.pair.sentToBridge
    · rw [Pair.payloads_eq_nil silent, prefix_nil] at delivered
      have nothing := traced.client.isPrefix
      rw [← flat, delivered] at nothing
      exact .inl (prefix_nil.mp nothing)
    · obtain ⟨data, sent⟩ := not_forall_not.mp silent
      obtain ⟨task, serving, answered⟩ := coherent.replies _ data sent
      have taskStarted := Nat.lt_of_lt_of_le (Nat.succ_pos 3) (TaskPhase.answered_rank answered)
      obtain ⟨taskHost, taskPort⟩ :=
        (Pair.Named.of_reachable traced.reached).target coherent traced.few started taskStarted serving
      obtain ⟨lost, whole, _⟩ := traced.tapped.sent task taskStarted
      refine .inr ⟨call, task, called, serving, answered, taskHost.trans host, taskPort.trans port, ?_⟩
      calc state.client.written
        _ <+: chunks.flatten := flat ▸ traced.client.isPrefix
        _ <+: (payloads (state.pair.bridge.calls call).id state.pair.sentToBridge).flatten := delivered.flatten
        _ <+: state.targets task := by
          rw [← whole, serving]
          exact prefix_append _ _

end Traced

theorem traced_of_run (raw : request.response = .none)
    (run : (machine request egressProxy defaultEgressProxy).Run Opens state) :
    Traced request defaultEgressProxy state :=
  run.invariant (Traced request defaultEgressProxy) (.initial request egressProxy defaultEgressProxy)
    fun _ _ _ traced enabled opens => traced.next raw enabled opens

end SpxFixedTunnel

theorem fixed_target_transparent (host : String) (port : UInt16) (egressProxy defaultEgressProxy : Option String) :
    (∀ state, (machine (handleFixedTarget host port) egressProxy defaultEgressProxy).Run
      SpxFixedTunnel.Opens state → state.Transparent (handleFixedTarget host port)) ∧
    (∀ state, (sshMachine (handleFixedTarget host port)).Run NativeTunnel.Opens state →
      state.client.written <+: state.conduit.sent) ∧
    ∀ state, (QuicFixedTunnel.machine (handleFixedTarget host port)).Run QuicFixedTunnel.Opens state →
      state.tunnel.client.written <+: state.tunnel.conduit.sent := by
  refine ⟨fun state run => ?spx, fun state run => ?ssh, fun state run => ?quic⟩
  case spx => exact (traced_of_run rfl run).transparent
  case ssh => exact (ssh_carries rfl run).isPrefix
  case quic => exact (QuicFixedTunnel.carries rfl run).isPrefix

instance (state : NativeTunnel) (move : NativeMove) : Decidable (state.Opens move) := by
  unfold NativeTunnel.Opens
  split <;> infer_instance

instance (state : QuicFixedTunnel) (action : QuicFixedAction) : Decidable (state.Opens action) := by
  rcases action with _ | _ <;> dsimp only [QuicFixedTunnel.Opens] <;> infer_instance

instance (state : SpxFixedTunnel) (action : SpxFixedAction) : Decidable (state.Opens action) := by
  unfold SpxFixedTunnel.Opens
  split <;> infer_instance

def SpxFixedTunnel.opening : List SpxFixedAction := [
  .openTcp, .pair (.bridge (.insertPending 0)), .pair (.bridge (.insertStream 0)), .pair (.bridge (.sendOpen 0)),
  .pair (.remote (.read (.openTcp 1 "db" 5432 none))), .pair (.remote (.connect 0)), .pair (.remote (.insertStream 0)),
  .pair (.remote (.sendResult 0)), .pair (.bridge (.read (.openTcpResult 1 true ""))), .pair (.bridge (.takeAnswer 0)),
  .opened, .client .relay]

/-- A target that greets, and a client that has read half of the greeting, over each transport. -/
theorem fixed_target_transparent_greeting :
    (∃ state, (machine (handleFixedTarget "db" 5432) none none).Run SpxFixedTunnel.Opens state ∧
      state.client.written = [104] ∧ state.Transparent (handleFixedTarget "db" 5432)) ∧
    (∃ state, (sshMachine (handleFixedTarget "db" 5432)).Run NativeTunnel.Opens state ∧
      state.client.written = [104] ∧ state.client.written <+: state.conduit.sent) ∧
    ∃ state, (QuicFixedTunnel.machine (handleFixedTarget "db" 5432)).Run QuicFixedTunnel.Opens state ∧
      state.tunnel.client.written = [104] ∧ state.tunnel.client.written <+: state.tunnel.conduit.sent := by
  obtain ⟨spx, ssh, quic⟩ := fixed_target_transparent "db" 5432 none none
  refine ⟨?_, ?_, ?_⟩
  · obtain ⟨state, run, written⟩ := Machine.exists_run
      (machine (handleFixedTarget "db" 5432) none none) SpxFixedTunnel.Opens
      (fun state => state.client.written = [104])
      (opening ++ [.pair (.remote (.sendData 0 [104, 105])), .pair (.bridge (.read (.data 1 [104, 105]))),
        .pair (.bridge .deliver), .recv, .client (.write 1)])
      (by decide +kernel)
    exact ⟨state, run, written, spx state run⟩
  · obtain ⟨state, run, written⟩ := Machine.exists_run
      (sshMachine (handleFixedTarget "db" 5432)) NativeTunnel.Opens
      (fun state => state.client.written = [104])
      [.opened, .client .relay, .targetSends [104, 105], .recv 2, .client (.write 1)]
      (by decide +kernel)
    exact ⟨state, run, written, ssh state run⟩
  · obtain ⟨state, run, written⟩ := Machine.exists_run
      (QuicFixedTunnel.machine (handleFixedTarget "db" 5432)) QuicFixedTunnel.Opens
      (fun state => state.tunnel.client.written = [104])
      [.tunnel .opened, .tunnel (.client .relay), .daemonConnects, .tunnel (.targetSends [104, 105]),
        .tunnel (.pass 1 2), .tunnel (.pass 0 2), .tunnel (.recv 2), .tunnel (.client (.write 1))]
      (by decide +kernel)
    exact ⟨state, run, written, quic state run⟩

/-- A tunnel that cannot be opened sends its client an HTTP response, over each transport. -/
theorem failed_open_writes_http :
    (∃ state, (machine (handleFixedTarget "db" 5432) none none).Reachable state ∧
      state.client.written = httpError 502 "Bad Gateway" ∧ state.call = none ∧
      ¬ state.Transparent (handleFixedTarget "db" 5432)) ∧
    (∃ state, (sshMachine (handleFixedTarget "db" 5432)).Reachable state ∧
      state.client.written = httpError 502 "Bad Gateway" ∧ ¬ state.client.written <+: state.conduit.sent) ∧
    ∃ state, (QuicFixedTunnel.machine (handleFixedTarget "db" 5432)).Reachable state ∧
      state.tunnel.client.written = httpError 502 "Bad Gateway" ∧
      ¬ state.tunnel.client.written <+: state.tunnel.conduit.sent := by
  have page : httpError 502 "Bad Gateway" ≠ [] := by decide +kernel
  refine ⟨?_, ?_, ?_⟩
  · obtain ⟨state, run, written, uncalled⟩ := Machine.exists_reachable
      (machine (handleFixedTarget "db" 5432) none none)
      (fun state => state.client.written = httpError 502 "Bad Gateway" ∧ state.call = none)
      [.noBridge, .client (.write (httpError 502 "Bad Gateway").length)]
      (by decide +kernel)
    refine ⟨state, run, written, uncalled, ?_⟩
    rintro (nothing | ⟨call, _, called, _⟩)
    · exact page (written.symm.trans nothing)
    · cases uncalled.symm.trans called
  · refine Machine.exists_reachable (sshMachine (handleFixedTarget "db" 5432))
      (fun state => state.client.written = httpError 502 "Bad Gateway" ∧ ¬ state.client.written <+: state.conduit.sent)
      [.openFailed, .client (.write (httpError 502 "Bad Gateway").length)] (by decide +kernel)
  · refine Machine.exists_reachable (QuicFixedTunnel.machine (handleFixedTarget "db" 5432))
      (fun state => state.tunnel.client.written = httpError 502 "Bad Gateway" ∧
        ¬ state.tunnel.client.written <+: state.tunnel.conduit.sent)
      [.tunnel .openFailed, .tunnel (.client (.write (httpError 502 "Bad Gateway").length))] (by decide +kernel)

end SshProxy
