import SshProxy.UdpAssociate

/-! Whom a UDP association serves. Every address it forwards for or replies to is that of
the control connection or of a datagram that arrived, so it keeps to its client exactly as
far as the network does: the tasks themselves never compare a source with the client. -/

namespace SshProxy.UdpAssociate
open Library

def sourceOf : UdpToRemote → Option SocketAddr
  | .received source _ | .sending source _ => some source
  | .receiving | .ended => none

def addrOf : RemoteToUdp → Option SocketAddr
  | .addressed _ addr => some addr
  | .waiting | .built _ | .ended => none

structure Within (good : SocketAddr → Prop) (state : UdpAssociate) : Prop where
  client : ∀ addr ∈ state.clientAddr, good addr
  received : ∀ source ∈ sourceOf state.udpToRemote, good source
  addressed : ∀ addr ∈ addrOf state.remoteToUdp, good addr
  forwarded : ∀ sent ∈ state.forwarded, good sent.1
  replied : ∀ sent ∈ state.replied, good sent.1

def arrivesWithin (good : SocketAddr → Prop) (_ : UdpAssociate) : UdpAssociateAction → Prop
  | .arrive source _ => good source
  | _ => True

theorem Within.next {good : SocketAddr → Prop} {state : UdpAssociate} (within : state.Within good) (text : IpText)
    {action : UdpAssociateAction} (arrives : arrivesWithin good state action) : (state.next text action).Within good := by
  obtain ⟨client, received, addressed, forwarded, replied⟩ := within
  cases action with
  | arrive source datagram => exact ⟨client, by rintro _ ⟨⟩; exact arrives, addressed, forwarded, replied⟩
  | receiveFails | forwardFails => exact ⟨client, nofun, addressed, forwarded, replied⟩
  | record =>
    cases task : state.udpToRemote with
    | received source bytes =>
      rw [task] at received
      have from_source := received source rfl
      simp only [UdpAssociate.next, task]
      refine ⟨by rintro _ ⟨⟩; exact from_source, ?_, addressed, forwarded, replied⟩
      cases UdpPacket.parse text bytes with
      | ok datagram => exact received
      | error error => exact nofun
    | receiving | sending | ended =>
      simp only [UdpAssociate.next, task]
      exact ⟨client, received, addressed, forwarded, replied⟩
  | forward =>
    cases task : state.udpToRemote with
    | sending source datagram =>
      rw [task] at received
      simp only [UdpAssociate.next, task]
      refine ⟨client, nofun, addressed, ?_, replied⟩
      intro sent member
      rcases List.mem_append.mp member with before | last
      · exact forwarded sent before
      · rw [List.mem_singleton.mp last]
        exact received source rfl
    | receiving | received | ended =>
      simp only [UdpAssociate.next, task]
      exact ⟨client, received, addressed, forwarded, replied⟩
  | reply packet =>
    refine ⟨client, received, ?_, forwarded, replied⟩
    simp only [UdpAssociate.next]
    cases UdpPacket.build text packet <;> exact nofun
  | bridgeEnds | sendFails => exact ⟨client, received, nofun, forwarded, replied⟩
  | readAddr =>
    cases task : state.remoteToUdp with
    | built response =>
      simp only [UdpAssociate.next, task]
      refine ⟨client, received, ?_, forwarded, replied⟩
      cases noted : state.clientAddr with
      | none => exact nofun
      | some addr =>
        rintro _ ⟨⟩
        exact client addr noted
    | waiting | addressed | ended =>
      simp only [UdpAssociate.next, task]
      exact ⟨client, received, addressed, forwarded, replied⟩
  | sendTo =>
    cases task : state.remoteToUdp with
    | addressed response addr =>
      rw [task] at addressed
      simp only [UdpAssociate.next, task]
      refine ⟨client, received, nofun, forwarded, ?_⟩
      intro sent member
      rcases List.mem_append.mp member with before | last
      · exact replied sent before
      · rw [List.mem_singleton.mp last]
        exact addressed addr rfl
    | waiting | built | ended =>
      simp only [UdpAssociate.next, task]
      exact ⟨client, received, addressed, forwarded, replied⟩
  | controlEnds => exact ⟨client, nofun, nofun, forwarded, replied⟩

theorem within_run {good : SocketAddr → Prop} {text : IpText} {controlAddr : IpAddr} {peer : SocketAddr}
    {state : UdpAssociate} (run : (machine text controlAddr peer).Run (arrivesWithin good) state) (known : good peer) :
    state.Within good := by
  apply run.invariant (Within good)
  · refine ⟨?_, nofun, nofun, nofun, nofun⟩
    rintro _ ⟨⟩
    exact known
  · intro state action _ within _ arrives
    exact within.next text arrives

/-- Nothing was forwarded for another address than the client's, and no reply went to one. -/
def ServesOnly (client : IpAddr) (state : UdpAssociate) : Prop :=
  (∀ sent ∈ state.forwarded, sent.1.ip = client) ∧ ∀ sent ∈ state.replied, sent.1.ip = client

instance (client : IpAddr) (state : UdpAssociate) : Decidable (state.ServesOnly client) :=
  inferInstanceAs (Decidable (_ ∧ _))

def arrivesFromClient (peer : SocketAddr) : UdpAssociate → UdpAssociateAction → Prop :=
  arrivesWithin fun source => source.ip = peer.ip

theorem servesOnly_client (text : IpText) (controlAddr : IpAddr) (peer : SocketAddr) (state : UdpAssociate)
    (run : (machine text controlAddr peer).Run (arrivesFromClient peer) state) : state.ServesOnly peer.ip := by
  have within := within_run run rfl
  exact ⟨within.forwarded, within.replied⟩

instance (peer : SocketAddr) (state : UdpAssociate) (action : UdpAssociateAction) :
    Decidable (arrivesFromClient peer state action) := by
  rcases action with _ | _ <;> dsimp only [arrivesFromClient, arrivesWithin] <;> infer_instance

/-- Hosts that are names: none of them reads as an address. -/
def namesOnly : IpText := { display := fun _ => "", parse := fun _ => none }

def client : SocketAddr := { ip := .v4 0xc0a80105, port := 40000 }

def stranger : SocketAddr := { ip := .v4 0xc0a80163, port := 5353 }

def query : Bytes := [0, 0, 0, 3, 1, 97, 0, 53, 97, 98, 99]

def answer : UdpDatagram := { host := "a", port := 53, data := [97] }

theorem client_served : ∃ state, (machine namesOnly (.v4 0xc0a80101) client).Run (arrivesFromClient client) state ∧
      state.forwarded.length = 1 ∧ state.replied.length = 1 ∧ state.ServesOnly client.ip := by
  obtain ⟨state, run, used⟩ := Machine.exists_run (machine namesOnly (.v4 0xc0a80101) client) (arrivesFromClient client)
    (fun state => state.forwarded.length = 1 ∧ state.replied.length = 1)
    [.arrive { client with port := 50000 } query, .record, .forward, .reply answer, .readAddr, .sendTo] (by decide)
  exact ⟨state, run, used.1, used.2, servesOnly_client _ _ _ state run⟩

/-- A stranger's datagram is forwarded, and the answer to the client goes to the stranger. -/
theorem stranger_served : ∃ state, (machine namesOnly (.v4 0xc0a80101) client).Reachable state ∧
      state.forwarded.map Prod.fst = [client, stranger] ∧ state.replied.map Prod.fst = [stranger] ∧
      ¬state.ServesOnly client.ip :=
  Machine.exists_run _ _ _
    [.arrive client query, .record, .forward, .arrive stranger query, .record, .forward, .reply answer, .readAddr, .sendTo]
    (by decide)

end SshProxy.UdpAssociate
