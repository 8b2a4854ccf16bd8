import SshProxy.Proofs.UdpAssociateClient

/-! The packets of a UDP association. The codec returns what it was given with the host in
canonical form. The two tasks carry every packet in order, but each ends for good at the
first one that it cannot read or build. -/

namespace SshProxy
open Library Reader UdpAssociate

/-- An address is spelled as it is displayed, any other host as it stands. -/
def IpText.canonical (text : IpText) (host : String) : String := (text.parse host).elim host text.display

namespace UdpPacket
variable {text : IpText} {host : String} {rest : Bytes}

theorem readHost_hostField {field : Bytes} (spelled : hostField text host = .ok field) (rest : Bytes) :
    readHost text (field ++ rest) = .ok (text.canonical host, rest) := by
  unfold hostField at spelled
  rw [readHost, IpText.canonical]
  split at spelled
  case h_1 bits read =>
    cases spelled
    rw [List.cons_append, bind_of_ok (number_cons 1 _), read]
    show (number _ 4 >>= _) _ = _
    rw [bind_of_ok (number_append bits.isLt rest), BitVec.ofNat_toNat, BitVec.setWidth_eq]
    rfl
  case h_2 bits read =>
    cases spelled
    rw [List.cons_append, bind_of_ok (number_cons 4 _), read]
    show (number _ 16 >>= _) _ = _
    rw [bind_of_ok (number_append bits.isLt rest), BitVec.ofNat_toNat, BitVec.setWidth_eq]
    rfl
  case h_3 read =>
    split at spelled
    · cases spelled
    next short =>
      cases spelled
      have count : (UInt8.ofNat (utf8 host).length).toNat = (utf8 host).length :=
        UInt8.toNat_ofNat_of_lt' (Nat.lt_succ_of_le (not_lt.mp short))
      rw [List.cons_append, List.cons_append, bind_of_ok (number_cons 3 _), read]
      show (number _ 1 >>= _) _ = _
      rw [bind_of_ok (number_cons _ _), count, bind_of_ok (exactly_eq_ok.mpr ⟨rfl, rfl⟩),
        ofUtf8_utf8]
      rfl

variable {packet : UdpDatagram}

theorem parse_build {bytes : Bytes} (built : build text packet = .ok bytes) :
    parse text bytes = .ok { packet with host := text.canonical packet.host } := by
  obtain ⟨field, spelled, ⟨⟩⟩ := attempt_bind_eq_ok.mp built
  rw [parse, if_neg (by simp; omega), if_neg (by simp)]
  apply parse_of_ok
  show (readHost text >>= _) (field ++ _) = _
  rw [bind_of_ok (readHost_hostField spelled _),
    bind_of_ok (number_append packet.port.toNat_lt packet.data), UInt16.ofNat_toNat]
  rfl

theorem hostField_of_short (short : (utf8 host).length ≤ 255) : ∃ field, hostField text host = .ok field := by
  unfold hostField
  split
  · exact ⟨_, rfl⟩
  · exact ⟨_, rfl⟩
  · exact ⟨_, if_neg (not_lt.mpr short)⟩

theorem hostField_of_readHost (faithful : ∀ ip, text.parse (text.display ip) = some ip) {input : Bytes}
    (read : readHost text input = .ok (host, rest)) : ∃ field, hostField text host = .ok field := by
  have shown (ip : IpAddr) : ∃ field, hostField text (text.display ip) = .ok field := by
    cases ip <;> exact ⟨_, by rw [hostField, faithful]⟩
  obtain ⟨kind, middle, -, read⟩ := bind_eq_ok.mp read
  split at read
  case h_1 =>
    obtain ⟨octets, _, -, ⟨⟩⟩ := bind_eq_ok.mp read
    exact shown _
  case h_2 =>
    obtain ⟨count, _, counted, read⟩ := bind_eq_ok.mp read
    obtain ⟨name, _, taken, read⟩ := bind_eq_ok.mp read
    obtain ⟨-, length⟩ := exactly_eq_ok.mp taken
    obtain ⟨-, small⟩ := number_eq_ok.mp counted
    obtain ⟨decoded, -⟩ := lift_eq_ok.mp read
    cases found : ofUtf8 name with
    | none =>
      rw [found] at decoded
      cases decoded
    | some text =>
      rw [found] at decoded
      cases decoded
      rw [ofUtf8_eq_some.mp found] at length
      exact hostField_of_short (by omega)
  case h_3 =>
    obtain ⟨octets, _, -, ⟨⟩⟩ := bind_eq_ok.mp read
    exact shown _
  case h_4 => cases read

theorem hostField_of_parse (faithful : ∀ ip, text.parse (text.display ip) = some ip) {bytes : Bytes}
    (parsed : parse text bytes = .ok packet) : ∃ field, hostField text packet.host = .ok field := by
  unfold parse at parsed
  split at parsed <;> try split at parsed
  case isFalse.isFalse =>
    obtain ⟨_, read⟩ := parse_eq_ok.mp parsed
    obtain ⟨host, _, named, read⟩ := bind_eq_ok.mp read
    obtain ⟨port, _, -, ⟨⟩⟩ := bind_eq_ok.mp read
    exact hostField_of_readHost faithful named
  all_goals cases parsed

theorem parse_rebuilt (spelled : ∃ field, hostField text packet.host = .ok field) :
    ∃ bytes, build text packet = .ok bytes ∧
      parse text bytes = .ok { packet with host := text.canonical packet.host } := by
  obtain ⟨field, spelled⟩ := spelled
  have built : build text packet = .ok _ := attempt_bind_eq_ok.mpr ⟨field, spelled, rfl⟩
  exact ⟨_, built, parse_build built⟩

/-- Building and parsing are inverse up to the spelling of the host, whichever comes first. -/
theorem codec_laws (text : IpText) (faithful : ∀ ip, text.parse (text.display ip) = some ip) :
    (∀ packet : UdpDatagram, (utf8 packet.host).length ≤ 255 → ∃ bytes, build text packet = .ok bytes ∧
      parse text bytes = .ok { packet with host := text.canonical packet.host }) ∧
    ∀ bytes packet, parse text bytes = .ok packet → ∃ rebuilt, build text packet = .ok rebuilt ∧
      parse text rebuilt = .ok { packet with host := text.canonical packet.host } :=
  ⟨fun _ short => parse_rebuilt (hostField_of_short short),
    fun _ _ parsed => parse_rebuilt (hostField_of_parse faithful parsed)⟩

theorem codec_laws_numeric : ∃ bytes, build numericText ⟨"127.0.0.1", 53, [97]⟩ = .ok bytes ∧
    parse numericText bytes = .ok ⟨"127.0.0.1", 53, [97]⟩ :=
  (codec_laws numericText numericText_faithful).1 ⟨"127.0.0.1", 53, [97]⟩ (by decide +kernel)

end UdpPacket

/-- A task turned what it took into what it sent and what it holds, and ended at what it could
not turn or where the socket failed, which may lose what it holds. -/
structure Carried {α β : Type} (work : α → Option β) (failed : Prop) (taken : List α) (sent : List (SocketAddr × β))
    (held : List β) (ended : Bool) : Prop where
  out : ∃ lost, taken.filterMap work = sent.map Prod.snd ++ held ++ lost ∧ (lost = [] ∨ failed)
  ended : ended = true ↔ (∃ item ∈ taken, work item = none) ∨ failed

namespace Carried
variable {α β : Type} {work : α → Option β} {failed : Prop} {taken : List α} {sent : List (SocketAddr × β)} {held : List β}

theorem working (carried : Carried work failed taken sent held false) :
    taken.filterMap work = sent.map Prod.snd ++ held ∧ ¬ failed := by
  have works : ¬ failed := fun fails => Bool.false_ne_true (carried.ended.mpr (.inr fails))
  obtain ⟨lost, out, none⟩ := carried.out
  refine ⟨?_, works⟩
  rw [out, none.resolve_right works, List.append_nil]

theorem take (carried : Carried work failed taken sent [] false) (item : α) :
    Carried work failed (taken ++ [item]) sent (work item).toList (work item).isNone := by
  obtain ⟨out, works⟩ := carried.working
  refine ⟨⟨[], by cases found : work item <;> simp [out, found], .inl rfl⟩, ?_⟩
  rw [Option.isNone_iff_eq_none]
  refine ⟨fun fails => .inl ⟨item, by simp, fails⟩, fun either => ?_⟩
  obtain ⟨other, member, fails⟩ := either.resolve_right works
  rcases List.mem_append.mp member with before | last
  · cases carried.ended.mpr (.inl ⟨other, before, fails⟩)
  · rwa [List.mem_singleton.mp last] at fails

theorem send {item : β} (carried : Carried work failed taken sent [item] false) (addr : SocketAddr) :
    Carried work failed taken (sent ++ [(addr, item)]) [] false :=
  ⟨⟨[], by simp [carried.working.1], .inl rfl⟩, carried.ended⟩

theorem fail (carried : Carried work failed taken sent held false) : Carried work True taken sent [] true :=
  ⟨⟨held, by rw [List.append_nil, carried.working.1], .inr trivial⟩, by simp⟩

end Carried

namespace UdpToRemote

def unread : UdpToRemote → List Bytes
  | .received _ bytes => [bytes]
  | _ => []

def unsent : UdpToRemote → List UdpDatagram
  | .sending _ datagram => [datagram]
  | _ => []

def hasEnded : UdpToRemote → Bool
  | .ended => true
  | _ => false

end UdpToRemote

namespace RemoteToUdp

def unsent : RemoteToUdp → List Bytes
  | .built response | .addressed response _ => [response]
  | _ => []

def hasEnded : RemoteToUdp → Bool
  | .ended => true
  | _ => false

end RemoteToUdp

namespace UdpAssociate

def arrivals (steps : List UdpAssociateAction) : List Bytes :=
  steps.filterMap fun
    | .arrive _ datagram => some (datagram.take udpBuffer)
    | _ => none

def answers (steps : List UdpAssociateAction) : List UdpDatagram :=
  steps.filterMap fun
    | .reply packet => some packet
    | _ => none

/-- The control connection is open, and the bridge takes every datagram. -/
def forwards (_ : UdpAssociate × List UdpAssociateAction) : UdpAssociateAction → Prop
  | .forwardFails | .controlEnds => False
  | _ => True

/-- The control connection and the bridge are open. -/
def replies (_ : UdpAssociate × List UdpAssociateAction) : UdpAssociateAction → Prop
  | .bridgeEnds | .controlEnds => False
  | _ => True

def Forwards (text : IpText) (state : UdpAssociate) (steps : List UdpAssociateAction) : Prop :=
  ∃ read, arrivals steps = read ++ state.udpToRemote.unread ∧
    Carried (fun bytes => (UdpPacket.parse text bytes).toOption) (.receiveFails ∈ steps) read state.forwarded
      state.udpToRemote.unsent state.udpToRemote.hasEnded

def Replies (text : IpText) (state : UdpAssociate) (steps : List UdpAssociateAction) : Prop :=
  Carried (fun packet => (UdpPacket.build text packet).toOption) (.sendFails ∈ steps) (answers steps) state.replied
    state.remoteToUdp.unsent state.remoteToUdp.hasEnded

variable {text : IpText} {state : UdpAssociate} {steps : List UdpAssociateAction} {action : UdpAssociateAction}

theorem mem_snoc {event : UdpAssociateAction} : event ∈ steps ++ [action] ↔ event ∈ steps ∨ event = action := by simp

theorem forwards_next (kept : state.Forwards text steps) (enabled : state.enabled action)
    (guarded : forwards (state, steps) action) : (state.next text action).Forwards text (steps ++ [action]) := by
  unfold Forwards at kept ⊢
  rw [show arrivals (steps ++ [action]) = arrivals steps ++ arrivals [action] from List.filterMap_append]
  simp only [mem_snoc]
  cases action with
  | arrive source datagram =>
    obtain ⟨read, arrived, carried⟩ := kept
    rw [show state.udpToRemote = .receiving from enabled] at arrived carried
    simp only [reduceCtorEq, or_false]
    exact ⟨read, congrArg (· ++ _) (arrived.trans (List.append_nil read)), carried⟩
  | receiveFails =>
    obtain ⟨read, arrived, carried⟩ := kept
    rw [show state.udpToRemote = .receiving from enabled] at arrived carried
    simp only [or_true]
    exact ⟨read, congrArg (· ++ _) (arrived.trans (List.append_nil read)), carried.fail⟩
  | record =>
    obtain ⟨read, arrived, carried⟩ := kept
    cases task : state.udpToRemote with
    | received source bytes =>
      rw [task] at arrived carried
      have taken := carried.take bytes
      refine ⟨read ++ [bytes], ?_⟩
      simp only [next, task, reduceCtorEq, or_false, arrived]
      cases parsed : UdpPacket.parse text bytes with
      | ok | error =>
        rw [parsed] at taken
        exact ⟨rfl, taken⟩
    | receiving | sending | ended => simp [UdpAssociate.enabled, isReceived, task] at enabled
  | forward =>
    obtain ⟨read, arrived, carried⟩ := kept
    cases task : state.udpToRemote with
    | sending source datagram =>
      rw [task] at arrived carried
      refine ⟨read, ?_⟩
      simp only [next, task, reduceCtorEq, or_false]
      exact ⟨(List.append_nil _).trans arrived, carried.send source⟩
    | receiving | received | ended => simp [UdpAssociate.enabled, isSending, task] at enabled
  | reply | bridgeEnds | sendFails =>
    simp only [reduceCtorEq, or_false]
    exact (List.append_nil _).symm ▸ kept
  | readAddr | sendTo =>
    simp only [next, reduceCtorEq, or_false]
    split <;> exact (List.append_nil _).symm ▸ kept
  | forwardFails | controlEnds => exact guarded.elim

theorem replies_next (kept : state.clientAddr.isSome ∧ state.Replies text steps)
    (enabled : state.enabled action) (guarded : replies (state, steps) action) :
    (state.next text action).clientAddr.isSome ∧ (state.next text action).Replies text (steps ++ [action]) := by
  unfold Replies at kept ⊢
  rw [show answers (steps ++ [action]) = answers steps ++ answers [action] from List.filterMap_append]
  simp only [mem_snoc]
  have same : answers steps ++ [] = answers steps := List.append_nil _
  obtain ⟨known, carried⟩ := kept
  cases action with
  | reply packet =>
    rw [show state.remoteToUdp = .waiting from enabled] at carried
    have taken := carried.take packet
    refine ⟨known, ?_⟩
    simp only [next, reduceCtorEq, or_false]
    cases built : UdpPacket.build text packet with
    | ok | error =>
      rw [built] at taken
      exact taken
  | readAddr =>
    cases task : state.remoteToUdp with
    | built response =>
      obtain ⟨addr, noted⟩ := Option.isSome_iff_exists.mp known
      rw [task] at carried
      simp only [next, task, noted, reduceCtorEq, or_false]
      exact ⟨rfl, same.symm ▸ carried⟩
    | waiting | addressed | ended => simp [UdpAssociate.enabled, isBuilt, task] at enabled
  | sendTo =>
    cases task : state.remoteToUdp with
    | addressed response addr =>
      rw [task] at carried
      simp only [next, task, reduceCtorEq, or_false]
      exact ⟨known, same.symm ▸ carried.send addr⟩
    | waiting | built | ended => simp [UdpAssociate.enabled, isAddressed, task] at enabled
  | sendFails =>
    cases task : state.remoteToUdp with
    | addressed response addr =>
      rw [task] at carried
      simp only [next, or_true]
      exact ⟨known, same.symm ▸ carried.fail⟩
    | waiting | built | ended => simp [UdpAssociate.enabled, isAddressed, task] at enabled
  | arrive | receiveFails | forwardFails =>
    simp only [reduceCtorEq, or_false]
    exact ⟨known, same.symm ▸ carried⟩
  | record =>
    simp only [next, reduceCtorEq, or_false]
    split
    · exact ⟨rfl, same.symm ▸ carried⟩
    · exact ⟨known, same.symm ▸ carried⟩
  | forward =>
    simp only [next, reduceCtorEq, or_false]
    split <;> exact ⟨known, same.symm ▸ carried⟩
  | bridgeEnds | controlEnds => exact guarded.elim

/-- Each task carries what comes in order, and is still there as long as it could read or build
all of it and its socket has not failed. -/
theorem packets_carried (text : IpText) (controlAddr : IpAddr) (peer : SocketAddr) (state : UdpAssociate)
    (steps : List UdpAssociateAction) :
    ((machine text controlAddr peer).recorded.Run forwards (state, steps) → state.Forwards text steps) ∧
    ((machine text controlAddr peer).recorded.Run replies (state, steps) → state.Replies text steps) := by
  constructor
  · intro run
    refine run.invariant (fun reached => reached.1.Forwards text reached.2)
      ⟨[], rfl, ⟨[], rfl, .inl rfl⟩, by simp [start, UdpToRemote.hasEnded]⟩ ?_
    intro reached action _ kept enabled guarded
    exact forwards_next kept enabled guarded
  · intro run
    refine (run.invariant (fun reached => reached.1.clientAddr.isSome ∧ reached.1.Replies text reached.2)
      ⟨rfl, ⟨[], rfl, .inl rfl⟩, by simp [start, answers, RemoteToUdp.hasEnded]⟩ ?_).2
    intro reached action _ kept enabled guarded
    exact replies_next kept enabled guarded

instance (state : UdpAssociate × List UdpAssociateAction) (action : UdpAssociateAction) :
    Decidable (forwards state action) := by
  rcases action with _ | _ <;> dsimp only [forwards] <;> infer_instance

theorem query_carried : ∃ state steps, (machine namesOnly (.v4 0xc0a80101) client).recorded.Run forwards (state, steps) ∧
    state.Forwards namesOnly steps ∧ arrivals steps = [query] ∧ state.udpToRemote = .receiving := by
  obtain ⟨⟨state, steps⟩, run, arrived, task⟩ := Machine.exists_run
    (machine namesOnly (.v4 0xc0a80101) client).recorded forwards
    (fun reached => arrivals reached.2 = [query] ∧ reached.1.udpToRemote = .receiving)
    [.arrive client query, .record, .forward] (by decide +kernel)
  exact ⟨state, steps, run, (packets_carried namesOnly _ client state steps).1 run, arrived, task⟩

/-- A fragment ends the forwarding: the well-formed datagram behind it is never received. -/
theorem fragment_ends_forwarding : UdpPacket.parse namesOnly query = .ok ⟨"a", 53, [97, 98, 99]⟩ ∧ ∃ state steps,
    (machine namesOnly (.v4 0xc0a80101) client).recorded.Run forwards (state, steps) ∧ state.clientAddr = some client ∧
      state.forwarded = [] ∧ ¬ state.enabled (.arrive client query) := by
  refine ⟨by decide +kernel, ?_⟩
  obtain ⟨⟨state, steps⟩, run, found⟩ := Machine.exists_run
    (machine namesOnly (.v4 0xc0a80101) client).recorded forwards
    (fun reached => reached.1.clientAddr = some client ∧ reached.1.forwarded = [] ∧
      ¬ reached.1.enabled (.arrive client query)) [.arrive client [0, 0, 1, 3], .record] (by decide +kernel)
  exact ⟨state, steps, run, found⟩

end UdpAssociate
end SshProxy
