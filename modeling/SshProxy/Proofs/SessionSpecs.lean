import Mathlib.Data.List.TakeWhile
import SshProxy.Proofs.SessionStores
import SshProxy.SessionValue

/-! Which specs are told apart. They are compared by their serialised form, which forgets nothing. -/

namespace SshProxy
open Library ProxySessionSpec List Json

theorem portValue_inj {one other : UInt16} (same : portValue one = portValue other) : one = other := by
  have digits := number.inj same
  have read := Text.parseUnsigned_toString one.toNat_lt_size.le
  rw [digits, Text.parseUnsigned_toString other.toNat_lt_size.le] at read
  exact UInt16.toNat_inj.mp (Option.some.inj read).symm

theorem listValue_inj {one other : List Text} (same : listValue one = listValue other) : one = other := by
  unfold listValue at same
  split at same
  next empty =>
    split at same
    next none => rw [empty, none]
    next => cases same
  next =>
    split at same
    next => cases same
    next => exact map_injective_iff.mpr (fun _ _ => string.inj) (array.inj (Option.some.inj same))

theorem stringValue_inj {one other : Option Text} (same : one.map string = other.map string) : one = other :=
  Option.map_injective (fun _ _ => string.inj) same

theorem SshTargetSpec.toValue_inj {one other : SshTargetSpec} (same : one.toValue = other.toValue) : one = other := by
  have fields := present_inj (object.inj same) rfl (by simp)
  simp only [cons.injEq, Prod.mk.injEq, true_and, and_true] at fields
  obtain ⟨hostName, user, port, identity, config, knownHosts, jump, acceptNew⟩ := fields
  cases one
  cases other
  rw [SshTargetSpec.mk.injEq]
  refine ⟨stringValue_inj hostName, stringValue_inj user, Option.map_injective (fun _ _ => portValue_inj) port,
    listValue_inj identity, stringValue_inj config, stringValue_inj knownHosts, listValue_inj jump, ?_⟩
  split at acceptNew <;> split at acceptNew <;> simp_all

theorem SessionApplyPolicy.toValue_inj {one other : SessionApplyPolicy} (same : one.toValue = other.toValue) :
    one = other := by
  have fields := present_inj (object.inj same) rfl (by simp)
  simp only [cons.injEq, Prod.mk.injEq, true_and, and_true, Option.some.injEq, bool.injEq, string.injEq,
    String.toList_inj] at fields
  obtain ⟨⟨⟩, _⟩ := one
  obtain ⟨⟨⟩, _⟩ := other
  simp_all

theorem RouteConnectMode.toValue_inj {one other : RouteConnectMode} (same : one.toValue = other.toValue) :
    one = other := by
  have texts := string.inj same
  cases one <;> cases other <;> first | rfl | exact absurd texts (by decide)

/-- All that two ssh targets say but the keys to use. -/
structure SameButKeys (existing requested : SshTargetSpec) : Prop where
  hostName : existing.hostName = requested.hostName
  user : existing.user = requested.user
  port : existing.port = requested.port
  config : existing.config = requested.config
  knownHosts : existing.knownHosts = requested.knownHosts
  jump : existing.jump = requested.jump
  acceptNew : existing.acceptNew = requested.acceptNew

/-- Nothing but the port policy and the keys may differ. -/
structure SameButPorts (existing requested : ProxySessionSpec) : Prop where
  target : existing.target = requested.target
  workspaceId : existing.workspaceId = requested.workspaceId
  ssh : Option.Rel SameButKeys existing.ssh requested.ssh
  workspacePaths : existing.workspacePaths = requested.workspacePaths
  localProxy : existing.localProxy = requested.localProxy
  remoteBind : existing.remoteBind = requested.remoteBind
  connectMode : existing.connectMode = requested.connectMode
  applyPolicy : existing.applyPolicy = requested.applyPolicy

theorem map_identity_eq_iff {one other : Option SshTargetSpec} :
    one.map (fun ssh => { ssh with identity := [] }) = other.map (fun ssh => { ssh with identity := [] }) ↔
      Option.Rel SameButKeys one other := by
  constructor
  · intro same
    cases one with
    | none =>
      rw [Option.map_eq_none_iff.mp same.symm]
      exact .none
    | some ssh =>
      obtain ⟨other, rfl, fields⟩ := Option.map_eq_some_iff.mp same.symm
      obtain ⟨hostName, user, port, _, config, knownHosts, jump, acceptNew⟩ := SshTargetSpec.mk.inj fields
      exact .some ⟨hostName.symm, user.symm, port.symm, config.symm, knownHosts.symm, jump.symm, acceptNew.symm⟩
  · intro same
    cases same with
    | none => rfl
    | some same =>
      rw [Option.map_some, Option.map_some, same.hostName, same.user, same.port, same.config, same.knownHosts, same.jump,
        same.acceptNew]

theorem atSelectedPort_eq_iff (existing requested : ProxySessionSpec) (port : UInt16) :
    existing.atSelectedPort port = requested.atSelectedPort port ↔ SameButPorts existing requested := by
  constructor
  · intro same
    exact {
      target := congrArg (·.target) same
      workspaceId := congrArg (·.workspaceId) same
      ssh := map_identity_eq_iff.mp (congrArg (·.ssh) same)
      workspacePaths := congrArg (·.workspacePaths) same
      localProxy := congrArg (·.localProxy) same
      remoteBind := congrArg (·.remoteBind) same
      connectMode := congrArg (·.connectMode) same
      applyPolicy := congrArg (·.applyPolicy) same }
  · intro same
    unfold atSelectedPort withRemotePort withoutIdentity
    dsimp only
    rw [map_identity_eq_iff.mpr same.ssh, same.target, same.workspaceId, same.workspacePaths, same.localProxy,
      same.remoteBind, same.connectMode, same.applyPolicy]

section
variable {text : IpText} (faithful : ∀ ip, text.parse (text.display ip) = some ip)
include faithful

theorem display_inj {one other : IpAddr} (same : (text.display one).toList = (text.display other).toList) :
    one = other := by
  have read := faithful one
  rw [String.toList_inj.mp same, faithful] at read
  exact (Option.some.inj read).symm

theorem toValue_inj {one other : ProxySessionSpec} : one.toValue text = other.toValue text ↔ one = other := by
  refine ⟨?_, congrArg _⟩
  intro same
  have fields := present_inj (object.inj same) rfl (by simp)
  simp only [cons.injEq, Prod.mk.injEq, true_and, and_true, Option.some.injEq, string.injEq] at fields
  obtain ⟨target, workspaceId, ssh, paths, localProxy, remoteBind, policy, connectMode, applyPolicy⟩ := fields
  have policies := present_inj (object.inj policy) rfl (by simp)
  simp only [cons.injEq, Prod.mk.injEq, true_and, and_true, Option.some.injEq, bool.injEq] at policies
  obtain ⟨preferred, autoPick, rangeSize⟩ := policies
  obtain ⟨_, _, _, _, _, _, ⟨_, _, _⟩, _, _⟩ := one
  obtain ⟨_, _, _, _, _, _, ⟨_, _, _⟩, _, _⟩ := other
  rw [ProxySessionSpec.mk.injEq, RemotePortPolicy.mk.injEq]
  exact ⟨target, stringValue_inj workspaceId, Option.map_injective (fun _ _ => SshTargetSpec.toValue_inj) ssh,
    map_injective_iff.mpr (fun _ _ => String.toList_inj.mp) (listValue_inj paths), localProxy,
    display_inj faithful remoteBind, ⟨portValue_inj preferred, autoPick, portValue_inj rangeSize⟩,
    RouteConnectMode.toValue_inj connectMode, SessionApplyPolicy.toValue_inj applyPolicy⟩

/-- As long as an address can be read back, it makes no difference that the serialised values are compared. -/
theorem specsMatch_iff (existing requested : ProxySessionSpec) :
    specsMatch text existing requested ↔ proxySessionSpecsMatch existing requested = true := by
  unfold specsMatch proxySessionSpecsMatch matchAtSelectedPort
  simp only [toValue_inj faithful, decide_eq_true_eq]
  split
  next same => simp only [same, true_or, true_and]
  next different =>
    split
    next picked => simp only [different, picked.1, picked.2, and_self, or_true, true_and]
    next apart => simp only [different, apart, or_self, false_and]

end

theorem takeWhile_range (count bound : Nat) :
    (range count).takeWhile (fun offset => decide (offset < bound)) = range (min count bound) := by
  rcases Nat.le_total count bound with within | beyond
  · rw [Nat.min_eq_left within, takeWhile_eq_self_iff]
    intro offset listed
    exact decide_eq_true (Nat.lt_of_lt_of_le (mem_range.mp listed) within)
  · obtain ⟨more, rfl⟩ := Nat.exists_eq_add_of_le beyond
    rw [Nat.min_eq_right beyond, range_add, takeWhile_append_of_pos]
    · cases more with
      | zero => simp
      | succ more => simp [range_succ_eq_map]
    · intro offset listed
      exact decide_eq_true (mem_range.mp listed)

theorem candidates_toNat (policy : RemotePortPolicy) : policy.candidates.map (·.toNat) =
    range' policy.preferred.toNat
      (if policy.autoPick then min (max policy.rangeSize.toNat 1) (65536 - policy.preferred.toNat) else 1) := by
  have below : policy.preferred.toNat < 65536 := policy.preferred.toNat_lt_size
  have within (offset : Nat) : policy.preferred.toNat + offset < 2 ^ 16 ↔ offset < 65536 - policy.preferred.toNat := by
    omega
  have count : min (if policy.autoPick then max policy.rangeSize.toNat 1 else 1) (65536 - policy.preferred.toNat) =
      if policy.autoPick then min (max policy.rangeSize.toNat 1) (65536 - policy.preferred.toNat) else 1 := by
    split <;> omega
  unfold RemotePortPolicy.candidates
  simp only [within, takeWhile_range, count]
  generalize counted : (if policy.autoPick then min (max policy.rangeSize.toNat 1) (65536 - policy.preferred.toNat) else 1) = n
  have bounds : 0 < n ∧ policy.preferred.toNat + n ≤ 65536 := by
    rw [← counted]
    split <;> omega
  rw [if_neg (by simp; omega), map_map, range'_eq_map_range]
  apply map_congr_left
  intro offset listed
  have small := mem_range.mp listed
  have fits : policy.preferred.toNat + offset < 65536 := by omega
  exact UInt16.toNat_ofNat_of_lt fits

/-- The port policy and `ssh.identity` apart, two specs match where all they say is the same; the ports
to try are the consecutive ones from the preferred one on, up to the last there is. -/
theorem specs_match_and_candidates {text : IpText} (faithful : ∀ ip, text.parse (text.display ip) = some ip) :
    (∀ existing requested : ProxySessionSpec, specsMatch text existing requested ↔
      (existing.remotePortPolicy.preferred = requested.remotePortPolicy.preferred ∨
        requested.remotePortPolicy.autoPick = true ∧
          existing.remotePortPolicy.preferred ∈ requested.remotePortPolicy.candidates) ∧
      SameButPorts existing requested) ∧
    ∀ policy : RemotePortPolicy, policy.candidates ≠ [] ∧ policy.candidates.map (·.toNat) =
      range' policy.preferred.toNat
        (if policy.autoPick then min (max policy.rangeSize.toNat 1) (65536 - policy.preferred.toNat) else 1) := by
  refine ⟨?_, fun policy => ⟨candidates_ne_nil policy, candidates_toNat policy⟩⟩
  intro existing requested
  rw [specsMatch_iff faithful, proxySessionSpecsMatch, decide_eq_true_eq, atSelectedPort_eq_iff]

def keyedSpec (keys : List Text) (policy : RemotePortPolicy) : ProxySessionSpec where
  target := "host".toList
  workspaceId := none
  ssh := some { user := some "dev".toList, identity := keys }
  workspacePaths := []
  localProxy := "http://127.0.0.1:10808/".toList
  remoteBind := .v4 0x7f000001#32
  remotePortPolicy := policy
  connectMode := .reverseLink
  applyPolicy := {}

/-- A session at the last port that may be picked matches, whatever its key; one past it, or one of another
user, does not. -/
theorem specs_match_numeric : let requested := keyedSpec [] (.new 65530)
    let existing := keyedSpec ["/id".toList] (.fixed 65535)
    specsMatch numericText existing requested ∧ ¬ specsMatch numericText requested existing ∧
    ¬ specsMatch numericText { existing with ssh := some {} } requested ∧
    (RemotePortPolicy.new 65530).candidates.map (·.toNat) = range' 65530 6 := by
  intro requested existing
  obtain ⟨matched, ports⟩ := specs_match_and_candidates numericText_faithful
  refine ⟨(matched existing requested).mpr ⟨.inr ⟨rfl, by decide⟩, ?_⟩, ?_, ?_, (ports (.new 65530)).2⟩
  · exact ⟨rfl, rfl, .some ⟨rfl, rfl, rfl, rfl, rfl, rfl, rfl⟩, rfl, rfl, rfl, rfl, rfl⟩
  · intro same
    rcases ((matched _ _).mp same).1 with port | ⟨never, _⟩
    · cases port
    · cases never
  · intro same
    cases ((matched _ _).mp same).2.ssh with
    | some same => cases same.user

end SshProxy
