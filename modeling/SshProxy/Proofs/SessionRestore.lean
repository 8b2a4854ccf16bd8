import SshProxy.Proofs.SessionPool

/-! What a session is restored to from its record, which keeps all of the spec but the connect mode
and the policy about the port. -/

namespace SshProxy
open Library ProxySessionSpec ProxySessionRecord

/-- The record restores to the spec, and a request with that spec matches it. -/
structure ProxySessionRecord.Restores (text : IpText) (spec : ProxySessionSpec) (record : ProxySessionRecord) : Prop where
  read : record.toSpec text = some spec
  matched : matchesExisting text spec (some record) = true

def ProxySessionSpec.restored (spec : ProxySessionSpec) : ProxySessionSpec :=
  { spec with remotePortPolicy := .new spec.remotePortPolicy.preferred, connectMode := .reverseLink }

theorem restored_eq_iff {spec : ProxySessionSpec} : spec.restored = spec ↔
    spec.connectMode = .reverseLink ∧ spec.remotePortPolicy = .new spec.remotePortPolicy.preferred := by
  constructor
  · intro same
    exact ⟨(congrArg (·.connectMode) same).symm, (congrArg (·.remotePortPolicy) same).symm⟩
  · rintro ⟨mode, policy⟩
    unfold restored
    rw [← policy, ← mode]

theorem restored_match_iff {spec : ProxySessionSpec} :
    proxySessionSpecsMatch spec.restored spec = true ↔ spec.connectMode = .reverseLink := by
  unfold proxySessionSpecsMatch
  rw [decide_eq_true_eq]
  constructor
  · rintro ⟨_, same⟩
    exact (congrArg (·.connectMode) same).symm
  · intro mode
    refine ⟨.inl rfl, ?_⟩
    unfold restored atSelectedPort withRemotePort withoutIdentity
    rw [← mode]

section
variable {text : IpText} {spec : ProxySessionSpec} {record : ProxySessionRecord}

theorem restores_iff (read : record.toSpec text = some spec.restored) : record.Restores text spec ↔
      spec.connectMode = .reverseLink ∧ spec.remotePortPolicy = .new spec.remotePortPolicy.preferred := by
  have found : matchesExisting text spec (some record) = proxySessionSpecsMatch spec.restored spec := by
    unfold matchesExisting
    rw [Option.bind_some, read]
  constructor
  · intro restores
    rw [← restored_eq_iff]
    exact Option.some.inj (read.symm.trans restores.read)
  · intro kept
    refine ⟨read.trans (congrArg some (restored_eq_iff.mpr kept)), ?_⟩
    rw [found, restored_match_iff]
    exact kept.1

variable (reads : text.parse (text.display spec.remoteBind) = some spec.remoteBind)
include reads

theorem toSpec_ofSpecAndJob (now : Nat) (job : JobRecord) :
    (ofSpecAndJob text now spec job).toSpec text = some spec.restored := by
  unfold toSpec ofSpecAndJob
  rw [reads]
  rfl

theorem toSpec_updateFromJob (job : JobRecord) (record : ProxySessionRecord) :
    (record.updateFromJob text spec job).toSpec text = some spec.restored := by
  unfold toSpec updateFromJob
  dsimp only
  rw [reads]
  rfl

end

/-- A new record and one that is brought up to date restore to the spec they were written from if and
only if that is for a reverse link with the usual policy about the port. -/
theorem record_restores_iff {text : IpText} {spec : ProxySessionSpec}
    (reads : text.parse (text.display spec.remoteBind) = some spec.remoteBind) (job : JobRecord) (now : Nat)
    (record : ProxySessionRecord) : ((ofSpecAndJob text now spec job).Restores text spec ∧
      (record.updateFromJob text spec job).Restores text spec) ↔
    spec.connectMode = .reverseLink ∧ spec.remotePortPolicy = .new spec.remotePortPolicy.preferred := by
  rw [restores_iff (toSpec_ofSpecAndJob reads now job), restores_iff (toSpec_updateFromJob reads job record), and_self]

def hostJob (spec : ProxySessionSpec) : JobRecord :=
  (JobRecord.new 0 spec.jobId .ensureProxySession).withRemoteUrl (some (spec.remoteUrl loopbackText))

theorem record_restores_iff_host :
    (ofSpecAndJob loopbackText 0 hostSpec (hostJob hostSpec)).Restores loopbackText hostSpec ∧
      ((ofSpecAndJob loopbackText 0 hostSpec (hostJob hostSpec)).updateFromJob loopbackText hostSpec
        (hostJob hostSpec)).Restores loopbackText hostSpec :=
  (record_restores_iff rfl (hostJob hostSpec) 0 _).mpr ⟨rfl, rfl⟩

def autoSpec : ProxySessionSpec := { hostSpec with connectMode := .auto }

/-- The spec of a request that leaves the connect mode to the daemon is not the one that it is
restored to, and does not match that. -/
theorem auto_record_not_restored : (hostJob autoSpec).remoteUrl = some (autoSpec.remoteUrl loopbackText) ∧
    (ofSpecAndJob loopbackText 0 autoSpec (hostJob autoSpec)).toSpec loopbackText ≠ some autoSpec ∧
    matchesExisting loopbackText autoSpec
      (some (ofSpecAndJob loopbackText 0 autoSpec (hostJob autoSpec))) = false := by
  refine ⟨rfl, ?_, ?_⟩
  · decide
  · decide

end SshProxy
