import SshProxy.NodeDaemon

/-! The two copies of the daemon's token. They agree, and requests need it, as long as the
daemon starts with one token, no handler has to make one, and every rotation is saved and
written through before the next. Each of these can fail: the copies then stay apart. -/

namespace SshProxy
open Library

theorem foldl_differences {pairs : List (UInt8 × UInt8)} {acc : UInt8} :
    pairs.foldl (fun acc (left, right) => acc ||| (left ^^^ right)) acc = 0 ↔
      acc = 0 ∧ ∀ pair ∈ pairs, pair.1 = pair.2 := by
  induction pairs generalizing acc with
  | nil => simp
  | cons pair pairs ih =>
    rw [List.foldl_cons, ih, UInt8.or_eq_zero_iff, UInt8.xor_eq_zero_iff, List.forall_mem_cons, and_assoc]

theorem utf8_injective {left right : String} (same : utf8 left = utf8 right) : left = right := by
  have decoded := ofUtf8_utf8 left
  rw [same, ofUtf8_utf8] at decoded
  exact (Option.some.inj decoded).symm

namespace NodeTokens

theorem tokenMatches_iff {provided expected : String} : tokenMatches provided expected = true ↔ provided = expected := by
  unfold tokenMatches
  constructor
  · intro passed
    split at passed
    · cases passed
    next length =>
      have pairs := (foldl_differences.mp (beq_iff_eq.mp passed)).2
      have equal : List.Forall₂ Eq (utf8 provided) (utf8 expected) :=
        List.forall₂_iff_zip.mpr ⟨not_not.mp length, fun mem => pairs _ mem⟩
      rw [List.forall₂_eq_eq_eq] at equal
      exact utf8_injective equal
  · rintro rfl
    rw [if_neg (by simp)]
    apply beq_iff_eq.mpr
    apply foldl_differences.mpr
    refine ⟨rfl, ?_⟩
    intro pair member
    have equal : List.Forall₂ Eq (utf8 provided) (utf8 provided) := List.forall₂_same.mpr fun _ _ => rfl
    exact (List.forall₂_iff_zip.mp equal).2 member

variable {manager : NodeTokens} {argsToken configToken : Option String}

/-- A token of the config that no call is about to change is the one in use, no request is
dispatched without it, and the rotations that failed have changed nothing. -/
def Agrees (manager : NodeTokens) : Prop :=
  (∀ token, manager.config = some token → manager.publishing = [] →
    manager.tokenValue = some token ∧ ∀ authToken, manager.dispatches authToken → authToken = some token) ∧
  ∀ failed ∈ manager.failedRotations, failed.configAfter = failed.configBefore ∧ failed.liveAfter = failed.liveBefore

/-- A rotation is saved, follows the last one's write, and finds a token to replace; the
other handlers find a token. -/
def keepsToken (manager : NodeTokens) : NodeAction → Prop
  | .rotateToken inputs =>
    manager.publishing = [] ∧ (inputs.generated.isOk = true → manager.config ≠ none ∧ inputs.saved.isOk = true)
  | .ensureLocalTransportToken inputs | .applyDaemonPeerDefaults inputs | .ensurePeer inputs =>
    manager.config ≠ none ∨ inputs.generated.isOk = false
  | .bindControl | .publish _ => True

/-- A token given on the command line is that of the config, if that has one. -/
def Consistent (argsToken configToken : Option String) : Prop :=
  argsToken = none ∨ configToken = none ∨ argsToken = configToken

structure Sound (manager : NodeTokens) : Prop where
  settled : manager.publishing = [] → manager.token = manager.config
  pending : manager.publishing = [] ∨ ∃ token, manager.publishing = [token] ∧ manager.config = some token
  present : manager.token.isSome = manager.config.isSome
  checked : ∀ requireAuth, manager.requireAuth = some requireAuth → requireAuth = manager.config.isSome
  failed : ∀ failed ∈ manager.failedRotations,
    failed.configAfter = failed.configBefore ∧ failed.liveAfter = failed.liveBefore

theorem Sound.initial (consistent : Consistent argsToken configToken) : (new argsToken configToken).Sound := by
  have same : (new argsToken configToken).token = (new argsToken configToken).config := by
    unfold new
    cases configToken with
    | none => cases argsToken <;> rfl
    | some token =>
      rcases consistent with rfl | missing | rfl
      · rfl
      · cases missing
      · rfl
  exact ⟨fun _ => same, .inl rfl, by rw [same], nofun, nofun⟩

theorem Sound.agrees (sound : manager.Sound) : manager.Agrees := by
  refine ⟨?_, sound.failed⟩
  intro token held idle
  have live : manager.token = some token := (sound.settled idle).trans held
  refine ⟨live, ?_⟩
  rintro authToken ⟨requireAuth, bound, passed⟩
  have required : requireAuth = true := by rw [sound.checked requireAuth bound, held, Option.isSome_some]
  simp only [authenticateRequest, required, tokenValue, live, Bool.not_true, Bool.false_eq_true, if_false] at passed
  cases authToken with
  | none => cases passed
  | some provided =>
    simp only at passed
    split at passed
    next matching => rw [tokenMatches_iff.mp matching]
    next => cases passed

theorem ensureDaemonToken_same {generated : Except String String} {token : Option String}
    (kept : token ≠ none ∨ generated.isOk = false) : (AppConfig.ensureDaemonToken generated token).2 = token := by
  cases token with
  | some token => rfl
  | none =>
    cases generated with
    | error error => rfl
    | ok fresh => simp [Except.isOk, Except.toBool] at kept

variable {inputs : HandlerInputs}

theorem ensureToken_same (kept : manager.config ≠ none ∨ inputs.generated.isOk = false) :
    (manager.ensureToken inputs).2 = manager := by
  unfold ensureToken
  split
  · show { manager with config := (AppConfig.ensureDaemonToken inputs.generated manager.config).2 } = manager
    rw [ensureDaemonToken_same kept]
  · rfl

theorem next_rotate_saved {fresh : String} (generated : inputs.generated = .ok fresh)
    (saved : inputs.saved = .ok ()) : manager.next (.rotateToken inputs) =
      { manager with config := some fresh, publishing := fresh :: manager.publishing } := by
  simp only [NodeTokens.next, rotateToken, AppConfig.rotateDaemonToken, generated, saved]
  rfl

theorem next_rotate_failed {error : String} (generated : inputs.generated = .error error) :
    manager.next (.rotateToken inputs) =
      { manager with
        failedRotations :=
          manager.failedRotations ++ [⟨manager.config, manager.token, manager.config, manager.token⟩] } := by
  simp only [NodeTokens.next, rotateToken, AppConfig.rotateDaemonToken, generated]
  rfl

theorem Sound.rotate (sound : manager.Sound) (kept : manager.keepsToken (.rotateToken inputs)) :
    (manager.next (.rotateToken inputs)).Sound := by
  obtain ⟨idle, saves⟩ := kept
  cases generated : inputs.generated with
  | error error =>
    rw [next_rotate_failed generated]
    refine ⟨sound.settled, sound.pending, sound.present, sound.checked, ?_⟩
    intro failed member
    rcases List.mem_append.mp member with earlier | last
    · exact sound.failed failed earlier
    · rw [List.mem_singleton.mp last]
      exact ⟨rfl, rfl⟩
  | ok fresh =>
    obtain ⟨held, saved⟩ := saves (by rw [generated]; rfl)
    cases outcome : inputs.saved with
    | error error =>
      rw [outcome] at saved
      cases saved
    | ok =>
      have present : manager.config.isSome = true := Option.isSome_iff_ne_none.mpr held
      rw [next_rotate_saved generated outcome]
      refine ⟨nofun, .inr ⟨fresh, by rw [idle], rfl⟩, sound.present.trans present, ?_, sound.failed⟩
      intro requireAuth bound
      exact (sound.checked requireAuth bound).trans present

theorem Sound.publish (sound : manager.Sound) {token : String} (member : token ∈ manager.publishing) :
    (manager.next (.publish token)).Sound := by
  rcases sound.pending with idle | ⟨pending, only, held⟩
  · rw [idle] at member
    cases member
  · rw [only] at member
    rw [← List.mem_singleton.mp member] at only held
    have emptied : manager.publishing.erase token = [] := by rw [only, List.erase_cons_head]
    exact ⟨fun _ => held.symm, .inl emptied, by rw [NodeTokens.next, held], sound.checked, sound.failed⟩

theorem Sound.next (sound : manager.Sound) {action : NodeAction} (enabled : manager.enabled action)
    (kept : manager.keepsToken action) : (manager.next action).Sound := by
  cases action with
  | bindControl =>
    refine ⟨sound.settled, sound.pending, sound.present, ?_, sound.failed⟩
    rintro _ ⟨⟩
    exact sound.present
  | rotateToken inputs => exact sound.rotate kept
  | publish token => exact sound.publish enabled
  | ensureLocalTransportToken inputs =>
    have same : (manager.ensureLocalTransportToken inputs).2 = manager := by
      show { manager with config := (AppConfig.ensureDaemonToken inputs.generated manager.config).2 } = manager
      rw [ensureDaemonToken_same kept]
    rw [NodeTokens.next, same]
    exact sound
  | applyDaemonPeerDefaults inputs =>
    simp only [NodeTokens.next, applyDaemonPeerDefaults]
    split
    · exact sound
    · rw [ensureToken_same kept]
      exact sound
  | ensurePeer inputs =>
    simp only [NodeTokens.next, ensurePeer]
    split
    · exact sound
    · rw [ensureToken_same kept]
      exact sound

theorem requests_need_token (argsToken configToken : Option String) (consistent : Consistent argsToken configToken)
    (manager : NodeTokens) (run : (machine argsToken configToken).Run keepsToken manager) : manager.Agrees := by
  have sound : manager.Sound := by
    apply run.invariant Sound
    · exact .initial consistent
    · intro manager action _ sound enabled kept
      exact sound.next enabled kept
  exact sound.agrees

theorem not_agrees {token : String} (held : manager.config = some token) (idle : manager.publishing = [])
    (apart : manager.token ≠ some token) : ¬manager.Agrees := fun agrees => apart (agrees.1 token held idle).1

def well (token : String) : HandlerInputs := { identity := .ok (), generated := .ok token, defaults := .ok (), saved := .ok () }

instance (manager : NodeTokens) (action : NodeAction) : Decidable (manager.keepsToken action) := by
  rcases action with _ | _ <;> dsimp only [keepsToken] <;> infer_instance

theorem rotated_token_needed :
    ∃ manager, (machine none (some "old")).Run keepsToken manager ∧ manager.config = some "new" ∧
      manager.requireAuth = some true ∧ manager.Agrees := by
  obtain ⟨manager, run, held, bound⟩ := Machine.exists_run (machine none (some "old")) keepsToken
    (fun manager => manager.config = some "new" ∧ manager.requireAuth = some true)
    [.bindControl, .rotateToken (well "new"), .publish "new", .ensureLocalTransportToken (well "other")] (by decide)
  exact ⟨manager, run, held, bound, requests_need_token none (some "old") (.inl rfl) manager run⟩

/-- A token made for a peer is not asked for; one that could not be saved is in the config
but not in use; and two rotations can write their tokens in the other order. -/
theorem tokens_apart :
    (∃ manager, (machine none none).Reachable manager ∧ manager.config = some "made" ∧ manager.dispatches none ∧
      ¬manager.Agrees) ∧
    (∃ manager, (machine none (some "old")).Reachable manager ∧
      manager.failedRotations = [⟨some "old", some "old", some "new", some "old"⟩] ∧ ¬manager.Agrees) ∧
    ∃ manager, (machine none (some "old")).Reachable manager ∧ manager.config = some "second" ∧
      manager.token = some "first" ∧ ¬manager.Agrees := by
  refine ⟨?_, ?_, ?_⟩
  · obtain ⟨manager, run, held, idle, live, bound⟩ := Machine.exists_reachable (machine none none)
      (fun manager => manager.config = some "made" ∧ manager.publishing = [] ∧ manager.token = none ∧
        manager.requireAuth = some false)
      [.bindControl, .ensureLocalTransportToken (well "made")] (by decide)
    exact ⟨manager, run, held, ⟨false, bound, rfl⟩, not_agrees held idle (by rw [live]; exact nofun)⟩
  · obtain ⟨manager, run, held, idle, live, failed⟩ := Machine.exists_reachable (machine none (some "old"))
      (fun manager => manager.config = some "new" ∧ manager.publishing = [] ∧ manager.token = some "old" ∧
        manager.failedRotations = [⟨some "old", some "old", some "new", some "old"⟩])
      [.bindControl, .rotateToken { well "new" with saved := .error "failed to write config" }] (by decide)
    exact ⟨manager, run, failed, not_agrees held idle (by rw [live]; decide)⟩
  · obtain ⟨manager, run, held, idle, live⟩ := Machine.exists_reachable (machine none (some "old"))
      (fun manager => manager.config = some "second" ∧ manager.publishing = [] ∧ manager.token = some "first")
      [.bindControl, .rotateToken (well "first"), .rotateToken (well "second"), .publish "second", .publish "first"]
      (by decide)
    exact ⟨manager, run, held, live, not_agrees held idle (by rw [live]; decide)⟩

end NodeTokens
end SshProxy
