import SshProxy.SharedState

/-! Callers that wait for a bridge. A caller looks at the slots before it makes the future
that `set_bridge` wakes, so a bridge announced in between is lost on it. Apart from that
window no wake-up is lost, and none of a shutdown: the future that the shutdown also wakes is
made before the flag is read. -/

namespace SshProxy.SharedState
open Library

variable {pool callers : Nat} {state : SharedState pool callers} {reconnect : Bool}

def Truthful (slot : BridgeSlot) : Prop :=
  match slot.phase with
  | .connecting | .cleared => slot.bridge = none ∧ slot.connected = false
  | .recorded _ => slot.bridge = none ∧ slot.connected = true
  | .installed | .serving => slot.bridge ≠ none ∧ slot.connected = true
  | .dropped => slot.connected = false

def holdsBridge (slot : BridgeSlot) : Prop := slot.bridge ≠ none ∧ slot.connected = true

theorem Truthful.offers {slot : BridgeSlot} (truthful : Truthful slot) (holds : holdsBridge slot) :
    slot.phase = .installed ∨ slot.phase = .serving := by
  unfold Truthful at truthful
  split at truthful
  case h_1 | h_2 => exact absurd truthful.1 holds.1
  case h_3 => exact absurd truthful.1 holds.1
  case h_4 phase => exact .inl phase
  case h_5 phase => exact .inr phase
  case h_6 =>
    rw [holds.2] at truthful
    cases truthful

theorem candidates_of_serving {slot : Fin pool} (truthful : Truthful (state.slots slot))
    (serving : (state.slots slot).phase = .serving) : state.candidates ≠ [] := by
  simp only [Truthful, serving] at truthful
  obtain ⟨handle, held⟩ := Option.ne_none_iff_exists'.mp truthful.1
  have found : ({ slot, handle }, (state.slots slot).activeStreams) ∈ state.candidates := by
    apply List.mem_filterMap.mpr
    exact ⟨slot, List.mem_finRange slot, by simp [held, truthful.2]⟩
  exact List.ne_nil_of_mem found

theorem available_ne_nil (some : state.candidates ≠ []) : state.available ≠ [] := by
  unfold available
  cases least : (state.candidates.map Prod.snd).min? with
  | none => exact absurd (List.map_eq_nil_iff.mp (List.min?_eq_none_iff.mp least)) some
  | some value =>
    obtain ⟨candidate, member, same⟩ := List.mem_map.mp (List.min?_mem least)
    have kept : candidate ∈ state.candidates.filter fun candidate => candidate.2 = value :=
      List.mem_filter.mpr ⟨member, by simpa using same⟩
    exact List.ne_nil_of_mem (List.mem_map_of_mem kept)

def Quiet (state : SharedState pool callers) : Prop := ∀ slot, (state.slots slot).phase ≠ .serving

/-- A requested shutdown has calls left that will wake everyone. -/
def Answered (state : SharedState pool callers) : Prop := state.shutdown = true → 0 < state.stored + state.announced

def Alert (quiet answered : Prop) (caller : BridgeCaller pool) : Prop :=
  match caller.phase with
  | .checked [] => quiet
  | .selecting => caller.notified = .woken ∨ caller.notified = .armed ∧ quiet
  | .flagRead | .waiting => caller.notified = .woken ∨ caller.notified = .armed ∧ quiet ∧ answered
  | _ => True

variable {quiet answered quiet' answered' : Prop} {caller : BridgeCaller pool}

theorem Alert.mono
    (alert : Alert quiet answered caller) (still : quiet → quiet') (kept : answered → answered') :
    Alert quiet' answered' caller := by
  unfold Alert at alert ⊢
  split at alert <;> tauto

theorem Alert.notify
    (alert : Alert quiet answered caller) (unregistered : caller.phase = .checked [] → quiet') :
    Alert quiet' answered' { caller with notified := caller.notified.notify } := by
  have woken : caller.notified = .woken ∨ caller.notified = .armed → caller.notified.notify = .woken := by
    rintro (woken | armed)
    · rw [woken]
      rfl
    · rw [armed]
      rfl
  unfold Alert at alert ⊢
  split
  case h_1 phase => exact unregistered phase
  case h_2 phase =>
    rw [phase] at alert
    exact .inl (woken (alert.imp_right And.left))
  case h_3 phase | h_4 phase =>
    rw [phase] at alert
    exact .inl (woken (alert.imp_right And.left))
  case h_5 => trivial

structure Coherent (state : SharedState pool callers) : Prop where
  truthful : ∀ slot, Truthful (state.slots slot)
  alert : ∀ caller, Alert state.Quiet state.Answered (state.callers caller)

theorem Coherent.initial : ({} : SharedState pool callers).Coherent := ⟨fun _ => ⟨rfl, rfl⟩, fun _ => trivial⟩

theorem Coherent.setCaller (coherent : state.Coherent) (caller : Fin callers) {value : BridgeCaller pool}
    (alert : Alert state.Quiet state.Answered value) : (state.setCaller caller value).Coherent := by
  refine ⟨coherent.truthful, ?_⟩
  intro other
  show Alert state.Quiet state.Answered (Function.update state.callers caller value other)
  by_cases same : other = caller
  · rwa [same, Function.update_self]
  · rw [Function.update_of_ne same]
    exact coherent.alert other

variable {value : BridgeSlot}

theorem truthful_setSlot (coherent : state.Coherent) (slot : Fin pool) (truthful : Truthful value)
    (other : Fin pool) : Truthful ((state.setSlot slot value).slots other) := by
  by_cases same : other = slot
  · subst same
    simpa [SharedState.setSlot] using truthful
  · simpa [SharedState.setSlot, same] using coherent.truthful other

theorem quiet_setSlot (quiet : state.Quiet) (slot : Fin pool) (unserved : value.phase ≠ .serving) :
    (state.setSlot slot value).Quiet := by
  intro other
  by_cases same : other = slot
  · subst same
    simpa [SharedState.setSlot] using unserved
  · simpa [SharedState.setSlot, same] using quiet other

theorem Coherent.setSlot (coherent : state.Coherent) (slot : Fin pool) (truthful : Truthful value)
    (unserved : state.Quiet → value.phase ≠ .serving) : (state.setSlot slot value).Coherent := by
  refine ⟨truthful_setSlot coherent slot truthful, ?_⟩
  intro caller
  exact (coherent.alert caller).mono (fun quiet => quiet_setSlot quiet slot (unserved quiet)) id

/-- No caller has looked at the slots in vain and not yet made its future when a bridge is announced. -/
def announcedToAll (state : SharedState pool callers) : SharedAction pool callers → Prop
  | .notify slot => (state.slots slot).phase = .installed → ∀ caller, (state.callers caller).phase ≠ .checked []
  | _ => True

theorem Coherent.proceed (coherent : state.Coherent) {caller : Fin callers} {found : List (BridgeSelection pool)}
    (phase : (state.callers caller).phase = .checked found) : (state.proceed reconnect caller found).Coherent := by
  unfold SharedState.proceed
  cases chosen : found[state.nextBridge.toNat % found.length]? with
  | some selection =>
    obtain ⟨truthful, alert⟩ := coherent.setCaller caller (show Alert _ _ { phase := .selected selection } from trivial)
    exact ⟨truthful, alert⟩
  | none =>
    have nothing : found = [] := by
      by_contra some
      have inside := Nat.mod_lt state.nextBridge.toNat (List.length_pos_iff.mpr some)
      exact absurd (List.getElem?_eq_none_iff.mp chosen) (by omega)
    subst nothing
    have quiet := coherent.alert caller
    rw [Alert, phase] at quiet
    apply coherent.setCaller
    split
    · exact .inr ⟨rfl, quiet⟩
    · trivial

theorem Coherent.notify (coherent : state.Coherent) {slot : Fin pool} (writes : (state.slots slot).phase.writesSlots = true)
    (guarded : announcedToAll state (.notify slot)) : (state.next reconnect (.notify slot)).Coherent := by
  have truthful := coherent.truthful slot
  cases phase : (state.slots slot).phase with
  | installed =>
    -- the bridge becomes one that is served, and everyone with a future hears of it
    simp only [Truthful, phase] at truthful
    simp only [SharedState.next, phase, if_true]
    refine ⟨truthful_setSlot coherent slot truthful, ?_⟩
    intro caller
    apply (coherent.alert caller).notify
    intro unregistered
    exact absurd unregistered (guarded phase caller)
  | cleared =>
    simp only [Truthful, phase] at truthful
    simp only [SharedState.next, phase, reduceCtorEq, if_false]
    refine ⟨truthful_setSlot coherent slot truthful, ?_⟩
    intro caller
    apply (coherent.alert caller).notify
    intro unregistered
    have quiet := coherent.alert caller
    rw [Alert, unregistered] at quiet
    exact quiet_setSlot quiet slot nofun
  | connecting | recorded | serving | dropped =>
    rw [phase] at writes
    cases writes

theorem Coherent.next (coherent : state.Coherent) {action : SharedAction pool callers} (enabled : state.enabled action)
    (guarded : announcedToAll state action) : (state.next reconnect action).Coherent := by
  cases action with
  | call caller | lockSlots caller | cancel caller
  | wake caller | wakeForShutdown caller => exact coherent.setCaller caller trivial
  | check caller =>
    apply coherent.setCaller
    cases found : state.available with
    | nil =>
      intro slot serving
      exact available_ne_nil (candidates_of_serving (coherent.truthful slot) serving) found
    | cons => trivial
  | proceed caller =>
    simp only [SharedState.next]
    split
    case h_1 found phase => exact coherent.proceed phase
    case h_2 => exact coherent
  | readFlag caller =>
    have phase : (state.callers caller).phase = .selecting := enabled
    have alert := coherent.alert caller
    rw [Alert, phase] at alert
    apply coherent.setCaller
    cases requested : state.shutdown with
    | true => trivial
    | false =>
      -- a shutdown requested from now on finds the future made before
      have unanswered : state.Answered := by
        intro shutdown
        rw [requested] at shutdown
        cases shutdown
      exact alert.imp_right fun armed => ⟨armed.1, armed.2, unanswered⟩
  | sleep caller =>
    have phase : (state.callers caller).phase = .flagRead := enabled
    have alert := coherent.alert caller
    rw [Alert, phase] at alert
    exact coherent.setCaller caller alert
  | recordConnected slot handle =>
    have truthful := coherent.truthful slot
    have phase : (state.slots slot).phase = .connecting := enabled
    simp only [Truthful, phase] at truthful
    exact coherent.setSlot slot ⟨truthful.1, rfl⟩ nofun
  | recordFailed slot | recordDisconnected slot =>
    exact coherent.setSlot slot (show Truthful { state.slots slot with connected := false, phase := .dropped } from rfl) nofun
  | install slot =>
    have truthful := coherent.truthful slot
    simp only [SharedState.next]
    split
    case h_1 handle phase =>
      simp only [Truthful, phase] at truthful
      exact coherent.setSlot slot ⟨nofun, truthful.2⟩ nofun
    case h_2 => exact coherent
  | clear slot =>
    have truthful := coherent.truthful slot
    have phase : (state.slots slot).phase = .dropped := enabled.1
    simp only [Truthful, phase] at truthful
    exact coherent.setSlot slot ⟨rfl, truthful⟩ nofun
  | notify slot => exact coherent.notify enabled guarded
  | setActive slot streams => exact coherent.setSlot slot (coherent.truthful slot) fun quiet => quiet slot
  | storeShutdown =>
    refine ⟨coherent.truthful, ?_⟩
    intro caller
    apply (coherent.alert caller).mono id
    intro _ _
    exact Nat.lt_of_lt_of_le (Nat.succ_pos state.stored) (Nat.le_add_right ..)
  | announceShutdown =>
    refine ⟨coherent.truthful, ?_⟩
    intro caller
    have alert : Alert state.Quiet True (state.callers caller) := (coherent.alert caller).mono id fun _ => trivial
    exact alert.mono id fun _ _ => Nat.lt_of_lt_of_le (Nat.succ_pos state.announced) (Nat.le_add_left ..)
  | notifyShutdown =>
    refine ⟨coherent.truthful, ?_⟩
    intro caller
    apply (coherent.alert caller).notify
    intro unregistered
    have quiet := coherent.alert caller
    rwa [Alert, unregistered] at quiet

/-- A wake-up for a caller that sleeps in `bridge()` has reached it or is still to be sent. -/
def WakeUpPending (state : SharedState pool callers) (caller : Fin callers) : Prop :=
  (state.callers caller).notified = .woken ∨ (state.callers caller).shutdownNotified = .woken ∨
    (∃ slot, (state.slots slot).phase.writesSlots = true) ∨ 0 < state.stored + state.announced

/-- Nobody sleeps through a connected bridge or a shutdown. -/
def NoLostWakeUp (state : SharedState pool callers) : Prop :=
  ∀ caller, (state.callers caller).phase = .waiting →
    (∃ slot, holdsBridge (state.slots slot)) ∨ state.shutdown = true → state.WakeUpPending caller

theorem Coherent.noLostWakeUp (coherent : state.Coherent) : state.NoLostWakeUp := by
  intro caller waiting reason
  have alert := coherent.alert caller
  rw [Alert, waiting] at alert
  rcases alert with woken | ⟨_, quiet, answered⟩
  · exact .inl woken
  · rcases reason with ⟨slot, holds⟩ | shutdown
    · rcases (coherent.truthful slot).offers holds with installed | serving
      · exact .inr (.inr (.inl ⟨slot, by rw [installed]; rfl⟩))
      · exact absurd serving (quiet slot)
    · exact .inr (.inr (.inr (answered shutdown)))

theorem no_wake_up_lost (reconnect : Bool) (pool callers : Nat) (state : SharedState pool callers)
    (run : (machine reconnect pool callers).Run announcedToAll state) : state.NoLostWakeUp := by
  have coherent : state.Coherent := by
    apply run.invariant Coherent
    · exact .initial
    · intro state action _ coherent enabled guarded
      exact coherent.next enabled guarded
  exact coherent.noLostWakeUp

instance (state : SharedState pool callers) (action : SharedAction pool callers) :
    Decidable (announcedToAll state action) := by
  rcases action with _ | _ <;> dsimp only [announcedToAll] <;> infer_instance

instance (slot : BridgeSlot) : Decidable (holdsBridge slot) := inferInstanceAs (Decidable (_ ∧ _))

instance (state : SharedState pool callers) (caller : Fin callers) : Decidable (state.WakeUpPending caller) :=
  inferInstanceAs (Decidable (_ ∨ _))

instance (state : SharedState pool callers) : Decidable state.NoLostWakeUp :=
  inferInstanceAs (Decidable (∀ _, _ → _ → _))

/-- A bridge that is announced while the caller sleeps wakes it. -/
theorem sleeping_caller_woken :
    ∃ state : SharedState 1 1, (machine true 1 1).Run announcedToAll state ∧ (state.callers 0).phase = .waiting ∧
      holdsBridge (state.slots 0) ∧ state.NoLostWakeUp := by
  obtain ⟨state, run, waiting, holds⟩ := Machine.exists_run (machine true 1 1) announcedToAll
    (fun state => (state.callers 0).phase = .waiting ∧ holdsBridge (state.slots 0))
    [.call 0, .lockSlots 0, .check 0, .proceed 0, .readFlag 0, .sleep 0, .recordConnected 0 7, .install 0, .notify 0]
    (by decide)
  exact ⟨state, run, waiting, holds, no_wake_up_lost true 1 1 state run⟩

/-- Announced between the caller's look at the slots and its future, the bridge is there and the caller sleeps on. -/
theorem announced_bridge_missed :
    ∃ state : SharedState 1 1, (machine true 1 1).Reachable state ∧ (state.callers 0).phase = .waiting ∧
      holdsBridge (state.slots 0) ∧ ¬state.NoLostWakeUp :=
  Machine.exists_reachable (machine true 1 1)
    (fun state => (state.callers 0).phase = .waiting ∧ holdsBridge (state.slots 0) ∧ ¬state.NoLostWakeUp)
    [.call 0, .lockSlots 0, .check 0, .recordConnected 0 7, .install 0, .notify 0, .proceed 0, .readFlag 0, .sleep 0]
    (by decide)

end SshProxy.SharedState
