import SshProxy.SpxTunnels
import SshProxy.Proofs.BridgeWakeUp

/-! The load counters of the SPX pool. A worker resets the counter of its slot when its bridge
is lost, while tunnels of that bridge are still to lower it, and a tunnel that cannot write its
reply leaves without lowering it. Apart from these the counter is the number of tunnels of the
bridge in the slot. -/

namespace SshProxy
open Library Function SpxPool SpxTunnel List

def CallerPhase.found {pool : Nat} : CallerPhase pool → List (BridgeSelection pool)
  | .checked available => available
  | .selected selection => [selection]
  | _ => []

theorem CallerPhase.found_of_outcome {pool : Nat} {phase : CallerPhase pool} {selection : BridgeSelection pool}
    (outcome : phase.outcome = some (.ok selection)) : selection ∈ phase.found := by
  cases phase <;> cases outcome
  exact mem_singleton.mpr rfl

namespace SharedState
variable {pool callers : Nat} {state : SharedState pool callers} {reconnect : Bool}

def Current (slots : Fin pool → BridgeSlot) (selection : BridgeSelection pool) : Prop :=
  (slots selection.slot).bridge = some selection.handle ∧ (slots selection.slot).connected = true

theorem current_of_available {selection : BridgeSelection pool} (found : selection ∈ state.available) :
    Current state.slots selection := by
  unfold available at found
  split at found
  next => cases found
  next =>
    obtain ⟨⟨offered, streams⟩, member, rfl⟩ := mem_map.mp found
    obtain ⟨slot, _, made⟩ := mem_filterMap.mp (mem_filter.mp member).1
    split at made
    next => cases made
    next handle bridge =>
      split at made
      next connected =>
        cases made
        exact ⟨bridge, connected⟩
      next => cases made

inductive SlotStep : BridgeSlot → BridgeSlot → Prop where
  | connected {slot : BridgeSlot} (handle : Nat) (phase : slot.phase = .connecting) :
      SlotStep slot { slot with connected := true, activeStreams := 0, phase := .recorded handle }
  | failed {slot : BridgeSlot} (phase : slot.phase = .connecting) :
      SlotStep slot { slot with connected := false, activeStreams := 0, phase := .dropped }
  | disconnected {slot : BridgeSlot} (phase : slot.phase = .serving) :
      SlotStep slot { slot with connected := false, activeStreams := 0, phase := .dropped }
  | installed {slot : BridgeSlot} {handle : Nat} (phase : slot.phase = .recorded handle) :
      SlotStep slot { slot with bridge := some handle, phase := .installed }
  | cleared {slot : BridgeSlot} (phase : slot.phase = .dropped) :
      SlotStep slot { slot with bridge := none, phase := .cleared }
  | notified {slot : BridgeSlot} (phase : slot.phase.writesSlots = true) :
      SlotStep slot { slot with phase := if slot.phase = .installed then .serving else .connecting }

def Looks (state after : SharedState pool callers) : Prop :=
  after.slots = state.slots ∧ ∀ caller, ∀ selection ∈ (after.callers caller).phase.found,
    selection ∈ (state.callers caller).phase.found ∨ selection ∈ state.available

def Works (state after : SharedState pool callers) (slot : Fin pool) : Prop :=
  ∃ value, SlotStep (state.slots slot) value ∧ after.slots = update state.slots slot value ∧
    ∀ caller, (after.callers caller).phase = (state.callers caller).phase

theorem looks_of_phase {after : SharedState pool callers} (slots : after.slots = state.slots)
    (same : ∀ caller, (after.callers caller).phase = (state.callers caller).phase) : state.Looks after :=
  ⟨slots, fun caller _ found => .inl (same caller ▸ found)⟩

theorem looks_setCaller {caller : Fin callers} {value : BridgeCaller pool} (finds : ∀ selection ∈ value.phase.found,
      selection ∈ (state.callers caller).phase.found ∨ selection ∈ state.available) :
    state.Looks (state.setCaller caller value) := by
  refine ⟨rfl, fun other selection found => ?_⟩
  by_cases self : other = caller
  · subst self
    simp only [setCaller, update_self] at found
    exact finds selection found
  · simp only [setCaller, update_of_ne self] at found
    exact .inl found

theorem looks_proceed {caller : Fin callers} {found : List (BridgeSelection pool)}
    (phase : (state.callers caller).phase = .checked found) : state.Looks (state.proceed reconnect caller found) := by
  unfold proceed
  split
  next selection chosen =>
    have looks : state.Looks (state.setCaller caller { phase := .selected selection }) := by
      refine looks_setCaller fun other selected => .inl ?_
      rw [mem_singleton.mp selected, phase]
      exact mem_of_getElem? chosen
    exact ⟨looks.1, looks.2⟩
  next =>
    cases reconnect <;> exact looks_setCaller nofun

theorem next_cases {action : SharedAction pool callers} (enabled : state.enabled action)
    (keeps : ∀ slot streams, action ≠ .setActive slot streams) : state.Looks (state.next reconnect action) ∨
      ∃ slot, state.Works (state.next reconnect action) slot ∧
        ((state.slots slot).phase = .serving → action = .recordDisconnected slot) := by
  cases action with
  | call caller | lockSlots caller | sleep caller | wake caller | wakeForShutdown caller | cancel caller =>
    exact .inl (looks_setCaller nofun)
  | readFlag caller =>
    refine .inl (looks_setCaller ?_)
    cases state.shutdown <;> exact nofun
  | check caller => exact .inl (looks_setCaller fun _ found => .inr found)
  | proceed caller =>
    simp only [SharedState.next]
    split
    next found phase => exact .inl (looks_proceed phase)
    next => exact .inl (looks_of_phase rfl fun _ => rfl)
  | recordConnected slot handle =>
    have phase : (state.slots slot).phase = .connecting := enabled
    exact .inr ⟨slot, ⟨_, .connected handle phase, rfl, fun _ => rfl⟩, by simp [phase]⟩
  | recordFailed slot =>
    have phase : (state.slots slot).phase = .connecting := enabled
    exact .inr ⟨slot, ⟨_, .failed phase, rfl, fun _ => rfl⟩, by simp [phase]⟩
  | recordDisconnected slot => exact .inr ⟨slot, ⟨_, .disconnected enabled, rfl, fun _ => rfl⟩, fun _ => rfl⟩
  | install slot =>
    simp only [SharedState.next]
    split
    next handle phase => exact .inr ⟨slot, ⟨_, .installed phase, rfl, fun _ => rfl⟩, by simp [phase]⟩
    next => exact .inl (looks_of_phase rfl fun _ => rfl)
  | clear slot =>
    have phase : (state.slots slot).phase = .dropped := enabled.1
    exact .inr ⟨slot, ⟨_, .cleared phase, rfl, fun _ => rfl⟩, by simp [phase]⟩
  | notify slot =>
    have writes : (state.slots slot).phase.writesSlots = true := enabled
    refine .inr ⟨slot, ⟨_, .notified writes, rfl, fun _ => rfl⟩, fun serving => ?_⟩
    rw [serving] at writes
    cases writes
  | setActive slot streams => exact (keeps slot streams rfl).elim
  | storeShutdown | announceShutdown | notifyShutdown => exact .inl (looks_of_phase rfl fun _ => rfl)

variable {slot value : BridgeSlot}

theorem SlotStep.truthful (step : SlotStep slot value) (truthful : Truthful slot) : Truthful value := by
  cases step with
  | connected handle phase =>
    simp only [Truthful, phase] at truthful ⊢
    exact ⟨truthful.1, trivial⟩
  | failed | disconnected => rfl
  | installed phase =>
    simp only [Truthful, phase] at truthful ⊢
    exact ⟨Option.some_ne_none _, truthful.2⟩
  | cleared phase =>
    simp only [Truthful, phase] at truthful ⊢
    exact ⟨trivial, truthful⟩
  | notified writes =>
    cases phase : slot.phase with
    | installed | cleared =>
      simp only [Truthful, phase] at truthful ⊢
      exact truthful
    | connecting | recorded | serving | dropped =>
      rw [phase] at writes
      cases writes

theorem SlotStep.offered (step : SlotStep slot value) (truthful : Truthful slot) (offers : holdsBridge slot)
    (kept : slot.phase ≠ .serving) :
    value.bridge = slot.bridge ∧ value.connected = slot.connected ∧ value.activeStreams = slot.activeStreams := by
  have installed : slot.phase = .installed := (truthful.offers offers).resolve_right kept
  cases step with
  | notified => exact ⟨rfl, rfl, rfl⟩
  | connected _ phase | failed phase | disconnected phase | installed phase | cleared phase =>
    rw [installed] at phase
    cases phase

theorem SlotStep.activeStreams (step : SlotStep slot value) : value.activeStreams = slot.activeStreams ∨
      value.activeStreams = 0 ∧ (slot.phase = .connecting ∨ slot.phase = .serving) := by
  cases step with
  | connected _ phase | failed phase => exact .inr ⟨rfl, .inl phase⟩
  | disconnected phase => exact .inr ⟨rfl, .inr phase⟩
  | installed | cleared | notified => exact .inl rfl

end SharedState

namespace SpxTunnel
variable {pool : Nat}

def selection : SpxTunnel pool → Option (BridgeSelection pool)
  | .opening selection | .opened selection | .recorded selection | .relaying selection | .closing selection
  | .closed selection => some selection
  | .selecting | .returned _ => none

/-- The tunnel is opened and has not ended: `record_worker_tcp_open` has counted it, and neither
`record_worker_tcp_close` nor a return has come after. -/
def runs : SpxTunnel pool → Option (BridgeSelection pool)
  | .recorded selection | .relaying selection | .closing selection | .closed selection => some selection
  | .selecting | .opening _ | .opened _ | .returned _ => none

theorem selection_of_runs {tunnel : SpxTunnel pool} {selection : BridgeSelection pool}
    (runs : tunnel.runs = some selection) : tunnel.selection = some selection := by
  cases tunnel <;> first | exact runs | cases runs

theorem after_cases {outcome : Option (Except BridgeError (BridgeSelection pool))} {tunnel after : SpxTunnel pool}
    {move : TunnelMove} (moved : tunnel.after outcome move = some after) (replied : move ≠ .replyFails) :
    (∃ selection, move = .take ∧ outcome = some (.ok selection) ∧ tunnel = .selecting ∧ after = .opening selection) ∨
      (∃ selection, move = .recordOpen ∧ tunnel = .opened selection ∧ after = .recorded selection) ∨
      (∃ selection, move = .recordClose ∧ tunnel = .closed selection ∧ after = .returned (some true)) ∨
      (∀ (callers : Nat) (state : SharedState pool callers) caller, state.onMove caller move tunnel = state) ∧
        after.runs = tunnel.runs ∧ after ≠ .returned (some false) ∧
        ∀ selection, after.selection = some selection → tunnel.selection = some selection := by
  unfold SpxTunnel.after at moved
  split at moved
  next =>
    split at moved
    next selection => cases moved; exact .inl ⟨selection, rfl, rfl, rfl, rfl⟩
    next => cases moved
  next =>
    split at moved
    next => cases moved; exact .inr (.inr (.inr ⟨fun _ _ _ => rfl, rfl, nofun, nofun⟩))
    next => cases moved
  next selection => cases moved; exact .inr (.inr (.inr ⟨fun _ _ _ => rfl, rfl, nofun, nofun⟩))
  next selection => cases moved; exact .inr (.inr (.inr ⟨fun _ _ _ => rfl, rfl, nofun, fun _ same => same⟩))
  next selection => cases moved; exact .inr (.inl ⟨selection, rfl, rfl, rfl⟩)
  next selection => cases moved; exact .inr (.inr (.inr ⟨fun _ _ _ => rfl, rfl, nofun, fun _ same => same⟩))
  next => exact (replied rfl).elim
  next selection => cases moved; exact .inr (.inr (.inr ⟨fun _ _ _ => rfl, rfl, nofun, fun _ same => same⟩))
  next selection => cases moved; exact .inr (.inr (.inr ⟨fun _ _ _ => rfl, rfl, nofun, fun _ same => same⟩))
  next selection => cases moved; exact .inr (.inr (.inl ⟨selection, rfl, rfl, rfl⟩))
  next => cases moved

def runsOn (slot : Fin pool) (tunnel : SpxTunnel pool) : Bool := tunnel.runs.any fun selection => decide (selection.slot = slot)

def runsThrough (slot : Fin pool) (bridge : Option Nat) (tunnel : SpxTunnel pool) : Bool :=
  tunnel.runs.any fun selection => decide (selection.slot = slot ∧ some selection.handle = bridge)

end SpxTunnel

namespace SpxPool
variable {pool tunnels : Nat} {state : SpxPool pool tunnels} {reconnect : Bool}

def held (state : SpxPool pool tunnels) (tunnel : Fin tunnels) : List (BridgeSelection pool) :=
  (state.shared.callers tunnel).phase.found ++ (state.tunnels tunnel).selection.toList

/-- Replies can be written, and the bridge of a slot is lost only while no tunnel that has found
it or works with it is on its way. -/
def undisturbed (state : SpxPool pool tunnels) : SpxAction pool tunnels → Prop
  | .tunnel _ .replyFails => False
  | .shared (.recordDisconnected slot) => ∀ tunnel, ∀ selection ∈ state.held tunnel, selection.slot ≠ slot
  | _ => True

structure Settled (state : SpxPool pool tunnels) : Prop where
  truthful : ∀ slot, SharedState.Truthful (state.shared.slots slot)
  current : ∀ tunnel, ∀ selection ∈ state.held tunnel, SharedState.Current state.shared.slots selection
  exact : ∀ slot, (state.shared.slots slot).activeStreams = numberOf fun tunnel => (state.tunnels tunnel).runsOn slot
  flows : ∀ tunnel, state.tunnels tunnel ≠ .returned (some false)

variable {tunnel : Fin tunnels}

theorem Settled.runs_current (settled : state.Settled) {selection : BridgeSelection pool}
    (runs : (state.tunnels tunnel).runs = some selection) : SharedState.Current state.shared.slots selection := by
  apply settled.current tunnel
  rw [held, selection_of_runs runs]
  exact mem_append_right _ (mem_singleton.mpr rfl)

theorem Settled.initial : ({} : SpxPool pool tunnels).Settled where
  truthful _ := ⟨rfl, rfl⟩
  current := nofun
  exact _ := (numberOf_eq_zero fun _ => rfl).symm
  flows := nofun

variable {shared : SharedState pool tunnels}

theorem Settled.looks (settled : state.Settled) (looks : state.shared.Looks shared) :
    Settled { state with shared } := by
  obtain ⟨slots, finds⟩ := looks
  refine ⟨fun slot => slots ▸ settled.truthful slot, fun tunnel selection member => ?_, fun slot => ?_, settled.flows⟩
  · rw [slots]
    obtain found | works := mem_append.mp member
    · obtain before | offered := finds tunnel selection found
      · exact settled.current tunnel selection (mem_append_left _ before)
      · exact SharedState.current_of_available offered
    · exact settled.current tunnel selection (mem_append_right _ works)
  · rw [slots]
    exact settled.exact slot

theorem Settled.works (settled : state.Settled) {slot : Fin pool} (works : state.shared.Works shared slot)
    (spared : (state.shared.slots slot).phase = .serving →
      ∀ tunnel, ∀ selection ∈ state.held tunnel, selection.slot ≠ slot) :
    Settled { state with shared } := by
  obtain ⟨value, step, slots, same⟩ := works
  -- A tunnel that holds the bridge of the slot finds it as it was.
  have offered : ∀ tunnel, ∀ selection ∈ state.held tunnel, selection.slot = slot →
      (state.shared.slots slot).phase = .installed ∧ value.bridge = (state.shared.slots slot).bridge ∧
        value.connected = (state.shared.slots slot).connected := by
    intro tunnel selection member here
    have current := settled.current tunnel selection member
    rw [SharedState.Current, here] at current
    have offers : SharedState.holdsBridge (state.shared.slots slot) := ⟨by rw [current.1]; nofun, current.2⟩
    have kept : (state.shared.slots slot).phase ≠ .serving := fun serving => spared serving tunnel selection member here
    obtain ⟨bridge, connected, _⟩ := step.offered (settled.truthful slot) offers kept
    exact ⟨((settled.truthful slot).offers offers).resolve_right kept, bridge, connected⟩
  refine ⟨fun other => ?_, fun tunnel selection member => ?_, fun other => ?_, settled.flows⟩
  · rw [slots]
    by_cases self : other = slot
    · subst self
      rw [update_self]
      exact step.truthful (settled.truthful other)
    · rw [update_of_ne self]
      exact settled.truthful other
  · have before : selection ∈ state.held tunnel := by
      simpa only [held, same tunnel] using member
    have current := settled.current tunnel selection before
    rw [slots]
    by_cases here : selection.slot = slot
    · obtain ⟨_, bridge, connected⟩ := offered tunnel selection before here
      simp only [SharedState.Current, here, update_self, bridge, connected] at current ⊢
      exact current
    · simpa only [SharedState.Current, update_of_ne here] using current
  · rw [slots]
    by_cases self : other = slot
    · subst self
      rw [update_self]
      obtain kept | ⟨reset, phase⟩ := step.activeStreams
      · exact kept.trans (settled.exact other)
      · rw [reset]
        refine (numberOf_eq_zero fun tunnel => ?_).symm
        simp only [runsOn, Option.any_eq_false]
        intro selection runs
        refine decide_eq_false fun here => ?_
        have member : selection ∈ state.held tunnel :=
          mem_append_right _ (by rw [selection_of_runs runs]; exact mem_singleton.mpr rfl)
        have installed := (offered tunnel selection member here).1
        rw [installed] at phase
        obtain phase | phase := phase <;> cases phase
    · rw [update_of_ne self]
      exact settled.exact other

theorem numberOf_runsOn (running : Fin tunnels → SpxTunnel pool) (tunnel : Fin tunnels) (after : SpxTunnel pool)
    (slot : Fin pool) : numberOf (fun other => (update running tunnel after other).runsOn slot) +
        ((running tunnel).runsOn slot).toNat =
      numberOf (fun other => (running other).runsOn slot) + (after.runsOn slot).toNat :=
  numberOf_update (fun _ (tunnel : SpxTunnel pool) => tunnel.runsOn slot) running tunnel after

variable {after : SpxTunnel pool}

theorem Settled.setTunnel (settled : state.Settled)
    (slots : ∀ slot, (shared.slots slot).bridge = (state.shared.slots slot).bridge ∧
      (shared.slots slot).connected = (state.shared.slots slot).connected ∧
        (shared.slots slot).phase = (state.shared.slots slot).phase)
    (finds : ∀ other, ∀ selection ∈ (shared.callers other).phase.found,
      selection ∈ (state.shared.callers other).phase.found)
    (works : ∀ selection, after.selection = some selection → selection ∈ state.held tunnel)
    (counts : ∀ slot, (shared.slots slot).activeStreams + ((state.tunnels tunnel).runsOn slot).toNat =
      (state.shared.slots slot).activeStreams + (after.runsOn slot).toNat)
    (flow : after ≠ .returned (some false)) :
    Settled { shared, tunnels := update state.tunnels tunnel after } := by
  refine ⟨fun slot => ?_, fun other selection member => ?_, fun slot => ?_, fun other => ?_⟩
  · obtain ⟨bridge, connected, phase⟩ := slots slot
    simpa only [SharedState.Truthful, bridge, connected, phase] using settled.truthful slot
  · have before : selection ∈ state.held tunnel ∨ selection ∈ state.held other := by
      obtain found | working := mem_append.mp member
      · exact .inr (mem_append_left _ (finds other selection found))
      · by_cases self : other = tunnel
        · subst self
          simp only [update_self, Option.mem_toList] at working
          exact .inl (works selection working)
        · simp only [update_of_ne self] at working
          exact .inr (mem_append_right _ working)
    obtain ⟨bridge, connected, _⟩ := slots selection.slot
    simp only [SharedState.Current, bridge, connected]
    exact before.elim (settled.current tunnel selection) (settled.current other selection)
  · have tallied := numberOf_runsOn state.tunnels tunnel after slot
    have before := settled.exact slot
    have change := counts slot
    simp only
    omega
  · by_cases self : other = tunnel
    · subst self
      simpa only [update_self] using flow
    · simpa only [update_of_ne self] using settled.flows other

theorem Settled.counts (settled : state.Settled) (selection : BridgeSelection pool) (streams : Nat)
    (works : ∀ other, after.selection = some other → other ∈ state.held tunnel) (flow : after ≠ .returned (some false))
    (before : ∀ slot, (state.tunnels tunnel).runsOn slot = true → selection.slot = slot)
    (later : ∀ slot, after.runsOn slot = true → selection.slot = slot)
    (change : streams + ((state.tunnels tunnel).runsOn selection.slot).toNat =
      (state.shared.slots selection.slot).activeStreams + (after.runsOn selection.slot).toNat) :
    Settled { shared := state.shared.setSlot selection.slot
                { state.shared.slots selection.slot with activeStreams := streams }
              tunnels := update state.tunnels tunnel after } := by
  refine settled.setTunnel ?_ (fun _ _ found => found) works ?_ flow
  · intro slot
    by_cases self : slot = selection.slot
    · subst self
      simp only [SharedState.setSlot, update_self, and_self]
    · simp only [SharedState.setSlot, update_of_ne self, and_self]
  · intro slot
    by_cases self : slot = selection.slot
    · subst self
      simpa only [SharedState.setSlot, update_self] using change
    · have unrun : (state.tunnels tunnel).runsOn slot = false :=
        Bool.eq_false_iff.mpr fun runs => self (before slot runs).symm
      have unrunAfter : after.runsOn slot = false := Bool.eq_false_iff.mpr fun runs => self (later slot runs).symm
      simp only [SharedState.setSlot, update_of_ne self, unrun, unrunAfter]

theorem Settled.moves (settled : state.Settled) (few : tunnels < 2 ^ 63) {move : TunnelMove}
    (moved : state.moved tunnel move = some after) (replied : move ≠ .replyFails) :
    Settled { shared := state.shared.onMove tunnel move (state.tunnels tunnel)
              tunnels := update state.tunnels tunnel after } := by
  obtain ⟨selection, rfl, outcome, before, rfl⟩ | ⟨selection, rfl, before, rfl⟩ | ⟨selection, rfl, before, rfl⟩ |
    ⟨same, runs, flow, works⟩ := after_cases moved replied
  · -- The selection passes from the call of `bridge()` to the tunnel.
    refine settled.setTunnel (fun _ => ⟨rfl, rfl, rfl⟩) ?_ ?_ ?_ nofun
    · intro other found member
      by_cases self : other = tunnel
      · subst self
        simp only [SharedState.onMove, SharedState.setCaller, update_self] at member
        cases member
      · simpa only [SharedState.onMove, SharedState.setCaller, update_of_ne self] using member
    · intro other working
      cases working
      exact mem_append_left _ (CallerPhase.found_of_outcome outcome)
    · intro slot
      simp only [before]
      rfl
  · have onMove : state.shared.onMove tunnel .recordOpen (state.tunnels tunnel) =
        state.shared.recordWorkerTcpOpen selection.slot := by rw [before]; rfl
    rw [onMove]
    refine settled.counts selection _ ?_ nofun ?_ ?_ ?_
    · intro other working
      exact mem_append_right _ (by rw [before]; exact Option.mem_toList.mpr working)
    · intro slot runs
      rw [before] at runs
      cases runs
    · intro slot runs
      exact of_decide_eq_true runs
    · have within := (settled.exact selection.slot).trans_le (numberOf_le _)
      rw [Fintype.card_fin] at within
      rw [before, Nat.mod_eq_of_lt (by omega)]
      simp [runsOn, runs]
  · have onMove : state.shared.onMove tunnel .recordClose (state.tunnels tunnel) =
        state.shared.recordWorkerTcpClose selection.slot := by rw [before]; rfl
    have runs : (state.tunnels tunnel).runsOn selection.slot = true := by
      rw [before]
      exact decide_eq_true rfl
    have positive : 0 < (state.shared.slots selection.slot).activeStreams := by
      rw [settled.exact]
      exact numberOf_pos tunnel runs
    rw [onMove]
    refine settled.counts selection _ nofun nofun ?_ nofun ?_
    · intro slot runs
      rw [before] at runs
      exact of_decide_eq_true runs
    · rw [runs, show (returned (some true) : SpxTunnel pool).runsOn selection.slot = false from rfl,
        Bool.toNat_true, Bool.toNat_false]
      omega
  · rw [same]
    refine settled.setTunnel (fun _ => ⟨rfl, rfl, rfl⟩) (fun _ _ found => found) ?_ ?_ flow
    · intro selection working
      exact mem_append_right _ (Option.mem_toList.mpr (works selection working))
    · intro slot
      simp only [runsOn, runs]

theorem Settled.next (settled : state.Settled) (few : tunnels < 2 ^ 63) {action : SpxAction pool tunnels}
    (enabled : state.enabled action) (guarded : state.undisturbed action) : (state.next reconnect action).Settled := by
  cases action with
  | shared action =>
    have keeps : ∀ slot streams, action ≠ .setActive slot streams := by
      rintro slot streams rfl
      exact enabled.2
    obtain looks | ⟨slot, works, serving⟩ := SharedState.next_cases enabled.1 keeps
    · exact settled.looks looks
    · refine settled.works works fun phase => ?_
      obtain rfl := serving phase
      exact guarded
  | tunnel tunnel move =>
    obtain ⟨after, moved⟩ := Option.isSome_iff_exists.mp enabled
    have replied : move ≠ .replyFails := by
      rintro rfl
      exact guarded
    simp only [SpxPool.next, moved]
    exact settled.moves few moved replied

theorem Settled.of_run (few : tunnels < 2 ^ 63) (run : (machine reconnect pool tunnels).Run undisturbed state) :
    state.Settled :=
  run.invariant _ .initial fun _ _ _ settled enabled guarded => settled.next few enabled guarded

structure LoadExact (state : SpxPool pool tunnels) : Prop where
  active : ∀ slot, (state.shared.slots slot).activeStreams =
    numberOf fun tunnel => (state.tunnels tunnel).runsThrough slot (state.shared.slots slot).bridge
  /-- A tunnel that is about to lower the counter is one of the bridge in the slot. -/
  lowers : ∀ tunnel selection, state.tunnels tunnel = .closed selection →
    (state.shared.slots selection.slot).bridge = some selection.handle
  flows : ∀ tunnel flowClosed, state.tunnels tunnel = .returned (some flowClosed) → flowClosed = true

theorem Settled.loadExact (settled : state.Settled) : state.LoadExact := by
  refine ⟨fun slot => ?_, fun tunnel selection closed => ?_, fun tunnel flowClosed returned => ?_⟩
  · rw [settled.exact slot]
    congr 1
    funext tunnel
    unfold runsOn runsThrough
    cases runs : (state.tunnels tunnel).runs with
    | none => rfl
    | some selection =>
      simp only [Option.any_some, decide_eq_decide]
      constructor
      · rintro rfl
        exact ⟨rfl, (settled.runs_current runs).1.symm⟩
      · exact And.left
  · have runs : (state.tunnels tunnel).runs = some selection := by rw [closed]; rfl
    exact (settled.runs_current runs).1
  · cases flowClosed with
    | false => exact (settled.flows tunnel returned).elim
    | true => rfl

instance (state : SpxPool pool tunnels) (action : SpxAction pool tunnels) : Decidable (state.undisturbed action) := by
  rcases action with (_ | _) | ⟨_, _ | _⟩ <;> dsimp only [undisturbed] <;> infer_instance

def connects (slot : Fin pool) (handle : Nat) : List (SpxAction pool tunnels) :=
  [.shared (.recordConnected slot handle), .shared (.install slot), .shared (.notify slot)]

def loses (slot : Fin pool) : List (SpxAction pool tunnels) :=
  [.shared (.recordDisconnected slot), .shared (.clear slot), .shared (.notify slot)]

def opensTunnel (tunnel : Fin tunnels) : List (SpxAction pool tunnels) :=
  [.shared (.call tunnel), .shared (.lockSlots tunnel), .shared (.check tunnel), .shared (.proceed tunnel),
    .tunnel tunnel .take, .tunnel tunnel .opens, .tunnel tunnel .recordOpen]

def endsTunnel (tunnel : Fin tunnels) : List (SpxAction pool tunnels) :=
  [.tunnel tunnel .relayEnds, .tunnel tunnel .closeFlow, .tunnel tunnel .recordClose]

end SpxPool

/-- In every run in which replies can be written and no bridge is lost under a tunnel, the load
counters are exact and every flow is closed. -/
theorem spx_load_exact {reconnect : Bool} {pool tunnels : Nat} (few : tunnels < 2 ^ 63) {state : SpxPool pool tunnels}
    (run : (machine reconnect pool tunnels).Run undisturbed state) : state.LoadExact :=
  (SpxPool.Settled.of_run few run).loadExact

/-- A tunnel ends, its bridge is replaced, and another tunnel runs through the new one. -/
theorem spx_load_exact_reconnected : ∃ state, (machine true 1 2).Run undisturbed state ∧
    (state.tunnels 0 = .returned (some true) ∧ state.tunnels 1 = .relaying ⟨0, 9⟩) ∧ state.LoadExact := by
  obtain ⟨state, run, ended, relaying⟩ := Machine.exists_run (machine true 1 2) undisturbed
    (fun state => state.tunnels 0 = .returned (some true) ∧ state.tunnels 1 = .relaying ⟨0, 9⟩)
    (connects 0 7 ++ opensTunnel 0 ++ [.tunnel 0 .replies] ++ endsTunnel 0 ++ loses 0 ++
      connects 0 9 ++ opensTunnel 1 ++ [.tunnel 1 .replies])
    (by decide)
  exact ⟨state, run, ⟨ended, relaying⟩, spx_load_exact (by decide) run⟩

/-- The reply of a tunnel cannot be written: the tunnel returns without closing its flow and stays
counted. Or its bridge is replaced under it: when it ends it takes away the count of a tunnel that
runs through the new bridge. -/
theorem spx_load_wrong :
    (∃ state, (machine true 1 1).Reachable state ∧ state.tunnels 0 = .returned (some false) ∧
      (state.shared.slots 0).activeStreams = 1) ∧
    ∃ state, (machine true 1 2).Reachable state ∧
      (state.tunnels 0 = .returned (some true) ∧ state.tunnels 1 = .relaying ⟨0, 9⟩ ∧
        (state.shared.slots 0).bridge = some 9) ∧ (state.shared.slots 0).activeStreams = 0 := by
  constructor
  · exact Machine.exists_reachable (machine true 1 1)
      (fun state => state.tunnels 0 = .returned (some false) ∧ (state.shared.slots 0).activeStreams = 1)
      (connects 0 7 ++ opensTunnel 0 ++ [.tunnel 0 .replyFails])
      (by decide)
  · exact Machine.exists_reachable (machine true 1 2)
      (fun state => (state.tunnels 0 = .returned (some true) ∧ state.tunnels 1 = .relaying ⟨0, 9⟩ ∧
        (state.shared.slots 0).bridge = some 9) ∧ (state.shared.slots 0).activeStreams = 0)
      (connects 0 7 ++ opensTunnel 0 ++ [.tunnel 0 .replies] ++ loses 0 ++
        connects 0 9 ++ opensTunnel 1 ++ [.tunnel 1 .replies] ++ endsTunnel 0)
      (by decide)

end SshProxy
