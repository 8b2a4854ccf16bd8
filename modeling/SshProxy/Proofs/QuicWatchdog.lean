import SshProxy.QuicRelay

/-! When the watchdog ends a flow. The branch of the `select!` that stands for it also
resolves when the watchdog leaves without having fired, so a flow that outlives the sleep is
reset although its first byte has been recorded. -/

namespace SshProxy.Flow
open Library

variable {side : FlowSide} {flow : Flow}

/-- The watchdog lives in an open flow, and touches the channel only after its sleep. -/
structure Watched (flow : Flow) : Prop where
  spawned : flow.watchdog ≠ .unspawned → flow.opened = true
  cancel : flow.cancelSent = true → flow.watchdog.expired = true
  expiry : flow.watchdog.expired = true → flow.recordedAtExpiry ≠ none
  timeout : flow.outcome = some .firstByteTimeout → flow.watchdog.expired = true

theorem Watched.unspawned (watched : flow.Watched) (unopened : flow.opened = false) : flow.watchdog = .unspawned := by
  by_contra spawned
  rw [watched.spawned spawned] at unopened
  cases unopened

theorem Watched.ready (watched : flow.Watched) (ready : flow.cancelReady) : flow.watchdog.expired = true := by
  rcases ready with sent | ended
  · exact watched.cancel sent
  · rw [ended]
    rfl

theorem Watched.moved (watched : flow.Watched) {after : Flow} (awake : flow.watchdog.expired = true)
    (still : after.watchdog.expired = true) (opened : after.opened = flow.opened)
    (remembered : after.recordedAtExpiry = flow.recordedAtExpiry) : after.Watched := by
  have open_flow : flow.opened = true := watched.spawned fun unspawned => by simp [unspawned, Watchdog.expired] at awake
  refine ⟨fun _ => opened.trans open_flow, fun _ => still, fun _ => ?_, fun _ => still⟩
  rw [remembered]
  exact watched.expiry awake

variable {action : FlowAction}

theorem Watched.next (watched : flow.Watched) (enabled : flow.enabled side action) :
    (flow.next side action).Watched := by
  cases action with
  | openFailed | recordFirstByte => exact ⟨watched.spawned, watched.cancel, watched.expiry, watched.timeout⟩
  | opened =>
    -- nothing has happened to the channel before the watchdog is spawned
    have asleep : ¬ flow.watchdog.expired = true := by simp [watched.unspawned enabled.1, Watchdog.expired]
    exact ⟨fun _ => rfl, fun sent => absurd (watched.cancel sent) asleep, nofun,
      fun timedOut => absurd (watched.timeout timedOut) asleep⟩
  | sleepExpires =>
    have open_flow := watched.spawned (by rw [show flow.watchdog = .sleeping from enabled]; nofun)
    exact ⟨fun _ => open_flow, fun _ => rfl, fun _ => nofun, fun _ => rfl⟩
  | loadFlag =>
    have awake : flow.watchdog = .awake := enabled
    refine watched.moved (by rw [awake]; rfl) ?_ rfl rfl
    cases recorded : flow.firstByteRecorded <;> simp [Flow.next, recorded, Watchdog.expired]
  | sendCancel =>
    have firing : flow.watchdog = .firing := enabled
    exact watched.moved (by rw [firing]; rfl) rfl rfl rfl
  | watchdogEnds => exact watched.moved (by rcases enabled with left | left <;> rw [left] <;> rfl) rfl rfl rfl
  | copyCompleted | copyFailed => exact ⟨watched.spawned, watched.cancel, watched.expiry, nofun⟩
  | selectCancel => exact ⟨watched.spawned, watched.cancel, watched.expiry, fun _ => watched.ready enabled.2.2⟩
  | conclude =>
    obtain ⟨outcome, chosen⟩ := Option.ne_none_iff_exists'.mp enabled.1
    have same (watchdog : Watchdog) : watchdog.abort.expired = watchdog.expired := by cases watchdog <;> rfl
    have kept (spawned : flow.watchdog.abort ≠ .unspawned) : flow.opened = true :=
      watched.spawned fun unspawned => spawned (by rw [unspawned]; rfl)
    simp only [Flow.next, chosen]
    exact ⟨kept, fun sent => (same _).trans (watched.cancel sent), fun awake => watched.expiry ((same _).symm.trans awake),
      fun timedOut => (same _).trans (watched.timeout (chosen.trans timedOut))⟩

theorem watched_run {allowed : Flow → FlowAction → Prop} (run : (machine side).Run allowed flow) : flow.Watched :=
  run.invariant Watched ⟨nofun, nofun, nofun, nofun⟩ fun _ _ _ watched enabled _ => watched.next enabled

/-- The sleep does not expire on a flow that has its first byte and is still being copied. -/
def Prompt (flow : Flow) (action : FlowAction) : Prop :=
  action = .sleepExpires → flow.firstByteRecorded = true → flow.outcome ≠ none

instance (flow : Flow) (action : FlowAction) : Decidable (Prompt flow action) :=
  inferInstanceAs (Decidable (_ → _ → _))

structure Spared (flow : Flow) : Prop where
  early : flow.recordedAtExpiry = some true → flow.outcome ≠ none
  timeout : flow.outcome = some .firstByteTimeout → flow.recordedAtExpiry = some false

theorem Spared.next (spared : flow.Spared) (watched : flow.Watched)
    (enabled : flow.enabled side action) (prompt : Prompt flow action) : (flow.next side action).Spared := by
  cases action with
  | openFailed | opened | recordFirstByte | loadFlag | sendCancel | watchdogEnds => exact ⟨spared.early, spared.timeout⟩
  | sleepExpires =>
    refine ⟨fun recorded => prompt rfl (Option.some.inj recorded), ?_⟩
    intro timedOut
    have expired := watched.timeout timedOut
    rw [show flow.watchdog = .sleeping from enabled] at expired
    cases expired
  | copyCompleted | copyFailed => exact ⟨fun _ => nofun, nofun⟩
  | selectCancel =>
    refine ⟨fun _ => nofun, ?_⟩
    intro _
    obtain ⟨_, unresolved, ready⟩ := enabled
    obtain ⟨recorded, remembered⟩ := Option.ne_none_iff_exists'.mp (watched.expiry (watched.ready ready))
    cases recorded with
    | false => exact remembered
    | true => exact absurd unresolved (spared.early remembered)
  | conclude =>
    obtain ⟨outcome, chosen⟩ := Option.ne_none_iff_exists'.mp enabled.1
    simp only [Flow.next, chosen]
    exact ⟨fun _ => nofun, fun timedOut => spared.timeout (chosen.trans timedOut)⟩

/-- As long as no flow with a first byte outlives the sleep, the watchdog ends only flows
without one. -/
theorem timeout_without_first_byte (side : FlowSide) (flow : Flow) (run : (machine side).Run Prompt flow)
    (timedOut : flow.outcome = some .firstByteTimeout) : flow.recordedAtExpiry = some false := by
  have spared : flow.Spared := run.invariant Spared ⟨nofun, nofun⟩ fun _ _ before spared enabled prompt =>
    spared.next (watched_run before) enabled prompt
  exact spared.timeout timedOut

theorem timeout_without_first_byte_silent : ∃ flow, (machine (.controller [])).Run Prompt flow ∧
    flow.outcome = some .firstByteTimeout ∧ flow.recordedAtExpiry = some false := by
  obtain ⟨flow, run, timedOut⟩ := Machine.exists_run (machine (.controller [])) Prompt
    (fun flow => flow.outcome = some .firstByteTimeout)
    [.opened, .sleepExpires, .loadFlag, .sendCancel, .selectCancel, .conclude] (by decide)
  exact ⟨flow, run, timedOut, timeout_without_first_byte _ flow run timedOut⟩

theorem outlived_reset (reached : (machine side).Reachable flow) (asleep : flow.watchdog = .sleeping)
    (recorded : flow.firstByteRecorded = true) (unresolved : flow.outcome = none) :
    ∃ later, (machine side).Reachable later ∧ later.outcome = some .firstByteTimeout ∧
      later.recordedAtExpiry = some true ∧ later.acts = flow.acts ++ side.timeoutActs := by
  have open_flow := (watched_run reached).spawned (by rw [asleep]; nofun)
  have awake := reached.step (show (machine side).enabled _ .sleepExpires from asleep) trivial
  have loaded := awake.step (show (machine side).enabled _ .loadFlag from rfl) trivial
  have leaving : ((flow.next side .sleepExpires).next side .loadFlag).watchdog = .leaving false := by
    simp [Flow.next, recorded]
  have ended := loaded.step (show (machine side).enabled _ .watchdogEnds from .inr leaving) trivial
  have reset := ended.step (show (machine side).enabled _ .selectCancel from ⟨open_flow, unresolved, .inr rfl⟩) trivial
  exact ⟨_, reset, rfl, congrArg some recorded, rfl⟩

/-- On the daemon the flow header has recorded the first byte before the watchdog starts. -/
structure HeaderRead (flow : Flow) : Prop where
  recorded : flow.opened = true → flow.firstByteRecorded = true
  expiry : flow.recordedAtExpiry ≠ some false

theorem HeaderRead.next (read : flow.HeaderRead) (watched : flow.Watched) (reads : side.readsHeader = true)
    (enabled : flow.enabled side action) : (flow.next side action).HeaderRead := by
  cases action with
  | opened => exact ⟨fun _ => enabled.2.2 reads, read.expiry⟩
  | recordFirstByte => exact ⟨fun _ => rfl, read.expiry⟩
  | sleepExpires =>
    have open_flow := watched.spawned (by rw [show flow.watchdog = .sleeping from enabled]; nofun)
    refine ⟨read.recorded, ?_⟩
    simp [Flow.next, read.recorded open_flow]
  | conclude =>
    obtain ⟨outcome, chosen⟩ := Option.ne_none_iff_exists'.mp enabled.1
    simp only [Flow.next, chosen]
    exact ⟨read.recorded, read.expiry⟩
  | openFailed | loadFlag | sendCancel | watchdogEnds | copyCompleted | copyFailed | selectCancel =>
    exact ⟨read.recorded, read.expiry⟩

/-- The daemon's watchdog ends only flows that have their first byte. -/
theorem daemon_timeout_recorded {routeId : String} (reached : (machine (.daemon routeId)).Reachable flow)
    (timedOut : flow.outcome = some .firstByteTimeout) : flow.recordedAtExpiry = some true := by
  have read : flow.HeaderRead := reached.invariant HeaderRead ⟨nofun, nofun⟩ fun _ _ before read enabled _ =>
    read.next (watched_run before) rfl enabled
  have watched := watched_run reached
  obtain ⟨recorded, remembered⟩ := Option.ne_none_iff_exists'.mp (watched.expiry (watched.timeout timedOut))
  cases recorded with
  | true => exact remembered
  | false => exact absurd remembered read.expiry

theorem daemon_timeout_recorded_copying : ∃ flow, (machine (.daemon "r")).Reachable flow ∧
    flow.outcome = some .firstByteTimeout ∧ flow.recordedAtExpiry = some true := by
  obtain ⟨flow, reached, timedOut⟩ := Machine.exists_reachable (machine (.daemon "r"))
    (fun flow => flow.outcome = some .firstByteTimeout)
    [.recordFirstByte, .opened, .sleepExpires, .loadFlag, .watchdogEnds, .selectCancel] (by decide)
  exact ⟨flow, reached, timedOut, daemon_timeout_recorded reached timedOut⟩

/-- Both sides reset a flow that is being copied, its first byte recorded long before. -/
theorem recorded_flow_reset :
    (∃ flow, (machine (.controller [])).Reachable flow ∧ flow.outcome = some .firstByteTimeout ∧
      flow.recordedAtExpiry = some true ∧
      flow.acts = [.reset (some "QUIC-native first byte timed out after 15s")]) ∧
    ∃ flow, (machine (.daemon "r")).Reachable flow ∧ flow.outcome = some .firstByteTimeout ∧
      flow.recordedAtExpiry = some true ∧ flow.acts = [.reset none, .shutdownRemote] := by
  constructor
  · obtain ⟨flow, reached, asleep, recorded, unresolved, untouched⟩ :=
      Machine.exists_reachable (machine (.controller [])) (fun flow => flow.watchdog = .sleeping ∧
        flow.firstByteRecorded = true ∧ flow.outcome = none ∧ flow.acts = []) [.opened, .recordFirstByte] (by decide)
    obtain ⟨later, still, timedOut, remembered, acts⟩ := outlived_reset reached asleep recorded unresolved
    exact ⟨later, still, timedOut, remembered, by rw [acts, untouched]; decide⟩
  · obtain ⟨flow, reached, asleep, recorded, unresolved, untouched⟩ :=
      Machine.exists_reachable (machine (.daemon "r")) (fun flow => flow.watchdog = .sleeping ∧
        flow.firstByteRecorded = true ∧ flow.outcome = none ∧ flow.acts = []) [.recordFirstByte, .opened] (by decide)
    obtain ⟨later, still, timedOut, remembered, acts⟩ := outlived_reset reached asleep recorded unresolved
    exact ⟨later, still, timedOut, remembered, by rw [acts, untouched]; rfl⟩

end SshProxy.Flow
