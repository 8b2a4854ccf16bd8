import SshProxy.SshChannels

/-! The counters of ssh-native channels are exact. The atomics wrap, so each of them is compared
with the number of tasks it stands for by its remainder; as the tasks that lower a counter are
among those it counts, that number is positive wherever it is lowered. -/

namespace SshProxy.SshNative
open Library ChannelStage

namespace ChannelStage

def isOpening : ChannelStage → Bool
  | .acquired | .counted | .opening | .opened | .refused => true
  | _ => false

def isStream : ChannelStage → Bool
  | .live _ | .recording _ _ | .recorded _ _ | .leaving => true
  | _ => false

def onSession (stage : ChannelStage) : Bool := stage.isOpening || stage.isStream

/-- Counted on the session and not yet on the state. -/
def halfAcquired : ChannelStage → Bool
  | .acquired => true
  | _ => false

/-- No longer counted on the session, and still on the state. -/
def halfReleased : ChannelStage → Bool
  | .released | .left => true
  | _ => false

def onState (stage : ChannelStage) : Bool := stage.onSession && !stage.halfAcquired || stage.halfReleased

def closedOnState : ChannelStage → Bool
  | .recorded _ _ | .live true | .leaving | .left | .gone => true
  | _ => false

def closedOnSession : ChannelStage → Bool
  | .live true | .leaving | .left | .gone => true
  | _ => false

def hasSession : ChannelStage → Bool
  | .idle | .locked | .connecting | .failed => false
  | _ => true

def holdsLock : ChannelStage → Bool
  | .locked | .connecting | .acquiring | .acquired | .counted => true
  | _ => false

variable {stage after : ChannelStage} {move : ChannelMove}

theorem closes_raised {graceful errors : UInt64} :
    Follows (2 ^ 64) (graceful + errors).toNat (graceful + 1 + errors).toNat false true ∧
      Follows (2 ^ 64) (graceful + errors).toNat (graceful + (errors + 1)).toNat false true := by
  have raised : Follows (2 ^ 64) (graceful + errors).toNat (graceful + errors + 1).toNat false true := .raised64
  refine ⟨?_, by rwa [UInt64.add_assoc] at raised⟩
  rwa [UInt64.add_assoc, UInt64.add_comm 1, ← UInt64.add_assoc]

theorem after_onSession (moved : stage.after move = some after) (counters : SessionCounters) :
    move = .connects ∧ stage = .connecting ∧ after = .acquiring ∨
      Follows (2 ^ 32) counters.activeChannels.toNat (move.onSession stage counters).activeChannels.toNat
          stage.onSession after.onSession ∧
        Follows (2 ^ 64) (counters.gracefulCloses + counters.errorCloses).toNat
          ((move.onSession stage counters).gracefulCloses + (move.onSession stage counters).errorCloses).toNat
          stage.closedOnSession after.closedOnSession := by
  unfold ChannelStage.after at moved
  split at moved <;> cases moved
  all_goals try exact .inr ⟨.same, .same⟩
  · exact .inl ⟨rfl, rfl, rfl⟩
  · exact .inr ⟨.raised32, .same⟩
  iterate 2
    next error =>
      cases error with
      | false => exact .inr ⟨.same, closes_raised.1⟩
      | true => exact .inr ⟨.same, closes_raised.2⟩
  all_goals exact .inr ⟨.lowered32, .same⟩

theorem after_onState (moved : stage.after move = some after) (counters : StateCounters) :
    Follows (2 ^ 64) counters.activeSshChannels.toNat (move.onState stage counters).activeSshChannels.toNat
        stage.onState after.onState ∧
      Follows (2 ^ 64) (counters.gracefulCloses + counters.errorCloses).toNat
        ((move.onState stage counters).gracefulCloses + (move.onState stage counters).errorCloses).toNat
        stage.closedOnState after.closedOnState := by
  unfold ChannelStage.after at moved
  split at moved <;> cases moved
  all_goals try exact ⟨.same, .same⟩
  · exact ⟨.raised64, .same⟩
  next error dropping =>
    cases error with
    | false => exact ⟨.same, closes_raised.1⟩
    | true => exact ⟨.same, closes_raised.2⟩
  all_goals exact ⟨.lowered64, .same⟩

theorem after_session (moved : stage.after move = some after) (pooled session : Nat) :
    move.session pooled session = session ∨
      stage.onSession = false ∧ after.onSession = false ∧ stage.closedOnSession = false ∧
        after.closedOnSession = false := by
  unfold ChannelStage.after at moved
  split at moved <;> cases moved
  all_goals first | exact .inl rfl | exact .inr ⟨rfl, rfl, rfl, rfl⟩

theorem hasSession_of_onSession {stage : ChannelStage} (on : stage.onSession = true ∨ stage.closedOnSession = true) :
    stage.hasSession = true := by
  cases stage <;> first | rfl | (obtain on | on := on <;> cases on)

theorem onSession_balance (stage : ChannelStage) :
    stage.onSession.toNat + false.toNat = stage.isOpening.toNat + stage.isStream.toNat := by
  cases stage <;> rfl

theorem onState_balance (stage : ChannelStage) :
    stage.onState.toNat + stage.halfAcquired.toNat = stage.onSession.toNat + stage.halfReleased.toNat := by
  cases stage <;> rfl

theorem leaves_onSession (moved : stage.after move = some after) (leaves : move = .leaveSession) :
    stage.onSession = true := by
  unfold ChannelStage.after at moved
  split at moved <;> first | rfl | cases moved <;> cases leaves

theorem leaves_onState (moved : stage.after move = some after) (leaves : move = .leaveState) :
    stage.onState = true := by
  unfold ChannelStage.after at moved
  split at moved <;> first | rfl | cases moved <;> cases leaves

end ChannelStage

namespace Channels
variable {poolSize calls : Nat} {state : Channels calls}

def tasksOn (tasks : Fin calls → Channel) (session : Nat) (test : ChannelStage → Bool) : Nat :=
  numberOf fun task => decide ((tasks task).session = session) && test (tasks task).stage

def tasksWith (tasks : Fin calls → Channel) (test : ChannelStage → Bool) : Nat :=
  numberOf fun task => test (tasks task).stage

structure SessionExact (tasks : Fin calls → Channel) (session : Nat) (counters : SessionCounters) : Prop where
  active : counters.activeChannels.toNat = tasksOn tasks session ChannelStage.onSession % 2 ^ 32
  closes : (counters.gracefulCloses + counters.errorCloses).toNat =
    tasksOn tasks session closedOnSession % 2 ^ 64

structure StateExact (tasks : Fin calls → Channel) (counters : StateCounters) : Prop where
  active : counters.activeSshChannels.toNat = tasksWith tasks onState % 2 ^ 64
  closes : (counters.gracefulCloses + counters.errorCloses).toNat =
    tasksWith tasks closedOnState % 2 ^ 64

/-- The pool as the mutex keeps it: only its holder is between the decision to open a session
and the push of the new one. -/
structure PoolValid (poolSize : Nat) (state : Channels calls) : Prop where
  holder : ∀ task, (state.tasks task).stage.holdsLock = true → state.holder = some task
  session : ∀ task, (state.tasks task).stage.hasSession = true → (state.tasks task).session < state.pooled
  room : ∀ task, (state.tasks task).stage = .connecting → state.pooled = 0 ∨ state.pooled < poolSize
  size : state.pooled ≤ max 1 poolSize

structure Valid (poolSize : Nat) (state : Channels calls) : Prop extends PoolValid poolSize state where
  sessions : ∀ session, SessionExact state.tasks session (state.sessions session)
  counters : StateExact state.tasks state.counters

variable {task : Fin calls} {move : ChannelMove} {before stage : ChannelStage}

theorem nextHolder_cases (moved : before.after move = some stage) (state : Channels calls) (task : Fin calls) :
    move = .lock ∧ state.nextHolder task move = some task ∨
      before.holdsLock = true ∧ stage.holdsLock = false ∧ state.nextHolder task move = none ∨
      stage.holdsLock = before.holdsLock ∧ state.nextHolder task move = state.holder := by
  unfold ChannelStage.after at moved
  split at moved <;> cases moved
  all_goals first | exact .inl ⟨rfl, rfl⟩ | exact .inr (.inl ⟨rfl, rfl, rfl⟩) | exact .inr (.inr ⟨rfl, rfl⟩)

theorem session_cases (moved : before.after move = some stage) (has : stage.hasSession = true) :
    (∃ session, move = .choose session) ∨ move = .connects ∨
      before.hasSession = true ∧ ∀ pooled session, move.session pooled session = session := by
  unfold ChannelStage.after at moved
  split at moved <;> cases moved
  all_goals first | exact .inl ⟨_, rfl⟩ | exact .inr (.inl rfl) | exact .inr (.inr ⟨rfl, fun _ _ => rfl⟩) | cases has

theorem connecting_of_connects (moved : before.after move = some stage) (connects : move = .connects) :
    before = .connecting := by
  unfold ChannelStage.after at moved
  split at moved <;> first | rfl | cases moved <;> cases connects

theorem grow_of_connecting (moved : before.after move = some .connecting) : move = .grow := by
  unfold ChannelStage.after at moved
  split at moved <;> first | rfl | cases moved

theorem nextPooled_cases (state : Channels calls) (move : ChannelMove) :
    move = .connects ∧ state.nextPooled move = state.pooled + 1 ∨
      move ≠ .connects ∧ state.nextPooled move = state.pooled := by
  cases move with
  | connects => exact .inl ⟨rfl, rfl⟩
  | _ => exact .inr ⟨nofun, rfl⟩

theorem room_of_growing (grows : state.growing poolSize = true) : state.pooled = 0 ∨ state.pooled < poolSize := by
  simp only [growing, shouldOpenNewSession, Bool.or_eq_true, beq_iff_eq, Bool.and_eq_true, decide_eq_true_eq] at grows
  exact grows.imp_right And.left

theorem PoolValid.alone (valid : PoolValid poolSize state) {first second : Fin calls}
    (holds : (state.tasks first).stage.holdsLock = true) (also : (state.tasks second).stage.holdsLock = true) :
    first = second :=
  Option.some.inj ((valid.holder first holds).symm.trans (valid.holder second also))

theorem next_eq (moved : (state.tasks task).stage.after move = some stage) : state.next task move =
      { tasks := Function.update state.tasks task ⟨stage, move.session state.pooled (state.tasks task).session⟩
        holder := state.nextHolder task move
        pooled := state.nextPooled move
        sessions := Function.update state.sessions (move.session state.pooled (state.tasks task).session)
          (move.onSession (state.tasks task).stage (state.sessions (move.session state.pooled (state.tasks task).session)))
        counters := move.onState (state.tasks task).stage state.counters } := by
  rw [Channels.next, moved]

theorem PoolValid.next (valid : PoolValid poolSize state) (moved : (state.tasks task).stage.after move = some stage)
    (allowed : state.allows poolSize move) : PoolValid poolSize (state.next task move) := by
  -- The task that connects has the mutex, so no other one does.
  have connecting : move = .connects → (state.tasks task).stage = .connecting := connecting_of_connects moved
  rw [next_eq moved]
  constructor
  · intro other holds
    by_cases self : other = task
    · subst self
      simp only [Function.update_self] at holds
      obtain ⟨_, taken⟩ | ⟨_, gives, _⟩ | ⟨keeps, same⟩ := nextHolder_cases moved state other
      · exact taken
      · rw [holds] at gives
        cases gives
      · exact same.trans (valid.holder other (keeps ▸ holds))
    · simp only [Function.update_of_ne self] at holds
      have mine := valid.holder other holds
      obtain ⟨rfl, _⟩ | ⟨had, _, _⟩ | ⟨_, same⟩ := nextHolder_cases moved state task
      · rw [show state.holder = none from allowed] at mine
        cases mine
      · exact (self (valid.alone holds had)).elim
      · exact same.trans mine
  · intro other has
    have grows : state.pooled ≤ state.nextPooled move := by
      obtain ⟨_, more⟩ | ⟨_, same⟩ := nextPooled_cases state move <;> omega
    by_cases self : other = task
    · subst self
      simp only [Function.update_self] at has ⊢
      obtain ⟨session, rfl⟩ | rfl | ⟨had, keeps⟩ := session_cases moved has
      · exact allowed.2
      · exact Nat.lt_succ_self _
      · rw [keeps]
        exact (valid.session other had).trans_le grows
    · simp only [Function.update_of_ne self] at has ⊢
      exact (valid.session other has).trans_le grows
  · intro other connects
    by_cases self : other = task
    · subst self
      simp only [Function.update_self] at connects
      subst connects
      obtain rfl := grow_of_connecting moved
      have grows : state.growing poolSize = true := allowed
      have room := room_of_growing grows
      exact room
    · simp only [Function.update_of_ne self] at connects
      obtain ⟨pushes, _⟩ | ⟨_, same⟩ := nextPooled_cases state move
      · exact (self (valid.alone (by rw [connects]; rfl) (by rw [connecting pushes]; rfl))).elim
      · simp only [same]
        exact valid.room other connects
  · have before := valid.size
    obtain ⟨pushes, more⟩ | ⟨_, same⟩ := nextPooled_cases state move
    · have room := valid.room task (connecting pushes)
      simp only [more]
      omega
    · simpa only [same] using before

theorem tasksOn_moved {test : ChannelStage → Bool} {tasks : Fin calls → Channel} {target : Nat}
    (kept : target = (tasks task).session ∨ test (tasks task).stage = false ∧ test stage = false) :
    tasksOn (Function.update tasks task ⟨stage, target⟩) target test + (test (tasks task).stage).toNat =
        tasksOn tasks target test + (test stage).toNat ∧
      ∀ session, target ≠ session →
        tasksOn (Function.update tasks task ⟨stage, target⟩) session test = tasksOn tasks session test := by
  have updated (session : Nat) := numberOf_update
    (fun _ (channel : Channel) => decide (channel.session = session) && test channel.stage) tasks task ⟨stage, target⟩
  obtain rfl | ⟨before, after⟩ := kept
  · refine ⟨by simpa only [tasksOn, decide_true, Bool.true_and] using updated (tasks task).session, ?_⟩
    intro session apart
    simpa only [tasksOn, decide_eq_false apart, Bool.false_and, Bool.toNat_false, Nat.add_zero] using updated session
  · simp only [before, after, Bool.and_false, Bool.toNat_false, Nat.add_zero] at updated ⊢
    exact ⟨updated target, fun session _ => updated session⟩

theorem tasksOn_eq_zero {tasks : Fin calls → Channel} {session : Nat} {test : ChannelStage → Bool}
    (none : ∀ task, test (tasks task).stage = true → (tasks task).session ≠ session) : tasksOn tasks session test = 0 := by
  refine numberOf_eq_zero fun task => ?_
  cases passes : test (tasks task).stage with
  | false => exact Bool.and_false _
  | true => rw [decide_eq_false (none task passes), Bool.false_and]

theorem PoolValid.fresh (valid : PoolValid poolSize state) :
    tasksOn state.tasks state.pooled ChannelStage.onSession = 0 ∧
      tasksOn state.tasks state.pooled closedOnSession = 0 := by
  constructor
  · exact tasksOn_eq_zero fun task on => (valid.session task (hasSession_of_onSession (.inl on))).ne
  · exact tasksOn_eq_zero fun task on => (valid.session task (hasSession_of_onSession (.inr on))).ne

theorem Valid.onSession (valid : Valid poolSize state) (moved : (state.tasks task).stage.after move = some stage)
    (session : Nat) : SessionExact (state.next task move).tasks session ((state.next task move).sessions session) := by
  have kept := after_session moved state.pooled (state.tasks task).session
  have channels := tasksOn_moved (kept.imp_right fun none => ⟨none.1, none.2.1⟩)
  have closes := tasksOn_moved (kept.imp_right fun none => ⟨none.2.2.1, none.2.2.2⟩)
  rw [next_eq moved]
  by_cases here : move.session state.pooled (state.tasks task).session = session
  · subst here
    have exact := valid.sessions (move.session state.pooled (state.tasks task).session)
    simp only [Function.update_self]
    obtain ⟨rfl, connecting, rfl⟩ | ⟨active, closed⟩ := after_onSession moved _
    · rw [connecting] at channels closes
      have none := channels.1.trans valid.fresh.1
      have unclosed := closes.1.trans valid.fresh.2
      exact ⟨(congrArg (· % 2 ^ 32) none).symm, (congrArg (· % 2 ^ 64) unclosed).symm⟩
    · exact ⟨active _ _ channels.1 exact.active, closed _ _ closes.1 exact.closes⟩
  · obtain ⟨active, closed⟩ := valid.sessions session
    simp only [Function.update_of_ne (Ne.symm here)]
    exact ⟨by rw [channels.2 session here]; exact active, by rw [closes.2 session here]; exact closed⟩

theorem StateExact.next (exact : StateExact state.tasks state.counters)
    (moved : (state.tasks task).stage.after move = some stage) :
    StateExact (state.next task move).tasks (state.next task move).counters := by
  rw [next_eq moved]
  have updated (test : ChannelStage → Bool) := numberOf_update (fun _ (channel : Channel) => test channel.stage) state.tasks
    task ⟨stage, move.session state.pooled (state.tasks task).session⟩
  obtain ⟨active, closed⟩ := after_onState moved state.counters
  exact ⟨active _ _ (updated _) exact.active, closed _ _ (updated _) exact.closes⟩

theorem Valid.initial : Valid poolSize ({} : Channels calls) where
  holder := nofun
  session := nofun
  room := nofun
  size := Nat.zero_le _
  sessions session := by
    have none (test : ChannelStage → Bool) (fails : test .idle = false) :
        tasksOn (fun _ : Fin calls => {}) session test = 0 :=
      tasksOn_eq_zero fun _ passes => by rw [fails] at passes; cases passes
    exact ⟨by rw [none _ rfl]; rfl, by rw [none _ rfl]; rfl⟩
  counters := by
    have none (test : ChannelStage → Bool) (fails : test .idle = false) :
        tasksWith (fun _ : Fin calls => {}) test = 0 := numberOf_eq_zero fun _ => fails
    exact ⟨by rw [none _ rfl]; rfl, by rw [none _ rfl]; rfl⟩

theorem Valid.next (valid : Valid poolSize state) (enabled : (machine poolSize calls).enabled state (task, move)) :
    Valid poolSize (state.next task move) := by
  obtain ⟨stage, moved⟩ := Option.isSome_iff_exists.mp enabled.1
  exact ⟨valid.toPoolValid.next moved enabled.2, valid.onSession moved, valid.counters.next moved⟩

theorem Valid.of_reachable (reached : (machine poolSize calls).Reachable state) : Valid poolSize state :=
  reached.invariant _ .initial fun _ _ _ valid enabled _ => valid.next enabled

def opensOn (state : Channels calls) (session : Nat) : Nat := tasksOn state.tasks session isOpening

def streamsOn (state : Channels calls) (session : Nat) : Nat := tasksOn state.tasks session isStream

theorem tasksOn_onSession (state : Channels calls) (session : Nat) :
    tasksOn state.tasks session ChannelStage.onSession = state.opensOn session + state.streamsOn session := by
  have nobody : numberOf (fun _ : Fin calls => false) = 0 := numberOf_eq_zero fun _ => rfl
  rw [← Nat.add_zero (tasksOn _ _ _), ← nobody]
  refine numberOf_balance fun task => ?_
  have balance := onSession_balance (state.tasks task).stage
  cases decide ((state.tasks task).session = session) with
  | false => rfl
  | true => simpa only [Bool.true_and] using balance

/-- What the accounting promises. A number below the width of its counter is its own remainder. -/
structure Exact (poolSize : Nat) (state : Channels calls) : Prop where
  active : ∀ session, (state.sessions session).activeChannels.toNat =
    (state.opensOn session + state.streamsOn session) % 2 ^ 32
  /-- The sum over the sessions, up to the tasks that are between their two counters. -/
  total : state.counters.activeSshChannels.toNat = tasksWith state.tasks onState % 2 ^ 64 ∧
    tasksWith state.tasks onState + tasksWith state.tasks halfAcquired =
      ∑ session ∈ Finset.range state.pooled, (state.opensOn session + state.streamsOn session) +
        tasksWith state.tasks halfReleased
  sessionLowered : ∀ task, (machine poolSize calls).enabled state (task, .leaveSession) →
    0 < state.opensOn (state.tasks task).session + state.streamsOn (state.tasks task).session
  stateLowered : ∀ task, (machine poolSize calls).enabled state (task, .leaveState) →
    0 < tasksWith state.tasks onState
  closes : (state.counters.gracefulCloses + state.counters.errorCloses).toNat =
    tasksWith state.tasks closedOnState % 2 ^ 64
  sessionCloses : ∀ session, ((state.sessions session).gracefulCloses + (state.sessions session).errorCloses).toNat =
    tasksOn state.tasks session closedOnSession % 2 ^ 64
  closedOnce : ∀ task, (state.tasks task).stage = .gone →
    (state.tasks task).stage.closedOnState = true ∧ (state.tasks task).stage.closedOnSession = true
  size : state.pooled ≤ max 1 poolSize

theorem Valid.sum (valid : Valid poolSize state) :
    tasksWith state.tasks onState + tasksWith state.tasks halfAcquired =
      ∑ session ∈ Finset.range state.pooled, (state.opensOn session + state.streamsOn session) +
        tasksWith state.tasks halfReleased := by
  have grouped : ∑ session ∈ Finset.range state.pooled, (state.opensOn session + state.streamsOn session) =
      tasksWith state.tasks ChannelStage.onSession := by
    rw [← Finset.sum_congr rfl fun session _ => tasksOn_onSession state session]
    exact sum_numberOf fun task on => valid.session task (hasSession_of_onSession (.inl on))
  rw [grouped]
  exact numberOf_balance fun task => onState_balance (state.tasks task).stage

end Channels

/-- In every state of every run, whatever the interleaving of calls, failures and drops. -/
theorem ssh_channels_exact {poolSize calls : Nat} {state : Channels calls}
    (reached : (Channels.machine poolSize calls).Reachable state) : state.Exact poolSize := by
  have valid := Channels.Valid.of_reachable reached
  constructor
  · intro session
    rw [← Channels.tasksOn_onSession]
    exact (valid.sessions session).active
  · exact ⟨valid.counters.active, valid.sum⟩
  · intro task enabled
    rw [← Channels.tasksOn_onSession]
    obtain ⟨after, moved⟩ := Option.isSome_iff_exists.mp enabled.1
    refine numberOf_pos task ?_
    rw [decide_eq_true rfl, leaves_onSession moved rfl, Bool.and_true]
  · intro task enabled
    obtain ⟨after, moved⟩ := Option.isSome_iff_exists.mp enabled.1
    exact numberOf_pos task (leaves_onState moved rfl)
  · exact valid.counters.closes
  · exact fun session => (valid.sessions session).closes
  · intro task gone
    rw [gone]
    exact ⟨rfl, rfl⟩
  · exact valid.size

/-- A stream is open on a session while a second call gives its channel of it back. -/
theorem ssh_channels_exact_two : ∃ state, (Channels.machine 2 2).Reachable state ∧
    ((state.tasks 0).stage = .live false ∧ (state.tasks 1).stage = .refused ∧ (state.tasks 1).session = 0) ∧
    0 < state.opensOn 0 + state.streamsOn 0 ∧ state.Exact 2 := by
  obtain ⟨state, reached, isLive, refused, session⟩ := Machine.exists_reachable (Channels.machine 2 2)
    (fun state => (state.tasks 0).stage = .live false ∧ (state.tasks 1).stage = .refused ∧ (state.tasks 1).session = 0)
    [(0, .lock), (0, .grow), (0, .connects), (0, .acquireSession), (0, .acquireState), (0, .unlock), (1, .lock),
      (0, .opens), (1, .choose 0), (1, .acquireSession), (0, .returns), (1, .acquireState), (1, .unlock), (1, .openFails)]
    (by decide)
  have exact := ssh_channels_exact reached
  refine ⟨state, reached, ⟨isLive, refused, session⟩, ?_, exact⟩
  have lowered := exact.sessionLowered 1 ⟨by simp only [refused]; rfl, trivial⟩
  rwa [session] at lowered

end SshProxy.SshNative
