import SshProxy.QuicFlows

/-! The counters of QUIC-native flows are exact. Every counter equals the number of tasks in the
phases it stands for: a move changes a counter by what it changes in the phase of the one task
that makes it. -/

namespace SshProxy
open Library FlowPhase QuicFlows

namespace FlowPhase

def openOnWorker : FlowPhase → Bool
  | .counted | .writing | .live | .dropping | .leaving _ => true
  | _ => false

def writesHeader : FlowPhase → Bool
  | .writing | .leaving .headerFailed | .closing .headerFailed | .closed .headerFailed => true
  | _ => false

def isStream : FlowPhase → Bool
  | .live | .dropping | .resetStream | .releasing _ => true
  | .leaving ending | .closing ending | .closed ending => decide (ending ≠ .headerFailed)
  | _ => false

/-- How the worker has counted the end of the `Stream`: `some true` is a reset. -/
def closedOnWorker : FlowPhase → Option Bool
  | .closed .reset | .resetStream => some true
  | .closed .finished => some false
  | .releasing reset | .gone reset => some reset
  | _ => none

def closedOnState : FlowPhase → Option Bool
  | .leaving .dropped | .closing .dropped | .resetStream => some true
  | .releasing reset | .gone reset => some reset
  | _ => none

def headerReset : FlowPhase → Bool
  | .closed .headerFailed | .failed true => true
  | _ => false

end FlowPhase

/-- No counter is at its largest value. -/
structure FlowCounters.Roomy (counters : FlowCounters) : Prop where
  active : (counters.activeQuicFlows + 1) % 2 ^ 64 = counters.activeQuicFlows + 1
  graceful : (counters.quicFlowGracefulCloses + 1) % 2 ^ 64 = counters.quicFlowGracefulCloses + 1
  resets : (counters.quicFlowResets + 1) % 2 ^ 64 = counters.quicFlowResets + 1

variable {move : FlowMove} {counters : FlowCounters}

section
variable (roomy : counters.Roomy)
include roomy

theorem FlowPhase.after_onWorker {phase after : FlowPhase} (moved : phase.after move = some after)
    (counted : phase.openOnWorker = true → 0 < counters.activeQuicFlows) :
    (move.onWorker phase counters).activeQuicFlows + phase.openOnWorker.toNat =
        counters.activeQuicFlows + after.openOnWorker.toNat ∧
      (move.onWorker phase counters).quicFlowGracefulCloses + (phase.closedOnWorker == some false).toNat =
        counters.quicFlowGracefulCloses + (after.closedOnWorker == some false).toNat ∧
      (move.onWorker phase counters).quicFlowResets + (phase.closedOnWorker == some true).toNat + phase.headerReset.toNat =
        counters.quicFlowResets + (after.closedOnWorker == some true).toNat + after.headerReset.toNat := by
  unfold FlowPhase.after at moved
  split at moved <;> cases moved
  -- Only `record_flow_closed` does not compute: it lowers what may be zero, and which of the
  -- closes it counts depends on the ending.
  all_goals try first | exact ⟨rfl, rfl, rfl⟩ | exact ⟨roomy.active, rfl, rfl⟩ | exact ⟨rfl, rfl, roomy.resets⟩
  next ending =>
    have positive := counted rfl
    refine ⟨?_, rfl, rfl⟩
    simp only [FlowMove.onWorker, FlowCounters.checkedSub, openOnWorker, Bool.toNat_true, Bool.toNat_false]
    omega
  next ending kept =>
    cases ending with
    | headerFailed => exact ⟨rfl, rfl, congrArg (· + 0) roomy.resets⟩
    | reset => exact ⟨rfl, rfl, roomy.resets⟩
    | finished => exact ⟨rfl, roomy.graceful, rfl⟩
    | dropped => exact (kept rfl).elim

theorem FlowPhase.after_onState {phase after : FlowPhase} (moved : phase.after move = some after)
    (counted : phase.writesHeader = true ∨ phase.isStream = true → 0 < counters.activeQuicFlows) :
    (move.onState phase counters).activeQuicFlows + phase.writesHeader.toNat + phase.isStream.toNat =
        counters.activeQuicFlows + after.writesHeader.toNat + after.isStream.toNat ∧
      (move.onState phase counters).quicFlowGracefulCloses + (phase.closedOnState == some false).toNat =
        counters.quicFlowGracefulCloses + (after.closedOnState == some false).toNat ∧
      (move.onState phase counters).quicFlowResets + (phase.closedOnState == some true).toNat =
        counters.quicFlowResets + (after.closedOnState == some true).toNat := by
  unfold FlowPhase.after at moved
  split at moved <;> cases moved
  all_goals try first | exact ⟨rfl, rfl, rfl⟩ | exact ⟨roomy.active, rfl, rfl⟩ | exact ⟨rfl, rfl, roomy.resets⟩ |
    exact ⟨rfl, roomy.graceful, rfl⟩
  next ending => cases ending <;> exact ⟨rfl, rfl, rfl⟩
  next ending kept =>
    cases ending with
    | headerFailed | reset | finished => exact ⟨rfl, rfl, rfl⟩
    | dropped => exact (kept rfl).elim
  · have positive := counted (.inl rfl)
    refine ⟨?_, rfl, rfl⟩
    simp only [FlowMove.onState, FlowCounters.fetchSub, if_neg positive.ne', writesHeader, isStream, ne_eq,
      not_true_eq_false, decide_false, Bool.toNat_true, Bool.toNat_false]
    omega
  next reset =>
    have positive := counted (.inr rfl)
    refine ⟨?_, rfl, rfl⟩
    simp only [FlowMove.onState, FlowCounters.checkedSub, writesHeader, isStream, Bool.toNat_true, Bool.toNat_false]
    omega

end

variable {phase : FlowPhase}

theorem FlowPhase.leaves_open (leaves : (phase.after .leaveWorker).isSome) : phase.openOnWorker = true := by
  cases phase with
  | leaving => rfl
  | closing ending | closed ending => cases ending <;> cases leaves
  | _ => cases leaves

theorem FlowPhase.lowers_counted (lowers : move = .subActive ∨ move = .releaseActive)
    (enabled : (phase.after move).isSome) : phase.writesHeader = true ∨ phase.isStream = true := by
  obtain rfl | rfl := lowers
  · cases phase with
    | closed ending =>
      cases ending with
      | headerFailed => exact .inl rfl
      | reset | finished | dropped => cases enabled
    | leaving ending | closing ending => cases ending <;> cases enabled
    | _ => cases enabled
  · cases phase with
    | releasing => exact .inr rfl
    | leaving ending | closing ending | closed ending => cases ending <;> cases enabled
    | _ => cases enabled

namespace QuicFlows
variable {workers flows : Nat} {chosen : Fin flows → Fin workers} {state : QuicFlows workers flows}

def flowsOn (chosen : Fin flows → Fin workers) (phases : Fin flows → FlowPhase) (worker : Fin workers)
    (test : FlowPhase → Bool) : Nat :=
  numberOf fun task => decide (chosen task = worker) && test (phases task)

def flowsWith (phases : Fin flows → FlowPhase) (test : FlowPhase → Bool) : Nat :=
  numberOf fun task => test (phases task)

variable {phases : Fin flows → FlowPhase} {task : Fin flows}

theorem flowsOn_pos {test : FlowPhase → Bool} (holds : test (phases task) = true) :
    0 < flowsOn chosen phases (chosen task) test := by
  refine numberOf_pos task ?_
  rw [decide_eq_true rfl, holds, Bool.and_true]

theorem flowsOn_update_self (chosen : Fin flows → Fin workers) (phases : Fin flows → FlowPhase) (task : Fin flows)
    (phase : FlowPhase) (test : FlowPhase → Bool) :
    flowsOn chosen (Function.update phases task phase) (chosen task) test + (test (phases task)).toNat =
      flowsOn chosen phases (chosen task) test + (test phase).toNat := by
  have updated := numberOf_update (fun other phase => decide (chosen other = chosen task) && test phase) phases task phase
  simpa only [flowsOn, decide_true, Bool.true_and] using updated

theorem flowsOn_update_of_ne {worker : Fin workers} (apart : chosen task ≠ worker) (phases : Fin flows → FlowPhase)
    (phase : FlowPhase) (test : FlowPhase → Bool) :
    flowsOn chosen (Function.update phases task phase) worker test = flowsOn chosen phases worker test := by
  have updated := numberOf_update (fun other phase => decide (chosen other = worker) && test phase) phases task phase
  simpa only [flowsOn, decide_eq_false apart, Bool.false_and, Bool.toNat_false, Nat.add_zero] using updated

structure WorkerExact (chosen : Fin flows → Fin workers) (phases : Fin flows → FlowPhase) (worker : Fin workers)
    (counters : FlowCounters) : Prop where
  active : counters.activeQuicFlows = flowsOn chosen phases worker openOnWorker
  graceful : counters.quicFlowGracefulCloses = flowsOn chosen phases worker (·.closedOnWorker == some false)
  resets : counters.quicFlowResets = flowsOn chosen phases worker (·.closedOnWorker == some true) +
    flowsOn chosen phases worker headerReset

structure StateExact (phases : Fin flows → FlowPhase) (counters : FlowCounters) : Prop where
  active : counters.activeQuicFlows = flowsWith phases writesHeader + flowsWith phases isStream
  graceful : counters.quicFlowGracefulCloses = flowsWith phases (·.closedOnState == some false)
  resets : counters.quicFlowResets = flowsWith phases (·.closedOnState == some true)

structure Exact (chosen : Fin flows → Fin workers) (state : QuicFlows workers flows) : Prop where
  workers : ∀ worker, WorkerExact chosen state.phases worker (state.workers worker)
  counters : StateExact state.phases state.counters

variable (few : flows < 2 ^ 63)
include few

theorem WorkerExact.roomy {worker : Fin workers} (exact : WorkerExact chosen phases worker counters) : counters.Roomy := by
  obtain ⟨active, graceful, resets⟩ := exact
  have bound (test : FlowPhase → Bool) : flowsOn chosen phases worker test ≤ flows := (numberOf_le _).trans_eq (by simp)
  have opened := bound openOnWorker
  have finished := bound (·.closedOnWorker == some false)
  have reset := bound (·.closedOnWorker == some true)
  have refused := bound headerReset
  constructor <;> omega

theorem StateExact.roomy (exact : StateExact phases counters) : counters.Roomy := by
  obtain ⟨active, graceful, resets⟩ := exact
  have bound (test : FlowPhase → Bool) : flowsWith phases test ≤ flows := (numberOf_le _).trans_eq (by simp)
  have headers := bound writesHeader
  have streams := bound isStream
  have finished := bound (·.closedOnState == some false)
  have reset := bound (·.closedOnState == some true)
  constructor <;> omega

theorem WorkerExact.update (exact : WorkerExact chosen phases (chosen task) counters)
    (moved : (phases task).after move = some phase) :
    WorkerExact chosen (Function.update phases task phase) (chosen task) (move.onWorker (phases task) counters) := by
  have counted : (phases task).openOnWorker = true → 0 < counters.activeQuicFlows := by
    intro isOpen
    rw [exact.active]
    exact flowsOn_pos isOpen
  obtain ⟨active, graceful, resets⟩ := after_onWorker (exact.roomy few) moved counted
  have updated := flowsOn_update_self chosen phases task phase
  constructor
  · have tallied := updated openOnWorker
    have before := exact.active
    omega
  · have tallied := updated (·.closedOnWorker == some false)
    have before := exact.graceful
    omega
  · have tallied := updated (·.closedOnWorker == some true)
    have headers := updated headerReset
    have before := exact.resets
    omega

omit few in
theorem StateExact.active_pos (exact : StateExact phases counters)
    (counted : (phases task).writesHeader = true ∨ (phases task).isStream = true) : 0 < counters.activeQuicFlows := by
  rw [exact.active]
  obtain writes | streams := counted
  · exact Nat.add_pos_left (numberOf_pos task writes) _
  · exact Nat.add_pos_right _ (numberOf_pos task streams)

theorem StateExact.update (exact : StateExact phases counters) (moved : (phases task).after move = some phase) :
    StateExact (Function.update phases task phase) (move.onState (phases task) counters) := by
  have updated : ∀ test, flowsWith (Function.update phases task phase) test + (test (phases task)).toNat =
      flowsWith phases test + (test phase).toNat :=
    fun test => numberOf_update (fun _ => test) phases task phase
  obtain ⟨active, graceful, resets⟩ := after_onState (exact.roomy few) moved exact.active_pos
  constructor
  · have headers := updated writesHeader
    have streams := updated isStream
    have before := exact.active
    omega
  · have tallied := updated (·.closedOnState == some false)
    have before := exact.graceful
    omega
  · have tallied := updated (·.closedOnState == some true)
    have before := exact.resets
    omega

omit few in
theorem Exact.initial : Exact chosen ({} : QuicFlows workers flows) where
  workers worker := by
    have none : ∀ test, test idle = false → flowsOn chosen (fun _ => .idle) worker test = 0 :=
      fun test fails => numberOf_eq_zero fun task => by rw [fails, Bool.and_false]
    exact ⟨(none _ rfl).symm, (none _ rfl).symm, by rw [none _ rfl, none _ rfl]⟩
  counters := by
    have none : ∀ test, test idle = false → flowsWith (fun _ : Fin flows => .idle) test = 0 :=
      fun test fails => numberOf_eq_zero fun _ => fails
    exact ⟨by rw [none _ rfl, none _ rfl], (none _ rfl).symm, (none _ rfl).symm⟩

theorem Exact.next (exact : Exact chosen state) (task : Fin flows) (move : FlowMove) :
    Exact chosen (state.next chosen task move) := by
  unfold QuicFlows.next
  split
  next => exact exact
  next phase moved =>
    refine ⟨fun worker => ?_, exact.counters.update few moved⟩
    by_cases here : chosen task = worker
    · subst here
      simpa only [Function.update_self] using (exact.workers _).update few moved
    · -- Another worker keeps its counters, and no flow of its own has moved.
      obtain ⟨active, graceful, resets⟩ := exact.workers worker
      simp only [Function.update_of_ne (Ne.symm here)]
      constructor <;> simpa only [flowsOn_update_of_ne here]

end QuicFlows

/-- In every state of every run the counters stand for the flows they name, a counter that is
about to be lowered is positive, and the worker and the state have counted a stream that is gone
once each, and in the same way. -/
theorem quic_flows_exact {workers flows : Nat} (few : flows < 2 ^ 63) {chosen : Fin flows → Fin workers}
    {state : QuicFlows workers flows} (reached : (machine chosen).Reachable state) : state.Exact chosen ∧
      (∀ task, (machine chosen).enabled state (task, .leaveWorker) →
        0 < (state.workers (chosen task)).activeQuicFlows) ∧
      (∀ task move, move = .subActive ∨ move = .releaseActive →
        (machine chosen).enabled state (task, move) → 0 < state.counters.activeQuicFlows) ∧
      ∀ task reset, state.phases task = .gone reset →
        (state.phases task).closedOnWorker = some reset ∧ (state.phases task).closedOnState = some reset := by
  have exact : state.Exact chosen :=
    reached.invariant _ .initial fun state action _ exact _ _ => exact.next few action.1 action.2
  refine ⟨exact, ?_, ?_, ?_⟩
  · intro task enabled
    rw [(exact.workers _).active]
    exact flowsOn_pos (leaves_open enabled)
  · intro task move lowers enabled
    exact exact.counters.active_pos (lowers_counted lowers enabled)
  · intro task reset gone
    rw [gone]
    exact ⟨rfl, rfl⟩

/-- One stream of a worker is finished and gone; a second one has been reset and still counts on
the worker, while a third call takes back the flow whose header it could not write. -/
theorem quic_flows_exact_three : ∃ state, (machine fun _ : Fin 3 => (0 : Fin 1)).Reachable state ∧
    (state.phases 0 = .gone false ∧ state.phases 1 = .leaving .reset ∧ state.phases 2 = .closed .headerFailed) ∧
    state.Exact (fun _ => 0) ∧ 0 < (state.workers 0).activeQuicFlows ∧ 0 < state.counters.activeQuicFlows := by
  let opened (task : Fin 3) : List (Fin 3 × FlowMove) :=
    [(task, .start), (task, .opens), (task, .recordFlowOpened), (task, .addActive)]
  obtain ⟨state, reached, finished, reset, refused⟩ := Machine.exists_reachable
    (machine fun _ : Fin 3 => (0 : Fin 1))
    (fun state => state.phases 0 = .gone false ∧ state.phases 1 = .leaving .reset ∧
      state.phases 2 = .closed .headerFailed)
    (opened 0 ++ opened 1 ++ opened 2 ++
      [(0, .headerWritten), (1, .headerWritten), (2, .headerFails), (0, .finish), (1, .reset), (2, .leaveWorker),
        (0, .leaveWorker), (0, .closeWorker), (2, .closeWorker), (0, .recordQuicFlowClose), (0, .releaseActive)])
    (by decide)
  obtain ⟨exact, onWorker, onState, _⟩ := quic_flows_exact (by decide) reached
  refine ⟨state, reached, ⟨finished, reset, refused⟩, exact, onWorker 1 ?_, onState 2 .subActive (.inl rfl) ?_⟩
  · simp only [reset]
    rfl
  · simp only [refused]
    rfl

end SshProxy
