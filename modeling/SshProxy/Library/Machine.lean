import Mathlib.Logic.Basic

/-! Transition systems whose nondeterminism is in the labels of their steps. A run
may be restricted to steps that satisfy a guard in the state they start from, so
that safety under every schedule and safety of the schedules that avoid some
transition are the same statement at different guards. -/

namespace SshProxy.Library

universe u v

structure Machine (σ : Type u) (α : Type v) where
  initial : σ
  enabled : σ → α → Prop
  next : σ → α → σ

namespace Machine
variable {σ : Type u} {α : Type v}

/-- The states reached by runs all of whose steps are allowed where they are taken. -/
inductive Run (machine : Machine σ α) (allowed : σ → α → Prop) : σ → Prop where
  | initial : Run machine allowed machine.initial
  | step {state : σ} {action : α} (before : Run machine allowed state)
      (enabled : machine.enabled state action) (guarded : allowed state action) :
      Run machine allowed (machine.next state action)

abbrev Reachable (machine : Machine σ α) : σ → Prop := machine.Run fun _ _ => True

variable {machine : Machine σ α} {allowed : σ → α → Prop} {state : σ}

theorem Run.weaken {other : σ → α → Prop} (run : machine.Run allowed state)
    (implies : ∀ state action, allowed state action → other state action) : machine.Run other state := by
  induction run with
  | initial => exact .initial
  | step _ enabled guarded ih => exact ih.step enabled (implies _ _ guarded)

/-- The invariant rule. A step may use that its source was reached by a guarded
run, so an invariant can rest on those already established. -/
theorem Run.invariant (run : machine.Run allowed state) (holds : σ → Prop) (start : holds machine.initial)
    (preserved : ∀ state action, machine.Run allowed state → holds state →
      machine.enabled state action → allowed state action → holds (machine.next state action)) :
    holds state := by
  induction run with
  | initial => exact start
  | step before enabled guarded ih => exact preserved _ _ before ih enabled guarded

theorem Run.exists_view {ι : Type*} (view : σ → ι → Prop) (run : machine.Run allowed state) {first : ι}
    (start : view machine.initial first) (preserved : ∀ {state index}, view state index →
      ∀ {action}, machine.enabled state action → allowed state action → ∃ later, view (machine.next state action) later) :
    ∃ index, view state index := by
  refine run.invariant (fun state => ∃ index, view state index) ⟨first, start⟩ ?_
  rintro state action _ ⟨_, seen⟩ enabled guarded
  exact preserved seen enabled guarded

inductive Path (machine : Machine σ α) (allowed : σ → α → Prop) : Nat → σ → Prop where
  | initial : Path machine allowed 0 machine.initial
  | step {length : Nat} {state : σ} {action : α} (before : Path machine allowed length state)
      (enabled : machine.enabled state action) (guarded : allowed state action) :
      Path machine allowed (length + 1) (machine.next state action)

theorem Path.run {length : Nat} (path : machine.Path allowed length state) : machine.Run allowed state := by
  induction path with
  | initial => exact .initial
  | step _ enabled guarded ih => exact ih.step enabled guarded

theorem Path.bounded {length : Nat} (path : machine.Path allowed length state) (weight : σ → Nat)
    (lowers : ∀ state action, machine.enabled state action → weight (machine.next state action) < weight state) :
    length + weight state ≤ weight machine.initial := by
  induction path with
  | initial => omega
  | step before enabled _ ih =>
    have lower := lowers _ _ enabled
    omega

section
variable (machine allowed)
variable [∀ state action, Decidable (machine.enabled state action)] [∀ state action, Decidable (allowed state action)]

/-- Execute a schedule, refusing it at the first step that is not enabled or not allowed. -/
def execute : List α → σ → Option σ
  | [], state => some state
  | action :: rest, state =>
    if machine.enabled state action ∧ allowed state action then execute rest (machine.next state action) else none

variable {machine allowed}

theorem execute_path {schedule : List α} {length : Nat} {state final : σ} (reached : machine.Path allowed length state)
    (executed : machine.execute allowed schedule state = some final) :
    machine.Path allowed (length + schedule.length) final := by
  induction schedule generalizing length state with
  | nil =>
    cases executed
    exact reached
  | cons action rest ih =>
    simp only [execute] at executed
    split at executed
    next both =>
      have path := ih (reached.step both.1 both.2) executed
      rwa [List.length_cons, Nat.add_comm rest.length, ← Nat.add_assoc]
    next => cases executed

variable (machine allowed) (property : σ → Prop) [DecidablePred property] (schedule : List α)

theorem exists_path (holds : (machine.execute allowed schedule machine.initial).any (fun state => decide (property state)) = true) :
    ∃ state, machine.Path allowed schedule.length state ∧ property state := by
  cases executed : machine.execute allowed schedule machine.initial with
  | none => simp [executed] at holds
  | some final =>
    have path := execute_path .initial executed
    rw [Nat.zero_add] at path
    exact ⟨final, path, by simpa [executed] using holds⟩

theorem exists_run (holds : (machine.execute allowed schedule machine.initial).any (fun state => decide (property state)) = true) :
    ∃ state, machine.Run allowed state ∧ property state := by
  obtain ⟨state, path, found⟩ := exists_path machine allowed property schedule holds
  exact ⟨state, path.run, found⟩

theorem exists_reachable (holds : (machine.execute (fun _ _ => True) schedule machine.initial).any
    (fun state => decide (property state)) = true) : ∃ state, machine.Reachable state ∧ property state :=
  exists_run machine _ property schedule holds

end

abbrev recorded (machine : Machine σ α) : Machine (σ × List α) α where
  initial := (machine.initial, [])
  enabled state := machine.enabled state.1
  next state action := (machine.next state.1 action, state.2 ++ [action])

/-- No allowed step is enabled: a run that got here is maximal. -/
def Stuck (machine : Machine σ α) (allowed : σ → α → Prop) (state : σ) : Prop :=
  ∀ action, machine.enabled state action → ¬ allowed state action

end Machine
end SshProxy.Library
