import Mathlib.Data.Fin.VecNotation
import Mathlib.Data.Set.Operations
import Mathlib.Order.Bounds.Defs
import SshProxy.SshMetrics

/-! Concurrent calls of `update_atomic_max` leave the maximum of what they were given. A call is in
its loop only with a value below its candidate, so an exchange that succeeds raises the counter;
and a call that returns has seen a value that is not below its candidate, or has put it there. -/

namespace SshProxy.SshNative
open Function Library

namespace MaxCounter
variable {calls : Nat} {candidates : Fin calls → UInt64} {start : UInt64} {state : MaxCounter calls}

structure Sound (candidates : Fin calls → UInt64) (start : UInt64) (state : MaxCounter calls) : Prop where
  least : start ≤ state.value
  origin : state.value = start ∨ ∃ task, candidates task = state.value
  reached : ∀ task, state.tasks task = .returned → candidates task ≤ state.value
  behind : ∀ task current, state.tasks task = .looping current → current < candidates task

theorem Sound.initial : Sound candidates start { value := start } := ⟨UInt64.le_refl _, .inl rfl, nofun, nofun⟩

/-- A step looks at the counter, or raises it to the candidate of its call. -/
theorem Sound.next_cases (sound : state.Sound candidates start) (task : Fin calls) (move : MaxMove) :
    state.next candidates task move =
        { state with tasks := update state.tasks task (.compared (candidates task) state.value) } ∨
      state.value < candidates task ∧
        state.next candidates task move = ⟨candidates task, update state.tasks task .returned⟩ := by
  cases move with
  | load => exact .inl rfl
  | exchange spurious =>
    rw [next]
    split
    next swaps => exact .inr ⟨sound.behind task _ swaps.1, rfl⟩
    next => exact .inl rfl

theorem Sound.value_le (sound : state.Sound candidates start) (task : Fin calls) (move : MaxMove) :
    state.value ≤ (state.next candidates task move).value := by
  obtain same | ⟨below, raised⟩ := sound.next_cases task move
  · rw [same]
    exact UInt64.le_refl _
  · rw [raised]
    exact UInt64.le_of_lt below

theorem Sound.task_cases (sound : state.Sound candidates start) (task other : Fin calls) (move : MaxMove) :
    (state.next candidates task move).tasks other = state.tasks other ∨
      (state.next candidates task move).tasks other = .returned ∧
        candidates other ≤ (state.next candidates task move).value ∨
      ∃ current < candidates other, (state.next candidates task move).tasks other = .looping current := by
  by_cases self : other = task
  · subst self
    obtain same | ⟨_, raised⟩ := sound.next_cases other move
    · rw [same]
      simp only [update_self, MaxCall.compared]
      split
      next below => exact .inr (.inr ⟨_, below, rfl⟩)
      next above => exact .inr (.inl ⟨rfl, UInt64.not_lt.mp above⟩)
    · rw [raised]
      exact .inr (.inl ⟨update_self .., UInt64.le_refl _⟩)
  · obtain same | ⟨_, raised⟩ := sound.next_cases task move
    · rw [same]
      exact .inl (update_of_ne self ..)
    · rw [raised]
      exact .inl (update_of_ne self ..)

theorem Sound.next (sound : state.Sound candidates start) (task : Fin calls) (move : MaxMove) :
    (state.next candidates task move).Sound candidates start := by
  have grows := sound.value_le task move
  refine ⟨UInt64.le_trans sound.least grows, ?_, ?_, ?_⟩
  · obtain same | ⟨_, raised⟩ := sound.next_cases task move
    · rw [same]
      exact sound.origin
    · rw [raised]
      exact .inr ⟨task, rfl⟩
  · intro other done
    obtain same | ⟨_, above⟩ | ⟨_, _, loops⟩ := sound.task_cases task other move
    · exact UInt64.le_trans (sound.reached other (same ▸ done)) grows
    · exact above
    · rw [loops] at done
      cases done
  · intro other current loops
    obtain same | ⟨done, _⟩ | ⟨_, below, looping⟩ := sound.task_cases task other move
    · exact sound.behind other current (same ▸ loops)
    · rw [done] at loops
      cases loops
    · rw [looping] at loops
      cases loops
      exact below

theorem Sound.of_reachable (reached : (machine candidates start).Reachable state) : state.Sound candidates start :=
  reached.invariant _ .initial fun _ action _ sound _ _ => sound.next action.1 action.2

end MaxCounter

/-- In every run, whatever the interleaving and however often an exchange fails for no reason. -/
theorem atomic_max_kept {calls : Nat} (candidates : Fin calls → UInt64) (initial : UInt64) {state : MaxCounter calls}
    (reached : (MaxCounter.machine candidates initial).Reachable state) :
    (∀ action, (MaxCounter.machine candidates initial).enabled state action →
      state.value ≤ ((MaxCounter.machine candidates initial).next state action).value) ∧
    ((∀ task, state.tasks task = .returned) → IsGreatest (insert initial (Set.range candidates)) state.value) := by
  have sound := MaxCounter.Sound.of_reachable reached
  refine ⟨fun action _ => sound.value_le action.1 action.2, fun returned => ⟨sound.origin, ?_⟩⟩
  rintro value (rfl | ⟨task, rfl⟩)
  · exact sound.least
  · exact sound.reached task (returned task)

/-- The second call gets ahead of the first, whose exchange fails for no reason. -/
theorem atomic_max_kept_two : ∃ state, (MaxCounter.machine ![7, 9] 5).Reachable state ∧
    (∀ task, state.tasks task = .returned) ∧ IsGreatest (insert 5 (Set.range ![7, 9])) state.value := by
  obtain ⟨state, reached, returned⟩ := Machine.exists_reachable (MaxCounter.machine ![7, 9] 5)
    (fun state => ∀ task, state.tasks task = .returned)
    [(0, .load), (1, .load), (0, .exchange true), (1, .exchange false), (0, .exchange false)] (by decide)
  exact ⟨state, reached, returned, (atomic_max_kept _ _ reached).2 returned⟩

end SshProxy.SshNative
