import Mathlib.Algebra.BigOperators.Group.Finset.Basic
import Mathlib.Algebra.Order.BigOperators.Group.Finset

/-! Counting the tasks of a system that are in some condition. A counter that the tasks raise
and lower one at a time is exact when every change of it goes with a change of the task that
makes it, so each step of the system is settled by looking at that one task. -/

namespace SshProxy.Library

variable {ι : Type} [Fintype ι]

def numberOf (test : ι → Bool) : Nat := ∑ task, (test task).toNat

variable {test : ι → Bool}

theorem numberOf_eq_zero (none : ∀ task, test task = false) : numberOf test = 0 := by
  simp [numberOf, none]

theorem numberOf_pos (task : ι) (holds : test task = true) : 0 < numberOf test := by
  have single := Finset.single_le_sum (f := fun task => (test task).toNat)
    (fun _ _ => Nat.zero_le _) (Finset.mem_univ task)
  simp only [holds, Bool.toNat_true] at single
  exact single

theorem numberOf_le (test : ι → Bool) : numberOf test ≤ Fintype.card ι := by
  rw [← Finset.card_univ, Finset.card_eq_sum_ones]
  exact Finset.sum_le_sum fun task _ => Bool.toNat_le _

theorem numberOf_balance {first second third fourth : ι → Bool}
    (balance : ∀ task, (first task).toNat + (second task).toNat = (third task).toNat + (fourth task).toNat) :
    numberOf first + numberOf second = numberOf third + numberOf fourth := by
  unfold numberOf
  rw [← Finset.sum_add_distrib, ← Finset.sum_add_distrib]
  exact Finset.sum_congr rfl fun task _ => balance task

theorem sum_numberOf {group : ι → Nat} {groups : Nat}
    (bounded : ∀ task, test task = true → group task < groups) :
    ∑ number ∈ Finset.range groups, numberOf (fun task => decide (group task = number) && test task) =
      numberOf test := by
  unfold numberOf
  rw [Finset.sum_comm]
  refine Finset.sum_congr rfl fun task _ => ?_
  cases passes : test task with
  | false => simp [passes]
  | true =>
    rw [Finset.sum_eq_single_of_mem (group task) (Finset.mem_range.mpr (bounded task passes))]
    · simp [passes]
    · intro other _ apart
      simp [Ne.symm apart]

theorem numberOf_change [DecidableEq ι] (before after : ι → Bool) (task : ι)
    (others : ∀ other, other ≠ task → after other = before other) :
    numberOf after + (before task).toNat = numberOf before + (after task).toNat := by
  have same : ∑ other ∈ Finset.univ.erase task, (after other).toNat =
      ∑ other ∈ Finset.univ.erase task, (before other).toNat := by
    refine Finset.sum_congr rfl fun other member => ?_
    rw [others other (Finset.ne_of_mem_erase member)]
  have first := Finset.add_sum_erase Finset.univ (fun other => (before other).toNat) (Finset.mem_univ task)
  have last := Finset.add_sum_erase Finset.univ (fun other => (after other).toNat) (Finset.mem_univ task)
  unfold numberOf
  omega

variable {τ : Type} [DecidableEq ι]

theorem numberOf_update (test : ι → τ → Bool) (states : ι → τ) (task : ι) (state : τ) :
    numberOf (fun other => test other (Function.update states task state other)) + (test task (states task)).toNat =
      numberOf (fun other => test other (states other)) + (test task state).toNat := by
  have change := numberOf_change (fun other => test other (states other))
    (fun other => test other (Function.update states task state other)) task
    (fun other apart => by simp only [Function.update_of_ne apart])
  simpa only [Function.update_self] using change

/-! Counters of fixed width. -/

/-- Whatever number a counter with `modulus` values stands for, it does so still after one task
has changed whether it passes the test. -/
def Follows (modulus value after : Nat) (passed passes : Bool) : Prop :=
  ∀ number next, next + passed.toNat = number + passes.toNat → value = number % modulus → after = next % modulus

namespace Follows

theorem same {modulus value : Nat} {passes : Bool} : Follows modulus value value passes passes := by
  intro number next change stands
  rw [Nat.add_right_cancel change, stands]

theorem raised32 {value : UInt32} : Follows (2 ^ 32) value.toNat (value + 1).toNat false true := by
  intro number next change stands
  obtain rfl : next = number + 1 := change
  rw [UInt32.toNat_add, stands]
  exact Nat.mod_add_mod number _ 1

theorem lowered32 {value : UInt32} : Follows (2 ^ 32) value.toNat (value - 1).toNat true false := by
  intro number next change stands
  obtain rfl : next + 1 = number := change
  rw [UInt32.toNat_sub, stands, UInt32.toNat_one]
  omega

theorem raised64 {value : UInt64} : Follows (2 ^ 64) value.toNat (value + 1).toNat false true := by
  intro number next change stands
  obtain rfl : next = number + 1 := change
  rw [UInt64.toNat_add, stands]
  exact Nat.mod_add_mod number _ 1

theorem lowered64 {value : UInt64} : Follows (2 ^ 64) value.toNat (value - 1).toNat true false := by
  intro number next change stands
  obtain rfl : next + 1 = number := change
  rw [UInt64.toNat_sub, stands, UInt64.toNat_one]
  omega

end Follows
end SshProxy.Library
