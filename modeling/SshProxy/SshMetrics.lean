import Mathlib.Logic.Function.Basic
import SshProxy.Library.Machine

/-! The maximum that concurrent calls of `update_atomic_max` keep in one counter of the ssh-native metrics. -/

namespace SshProxy.SshNative
open Library

/-- A call of `update_atomic_max` between its operations on the counter. -/
inductive MaxCall where
  | calling
  /-- In the loop, with what the last load or failed exchange gave. -/
  | looping (current : UInt64)
  | returned
  deriving DecidableEq

inductive MaxMove where
  | load
  /-- `compare_exchange_weak`, which may fail for no reason. -/
  | exchange (spurious : Bool)
  deriving DecidableEq

/-- The condition of the loop. -/
def MaxCall.compared (candidate current : UInt64) : MaxCall := if candidate > current then .looping current else .returned

structure MaxCounter (calls : Nat) where
  value : UInt64
  tasks : Fin calls → MaxCall := fun _ => .calling

namespace MaxCounter
variable {calls : Nat} (candidates : Fin calls → UInt64)

def next (state : MaxCounter calls) (task : Fin calls) : MaxMove → MaxCounter calls
  | .load => { state with tasks := Function.update state.tasks task (.compared (candidates task) state.value) }
  | .exchange spurious =>
    if state.tasks task = .looping state.value ∧ ¬spurious then
      { value := candidates task, tasks := Function.update state.tasks task .returned }
    else { state with tasks := Function.update state.tasks task (.compared (candidates task) state.value) }

def enabled (state : MaxCounter calls) (task : Fin calls) : MaxMove → Prop
  | .load => state.tasks task = .calling
  | .exchange _ => state.tasks task ≠ .calling ∧ state.tasks task ≠ .returned

abbrev machine (initial : UInt64) : Machine (MaxCounter calls) (Fin calls × MaxMove) where
  initial := { value := initial }
  enabled state action := state.enabled action.1 action.2
  next state action := state.next candidates action.1 action.2

instance (state : MaxCounter calls) (task : Fin calls) (move : MaxMove) : Decidable (state.enabled task move) := by
  cases move <;> dsimp only [enabled] <;> infer_instance

end MaxCounter

end SshProxy.SshNative
