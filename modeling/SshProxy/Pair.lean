import SshProxy.Bridge
import SshProxy.Library.Machine
import SshProxy.Remote

/-! A controller and a helper joined by two first-in first-out queues of frames. A
queue stands for the writer's channel and the transport together. What was ever put
on a queue is remembered in its history. -/

namespace SshProxy
open Library

structure Pair where
  bridge : Bridge := {}
  remote : Remote := {}
  toRemote : List Frame := []
  toBridge : List Frame := []
  sentToRemote : List Frame := []
  sentToBridge : List Frame := []

/-- Once a writer has ended, frames it had accepted but not written are lost from some
point on; `keep` are still delivered. -/
inductive PairAction where
  | bridge (action : BridgeAction)
  | remote (action : RemoteAction)
  | loseToRemote (keep : Nat)
  | loseToBridge (keep : Nat)
  deriving DecidableEq

namespace Pair

def enabled (pair : Pair) : PairAction → Prop
  | .bridge action => pair.bridge.enabled action ∧ action.consumes <+: pair.toBridge
  | .remote action => pair.remote.enabled action ∧ action.consumes <+: pair.toRemote
  | .loseToRemote _ => pair.bridge.writerUp = false
  | .loseToBridge _ => pair.remote.writerUp = false

def next (pair : Pair) : PairAction → Pair
  | .bridge action =>
    { pair with
      bridge := pair.bridge.next action
      toBridge := pair.toBridge.drop action.consumes.length
      toRemote := pair.toRemote ++ pair.bridge.emits action
      sentToRemote := pair.sentToRemote ++ pair.bridge.emits action }
  | .remote action =>
    { pair with
      remote := pair.remote.next action
      toRemote := pair.toRemote.drop action.consumes.length
      toBridge := pair.toBridge ++ pair.remote.emits action
      sentToBridge := pair.sentToBridge ++ pair.remote.emits action }
  | .loseToRemote keep => { pair with toRemote := pair.toRemote.take keep }
  | .loseToBridge keep => { pair with toBridge := pair.toBridge.take keep }

instance (pair : Pair) (action : PairAction) : Decidable (pair.enabled action) := by
  cases action <;> dsimp only [enabled] <;> infer_instance

abbrev machine (defaultEgressProxy : Option String) : Machine Pair PairAction where
  initial := { remote := { defaultEgressProxy } }
  enabled := enabled
  next := next

end Pair
end SshProxy
