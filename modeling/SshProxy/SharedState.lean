import Mathlib.Data.List.FinRange
import Mathlib.Logic.Function.Basic
import SshProxy.Library.Machine

/-! The bridge slots of the controller, `SharedState`: one worker a slot that connects and
loses bridges, and the callers of `bridge()` that wait for one. Locks and `Notify` are taken
apart into the steps other threads can come between. -/

namespace SshProxy
open Library

/-- A `Notified` future. `notify_waiters` wakes those that exist and leaves nothing behind. -/
inductive Notified where
  | absent
  | armed
  | woken
  deriving DecidableEq

def Notified.notify : Notified → Notified
  | .armed => .woken
  | other => other

/-- Where `run_worker` stands. `set_bridge` notifies before it gives the write lock back. -/
inductive WorkerPhase where
  | connecting
  | recorded (handle : Nat)
  | installed
  | serving
  | dropped
  | cleared
  deriving DecidableEq

def WorkerPhase.writesSlots : WorkerPhase → Bool
  | .installed | .cleared => true
  | .connecting | .recorded _ | .serving | .dropped => false

/-- An entry of `bridge_slots`, of `bridge_workers` and of their counters. -/
structure BridgeSlot where
  bridge : Option Nat := none
  connected : Bool := false
  activeStreams : Nat := 0
  phase : WorkerPhase := .connecting
  deriving DecidableEq

structure BridgeSelection (pool : Nat) where
  slot : Fin pool
  handle : Nat
  deriving DecidableEq

inductive BridgeError where
  | notConnected
  | shuttingDown
  deriving DecidableEq

def BridgeError.text : BridgeError → String
  | .notConnected => "remote bridge is not connected"
  | .shuttingDown => "proxy is shutting down"

/-- Where a call of `bridge()` stands: before its turn of the loop, with the read lock of the
slots, with the bridges it found, in the `select!` before and after `shutdown_notified` has
read the flag, and asleep in it. -/
inductive CallerPhase (pool : Nat) where
  | idle
  | looping
  | readsSlots
  | checked (available : List (BridgeSelection pool))
  | selecting
  | flagRead
  | waiting
  | selected (selection : BridgeSelection pool)
  | failed (error : BridgeError)
  deriving DecidableEq

structure BridgeCaller (pool : Nat) where
  phase : CallerPhase pool := .idle
  notified : Notified := .absent
  shutdownNotified : Notified := .absent
  deriving DecidableEq

/-- `stored` and `announced` count the calls of `request_shutdown` that have stored the flag,
and that have also notified those who wait for the shutdown. -/
structure SharedState (pool callers : Nat) where
  slots : Fin pool → BridgeSlot := fun _ => {}
  callers : Fin callers → BridgeCaller pool := fun _ => {}
  nextBridge : UInt32 := 0
  shutdown : Bool := false
  stored : Nat := 0
  announced : Nat := 0

inductive SharedAction (pool callers : Nat) where
  | call (caller : Fin callers)
  | lockSlots (caller : Fin callers)
  | check (caller : Fin callers)
  | proceed (caller : Fin callers)
  | readFlag (caller : Fin callers)
  | sleep (caller : Fin callers)
  | wake (caller : Fin callers)
  | wakeForShutdown (caller : Fin callers)
  | cancel (caller : Fin callers)
  | recordConnected (slot : Fin pool) (handle : Nat)
  | recordFailed (slot : Fin pool)
  | install (slot : Fin pool)
  | recordDisconnected (slot : Fin pool)
  | clear (slot : Fin pool)
  | notify (slot : Fin pool)
  | setActive (slot : Fin pool) (streams : Nat)
  | storeShutdown
  | announceShutdown
  | notifyShutdown
  deriving DecidableEq

namespace SharedState
variable {pool callers : Nat}

def setSlot (state : SharedState pool callers) (slot : Fin pool) (value : BridgeSlot) : SharedState pool callers :=
  { state with slots := Function.update state.slots slot value }

def setCaller (state : SharedState pool callers) (caller : Fin callers) (value : BridgeCaller pool) :
    SharedState pool callers :=
  { state with callers := Function.update state.callers caller value }

def notifyCallers (state : SharedState pool callers) : SharedState pool callers :=
  { state with callers := fun caller =>
      { state.callers caller with notified := (state.callers caller).notified.notify } }

def notifyShutdownCallers (state : SharedState pool callers) : SharedState pool callers :=
  { state with callers := fun caller =>
      { state.callers caller with shutdownNotified := (state.callers caller).shutdownNotified.notify } }

def candidates (state : SharedState pool callers) : List (BridgeSelection pool × Nat) :=
  (List.finRange pool).filterMap fun slot =>
    match (state.slots slot).bridge with
    | none => none
    | some handle =>
      if (state.slots slot).connected then some ({ slot, handle }, (state.slots slot).activeStreams) else none

def available (state : SharedState pool callers) : List (BridgeSelection pool) :=
  match (state.candidates.map Prod.snd).min? with
  | none => []
  | some least => (state.candidates.filter fun candidate => candidate.2 = least).map Prod.fst

/-- What a call does with the bridges it found. The first futures of its `select!` are made
here, after the locks are gone. -/
def proceed (reconnect : Bool) (state : SharedState pool callers) (caller : Fin callers)
    (found : List (BridgeSelection pool)) : SharedState pool callers :=
  match found[state.nextBridge.toNat % found.length]? with
  | some selection =>
    { state.setCaller caller { phase := .selected selection } with nextBridge := state.nextBridge + 1 }
  | none =>
    state.setCaller caller
      (if reconnect then { phase := .selecting, notified := .armed } else { phase := .failed .notConnected })

def slotsUnlocked (state : SharedState pool callers) : Prop := ∀ slot, (state.slots slot).phase.writesSlots = false

def slotsUnread (state : SharedState pool callers) : Prop := ∀ caller, (state.callers caller).phase ≠ .readsSlots

def isOver : CallerPhase pool → Bool
  | .idle | .selected _ | .failed _ => true
  | _ => false

def isChecked : CallerPhase pool → Bool
  | .checked _ => true
  | _ => false

def isRecorded : WorkerPhase → Bool
  | .recorded _ => true
  | _ => false

def enabled (state : SharedState pool callers) : SharedAction pool callers → Prop
  | .call caller => isOver (state.callers caller).phase = true
  | .lockSlots caller => (state.callers caller).phase = .looping ∧ state.slotsUnlocked
  | .check caller => (state.callers caller).phase = .readsSlots
  | .proceed caller => isChecked (state.callers caller).phase = true
  | .readFlag caller => (state.callers caller).phase = .selecting
  | .sleep caller => (state.callers caller).phase = .flagRead
  | .wake caller =>
    ((state.callers caller).phase = .selecting ∨ (state.callers caller).phase = .waiting) ∧
      (state.callers caller).notified = .woken
  | .wakeForShutdown caller =>
    (state.callers caller).phase = .waiting ∧ (state.callers caller).shutdownNotified = .woken
  | .cancel _ | .setActive .. | .storeShutdown => True
  | .recordConnected slot _ | .recordFailed slot => (state.slots slot).phase = .connecting
  | .install slot => isRecorded (state.slots slot).phase = true ∧ state.slotsUnlocked ∧ state.slotsUnread
  | .recordDisconnected slot => (state.slots slot).phase = .serving
  | .clear slot => (state.slots slot).phase = .dropped ∧ state.slotsUnlocked ∧ state.slotsUnread
  | .notify slot => (state.slots slot).phase.writesSlots = true
  | .announceShutdown => 0 < state.stored
  | .notifyShutdown => 0 < state.announced

def next (reconnect : Bool) (state : SharedState pool callers) : SharedAction pool callers → SharedState pool callers
  | .call caller => state.setCaller caller { phase := .looping }
  | .lockSlots caller => state.setCaller caller { phase := .readsSlots }
  | .check caller => state.setCaller caller { phase := .checked state.available }
  | .proceed caller =>
    match (state.callers caller).phase with
    | .checked found => state.proceed reconnect caller found
    | _ => state
  | .readFlag caller =>
    state.setCaller caller
      (if state.shutdown then { phase := .failed .shuttingDown }
        else { state.callers caller with phase := .flagRead })
  | .sleep caller => state.setCaller caller { state.callers caller with phase := .waiting, shutdownNotified := .armed }
  | .wake caller => state.setCaller caller { phase := .looping }
  | .wakeForShutdown caller => state.setCaller caller { phase := .failed .shuttingDown }
  | .cancel caller => state.setCaller caller {}
  | .recordConnected slot handle =>
    state.setSlot slot { state.slots slot with connected := true, activeStreams := 0, phase := .recorded handle }
  | .recordFailed slot | .recordDisconnected slot =>
    state.setSlot slot { state.slots slot with connected := false, activeStreams := 0, phase := .dropped }
  | .install slot =>
    match (state.slots slot).phase with
    | .recorded handle => state.setSlot slot { state.slots slot with bridge := some handle, phase := .installed }
    | _ => state
  | .clear slot => state.setSlot slot { state.slots slot with bridge := none, phase := .cleared }
  | .notify slot =>
    (state.setSlot slot { state.slots slot with
      phase := if (state.slots slot).phase = .installed then .serving else .connecting }).notifyCallers
  | .setActive slot streams => state.setSlot slot { state.slots slot with activeStreams := streams }
  | .storeShutdown => { state with shutdown := true, stored := state.stored + 1 }
  | .announceShutdown =>
    { state.notifyShutdownCallers with stored := state.stored - 1, announced := state.announced + 1 }
  | .notifyShutdown => { state.notifyCallers with announced := state.announced - 1 }

instance (state : SharedState pool callers) : Decidable state.slotsUnlocked := inferInstanceAs (Decidable (∀ _, _))

instance (state : SharedState pool callers) : Decidable state.slotsUnread := inferInstanceAs (Decidable (∀ _, _))

instance decidableEnabled (state : SharedState pool callers) (action : SharedAction pool callers) :
    Decidable (state.enabled action) := by
  cases action <;> dsimp only [enabled] <;> infer_instance

abbrev machine (reconnect : Bool) (pool callers : Nat) : Machine (SharedState pool callers) (SharedAction pool callers) where
  initial := {}
  enabled := enabled
  next := next reconnect

end SharedState
end SshProxy
