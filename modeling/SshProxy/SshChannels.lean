import SshProxy.Library.Tally
import SshProxy.SshNative

/-! The accounting of ssh-native channels. A call of `open_stream` and the `Stream` it returns
are one task; a step of it is one operation on an atomic counter, the outcome of one await, or
the taking or leaving of the `sessions` mutex, which is held while a session connects. -/

namespace SshProxy.SshNative
open Library

structure SessionCounters where
  activeChannels : UInt32 := 0
  gracefulCloses : UInt64 := 0
  errorCloses : UInt64 := 0
  deriving DecidableEq

structure StateCounters where
  activeSshChannels : UInt64 := 0
  gracefulCloses : UInt64 := 0
  errorCloses : UInt64 := 0
  deriving DecidableEq

inductive ChannelStage where
  | idle
  /-- In `session()`, with the mutex; so are the four stages after this one. -/
  | locked
  /-- A new session is to be opened. -/
  | connecting
  /-- Before the two counters of `acquire_session_channel`. -/
  | acquiring
  | acquired
  | counted
  /-- The channel is being opened; the guard is armed. -/
  | opening
  /-- The channel is open and the guard is disarmed. -/
  | opened
  /-- The open failed or timed out; the guard is about to give the channel back. -/
  | refused
  | released
  | failed
  /-- A `Stream`, with its `close_recorded`. -/
  | live (closeRecorded : Bool)
  /-- In `record_close`, called by the relay or by the drop. -/
  | recording (error dropping : Bool)
  | recorded (error dropping : Bool)
  /-- In the drop, before its two counters. -/
  | leaving
  | left
  | gone
  deriving DecidableEq

inductive ChannelMove where
  | lock
  | grow
  | choose (session : Nat)
  | connectFails
  | connects
  | acquireSession
  | acquireState
  | unlock
  | openFails
  | opens
  | returns
  | recordClose (error : Bool)
  | drop
  | recordState
  | recordSession
  | leaveSession
  | leaveState
  deriving DecidableEq

def ChannelStage.after : ChannelStage → ChannelMove → Option ChannelStage
  | .idle, .lock => some .locked
  | .locked, .grow => some .connecting
  | .locked, .choose _ => some .acquiring
  | .connecting, .connectFails => some .failed
  | .connecting, .connects => some .acquiring
  | .acquiring, .acquireSession => some .acquired
  | .acquired, .acquireState => some .counted
  | .counted, .unlock => some .opening
  | .opening, .openFails => some .refused
  | .opening, .opens => some .opened
  | .opened, .returns => some (.live false)
  | .live false, .recordClose error => some (.recording error false)
  | .live true, .recordClose _ => some (.live true)
  -- A stream that is dropped before its relay recorded a close counts as an error.
  | .live false, .drop => some (.recording true true)
  | .live true, .drop => some .leaving
  | .recording error dropping, .recordState => some (.recorded error dropping)
  | .recorded _ false, .recordSession => some (.live true)
  | .recorded _ true, .recordSession => some .leaving
  -- The guard's drop and the stream's drop.
  | .refused, .leaveSession => some .released
  | .leaving, .leaveSession => some .left
  | .released, .leaveState => some .failed
  | .left, .leaveState => some .gone
  | _, _ => none

/-- What a move does to the counters of the task's session; a new session has new counters. -/
def ChannelMove.onSession : ChannelMove → ChannelStage → SessionCounters → SessionCounters
  | .connects, _, _ => {}
  | .acquireSession, _, counters => { counters with activeChannels := counters.activeChannels + 1 }
  | .leaveSession, _, counters => { counters with activeChannels := counters.activeChannels - 1 }
  | .recordSession, .recorded error _, counters =>
    if error then { counters with errorCloses := counters.errorCloses + 1 }
    else { counters with gracefulCloses := counters.gracefulCloses + 1 }
  | _, _, counters => counters

def ChannelMove.onState : ChannelMove → ChannelStage → StateCounters → StateCounters
  | .acquireState, _, counters => { counters with activeSshChannels := counters.activeSshChannels + 1 }
  | .leaveState, _, counters => { counters with activeSshChannels := counters.activeSshChannels - 1 }
  | .recordState, .recording error _, counters =>
    if error then { counters with errorCloses := counters.errorCloses + 1 }
    else { counters with gracefulCloses := counters.gracefulCloses + 1 }
  | _, _, counters => counters

def ChannelMove.session (pooled : Nat) (session : Nat) : ChannelMove → Nat
  | .choose chosen => chosen
  | .connects => pooled
  | _ => session

structure Channel where
  stage : ChannelStage := .idle
  session : Nat := 0
  deriving DecidableEq

/-- `pooled` is the length of `sessions`; the sessions are numbered in the order they came. -/
structure Channels (calls : Nat) where
  tasks : Fin calls → Channel := fun _ => {}
  holder : Option (Fin calls) := none
  pooled : Nat := 0
  sessions : Nat → SessionCounters := fun _ => {}
  counters : StateCounters := {}

namespace Channels
variable {calls : Nat}

def minActiveChannels (state : Channels calls) : UInt32 :=
  ((List.range state.pooled).map fun session => (state.sessions session).activeChannels).min?.getD 0

def growing (poolSize : Nat) (state : Channels calls) : Bool :=
  shouldOpenNewSession state.pooled poolSize state.minActiveChannels

/-- Where a move needs more than the stage of its task. The scores by which a session is chosen
are left open: any pooled one may have the least. -/
def allows (poolSize : Nat) (state : Channels calls) : ChannelMove → Prop
  | .lock => state.holder = none
  | .grow => state.growing poolSize = true
  | .choose session => state.growing poolSize = false ∧ session < state.pooled
  | _ => True

def nextHolder (state : Channels calls) (task : Fin calls) : ChannelMove → Option (Fin calls)
  | .lock => some task
  | .unlock | .connectFails => none
  | _ => state.holder

def nextPooled (state : Channels calls) : ChannelMove → Nat
  | .connects => state.pooled + 1
  | _ => state.pooled

def next (state : Channels calls) (task : Fin calls) (move : ChannelMove) : Channels calls :=
  match (state.tasks task).stage.after move with
  | none => state
  | some stage =>
    let session := move.session state.pooled (state.tasks task).session
    { tasks := Function.update state.tasks task { stage, session }
      holder := state.nextHolder task move
      pooled := state.nextPooled move
      sessions := Function.update state.sessions session
        (move.onSession (state.tasks task).stage (state.sessions session))
      counters := move.onState (state.tasks task).stage state.counters }

abbrev machine (poolSize calls : Nat) : Machine (Channels calls) (Fin calls × ChannelMove) where
  initial := {}
  enabled state action := ((state.tasks action.1).stage.after action.2).isSome ∧ state.allows poolSize action.2
  next state action := state.next action.1 action.2

instance (poolSize : Nat) (state : Channels calls) (move : ChannelMove) : Decidable (state.allows poolSize move) := by
  cases move <;> dsimp only [allows] <;> infer_instance

end Channels
end SshProxy.SshNative
