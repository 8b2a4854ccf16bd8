import SshProxy.Library.Machine
import SshProxy.Library.Tally

/-! The accounting of QUIC-native flows. A call of `open_stream` and the `Stream` it returns are
one task; a step of it is one operation on an atomic counter, the outcome of one await, or the
swap of `closed` by `finish`, `reset` or the drop. Steps of different tasks interleave freely. -/

namespace SshProxy
open Library

/-- The counters of a worker, and those of the same names in `State`, each an `AtomicU64`. -/
structure FlowCounters where
  activeQuicFlows : Nat := 0
  quicFlowGracefulCloses : Nat := 0
  quicFlowResets : Nat := 0
  deriving DecidableEq

namespace FlowCounters

def fetchAdd (counters : FlowCounters) : FlowCounters :=
  { counters with activeQuicFlows := (counters.activeQuicFlows + 1) % 2 ^ 64 }

def fetchSub (counters : FlowCounters) : FlowCounters :=
  { counters with activeQuicFlows := if counters.activeQuicFlows = 0 then 2 ^ 64 - 1 else counters.activeQuicFlows - 1 }

def checkedSub (counters : FlowCounters) : FlowCounters :=
  { counters with activeQuicFlows := counters.activeQuicFlows - 1 }

def recordClose (counters : FlowCounters) (reset : Bool) : FlowCounters :=
  if reset then { counters with quicFlowResets := (counters.quicFlowResets + 1) % 2 ^ 64 }
  else { counters with quicFlowGracefulCloses := (counters.quicFlowGracefulCloses + 1) % 2 ^ 64 }

end FlowCounters

inductive FlowClosing where
  | headerFailed
  | reset
  | finished
  | dropped
  deriving DecidableEq

def FlowClosing.resets : FlowClosing → Bool
  | .finished => false
  | .headerFailed | .reset | .dropped => true

inductive FlowPhase where
  | idle
  /-- In `open_bi`. -/
  | opening
  | opened
  /-- After `record_flow_opened`. -/
  | counted
  /-- Counted by the state as well; the header is being written. -/
  | writing
  | failed (header : Bool)
  /-- A `Stream` whose `closed` is not set. -/
  | live
  /-- The drop has set `closed`. -/
  | dropping
  | leaving (ending : FlowClosing)
  | closing (ending : FlowClosing)
  | closed (ending : FlowClosing)
  /-- A `Stream` whose `closed` was set by `reset`. -/
  | resetStream
  | releasing (reset : Bool)
  | gone (reset : Bool)
  deriving DecidableEq

inductive FlowMove where
  | start
  | openFails
  | opens
  | recordFlowOpened
  | addActive
  /-- The header could not be written, or not in time. -/
  | headerFails
  | headerWritten
  | reset
  | finish
  | drop
  | recordQuicFlowDrop
  | leaveWorker
  | closeWorker
  | subActive
  | recordQuicFlowClose
  | dropClosed
  | releaseActive
  deriving DecidableEq

def FlowPhase.after : FlowPhase → FlowMove → Option FlowPhase
  | .idle, .start => some .opening
  | .opening, .openFails => some (.failed false)
  | .opening, .opens => some .opened
  | .opened, .recordFlowOpened => some .counted
  | .counted, .addActive => some .writing
  | .writing, .headerFails => some (.leaving .headerFailed)
  | .writing, .headerWritten => some .live
  -- Each of these found `closed` unset when it swapped it.
  | .live, .reset => some (.leaving .reset)
  | .live, .finish => some (.leaving .finished)
  | .live, .drop => some .dropping
  | .dropping, .recordQuicFlowDrop => some (.leaving .dropped)
  -- `record_flow_closed` of the worker, in its two operations.
  | .leaving ending, .leaveWorker => some (.closing ending)
  | .closing .dropped, .closeWorker => some (.releasing true)
  | .closing ending, .closeWorker => some (.closed ending)
  | .closed .headerFailed, .subActive => some (.failed true)
  | .closed .reset, .recordQuicFlowClose => some .resetStream
  -- `finish` owns the stream, so its drop follows; it finds `closed` set.
  | .closed .finished, .recordQuicFlowClose => some (.releasing false)
  -- A stream that was reset is dropped, or finished: both find `closed` set.
  | .resetStream, .dropClosed => some (.releasing true)
  | .releasing reset, .releaseActive => some (.gone reset)
  | _, _ => none

def FlowMove.onWorker : FlowMove → FlowPhase → FlowCounters → FlowCounters
  | .recordFlowOpened, _, counters => counters.fetchAdd
  | .leaveWorker, _, counters => counters.checkedSub
  | .closeWorker, .closing ending, counters => counters.recordClose ending.resets
  | _, _, counters => counters

def FlowMove.onState : FlowMove → FlowPhase → FlowCounters → FlowCounters
  | .addActive, _, counters => counters.fetchAdd
  | .subActive, _, counters => counters.fetchSub
  | .releaseActive, _, counters => counters.checkedSub
  | .recordQuicFlowDrop, _, counters => counters.recordClose true
  | .recordQuicFlowClose, .closed ending, counters => counters.recordClose ending.resets
  | _, _, counters => counters

structure QuicFlows (workers flows : Nat) where
  phases : Fin flows → FlowPhase := fun _ => .idle
  workers : Fin workers → FlowCounters := fun _ => {}
  counters : FlowCounters := {}

namespace QuicFlows
variable {workers flows : Nat}

def next (chosen : Fin flows → Fin workers) (state : QuicFlows workers flows) (task : Fin flows) (move : FlowMove) :
    QuicFlows workers flows :=
  match (state.phases task).after move with
  | none => state
  | some phase =>
    { phases := Function.update state.phases task phase
      workers := Function.update state.workers (chosen task)
        (move.onWorker (state.phases task) (state.workers (chosen task)))
      counters := move.onState (state.phases task) state.counters }

/-- Any number of calls, each with the worker that `select_worker` gives it, whichever that is. -/
abbrev machine (chosen : Fin flows → Fin workers) : Machine (QuicFlows workers flows) (Fin flows × FlowMove) where
  initial := {}
  enabled state action := ((state.phases action.1).after action.2).isSome
  next state action := state.next chosen action.1 action.2

end QuicFlows
end SshProxy
