import Mathlib.Data.List.Lex
import Mathlib.Data.String.Basic
import SshProxy.Library.SortedMap
import SshProxy.Library.Text

/-! The job registry of the daemon. A job record is replaced as a whole by each upsert, which goes
to memory first and then to `jobs.json`; a restart reads the file back. -/

namespace SshProxy
open Library

inductive JobState where
  | queued | running | waitingRetry | healthy | failed | cancelled
  deriving DecidableEq, Repr

def JobState.isTerminal : JobState → Bool
  | .healthy | .failed | .cancelled => true
  | .queued | .running | .waitingRetry => false

inductive JobPhase where
  | queued | reconciling | resolveTarget | validateLocalProxy | selectRemotePort | ensureLocalProxy
  | ensurePeer | inspectPeerDescriptor | dependencyCheck | stageRemotePeer | writePeerConfig
  | installPeerService | startPeerService | peerHealthProbe | recordPeer | ensureTransport
  | planRoute | startRoute | waitRouteReady | verifyRemotePort | applyRemoteSettings
  | healthMonitoring | stageUpdate | verifyUpdate | switchBinary | restartDaemon | rollback
  | healthy | failed | cancelled
  deriving DecidableEq, Repr

inductive JobKind where
  | ensureProxySession | ensureRemotePeer | remotePeerUpdate | applyRemoteSettings | selfUpdate
  deriving DecidableEq, Repr

structure JobRecord where
  id : Text
  kind : JobKind
  state : JobState
  phase : JobPhase
  progress : Nat
  blocker : Option String
  nextAction : Option String
  lastError : Option String
  retryAfterMs : Option Nat
  recoveryAttempts : Nat
  target : Option Text
  workspaceId : Option Text
  routeId : Option Text
  remoteUrl : Option Text
  createdAtUnix : Nat
  updatedAtUnix : Nat
  deriving DecidableEq, Repr

namespace JobRecord

def new (now : Nat) (id : Text) (kind : JobKind) : JobRecord where
  id
  kind
  state := .queued
  phase := .queued
  progress := 0
  blocker := none
  nextAction := none
  lastError := none
  retryAfterMs := none
  recoveryAttempts := 0
  target := none
  workspaceId := none
  routeId := none
  remoteUrl := none
  createdAtUnix := now
  updatedAtUnix := now

def transition (now : Nat) (state : JobState) (phase : JobPhase) (progress : Nat) (job : JobRecord) : JobRecord :=
  { job with
    state
    phase
    progress := min progress 100
    updatedAtUnix := now
    lastError := if state = .failed then job.lastError else none
    retryAfterMs := if state = .waitingRetry then job.retryAfterMs else none }

def withTarget (target : Text) (job : JobRecord) : JobRecord := { job with target := some target }

def withWorkspace (workspaceId : Option Text) (job : JobRecord) : JobRecord := { job with workspaceId }

def withRoute (routeId : Text) (job : JobRecord) : JobRecord := { job with routeId := some routeId }

def withRemoteUrl (remoteUrl : Option Text) (job : JobRecord) : JobRecord := { job with remoteUrl }

def withNextAction (nextAction : String) (job : JobRecord) : JobRecord := { job with nextAction := some nextAction }

def withRetryAfterMs (retryAfterMs : Nat) (job : JobRecord) : JobRecord :=
  { job with retryAfterMs := some retryAfterMs }

def withRecoveryAttempts (recoveryAttempts : Nat) (job : JobRecord) : JobRecord := { job with recoveryAttempts }

def failed (now : Nat) (error : String) (blocker : Option String) (job : JobRecord) : JobRecord :=
  { job with
    state := .failed
    phase := .failed
    progress := 100
    lastError := some error
    blocker
    retryAfterMs := none
    updatedAtUnix := now }

end JobRecord

structure JobEvent where
  jobId : Text
  state : JobState
  phase : JobPhase
  message : String
  createdAtUnix : Nat
  deriving DecidableEq, Repr

def maxEvents : Nat := 256

def maxTerminalJobs : Nat := 64

structure JobStore where
  jobs : SortedMap Text JobRecord
  events : List JobEvent
  keyed : ∀ entry ∈ jobs.entries, entry.2.id = entry.1

namespace JobStore

def empty : JobStore := ⟨.empty, [], fun _ present => nomatch present⟩

def insert (record : JobRecord) (store : JobStore) : JobStore :=
  { store with
    jobs := store.jobs.insert record.id record
    keyed := by
      intro entry present
      rcases SortedMap.mem_insertEntry present with rfl | earlier
      · rfl
      · exact store.keyed entry earlier }

def terminalJobs (store : JobStore) : List (Text × JobRecord) :=
  store.jobs.entries.filter fun entry => entry.2.state.isTerminal

def latestEvents (events : List JobEvent) : List JobEvent := events.drop (events.length - maxEvents)

def pushEvent (now : Nat) (record : JobRecord) (message : String) (store : JobStore) : JobStore :=
  { store with
    events := latestEvents (store.events ++
      [{ jobId := record.id, state := record.state, phase := record.phase, message, createdAtUnix := now }]) }

/-- The finished jobs beyond the newest 64. Jobs of one second stand in the order of their ids. -/
def excessJobs (store : JobStore) : List Text :=
  if store.terminalJobs.length ≤ maxTerminalJobs then []
  else
    let byAge := (store.terminalJobs.map fun entry => (entry.2.updatedAtUnix, entry.2.id)).mergeSort
      fun first second => first.1 ≤ second.1
    (byAge.take (store.terminalJobs.length - maxTerminalJobs)).map (·.2)

def pruneStore (store : JobStore) : JobStore :=
  { store with
    jobs := store.jobs.eraseAll store.excessJobs
    keyed := fun entry present => store.keyed entry (SortedMap.mem_eraseAll present) }

end JobStore

structure JobRegistry where
  store : JobStore := .empty
  file : JobStore := .empty

namespace JobRegistry

def load (registry : JobRegistry) : JobRegistry := { registry with store := registry.file }

/-- The record is in memory also when the file could not be written. -/
def upsert (now : Nat) (save : Except String Unit) (record : JobRecord) (message : String) (registry : JobRegistry) :
    JobRegistry × Except String JobRecord :=
  let store := ((registry.store.insert record).pushEvent now record message).pruneStore
  match save with
  | .ok () => ({ store, file := store }, .ok record)
  | .error error => ({ registry with store }, .error error)

def get (registry : JobRegistry) (id : Text) : Option JobRecord := registry.store.jobs.get id

end JobRegistry
end SshProxy
