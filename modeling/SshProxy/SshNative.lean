import Mathlib.Algebra.Ring.Nat
import Mathlib.Data.List.Basic
import SshProxy.Library.Machine

/-! The session pool of ssh-native, `State::session` and `State::open_stream`. Counters are
the atomics of the source, so they wrap; the score is computed with saturating operations. A
session is alive or dead, which the pool has no field for: it shows only in that no channel
opens on a dead one. -/

namespace SshProxy
open Library

def saturatingAdd (left right : UInt64) : UInt64 :=
  if left.toNat + right.toNat < 2 ^ 64 then left + right else 0xffffffffffffffff

def saturatingSub (left right : UInt64) : UInt64 := if right ≤ left then left - right else 0

def saturatingMul (left right : UInt64) : UInt64 :=
  if left.toNat * right.toNat < 2 ^ 64 then left * right else 0xffffffffffffffff

namespace SshNative

def recentFailureWindowMs : UInt64 := 30000

def sshSessionGrowthMinActiveChannels : UInt32 := 2

structure SessionScoreComponents where
  activeChannels : UInt64
  openFailures : UInt64
  lastOpenLatencyMs : UInt64
  firstByteLatencyMs : UInt64
  bytesInFlight : UInt64
  recentFailurePenalty : UInt64
  errorCloses : UInt64
  deriving DecidableEq

def shouldOpenNewSession (existingSessions poolSize : Nat) (minActiveChannels : UInt32) : Bool :=
  existingSessions == 0 ||
    (decide (existingSessions < poolSize) && decide (sshSessionGrowthMinActiveChannels ≤ minActiveChannels))

def calculateSessionScore (components : SessionScoreComponents) : UInt64 :=
  let score := saturatingMul components.activeChannels 10000
  let score := saturatingAdd score (saturatingMul components.openFailures 1000)
  let score := saturatingAdd score (saturatingMul components.errorCloses 750)
  let score := saturatingAdd score (min components.lastOpenLatencyMs 5000)
  let score := saturatingAdd score (min components.firstByteLatencyMs 5000)
  let score := saturatingAdd score (components.bytesInFlight / (1024 * 1024))
  saturatingAdd score components.recentFailurePenalty

structure Session where
  id : UInt32
  alive : Bool := true
  activeChannels : UInt32 := 0
  openFailures : UInt64 := 0
  lastOpenLatencyMs : UInt64 := 0
  lastFailureElapsedMs : UInt64 := 0
  bytesClientToRemote : UInt64 := 0
  bytesRemoteToClient : UInt64 := 0
  firstByteSamples : UInt64 := 0
  lastFirstByteLatencyMs : UInt64 := 0
  errorCloses : UInt64 := 0
  deriving DecidableEq

def lastSampled (sampleCount value : UInt64) : Option UInt64 := if 0 < sampleCount then some value else none

namespace Session

def failureAgeMs (session : Session) (nowMs : UInt64) : Option UInt64 :=
  if 0 < session.lastFailureElapsedMs then some (saturatingSub nowMs (saturatingSub session.lastFailureElapsedMs 1))
  else none

def scoreComponents (session : Session) (nowMs : UInt64) : SessionScoreComponents where
  activeChannels := session.activeChannels.toUInt64
  openFailures := session.openFailures
  lastOpenLatencyMs := session.lastOpenLatencyMs
  firstByteLatencyMs := (lastSampled session.firstByteSamples session.lastFirstByteLatencyMs).getD 0
  bytesInFlight := saturatingAdd session.bytesClientToRemote session.bytesRemoteToClient
  recentFailurePenalty :=
    (((session.failureAgeMs nowMs).filter (· < recentFailureWindowMs)).map
      fun age => saturatingAdd (saturatingSub recentFailureWindowMs age) 10000).getD 0
  errorCloses := session.errorCloses

def score (session : Session) (nowMs : UInt64) : UInt64 := calculateSessionScore (session.scoreComponents nowMs)

def acquire (session : Session) : Session := { session with activeChannels := session.activeChannels + 1 }

def release (session : Session) : Session := { session with activeChannels := session.activeChannels - 1 }

def recordFailure (session : Session) (elapsedMs : UInt64) : Session :=
  { session.release with
    openFailures := session.openFailures + 1
    lastFailureElapsedMs := saturatingAdd elapsedMs 1 }

end Session

/-- The index that `min_by_key` finds: the first of the least keys. -/
def leastIndex (keys : List UInt64) : Option Nat := keys.min?.map fun least => keys.idxOf least

/-- `opening` and `streams` hold the session of every call that has one and has not returned,
and of every stream that is not closed. -/
structure Pool where
  sessions : List Session := []
  nextSessionId : UInt32 := 1
  opening : List Nat := []
  streams : List Nat := []
  deriving DecidableEq

inductive PoolAction where
  | session (nowMs : UInt64)
  | opened (number : Nat) (latencyMs : UInt64)
  | failed (number : Nat) (elapsedMs : UInt64)
  | firstByte (number : Nat) (latencyMs : UInt64)
  | copied (number : Nat) (toRemote toClient : UInt64)
  | closed (number : Nat) (error : Bool)
  | dies (number : Nat)
  deriving DecidableEq

namespace Pool

def size (sshSessionPoolSize : Option Nat) (tcpTarget : Bool) : Nat :=
  max (sshSessionPoolSize.getD (if tcpTarget then 1 else 2)) 1

def minActiveChannels (pool : Pool) : UInt32 := ((pool.sessions.map Session.activeChannels).min?).getD 0

def growing (poolSize : Nat) (pool : Pool) : Bool :=
  shouldOpenNewSession pool.sessions.length poolSize pool.minActiveChannels

/-- The session that `session()` takes; connecting a new one is taken to succeed. -/
def chosen (poolSize : Nat) (pool : Pool) (nowMs : UInt64) : Nat :=
  if pool.growing poolSize then pool.sessions.length
  else (leastIndex (pool.sessions.map (Session.score · nowMs))).getD 0

def change (pool : Pool) (number : Nat) (update : Session → Session) : Pool :=
  { pool with sessions := pool.sessions.modify number update }

def grown (poolSize : Nat) (pool : Pool) : Pool :=
  if pool.growing poolSize then
    { pool with sessions := pool.sessions ++ [{ id := pool.nextSessionId }], nextSessionId := pool.nextSessionId + 1 }
  else pool

def begin (poolSize : Nat) (pool : Pool) (nowMs : UInt64) : Pool :=
  let number := pool.chosen poolSize nowMs
  { (pool.grown poolSize).change number Session.acquire with opening := number :: pool.opening }

def isAlive (pool : Pool) (number : Nat) : Bool := (pool.sessions[number]?).any Session.alive

def enabled (pool : Pool) : PoolAction → Prop
  | .session _ => True
  | .opened number _ => number ∈ pool.opening ∧ pool.isAlive number = true
  | .failed number _ => number ∈ pool.opening
  | .firstByte number _ | .copied number _ _ | .closed number _ => number ∈ pool.streams
  | .dies number => number < pool.sessions.length

def next (poolSize : Nat) (pool : Pool) : PoolAction → Pool
  | .session nowMs => pool.begin poolSize nowMs
  | .opened number latencyMs =>
    { pool.change number fun session => { session with lastOpenLatencyMs := latencyMs } with
      opening := pool.opening.erase number, streams := number :: pool.streams }
  | .failed number elapsedMs =>
    { pool.change number fun session => session.recordFailure elapsedMs with opening := pool.opening.erase number }
  | .firstByte number latencyMs =>
    pool.change number fun session =>
      { session with firstByteSamples := session.firstByteSamples + 1, lastFirstByteLatencyMs := latencyMs }
  | .copied number toRemote toClient =>
    pool.change number fun session =>
      { session with
        bytesClientToRemote := session.bytesClientToRemote + toRemote
        bytesRemoteToClient := session.bytesRemoteToClient + toClient }
  | .closed number error =>
    { pool.change number fun session =>
        { session.release with errorCloses := if error then session.errorCloses + 1 else session.errorCloses } with
      streams := pool.streams.erase number }
  | .dies number => pool.change number fun session => { session with alive := false }

abbrev machine (poolSize : Nat) : Machine Pool PoolAction where
  initial := {}
  enabled := enabled
  next := next poolSize

instance decidableEnabled (pool : Pool) (action : PoolAction) : Decidable (pool.enabled action) := by
  cases action <;> dsimp only [enabled] <;> infer_instance

end Pool
end SshNative
end SshProxy
