import SshProxy.SshNative

/-! The connection pool of a QUIC-native route: the workers with the counters their score is
made of, and the rotating scan that `select_worker` makes over them. -/

namespace SshProxy

structure ConnectionWorker where
  id : Nat
  activeQuicFlows : UInt64 := 0
  streamOpenFailures : UInt64 := 0
  lastStreamOpenLatencyMs : UInt64 := 0
  quicBackpressureTimeouts : UInt64 := 0
  quicFlowResets : UInt64 := 0
  controlDegraded : Bool := false
  deriving DecidableEq

def quicWorkerScore (activeFlows streamOpenFailures lastOpenLatencyMs backpressureTimeouts resets : UInt64)
    (controlDegraded : Bool) : UInt64 :=
  let score := saturatingMul activeFlows 10000
  let score := saturatingAdd score (saturatingMul streamOpenFailures 1000)
  let score := saturatingAdd score (saturatingMul backpressureTimeouts 2000)
  let score := saturatingAdd score (saturatingMul resets 1500)
  let score := saturatingAdd score (min lastOpenLatencyMs 5000)
  saturatingAdd score (if controlDegraded then 1000000 else 0)

def ConnectionWorker.score (worker : ConnectionWorker) : UInt64 :=
  quicWorkerScore worker.activeQuicFlows worker.streamOpenFailures worker.lastStreamOpenLatencyMs
    worker.quicBackpressureTimeouts worker.quicFlowResets worker.controlDegraded

/-- The workers in the order of the scan. `next_worker` is an `AtomicU64`, and the sum wraps as it
does in a release build. -/
def rotation (workers : List ConnectionWorker) (nextWorker : UInt64) : List ConnectionWorker :=
  List.ofFn fun offset : Fin workers.length =>
    workers.get ⟨(nextWorker + UInt64.ofNat offset).toNat % workers.length, Nat.mod_lt _ offset.pos⟩

/-- One turn of the scan: a candidate has to beat the best one so far. -/
def consider (best : Option (UInt64 × ConnectionWorker)) (candidate : ConnectionWorker) :
    Option (UInt64 × ConnectionWorker) :=
  match best with
  | some (bestScore, worker) => if bestScore ≤ candidate.score then some (bestScore, worker) else some (candidate.score, candidate)
  | none => some (candidate.score, candidate)

def selectWorker (workers : List ConnectionWorker) (nextWorker : UInt64) : Except String ConnectionWorker :=
  match workers with
  | [] => .error "quic-native connection pool is empty"
  | worker :: others =>
    if others = [] then .ok worker
    else .ok (((rotation workers nextWorker).foldl consider none).elim worker Prod.snd)

end SshProxy
