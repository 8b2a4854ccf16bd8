import SshProxy.SshNative

/-! What becomes of the calls of a pool whose sessions are dead. A call that fails puts the
channel counts back as they were, so the pool grows no sooner after it than before, and the
next call takes one of the same sessions. -/

namespace SshProxy.SshNative
open Library List

theorem leastIndex_lt {keys : List UInt64} (some : keys ≠ []) : (leastIndex keys).getD 0 < keys.length := by
  unfold leastIndex
  cases least : keys.min? with
  | none => exact absurd (min?_eq_none_iff.mp least) some
  | some key => exact idxOf_lt_length_of_mem (min?_mem least)

theorem map_modify_same {α β : Type} {update : α → α} {field : α → β} (same : ∀ item, field (update item) = field item)
    (items : List α) (number : Nat) : (items.modify number update).map field = items.map field := by
  induction items generalizing number with
  | nil => simp
  | cons item items ih =>
    cases number with
    | zero => simp [same]
    | succ number => simp [ih]

@[simp] theorem Session.failed_activeChannels (session : Session) (elapsedMs : UInt64) :
    (session.acquire.recordFailure elapsedMs).activeChannels = session.activeChannels := by
  simp [recordFailure, release, acquire]

namespace Pool
variable {poolSize : Nat} {pool : Pool}

def afterFailure (poolSize : Nat) (pool : Pool) (nowMs elapsedMs : UInt64) : Pool :=
  (pool.begin poolSize nowMs).next poolSize (.failed (pool.chosen poolSize nowMs) elapsedMs)

/-- So many calls can come one after the other and each find its session dead. -/
inductive FailsInRow (poolSize : Nat) : Nat → Pool → Prop where
  | none {pool : Pool} : FailsInRow poolSize 0 pool
  | call {pool : Pool} {count : Nat} (nowMs elapsedMs : UInt64)
      (dead : (pool.begin poolSize nowMs).isAlive (pool.chosen poolSize nowMs) = false)
      (rest : FailsInRow poolSize count (pool.afterFailure poolSize nowMs elapsedMs)) :
      FailsInRow poolSize (count + 1) pool

/-- There is a bound on such calls, the same for every history. -/
def Recovers (poolSize : Nat) : Prop :=
  ∃ bound, ∀ pool, (machine poolSize).Reachable pool → ∀ count, FailsInRow poolSize count pool → count ≤ bound

structure Hopeless (poolSize : Nat) (pool : Pool) : Prop where
  some : pool.sessions ≠ []
  dead : ∀ session ∈ pool.sessions, session.alive = false
  full : pool.growing poolSize = false

section
variable (hopeless : pool.Hopeless poolSize)
include hopeless

theorem Hopeless.chosen_lt (nowMs : UInt64) : pool.chosen poolSize nowMs < pool.sessions.length := by
  have keys : pool.sessions.map (Session.score · nowMs) ≠ [] := by simpa using hopeless.some
  have bound := leastIndex_lt keys
  rw [length_map] at bound
  simpa only [chosen, hopeless.full, Bool.false_eq_true, if_false] using bound

theorem Hopeless.begin_sessions (nowMs : UInt64) :
    (pool.begin poolSize nowMs).sessions = pool.sessions.modify (pool.chosen poolSize nowMs) Session.acquire := by
  simp only [begin, grown, hopeless.full, Bool.false_eq_true, if_false, change]

theorem Hopeless.fails (nowMs : UInt64) : (pool.begin poolSize nowMs).isAlive (pool.chosen poolSize nowMs) = false := by
  have inside := hopeless.chosen_lt nowMs
  rw [isAlive, hopeless.begin_sessions, getElem?_modify_eq, getElem?_eq_getElem inside]
  have dead := hopeless.dead _ (getElem_mem inside)
  exact dead

theorem Hopeless.afterFailure (nowMs elapsedMs : UInt64) :
    (pool.afterFailure poolSize nowMs elapsedMs).Hopeless poolSize := by
  have sessions : (pool.afterFailure poolSize nowMs elapsedMs).sessions =
      pool.sessions.modify (pool.chosen poolSize nowMs) fun session => session.acquire.recordFailure elapsedMs := by
    simp only [Pool.afterFailure, Pool.next, change, hopeless.begin_sessions, modify_modify_eq]
    rfl
  have lives : (pool.afterFailure poolSize nowMs elapsedMs).sessions.map Session.alive = pool.sessions.map Session.alive := by
    rw [sessions]
    apply map_modify_same
    intro session
    rfl
  have channels : (pool.afterFailure poolSize nowMs elapsedMs).minActiveChannels = pool.minActiveChannels := by
    rw [minActiveChannels, sessions, map_modify_same fun session => session.failed_activeChannels elapsedMs,
      minActiveChannels]
  have length : (pool.afterFailure poolSize nowMs elapsedMs).sessions.length = pool.sessions.length := by
    rw [sessions, length_modify]
  refine ⟨?_, ?_, ?_⟩
  · intro empty
    rw [empty] at length
    exact hopeless.some (length_eq_zero_iff.mp length.symm)
  · intro session member
    have found := mem_map_of_mem (f := Session.alive) member
    rw [lives] at found
    obtain ⟨before, present, same⟩ := mem_map.mp found
    rw [← same]
    exact hopeless.dead before present
  · rw [growing, length, channels]
    exact hopeless.full

theorem Hopeless.failsInRow (count : Nat) : FailsInRow poolSize count pool := by
  induction count generalizing pool with
  | zero => exact .none
  | succ count ih => exact .call 0 0 (hopeless.fails 0) (ih (hopeless.afterFailure 0 0))

end

theorem hopeless_reached (poolSize : Nat) : ∃ pool, (machine poolSize).Reachable pool ∧ pool.Hopeless poolSize := by
  have taken : (machine poolSize).Reachable ((machine poolSize).next {} (.session 0)) := .step .initial trivial trivial
  have opened : (machine poolSize).Reachable ((machine poolSize).next _ (.opened 0 0)) :=
    taken.step ⟨mem_cons_self .., rfl⟩ trivial
  have closed : (machine poolSize).Reachable ((machine poolSize).next _ (.closed 0 false)) :=
    opened.step (mem_cons_self ..) trivial
  have dead : (machine poolSize).Reachable ((machine poolSize).next _ (.dies 0)) :=
    closed.step Nat.one_pos trivial
  refine ⟨_, dead, nofun, ?_, ?_⟩
  · intro session member
    rw [mem_singleton.mp member]
  · show shouldOpenNewSession 1 poolSize 0 = false
    simp [shouldOpenNewSession, sshSessionGrowthMinActiveChannels]

theorem never_recovers (poolSize : Nat) : ¬Recovers poolSize := by
  rintro ⟨bound, bounded⟩
  obtain ⟨pool, reached, hopeless⟩ := hopeless_reached poolSize
  have few := bounded pool reached (bound + 1) (hopeless.failsInRow (bound + 1))
  omega

/-- A pool of the default size after its only session has died: every call from here on fails. -/
theorem default_pool_lost :
    ∃ pool, (machine (size none false)).Reachable pool ∧ pool.sessions.length = 1 ∧ pool.sessions.all (!·.alive) = true ∧
      pool.opening = [] ∧ pool.streams = [] ∧ ∀ count, FailsInRow (size none false) count pool := by
  obtain ⟨pool, reached, one, dead, opening, streams, full⟩ := Machine.exists_reachable (machine (size none false))
    (fun pool => pool.sessions.length = 1 ∧ pool.sessions.all (!·.alive) = true ∧ pool.opening = [] ∧ pool.streams = [] ∧
      pool.growing (size none false) = false)
    [.session 0, .opened 0 40, .firstByte 0 55, .copied 0 512 2048, .closed 0 false, .dies 0] (by decide +kernel)
  have hopeless : pool.Hopeless (size none false) := by
    refine ⟨?_, ?_, full⟩
    · intro empty
      rw [empty] at one
      cases one
    · intro session member
      simpa using all_eq_true.mp dead session member
  exact ⟨pool, reached, one, dead, opening, streams, hopeless.failsInRow⟩

end Pool
end SshProxy.SshNative
