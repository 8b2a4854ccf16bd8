import Mathlib.Data.List.Forall2
import SshProxy.Library.Machine
import SshProxy.Library.Program

/-! Pools of tasks over a shared state, as machines: one action starts a task, takes one step of a
task, or is an event that changes the state. The rules follow the points of the tasks, one outline
for each, through a run. -/

namespace SshProxy.Library
open List

structure Pool.Task (σ ε ρ α : Type) where
  role : ρ
  program : Program σ ε α

structure Pool (σ ε ρ α : Type) where
  state : σ
  tasks : List (Pool.Task σ ε ρ α) := []

namespace Pool

inductive Action (ε ρ δ : Type) where
  | start (role : ρ)
  | step (index : Nat) (outside : ε)
  | event (event : δ)

structure System (σ ε ρ δ α : Type) where
  program : ρ → Program σ ε α
  happens : δ → σ → σ

variable {σ ε ρ δ α γ : Type}

def taskStep (pool : Pool σ ε ρ α) (index : Nat) (outside : ε) : Pool σ ε ρ α :=
  match pool.tasks[index]? with
  | some ⟨role, .step write next⟩ =>
    { state := write outside pool.state, tasks := pool.tasks.set index ⟨role, next outside pool.state⟩ }
  | _ => pool

def System.next (system : System σ ε ρ δ α) (pool : Pool σ ε ρ α) : Action ε ρ δ → Pool σ ε ρ α
  | .start role => { pool with tasks := pool.tasks ++ [⟨role, system.program role⟩] }
  | .step index outside => pool.taskStep index outside
  | .event event => { pool with state := system.happens event pool.state }

def System.machine (system : System σ ε ρ δ α) (initial : Pool σ ε ρ α) : Machine (Pool σ ε ρ α) (Action ε ρ δ) where
  initial := initial
  enabled := fun _ _ => True
  next := system.next

def System.after (system : System σ ε ρ δ α) (pool : Pool σ ε ρ α) (actions : List (Action ε ρ δ)) : Pool σ ε ρ α :=
  actions.foldl system.next pool

def System.Along (system : System σ ε ρ δ α) (guard : Pool σ ε ρ α → Action ε ρ δ → Prop) :
    Pool σ ε ρ α → List (Action ε ρ δ) → Prop
  | _, [] => True
  | pool, action :: rest => guard pool action ∧ system.Along guard (system.next pool action) rest

instance System.decidableAlong (system : System σ ε ρ δ α) (guard : Pool σ ε ρ α → Action ε ρ δ → Prop)
    [∀ pool action, Decidable (guard pool action)] :
    (pool : Pool σ ε ρ α) → (actions : List (Action ε ρ δ)) → Decidable (system.Along guard pool actions)
  | _, [] => .isTrue trivial
  | pool, action :: rest =>
    have := system.decidableAlong guard (system.next pool action) rest
    inferInstanceAs (Decidable (_ ∧ _))

theorem System.run_after {system : System σ ε ρ δ α} {guard : Pool σ ε ρ α → Action ε ρ δ → Prop}
    {initial pool : Pool σ ε ρ α} {actions : List (Action ε ρ δ)} (run : (system.machine initial).Run guard pool)
    (along : system.Along guard pool actions) : (system.machine initial).Run guard (system.after pool actions) := by
  induction actions generalizing pool with
  | nil => exact run
  | cons action rest ih =>
    obtain ⟨may, later⟩ := along
    exact ih (run.step trivial may) later

theorem System.reachable_after (system : System σ ε ρ δ α) (initial : Pool σ ε ρ α) (actions : List (Action ε ρ δ)) :
    (system.machine initial).Reachable (system.after initial actions) := by
  have along (pool : Pool σ ε ρ α) : system.Along (fun _ _ => True) pool actions := by
    induction actions generalizing pool with
    | nil => trivial
    | cons action rest ih => exact ⟨trivial, ih _⟩
  exact run_after .initial (along initial)

theorem taskStep_cases (pool : Pool σ ε ρ α) (index : Nat) (outside : ε) :
    pool.taskStep index outside = pool ∨ ∃ role write next, pool.tasks[index]? = some ⟨role, .step write next⟩ ∧
      pool.taskStep index outside =
        { state := write outside pool.state, tasks := pool.tasks.set index ⟨role, next outside pool.state⟩ } := by
  unfold taskStep
  split
  next role write next found => exact .inr ⟨role, write, next, found, rfl⟩
  next => exact .inl rfl

theorem forall₂_set {τ υ : Type} {related : τ → υ → Prop} {first : List τ} {second : List υ} {index : Nat} {left : τ}
    {right : υ} (all : List.Forall₂ related first second) (new : related left right) :
    List.Forall₂ related (first.set index left) (second.set index right) := by
  induction all generalizing index with
  | nil => exact .nil
  | cons head tail ih =>
    cases index with
    | zero => exact .cons new tail
    | succ index => exact .cons head ih

theorem exists_of_forall₂ {τ υ : Type} {related : τ → υ → Prop} {first : List τ} {second : List υ} {right : υ}
    (all : List.Forall₂ related first second) (present : right ∈ second) : ∃ left ∈ first, related left right := by
  induction all with
  | nil => cases present
  | cons head tail ih =>
    rcases mem_cons.mp present with rfl | later
    · exact ⟨_, mem_cons_self, head⟩
    · obtain ⟨left, among, pair⟩ := ih later
      exact ⟨left, mem_cons_of_mem _ among, pair⟩

section Outlines
variable (allowed : ρ → ε → σ → Prop) (holds : γ → σ → Prop) (moves : γ → γ → σ → σ → Prop) (post : ρ → α → γ → Prop)

def Outlined (task : Task σ ε ρ α) (point : γ) : Prop :=
  Program.Outline (allowed task.role) holds moves (post task.role) point task.program

variable {allowed : ρ → ε → σ → Prop} {holds : γ → σ → Prop} {moves : γ → γ → σ → σ → Prop} {post : ρ → α → γ → Prop}
  {system : System σ ε ρ δ α} {initial pool : Pool σ ε ρ α} {guard : Pool σ ε ρ α → Action ε ρ δ → Prop}

theorem Outlined.ended {task : Task σ ε ρ α} {point : γ} {value : α} (outlined : Outlined allowed holds moves post task point)
    (ended : task.program.result? = some value) : post task.role value point := by
  unfold Outlined at outlined
  rw [Program.eq_pure ended] at outlined
  cases outlined with
  | pure done => exact done

theorem System.follow (run : (system.machine initial).Run guard pool) (index : Nat)
    (first : ∃ task point, initial.tasks[index]? = some task ∧ Outlined allowed holds moves post task point ∧
      holds point initial.state)
    (may : ∀ pool task outside, guard pool (.step index outside) → pool.tasks[index]? = some task →
      allowed task.role outside pool.state)
    (stable : ∀ pool action point, guard pool action → (∀ outside, action ≠ .step index outside) →
      holds point pool.state → holds point (system.next pool action).state) :
    ∃ task point, pool.tasks[index]? = some task ∧ Outlined allowed holds moves post task point ∧ holds point pool.state := by
  refine run.invariant (fun pool => ∃ task point, pool.tasks[index]? = some task ∧
    Outlined allowed holds moves post task point ∧ holds point pool.state) first ?_
  rintro pool action - ⟨task, point, found, outlined, here⟩ - guarded
  have inside : index < pool.tasks.length := (List.getElem?_eq_some_iff.mp found).1
  by_cases own : ∃ outside, action = .step index outside
  · obtain ⟨outside, rfl⟩ := own
    rcases pool.taskStep_cases index outside with same | ⟨role, write, next, taken, stepped⟩
    · have idle : (system.machine initial).next pool (.step index outside) = pool := same
      rw [idle]
      exact ⟨task, point, found, outlined, here⟩
    · obtain rfl : _ = task := Option.some.inj (taken.symm.trans found)
      obtain ⟨later, there, _, rest⟩ := outlined.advance (may pool _ outside guarded found) here
      refine ⟨⟨role, next outside pool.state⟩, later, ?_, rest, ?_⟩
      · change (pool.taskStep index outside).tasks[index]? = _
        rw [stepped]
        exact getElem?_set_self inside
      · change holds later (pool.taskStep index outside).state
        rw [stepped]
        exact there
  · refine ⟨task, point, ?_, outlined, stable pool action point guarded (fun outside same => own ⟨outside, same⟩) here⟩
    cases action with
    | start role => exact (getElem?_append_left inside).trans found
    | event event => exact found
    | step other outside =>
      have different : other ≠ index := fun same => own ⟨outside, by rw [same]⟩
      rcases pool.taskStep_cases other outside with same | ⟨role, write, next, taken, stepped⟩
      · exact (congrArg (·.tasks[index]?) same).trans found
      · refine (congrArg (·.tasks[index]?) stepped).trans ?_
        exact (getElem?_set_ne different).trans found

/-- All tasks are followed. What is known of their points and the state together is kept by every
step that an outline allows. -/
theorem System.points (known : List γ → σ → Prop) (run : (system.machine initial).Run guard pool)
    (first : ∃ points, List.Forall₂ (Outlined allowed holds moves post) initial.tasks points ∧ known points initial.state)
    (here : ∀ points state point, known points state → point ∈ points → holds point state)
    (may : ∀ pool index task outside, guard pool (.step index outside) → pool.tasks[index]? = some task →
      allowed task.role outside pool.state)
    (starts : ∀ pool points role, List.Forall₂ (Outlined allowed holds moves post) pool.tasks points →
      known points pool.state → guard pool (.start role) →
      ∃ point, Outlined allowed holds moves post ⟨role, system.program role⟩ point ∧ known (points ++ [point]) pool.state)
    (steps : ∀ pool points index outside point later, known points pool.state → guard pool (.step index outside) →
      points[index]? = some point → holds later (pool.taskStep index outside).state →
      moves point later pool.state (pool.taskStep index outside).state →
      known (points.set index later) (pool.taskStep index outside).state)
    (events : ∀ pool points event, known points pool.state → guard pool (.event event) →
      known points (system.happens event pool.state)) :
    ∃ points, List.Forall₂ (Outlined allowed holds moves post) pool.tasks points ∧ known points pool.state := by
  refine run.invariant (fun pool => ∃ points, List.Forall₂ (Outlined allowed holds moves post) pool.tasks points ∧
    known points pool.state) first ?_
  rintro pool action - ⟨points, outlined, held⟩ - guarded
  cases action with
  | start role =>
    obtain ⟨point, starting, joined⟩ := starts pool points role outlined held guarded
    exact ⟨points ++ [point], rel_append outlined (.cons starting .nil), joined⟩
  | event event => exact ⟨points, outlined, events pool points event held guarded⟩
  | step index outside =>
    rcases pool.taskStep_cases index outside with same | ⟨role, write, next, found, stepped⟩
    · have idle : (system.machine initial).next pool (.step index outside) = pool := same
      rw [idle]
      exact ⟨points, outlined, held⟩
    · obtain ⟨inside, taken⟩ := List.getElem?_eq_some_iff.mp found
      have among : index < points.length := outlined.length_eq ▸ inside
      have standing := outlined.get inside among
      rw [get_eq_getElem, get_eq_getElem, taken] at standing
      obtain ⟨later, there, moved, rest⟩ := standing.advance (may pool index _ outside guarded found)
        (here points pool.state _ held (getElem_mem among))
      have state : (pool.taskStep index outside).state = write outside pool.state := congrArg (·.state) stepped
      rw [← state] at there moved
      refine ⟨points.set index later, ?_, ?_⟩
      · change List.Forall₂ _ (pool.taskStep index outside).tasks _
        rw [stepped]
        exact forall₂_set outlined rest
      · exact steps pool points index outside _ later held guarded (getElem?_eq_getElem among) there moved

end Outlines
end Pool
end SshProxy.Library
