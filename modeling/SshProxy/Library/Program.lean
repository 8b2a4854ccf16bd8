import Mathlib.Logic.Basic

/-! Programs that share a state. A program is a tree of atomic steps: each one reads the shared
state and what comes from outside, writes the state and chooses how to go on. Between two steps of
one program the others may take theirs. -/

namespace SshProxy.Library

inductive Program (σ ε α : Type) where
  | pure (value : α)
  | step (write : ε → σ → σ) (next : ε → σ → Program σ ε α)

namespace Program
variable {σ ε α β χ γ : Type}

def bind (program : Program σ ε α) (next : α → Program σ ε β) : Program σ ε β :=
  match program with
  | .pure value => next value
  | .step write rest => .step write fun outside state => (rest outside state).bind next

instance : Monad (Program σ ε) where
  pure := .pure
  bind := bind

def result? : Program σ ε α → Option α
  | .pure value => some value
  | .step _ _ => none

variable {program : Program σ ε α}

theorem eq_pure {value : α} (ended : program.result? = some value) : program = .pure value := by
  cases program with
  | pure other =>
    cases ended
    rfl
  | step write next => cases ended

def act (change : ε → σ → σ × α) : Program σ ε α :=
  .step (fun outside state => (change outside state).1) fun outside state => .pure (change outside state).2

/-- One atomic step that may fail. A failed step may still have written. -/
def perform (change : ε → σ → σ × Except χ α) : ExceptT χ (Program σ ε) α := ExceptT.mk (act change)

def tried (program : ExceptT χ (Program σ ε) α) : ExceptT χ (Program σ ε) (Except χ α) :=
  ExceptT.mk (program.run.bind fun result => .pure (.ok result))

/-- What holds of each step: of the state before it, the state after it, and what the program ends with
where the step is its last. -/
def EveryStep (holds : σ → σ → Option α → Prop) : Program σ ε α → Prop
  | .pure _ => True
  | .step write next => ∀ outside state,
    holds state (write outside state) (next outside state).result? ∧ (next outside state).EveryStep holds

/-- A step that makes the event happen is the last one of the program. -/
def EndsAt (event : σ → σ → Prop) : Program σ ε α → Prop
  | .pure _ => True
  | .step write next => ∀ outside state,
    (event state (write outside state) → (next outside state).result?.isSome = true) ∧ (next outside state).EndsAt event

namespace EndsAt
variable {event : σ → σ → Prop} {next : α → ExceptT χ (Program σ ε) β}

theorem andThen {change : ε → σ → σ × Except χ α} (quiet : ∀ outside state, ¬ event state (change outside state).1)
    (rest : ∀ value, (next value).run.EndsAt event) : (perform change >>= next).run.EndsAt event := by
  intro outside state
  refine ⟨fun happens => absurd happens (quiet outside state), ?_⟩
  change (ExceptT.bindCont next (change outside state).2).EndsAt event
  cases (change outside state).2 with
  | ok value => exact rest value
  | error => exact trivial

theorem last (change : ε → σ → σ × Except χ α) (form : α → β) :
    (perform change >>= fun value => Pure.pure (form value)).run.EndsAt event := by
  have ended (result : Except χ α) :
      let rest : Program σ ε (Except χ β) := ExceptT.bindCont (m := Program σ ε) (fun value => Pure.pure (form value)) result
      rest.result?.isSome = true ∧ rest.EndsAt event := by
    cases result with
    | ok value | error => exact ⟨rfl, trivial⟩
  intro outside state
  exact ⟨fun _ => (ended _).1, (ended _).2⟩

end EndsAt

/-- A proof outline. The program stands at a point; the assertion of a point holds of the state
whenever the program takes its step there, and an allowed step leads to a later point in a way that
the points allow. That the steps of others keep an assertion is not part of the outline. -/
inductive Outline (allowed : ε → σ → Prop) (holds : γ → σ → Prop) (moves : γ → γ → σ → σ → Prop) (post : α → γ → Prop) :
    γ → Program σ ε α → Prop where
  | pure {point : γ} {value : α} (done : post value point) : Outline allowed holds moves post point (.pure value)
  | step {point : γ} {write : ε → σ → σ} {next : ε → σ → Program σ ε α} (later : ε → σ → γ)
      (kept : ∀ outside state, allowed outside state → holds point state → holds (later outside state) (write outside state))
      (moved : ∀ outside state, allowed outside state → holds point state →
        moves point (later outside state) state (write outside state))
      (rest : ∀ outside state, allowed outside state → holds point state →
        Outline allowed holds moves post (later outside state) (next outside state)) :
      Outline allowed holds moves post point (.step write next)

namespace Outline
variable {allowed : ε → σ → Prop} {holds : γ → σ → Prop} {moves : γ → γ → σ → σ → Prop} {point : γ}

theorem weaken {post other : α → γ → Prop} (outline : Outline allowed holds moves post point program)
    (implies : ∀ value point, post value point → other value point) :
    Outline allowed holds moves other point program := by
  induction outline with
  | pure done => exact .pure (implies _ _ done)
  | step later kept moved _ ih => exact .step later kept moved ih

variable {post : α → γ → Prop}

theorem assert (assertion : γ → σ → Prop) (outline : Outline allowed holds moves post point program)
    (kept : ∀ point later before after, moves point later before after → assertion point before → assertion later after) :
    Outline allowed (fun point state => holds point state ∧ assertion point state) moves post point program := by
  induction outline with
  | pure done => exact .pure done
  | step later held moved _ ih =>
    refine .step later ?_ ?_ ?_
    · intro outside state may here
      exact ⟨held outside state may here.1, kept _ _ _ _ (moved outside state may here.1) here.2⟩
    · intro outside state may here
      exact moved outside state may here.1
    · intro outside state may here
      exact ih outside state may here.1

theorem bind {next : α → Program σ ε β} {first : α → γ → Prop} {post : β → γ → Prop}
    (outline : Outline allowed holds moves first point program)
    (resume : ∀ value point, first value point → Outline allowed holds moves post point (next value)) :
    Outline allowed holds moves post point (program.bind next) := by
  induction outline with
  | pure done => exact resume _ _ done
  | step later kept moved _ ih => exact .step later kept moved ih

variable {change : ε → σ → σ × α}

theorem act (later : ε → σ → γ)
    (each : ∀ outside state, allowed outside state → holds point state →
      holds (later outside state) (change outside state).1 ∧
        moves point (later outside state) state (change outside state).1 ∧
        post (change outside state).2 (later outside state)) :
    Outline allowed holds moves post point (Program.act change) := by
  refine .step later ?_ ?_ ?_
  · intro outside state may here
    exact (each outside state may here).1
  · intro outside state may here
    exact (each outside state may here).2.1
  · intro outside state may here
    exact .pure (each outside state may here).2.2

theorem stay
    (each : ∀ outside state, allowed outside state → holds point state → holds point (change outside state).1 ∧
      moves point point state (change outside state).1 ∧ post (change outside state).2 point) :
    Outline allowed holds moves post point (Program.act change) := act (fun _ _ => point) each

section Fallible
variable {post : Except χ β → γ → Prop}

theorem performed {change : ε → σ → σ × Except χ α} (later : Except χ α → γ)
    (each : ∀ outside state, allowed outside state → holds point state →
      holds (later (change outside state).2) (change outside state).1 ∧
      moves point (later (change outside state).2) state (change outside state).1) :
    Outline allowed holds moves (fun result reached => reached = later result) point (perform change).run := by
  apply act fun outside state => later (change outside state).2
  intro outside state may here
  exact ⟨(each outside state may here).1, (each outside state may here).2, rfl⟩

variable {program : ExceptT χ (Program σ ε) α} {first : Except χ α → γ → Prop}

section
variable (outline : Outline allowed holds moves first point program.run)
include outline

theorem andThen (fails : ∀ error point, first (.error error) point → post (.error error) point)
    (resume : ∀ value point, first (.ok value) point → Outline allowed holds moves post point (next value).run) :
    Outline allowed holds moves post point (program >>= next).run := by
  apply bind outline
  intro result point reached
  cases result with
  | ok value => exact resume value point reached
  | error error => exact .pure (fails error point reached)

theorem tried : Outline allowed holds moves (fun result point => ∃ value, result = .ok value ∧ first value point) point
      (Program.tried program).run := by
  apply bind outline
  intro result point reached
  exact .pure ⟨result, rfl, reached⟩

theorem triedThen {next : Except χ α → ExceptT χ (Program σ ε) β}
    (resume : ∀ result point, first result point → Outline allowed holds moves post point (next result).run) :
    Outline allowed holds moves post point (Program.tried program >>= next).run := by
  apply andThen (tried outline)
  · intro error point reached
    obtain ⟨value, same, _⟩ := reached
    cases same
  · intro value point reached
    obtain ⟨result, same, here⟩ := reached
    cases same
    exact resume _ point here

end

theorem ok {value : β} (done : post (.ok value) point) :
    Outline allowed holds moves post point (Pure.pure value : ExceptT χ (Program σ ε) β).run := .pure done

end Fallible

variable {write : ε → σ → σ} {next : ε → σ → Program σ ε α}

theorem strengthen {other : γ} (outline : Outline allowed holds moves post point (.step write next))
    (implies : ∀ state, holds other state → holds point state)
    (moving : ∀ later before after, moves point later before after → moves other later before after) :
    Outline allowed holds moves post other (.step write next) := by
  cases outline with
  | step later kept moved rest =>
    refine .step later ?_ ?_ ?_
    · intro outside state may here
      exact kept outside state may (implies state here)
    · intro outside state may here
      exact moving _ _ _ (moved outside state may (implies state here))
    · intro outside state may here
      exact rest outside state may (implies state here)

theorem unreached (never : ∀ state, ¬ holds point state) :
    Outline allowed holds moves post point (.step write next) := by
  refine .step (fun _ _ => point) ?_ ?_ ?_
  · intro outside state _ here
    exact absurd here (never state)
  · intro outside state _ here
    exact absurd here (never state)
  · intro outside state _ here
    exact absurd here (never state)

theorem advance {state : σ} (outline : Outline allowed holds moves post point (.step write next)) {outside : ε}
    (may : allowed outside state) (here : holds point state) :
    ∃ later, holds later (write outside state) ∧ moves point later state (write outside state) ∧
      Outline allowed holds moves post later (next outside state) := by
  cases outline with
  | step later kept moved rest =>
    exact ⟨later outside state, kept outside state may here, moved outside state may here, rest outside state may here⟩

end Outline
end Program
end SshProxy.Library
