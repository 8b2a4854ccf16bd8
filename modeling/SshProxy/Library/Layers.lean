import Mathlib.Data.List.Basic
import Mathlib.Data.Option.Basic

/-! Settings that several layers may give: what the explicit value, an upper and a lower layer
make of one, the ways in which code merges a layer into the value it has, and what is left of a
value that one step after the other may write. -/

namespace SshProxy.Library
variable {α : Type}

/-- The explicit value where it is not the built-in one, else the value of the upper layer, else
that of the lower one, else the last resort. -/
def Layered (builtIn lastResort explicit : α) (upper lower : Option α) (result : α) : Prop :=
  (explicit ≠ builtIn → result = explicit) ∧ (explicit = builtIn → result = (upper.or lower).getD lastResort)

def FillsIn (unset current : α) (value : Option α) (result : α) : Prop :=
  (current ≠ unset → result = current) ∧ (current = unset → result = value.getD unset)

section
variable [DecidableEq α]

def fillSentinel (sentinel current : α) (value : Option α) : α :=
  if current = sentinel then value.getD current else current

theorem fillSentinel_fillsIn (sentinel current : α) (value : Option α) :
    FillsIn sentinel current value (fillSentinel sentinel current value) := by
  constructor
  · intro set
    exact if_neg set
  · rintro rfl
    exact if_pos rfl

end

def fillFalse (current : Bool) (value : Option Bool) : Bool := if !current then value.getD false else current

theorem fillFalse_fillsIn (current : Bool) (value : Option Bool) :
    FillsIn false current value (fillFalse current value) := by
  cases current <;> simp [FillsIn, fillFalse]

def fillEmpty (current value : List α) : List α := if current.isEmpty then value else current

def listed (value : List α) : Option (List α) := if value.isEmpty then none else some value

theorem fillEmpty_fillsIn (current value : List α) : FillsIn [] current (listed value) (fillEmpty current value) := by
  cases current <;> cases value <;> simp [FillsIn, fillEmpty, listed]

theorem or_fillsIn (current value : Option α) : FillsIn none current (value.map some) (current.or value) := by
  cases current <;> cases value <;> simp [FillsIn]

variable {builtIn explicit merged result : α} {upper lower : Option α}

theorem FillsIn.layered_iff (first : FillsIn builtIn explicit lower merged) (second : FillsIn builtIn merged upper result) :
    Layered builtIn builtIn explicit upper lower result ↔
      (explicit = builtIn → ∀ low high, lower = some low → upper = some high → low = builtIn ∨ high = low) := by
  by_cases unset : explicit = builtIn
  · have filled := first.2 unset
    cases lower with
    | none =>
      have last : result = upper.getD builtIn := second.2 filled
      simp [Layered, unset, last]
    | some low =>
      by_cases same : low = builtIn
      · have last : result = upper.getD builtIn := second.2 (filled.trans same)
        cases upper <;> simp [Layered, unset, last, same]
      · have kept : result = low := (second.1 (by rw [filled]; exact same)).trans filled
        cases upper with
        | none => simp [Layered, unset, kept]
        | some high => simpa [Layered, unset, kept, same] using eq_comm
  · have kept := first.1 unset
    have last : result = explicit := (second.1 (by rw [kept]; exact unset)).trans kept
    simp [Layered, unset, last]

theorem overwritten_layered_iff : Layered builtIn builtIn explicit upper lower (upper.getD (lower.getD explicit)) ↔
      (explicit ≠ builtIn → ∀ value, upper.or lower = some value → value = explicit) := by
  by_cases unset : explicit = builtIn
  · cases upper <;> cases lower <;> simp [Layered, unset]
  · cases upper <;> cases lower <;> simp [Layered, unset]

theorem or_layered_iff {explicit upper lower last : Option α} :
    Layered none last explicit (upper.map some) (lower.map some) (((explicit.or lower).or upper).or last) ↔
      (explicit = none → ∀ low high, lower.map some = some low → upper.map some = some high → low = none ∨ high = low) := by
  cases explicit <;> cases lower <;> cases upper <;> simp [Layered, eq_comm]

section
variable {σ ι ε β : Type} {step : σ → ι → Except ε σ} {writes : ι → Prop} {written : ι → σ → β} {read : σ → β}

/-- A step that writes leaves what it has written, the others leave what there is. -/
structure LastWins (step : σ → ι → Except ε σ) (writes : ι → Prop) (written : ι → σ → β) (read : σ → β) : Prop where
  wrote : ∀ state item after, step state item = .ok after → writes item → read after = written item state
  kept : ∀ state item after, step state item = .ok after → ¬ writes item → read after = read state

theorem LastWins.read_eq (wins : LastWins step writes written read) {items : List ι} {start final : σ}
    (run : items.foldlM step start = .ok final) : ((∀ item ∈ items, ¬ writes item) ∧ read final = read start) ∨
      ∃ before item after state, items = before ++ item :: after ∧ writes item ∧ (∀ later ∈ after, ¬ writes later) ∧
        before.foldlM step start = .ok state ∧ read final = written item state := by
  induction items generalizing start with
  | nil =>
    cases run
    exact .inl ⟨nofun, rfl⟩
  | cons first rest ih =>
    rw [List.foldlM_cons] at run
    cases stepped : step start first with
    | error error =>
      rw [stepped] at run
      cases run
    | ok middle =>
      rw [stepped] at run
      rcases ih run with ⟨silent, same⟩ | ⟨before, item, after, state, split, writer, silent, prior, last⟩
      · by_cases writer : writes first
        · refine .inr ⟨[], first, rest, start, rfl, writer, silent, rfl, ?_⟩
          exact same.trans (wins.wrote start first middle stepped writer)
        · refine .inl ⟨List.forall_mem_cons.mpr ⟨writer, silent⟩, ?_⟩
          exact same.trans (wins.kept start first middle stepped writer)
      · refine .inr ⟨first :: before, item, after, state, ?_, writer, silent, ?_, last⟩
        · rw [split, List.cons_append]
        · rw [List.foldlM_cons, stepped]
          exact prior

theorem last_unique (writes : ι → Prop) {before after before' after' : List ι} {item item' : ι}
    (writer : writes item) (writer' : writes item') (silent : ∀ later ∈ after, ¬ writes later)
    (silent' : ∀ later ∈ after', ¬ writes later) (same : before ++ item :: after = before' ++ item' :: after') :
    before = before' ∧ item = item' := by
  rcases List.append_eq_append_iff.mp same with ⟨between, rfl, rest⟩ | ⟨between, rfl, rest⟩
  · cases between with
    | nil =>
      cases rest
      exact ⟨(List.append_nil before).symm, rfl⟩
    | cons head tail =>
      cases rest
      exact absurd writer' (silent item' (List.mem_append_right tail List.mem_cons_self))
  · cases between with
    | nil =>
      cases rest
      exact ⟨List.append_nil before', rfl⟩
    | cons head tail =>
      cases rest
      exact absurd writer (silent' item (List.mem_append_right tail List.mem_cons_self))

end

end SshProxy.Library
