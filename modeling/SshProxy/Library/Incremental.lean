import Mathlib.Data.List.Basic

/-! Decoders that are fed their input piece by piece and say how much more they want. -/

namespace SshProxy.Library
variable {α ε β : Type}

inductive Progress (ε β : Type) where
  | needs (count : Nat)
  | failed (error : ε)
  | done (value : β)
  deriving DecidableEq

/-- The items spell the value: the decoder wants more until it has all of them, and never
more than that. -/
structure Spells (progress : List α → Progress ε β) (items : List α) (value : β) : Prop where
  short : ∀ part, part <+: items → part ≠ items →
    ∃ count, progress part = .needs count ∧ 0 < count ∧ part.length + count ≤ items.length
  whole : progress items = .done value

variable {progress : List α → Progress ε β} {items part rest later : List α} {value : β} {count wanted : Nat}

theorem Spells.within (spells : Spells progress items value) (inside : part <+: items)
    (wants : progress part = .needs wanted) (taken : count ≤ wanted) (input : part ++ rest = items ++ later) :
    part ++ rest.take count <+: items ∧ (part ++ rest.take count) ++ rest.drop count = items ++ later := by
  have proper : part ≠ items := by
    rintro rfl
    rw [spells.whole] at wants
    cases wants
  obtain ⟨_, same, _, bound⟩ := spells.short part inside proper
  rw [wants] at same
  cases same
  have whole : (part ++ rest.take count) ++ rest.drop count = items ++ later := by
    rw [List.append_assoc, List.take_append_drop, input]
  refine ⟨List.prefix_of_prefix_length_le ⟨_, whole⟩ ⟨_, rfl⟩ ?_, whole⟩
  simp only [List.length_append, List.length_take]
  omega

theorem slice_eq (inside : part <+: items) {start length : Nat} (covered : start + length ≤ part.length) :
    (part.drop start).take length = (items.drop start).take length := by
  obtain ⟨more, rfl⟩ := inside
  rw [List.drop_append_of_le_length (by omega), List.take_append_of_le_length (by rw [List.length_drop]; omega)]

end SshProxy.Library
