import Mathlib.Data.List.Infix

/-! Streams that arrive in chunks. For every position in the stream there is one chunk that
reaches it, whatever the chunks are. -/

namespace SshProxy.Library
open List

universe u
variable {α : Type u} {chunks front rest : List (List α)} {chunk : List α} {count : Nat}

/-- `chunk` is the one with which `count` items have arrived. -/
structure Completing (chunks : List (List α)) (count : Nat) (front : List (List α)) (chunk : List α)
    (rest : List (List α)) : Prop where
  split : chunks = front ++ chunk :: rest
  before : front.flatten.length < count
  reached : count ≤ (front.flatten ++ chunk).length

theorem exists_completing (positive : 0 < count) (enough : count ≤ chunks.flatten.length) :
    ∃ front chunk rest, Completing chunks count front chunk rest := by
  induction chunks generalizing count with
  | nil =>
    simp only [flatten_nil, length_nil] at enough
    omega
  | cons chunk rest ih =>
    by_cases here : count ≤ chunk.length
    · exact ⟨[], chunk, rest, rfl, positive, by simpa using here⟩
    · simp only [flatten_cons, length_append] at enough
      obtain ⟨front, last, after, split, before, reached⟩ := @ih (count - chunk.length) (by omega) (by omega)
      refine ⟨chunk :: front, last, after, by rw [split]; rfl, ?_, ?_⟩
      · simp only [flatten_cons, length_append]
        omega
      · simp only [flatten_cons, length_append] at reached ⊢
        omega

theorem flatten_length_le {whole : List (List α)} (shorter : front <+: whole) :
    front.flatten.length ≤ whole.flatten.length := by
  obtain ⟨rest, rfl⟩ := shorter
  simp

variable (completing : Completing chunks count front chunk rest)
include completing

theorem Completing.stop {before after : List (List α)} (same : chunks = before ++ after) :
    before <+: front ∨ front ++ [chunk] <+: before := by
  have first : front ++ [chunk] <+: before ++ after := ⟨rest, by simpa [← same] using completing.split.symm⟩
  rcases prefix_or_prefix_of_prefix (prefix_append before after) first with inside | beyond
  · rcases prefix_concat_iff.mp inside with rfl | shorter
    · exact .inr (prefix_refl _)
    · exact .inl shorter
  · exact .inr beyond

theorem Completing.not_beyond {before : List (List α)} (short : before.flatten.length < count) :
    ¬ front ++ [chunk] <+: before := by
  intro longer
  have bound := flatten_length_le longer
  have reached := completing.reached
  simp only [flatten_append, flatten_singleton] at bound
  omega

theorem Completing.unique {front' rest' : List (List α)} {chunk' : List α}
    (other : Completing chunks count front' chunk' rest') : front = front' ∧ chunk = chunk' := by
  have forth := (completing.stop other.split).resolve_right (completing.not_beyond other.before)
  have back := (other.stop completing.split).resolve_right (other.not_beyond completing.before)
  have same : front = front' := back.eq_of_length_le forth.length_le
  subst same
  have tails := completing.split.symm.trans other.split
  exact ⟨rfl, (cons.inj (append_cancel_left tails)).1⟩

end SshProxy.Library
