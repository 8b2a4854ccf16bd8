import Mathlib.Data.List.Infix

/-! The end of the first occurrence of a pattern. It depends only on the input up to that
end, so it can be looked for again and again while the input grows. -/

namespace SshProxy.Library
open List

universe u
variable {α : Type u} [DecidableEq α] {pattern input : List α} {count : Nat}

def endOf (pattern : List α) : List α → Option Nat
  | [] => if pattern = [] then some 0 else none
  | item :: rest =>
    if pattern <+: item :: rest then some pattern.length else (endOf pattern rest).map (· + 1)

theorem endOf_le (found : endOf pattern input = some count) : pattern.length ≤ count ∧ count ≤ input.length := by
  induction input generalizing count with
  | nil =>
    unfold endOf at found
    split at found
    next empty =>
      cases found
      simp [empty]
    next => cases found
  | cons item rest ih =>
    unfold endOf at found
    split at found
    next here =>
      cases found
      exact ⟨Nat.le_refl _, here.length_le⟩
    next =>
      obtain ⟨inner, later, rfl⟩ := Option.map_eq_some_iff.mp found
      have bounds := ih later
      simp only [length_cons]
      omega

theorem endOf_append (found : endOf pattern input = some count) (more : List α) :
    endOf pattern (input ++ more) = some count := by
  induction input generalizing count with
  | nil =>
    unfold endOf at found
    split at found
    next empty =>
      cases found
      subst empty
      cases more with
      | nil => rfl
      | cons item rest => simp [endOf]
    next => cases found
  | cons item rest ih =>
    rw [cons_append, endOf]
    unfold endOf at found
    split at found
    next here =>
      have longer : pattern <+: item :: (rest ++ more) := here.trans (prefix_append (item :: rest) more)
      rw [if_pos longer, found]
    next notHere =>
      obtain ⟨inner, later, rfl⟩ := Option.map_eq_some_iff.mp found
      have bounds := endOf_le later
      rw [if_neg, ih later]
      · rfl
      · intro here
        apply notHere
        apply prefix_of_prefix_length_le here (prefix_append (item :: rest) more)
        simp only [length_cons]
        omega

theorem endOf_append_of_not_mem {first : α} {front : List α} (absent : first ∉ front) (rest : List α) :
    endOf (first :: pattern) (front ++ rest) = (endOf (first :: pattern) rest).map (· + front.length) := by
  induction front with
  | nil => simp
  | cons item front ih =>
    rw [mem_cons, not_or] at absent
    obtain ⟨different, others⟩ := absent
    have notHere : ¬ first :: pattern <+: item :: (front ++ rest) := by
      intro here
      exact different (cons_prefix_cons.mp here).1
    rw [cons_append, endOf, if_neg notHere, ih others, Option.map_map]
    congr 1

theorem endOf_isSuffix (found : endOf pattern input = some count) : pattern <:+ input.take count := by
  induction input generalizing count with
  | nil =>
    unfold endOf at found
    split at found
    next empty => simp [empty]
    next => cases found
  | cons item rest ih =>
    unfold endOf at found
    split at found
    next here =>
      cases found
      rw [← prefix_iff_eq_take.mp here]
    next =>
      obtain ⟨inner, later, rfl⟩ := Option.map_eq_some_iff.mp found
      exact (ih later).trans (suffix_cons _ _)

theorem endOf_eq_none : endOf pattern input = none ↔ ¬ pattern <:+: input := by
  induction input with
  | nil =>
    unfold endOf
    simp [infix_nil]
  | cons item rest ih =>
    unfold endOf
    rw [infix_cons_iff]
    split
    next here => simp [here]
    next notHere => simp [notHere, ih]

theorem endOf_take (found : endOf pattern input = some count) (length : Nat) :
    endOf pattern (input.take length) = if count ≤ length then some count else none := by
  cases seen : endOf pattern (input.take length) with
  | some other =>
    have same := endOf_append seen (input.drop length)
    rw [take_append_drop, found] at same
    cases same
    have bounds := endOf_le seen
    rw [length_take] at bounds
    rw [if_pos (by omega)]
  | none =>
    rw [if_neg]
    intro reached
    have inside : pattern <:+: input.take length := by
      have front : input.take count <+: input.take length := take_isPrefix_take.mpr (.inl reached)
      exact (endOf_isSuffix found).isInfix.trans front.isInfix
    exact endOf_eq_none.mp seen inside

end SshProxy.Library
