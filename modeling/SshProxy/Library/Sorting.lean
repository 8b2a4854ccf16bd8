import Mathlib.Data.List.Basic
import Mathlib.Data.Prod.Lex

/-! Lists in order: the place of an item among the first ones, and what a stable sort makes of a list
that was in order by another key. -/

namespace SshProxy.Library
open List

theorem mem_take_iff {α κ : Type*} [LinearOrder κ] {key : α → κ} {items : List α}
    (sorted : items.Pairwise (key · < key ·)) {item : α} (present : item ∈ items) (count : Nat) :
    item ∈ items.take count ↔ items.countP (key · < key item) < count := by
  induction items generalizing count with
  | nil => cases present
  | cons first rest ih =>
    obtain ⟨least, others⟩ := pairwise_cons.mp sorted
    cases count with
    | zero => simp
    | succ count =>
      rw [take_succ_cons, mem_cons]
      rcases mem_cons.mp present with rfl | later
      · have none : (item :: rest).countP (key · < key item) = 0 := by
          refine countP_eq_zero.mpr fun other listed => ?_
          rw [decide_eq_true_eq, not_lt]
          rcases mem_cons.mp listed with rfl | later
          · exact le_refl _
          · exact le_of_lt (least other later)
        rw [none]
        exact ⟨fun _ => Nat.succ_pos count, fun _ => .inl rfl⟩
      · have apart : item ≠ first := by
          rintro rfl
          exact lt_irrefl _ (least item later)
        have more : (first :: rest).countP (key · < key item) = rest.countP (key · < key item) + 1 :=
          countP_cons_of_pos (by simpa using least item later)
        rw [more, Nat.add_lt_add_iff_right, ← ih others later]
        exact ⟨fun either => either.resolve_left apart, .inr⟩

theorem pairwise_mergeSort {α β : Type} [LinearOrder α] [LinearOrder β] {items : List (α × β)}
    (sorted : items.Pairwise fun first second => first.2 < second.2) :
    (items.mergeSort fun first second => first.1 ≤ second.1).Pairwise (toLex · < toLex ·) := by
  have trans (first second third : α × β) : decide (first.1 ≤ second.1) = true → decide (second.1 ≤ third.1) = true →
      decide (first.1 ≤ third.1) = true := by simpa using le_trans
  have total (first second : α × β) : (decide (first.1 ≤ second.1) || decide (second.1 ≤ first.1)) = true := by
    simpa using le_total first.1 second.1
  have ordered := List.pairwise_mergeSort trans total items
  rw [pairwise_iff_forall_sublist] at ordered ⊢
  intro first second both
  rcases lt_or_eq_of_le (of_decide_eq_true (ordered both)) with less | same
  · exact Prod.Lex.toLex_lt_toLex.mpr (.inl less)
  · -- The items with one first key stand in the sorted list as they stood in the list.
    have kept : items.filter (·.1 = second.1) =
        (items.mergeSort fun first second => first.1 ≤ second.1).filter (·.1 = second.1) := by
      have alike : (items.filter (·.1 = second.1)).Pairwise fun first second => decide (first.1 ≤ second.1) = true :=
        pairwise_of_forall_mem_list fun a here b there => by simp_all
      have inside := (sublist_mergeSort trans total alike filter_sublist).filter (·.1 = second.1)
      rw [filter_filter] at inside
      simp only [Bool.and_self] at inside
      exact inside.eq_of_length ((mergeSort_perm items _).filter _).length_eq.symm
    have pair := both.filter fun item => decide (item.1 = second.1)
    rw [← kept, filter_cons_of_pos (by simpa using same), filter_cons_of_pos (by simp), filter_nil] at pair
    exact Prod.Lex.toLex_lt_toLex.mpr (.inr ⟨same, pairwise_iff_forall_sublist.mp (sorted.filter _) pair⟩)

end SshProxy.Library
