import Mathlib.Data.List.Basic

/-! One direction of a stream over a first-in first-out wire. The receiver is
attached to the wire for a while; an item taken off the wire for it is delivered
or dropped, and a receiver that dropped an item is not attached again. -/

namespace SshProxy.Library

/-- `delivered` and the item already `taken` off the wire form a prefix of what was
`sent`. While the receiver is attached the items in `transit` continue that prefix,
and they are the whole rest as long as the sender is still feeding the wire. -/
structure Carries {α : Type u} (sent transit taken delivered : List α) (attached flowing : Prop) : Prop where
  kept : delivered ++ taken <+: sent
  order : attached → delivered ++ taken ++ transit <+: sent
  whole : attached → flowing → delivered ++ taken ++ transit = sent

namespace Carries
variable {α : Type u} {sent transit taken delivered : List α} {attached flowing : Prop}

theorem fresh (sent transit : List α) (flowing : Prop) : Carries sent transit [] [] False flowing :=
  ⟨List.nil_prefix, False.elim, False.elim⟩

theorem attach (attached flowing : Prop) : Carries ([] : List α) [] [] [] attached flowing :=
  ⟨List.nil_prefix, fun _ => List.nil_prefix, fun _ _ => rfl⟩

section
variable (carries : Carries sent transit taken delivered attached flowing)
include carries

theorem delivered_isPrefix : delivered <+: sent :=
  (List.prefix_append _ _).trans carries.kept

theorem weaken {other later : Prop} (still : other → attached) (fed : later → flowing) :
    Carries sent transit taken delivered other later :=
  ⟨carries.kept, fun on => carries.order (still on), fun on up => carries.whole (still on) (fed up)⟩

theorem send (items : List α) (feeding : items = [] ∨ flowing) :
    Carries (sent ++ items) (transit ++ items) taken delivered attached flowing := by
  rcases feeding with rfl | up
  · simpa using carries
  · have whole (on : attached) : delivered ++ taken ++ (transit ++ items) = sent ++ items := by
      rw [← List.append_assoc, carries.whole on up]
    exact ⟨carries.kept.trans (List.prefix_append _ _), fun on => whole on ▸ List.prefix_rfl, fun on _ => whole on⟩

end

theorem take {item : α} {rest : List α} (carries : Carries sent (item :: rest) [] delivered attached flowing)
    (on : attached) : Carries sent rest [item] delivered attached flowing := by
  have shift : delivered ++ [item] ++ rest = delivered ++ [] ++ item :: rest := by simp
  refine ⟨?_, fun on => shift ▸ carries.order on, fun on up => shift ▸ carries.whole on up⟩
  exact (List.prefix_append (delivered ++ [item]) rest).trans (shift ▸ carries.order on)

theorem skip {item : α} {rest : List α} (carries : Carries sent (item :: rest) taken delivered attached flowing)
    (off : ¬ attached) : Carries sent rest taken delivered attached flowing :=
  ⟨carries.kept, fun on => False.elim (off on), fun on => False.elim (off on)⟩

theorem deliver {item : α} (carries : Carries sent transit [item] delivered attached flowing) :
    Carries sent transit [] (delivered ++ [item]) attached flowing :=
  ⟨by simpa using carries.kept, fun on => by simpa using carries.order on,
    fun on up => by simpa using carries.whole on up⟩

theorem drop {other : Prop} (carries : Carries sent transit taken delivered attached flowing) (off : ¬ other) :
    Carries sent transit [] delivered other flowing :=
  ⟨by simpa using carries.delivered_isPrefix, fun on => False.elim (off on), fun on => False.elim (off on)⟩

theorem lose {remaining : List α} {later : Prop} (carries : Carries sent transit taken delivered attached flowing)
    (left : remaining <+: transit) (stopped : ¬ later) : Carries sent remaining taken delivered attached later := by
  refine ⟨carries.kept, fun on => ?_, fun _ up => False.elim (stopped up)⟩
  exact ((List.prefix_append_right_inj _).mpr left).trans (carries.order on)

end Carries
end SshProxy.Library
