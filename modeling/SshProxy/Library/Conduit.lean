import Mathlib.Data.List.Basic

/-! Items on their way through a chain of buffers, each the input of the next. Buffers move
items on in pieces of any size, and the chain may break anywhere and lose what is beyond. What
comes out is then still a beginning of what was put in. -/

namespace SshProxy.Library
open List
variable {α : Type}

/-- `stages` are the buffers, the one next to the exit first. A chain that is not `whole` is
broken behind the last of them. -/
structure Conduit (α : Type) where
  sent : List α := []
  stages : List (List α)
  out : List α := []
  whole : Bool := true

namespace Conduit

def enter (items : List α) : List (List α) → List (List α)
  | [] => [items]
  | [last] => [last ++ items]
  | first :: second :: rest => first :: enter items (second :: rest)

/-- Some items move from the buffer behind `index` into it. -/
def shift : Nat → Nat → List (List α) → List (List α)
  | 0, count, first :: second :: rest => (first ++ second.take count) :: second.drop count :: rest
  | index + 1, count, first :: rest => first :: shift index count rest
  | _, _, stages => stages

/-- The buffer at `index` loses all but its first items, and everything behind it is cut off. -/
def sever : Nat → Nat → List (List α) → List (List α)
  | 0, keep, first :: _ => [first.take keep]
  | index + 1, keep, first :: rest => first :: sever index keep rest
  | _, _, [] => []

def feed (conduit : Conduit α) (items : List α) : Conduit α :=
  { conduit with
    sent := conduit.sent ++ items
    stages := if conduit.whole then enter items conduit.stages else conduit.stages }

def pass (conduit : Conduit α) (index count : Nat) : Conduit α :=
  { conduit with stages := shift index count conduit.stages }

def cut (conduit : Conduit α) (index keep : Nat) : Conduit α :=
  { conduit with stages := sever index keep conduit.stages, whole := false }

def front (conduit : Conduit α) : List α := conduit.stages.headD []

def emit (conduit : Conduit α) (count : Nat) : Conduit α :=
  { conduit with
    stages := conduit.stages.modifyHead (drop count)
    out := conduit.out ++ conduit.front.take count }

theorem flatten_enter (items : List α) (stages : List (List α)) :
    (enter items stages).flatten = stages.flatten ++ items := by
  fun_induction enter items stages with
  | case1 | case2 last => simp
  | case3 first second rest ih => rw [flatten_cons, ih, flatten_cons (l := first), append_assoc]

theorem flatten_shift (index count : Nat) (stages : List (List α)) :
    (shift index count stages).flatten = stages.flatten := by
  fun_induction shift index count stages with
  | case1 count first second rest =>
    simp only [flatten_cons, append_assoc]
    rw [← append_assoc (second.take count), take_append_drop]
  | case2 index count first rest ih => rw [flatten_cons, ih, flatten_cons]
  | case3 => rfl

theorem flatten_sever (index keep : Nat) (stages : List (List α)) :
    (sever index keep stages).flatten <+: stages.flatten := by
  fun_induction sever index keep stages with
  | case1 keep first rest =>
    rw [flatten_singleton, flatten_cons]
    exact (List.take_prefix keep first).trans (prefix_append _ _)
  | case2 index keep first rest ih =>
    rw [flatten_cons, flatten_cons]
    exact (prefix_append_right_inj first).mpr ih
  | case3 => exact prefix_rfl

/-- Everything sent is somewhere in the chain, or was lost from its far end. -/
structure Sound (conduit : Conduit α) : Prop where
  within : conduit.out ++ conduit.stages.flatten <+: conduit.sent
  all : conduit.whole = true → conduit.out ++ conduit.stages.flatten = conduit.sent

namespace Sound
variable {conduit : Conduit α}

theorem out_isPrefix (sound : conduit.Sound) : conduit.out <+: conduit.sent :=
  (prefix_append _ _).trans sound.within

theorem empty {stages : List (List α)} (none : stages.flatten = []) : Sound { stages } :=
  ⟨nil_append _ ▸ none ▸ nil_prefix, fun _ => none⟩

variable (sound : conduit.Sound)
include sound

theorem of_eq {after : Conduit α} (sent : after.sent = conduit.sent) (whole : after.whole = conduit.whole)
    (inside : after.out ++ after.stages.flatten = conduit.out ++ conduit.stages.flatten) : after.Sound := by
  constructor
  · rw [inside, sent]
    exact sound.within
  · rw [inside, sent, whole]
    exact sound.all

theorem feed (items : List α) : (conduit.feed items).Sound := by
  cases whole : conduit.whole with
  | true =>
    have all : conduit.out ++ (enter items conduit.stages).flatten = conduit.sent ++ items := by
      rw [flatten_enter, ← append_assoc, sound.all whole]
    refine ⟨?_, fun _ => ?_⟩ <;> simp only [Conduit.feed, whole, if_true]
    · exact all ▸ prefix_rfl
    · exact all
  | false =>
    refine ⟨?_, fun again => ?_⟩
    · simp only [Conduit.feed, whole, Bool.false_eq_true, if_false]
      exact sound.within.trans (prefix_append _ _)
    · cases whole.symm.trans again

theorem pass (index count : Nat) : (conduit.pass index count).Sound :=
  sound.of_eq rfl rfl (congrArg (conduit.out ++ ·) (flatten_shift index count conduit.stages))

theorem cut (index keep : Nat) : (conduit.cut index keep).Sound where
  within := ((prefix_append_right_inj conduit.out).mpr (flatten_sever index keep conduit.stages)).trans sound.within
  all whole := by cases whole

theorem emit (count : Nat) : (conduit.emit count).Sound := by
  refine sound.of_eq rfl rfl ?_
  simp only [Conduit.emit, front, append_assoc]
  congr 1
  cases conduit.stages with
  | nil => simp
  | cons first rest =>
    rw [modifyHead_cons, headD_cons, flatten_cons, flatten_cons, ← append_assoc,
      take_append_drop]

end Sound
end Conduit
end SshProxy.Library
