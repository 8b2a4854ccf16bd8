import Mathlib.Logic.Function.Basic
import SshProxy.Library.Pipe

/-! Many streams over one first-in first-out wire. A demultiplexer looks the id of each
item up in a table and hands the item to the slot registered there; it holds one
item at a time. Entries may disappear at any moment, and a slot is registered
before anything is sent under its id. -/

namespace SshProxy.Library
open Function

universe u v w
variable {ι : Type u} {σ : Type v} {α : Type w}

def itemsOf [DecidableEq ι] (id : ι) (items : List (ι × α)) : List α :=
  items.filterMap fun item => if item.1 = id then some item.2 else none

section
variable [DecidableEq ι]

@[simp] theorem itemsOf_nil (id : ι) : itemsOf id ([] : List (ι × α)) = [] := rfl

@[simp] theorem itemsOf_append (id : ι) (left right : List (ι × α)) :
    itemsOf id (left ++ right) = itemsOf id left ++ itemsOf id right :=
  List.filterMap_append

@[simp] theorem itemsOf_cons_self (id : ι) (item : α) (rest : List (ι × α)) :
    itemsOf id ((id, item) :: rest) = item :: itemsOf id rest := by
  simp [itemsOf]

theorem itemsOf_cons_of_ne {id other : ι} (different : other ≠ id) (item : α) (rest : List (ι × α)) :
    itemsOf id ((other, item) :: rest) = itemsOf id rest := by
  simp [itemsOf, different]

theorem itemsOf_isPrefix (id : ι) {left right : List (ι × α)} (before : left <+: right) :
    itemsOf id left <+: itemsOf id right := by
  obtain ⟨rest, rfl⟩ := before
  exact itemsOf_append id left rest ▸ List.prefix_append _ _

theorem itemsOf_eq_nil {id : ι} {items : List (ι × α)} (absent : ∀ item, (id, item) ∉ items) : itemsOf id items = [] := by
  apply List.filterMap_eq_nil_iff.mpr
  intro item member
  split
  next same => exact absurd (same ▸ member) (absent item.2)
  next => rfl

end

theorem entry_of_remove [DecidableEq ι] {table : ι → Option σ} {id key : ι} {slot : σ}
    (found : update table id none key = some slot) : table key = some slot := by
  by_cases same : key = id
  · rw [same, update_self] at found
    cases found
  · rwa [update_of_ne same] at found

theorem entry_of_insert [DecidableEq ι] {table : ι → Option σ} {id key : ι} {slot other : σ}
    (found : update table id (some slot) key = some other) : table key = some other ∨ key = id ∧ other = slot := by
  by_cases same : key = id
  · rw [same, update_self] at found
    exact .inr ⟨same, (Option.some.inj found).symm⟩
  · rw [update_of_ne same] at found
    exact .inl found

structure Demux (ι : Type u) (σ : Type v) (α : Type w) where
  table : ι → Option σ
  hand : Option (σ × α)
  delivered : σ → List α

namespace Demux

def taken [DecidableEq σ] (demux : Demux ι σ α) (slot : σ) : List α :=
  match demux.hand with
  | some (other, item) => if other = slot then [item] else []
  | none => []

def attach [DecidableEq ι] (demux : Demux ι σ α) (id : ι) (slot : σ) : Demux ι σ α :=
  { demux with table := update demux.table id (some slot) }

def receive (demux : Demux ι σ α) (id : ι) (item : α) : Demux ι σ α :=
  match demux.table id with
  | some slot => { demux with hand := some (slot, item) }
  | none => demux

structure Unused [DecidableEq σ] (demux : Demux ι σ α) (slot : σ) : Prop where
  delivered : demux.delivered slot = []
  taken : demux.taken slot = []
  table : ∀ id, demux.table id ≠ some slot

/-- What happens between two items: entries disappear, the held item is delivered, or
it is dropped and its slot is not registered any more. -/
inductive Internal [DecidableEq σ] (owner : σ → ι) (before after : Demux ι σ α) : Prop where
  | detach (shrinks : ∀ id slot, after.table id = some slot → before.table id = some slot)
      (hand : after.hand = before.hand) (delivered : after.delivered = before.delivered)
  | deliver (slot : σ) (item : α) (held : before.hand = some (slot, item)) (table : after.table = before.table)
      (hand : after.hand = none)
      (delivered : after.delivered = update before.delivered slot (before.delivered slot ++ [item]))
  | drop (slot : σ) (item : α) (held : before.hand = some (slot, item))
      (shrinks : ∀ id other, after.table id = some other → before.table id = some other)
      (off : after.table (owner slot) = none) (hand : after.hand = none)
      (delivered : after.delivered = before.delivered)

theorem Internal.refl [DecidableEq σ] (owner : σ → ι) (demux : Demux ι σ α) : Internal owner demux demux :=
  .detach (fun _ _ found => found) rfl rfl

theorem Internal.shrinks [DecidableEq σ] {owner : σ → ι} {before after : Demux ι σ α}
    (internal : Internal owner before after) {id : ι} {slot : σ} (found : after.table id = some slot) :
    before.table id = some slot := by
  cases internal with
  | detach shrinks | drop _ _ _ shrinks => exact shrinks id slot found
  | deliver _ _ _ table => exact table ▸ found

theorem taken_eq_nil [DecidableEq σ] {demux : Demux ι σ α} {slot : σ} (free : ∀ item, demux.hand ≠ some (slot, item)) :
    demux.taken slot = [] := by
  unfold taken
  split
  next other item held =>
    rw [if_neg]
    rintro rfl
    exact free item held
  next => rfl

/-- One step of whoever runs a demultiplexer, and the items it takes off the wire. -/
inductive Step [DecidableEq ι] [DecidableEq σ] (owner : σ → ι) (registers : σ → Prop) (before : Demux ι σ α) :
    List (ι × α) → Demux ι σ α → Prop where
  | internal {after : Demux ι σ α} (step : Internal owner before after) : Step owner registers before [] after
  | attach (slot : σ) (registering : registers slot) (unused : before.Unused slot) :
      Step owner registers before [] (before.attach (owner slot) slot)
  | receive (id : ι) (item : α) (free : before.hand = none) :
      Step owner registers before [(id, item)] (before.receive id item)

/-- Every stream of the wire reaches its slot in order, without gaps. -/
structure Linked [DecidableEq ι] [DecidableEq σ] (owner : σ → ι) (demux : Demux ι σ α) (sent transit : List (ι × α))
    (flowing : Prop) : Prop where
  owned : ∀ id slot, demux.table id = some slot → owner slot = id
  carries : ∀ slot, Carries (itemsOf (owner slot) sent) (itemsOf (owner slot) transit) (demux.taken slot)
    (demux.delivered slot) (demux.table (owner slot) = some slot) flowing

namespace Linked
variable [DecidableEq ι] [DecidableEq σ] {owner : σ → ι} {demux after : Demux ι σ α} {sent transit : List (ι × α)}
  {flowing : Prop}

section
variable (linked : Linked owner demux sent transit flowing)
include linked

theorem delivered_isPrefix (slot : σ) : demux.delivered slot <+: itemsOf (owner slot) sent :=
  (linked.carries slot).delivered_isPrefix

theorem weaken {later : Prop} (fed : later → flowing) : Linked owner demux sent transit later :=
  ⟨linked.owned, fun slot => (linked.carries slot).weaken id fed⟩

theorem send (items : List (ι × α)) (feeding : items = [] ∨ flowing) :
    Linked owner demux (sent ++ items) (transit ++ items) flowing := by
  refine ⟨linked.owned, ?_⟩
  intro slot
  rw [itemsOf_append, itemsOf_append]
  exact (linked.carries slot).send _ (feeding.imp_left fun none => by rw [none, itemsOf_nil])

theorem lose {remaining : List (ι × α)} {later : Prop} (left : remaining <+: transit) (stopped : ¬ later) :
    Linked owner demux sent remaining later :=
  ⟨linked.owned, fun slot => (linked.carries slot).lose (itemsOf_isPrefix _ left) stopped⟩

end

theorem fresh (unused : ∀ slot, demux.Unused slot) : Linked owner demux sent transit flowing := by
  refine ⟨fun id slot found => absurd found ((unused slot).table id), ?_⟩
  intro slot
  rw [(unused slot).delivered, (unused slot).taken]
  exact (Carries.fresh _ _ _).weaken ((unused slot).table _) id

section
variable (linked : Linked owner demux sent transit flowing)
include linked

theorem relink {owner' : σ → ι} (same : ∀ slot, owner' slot = owner slot ∨ demux.Unused slot) :
    Linked owner' demux sent transit flowing := by
  refine ⟨fun id slot found => ?_, fun slot => ?_⟩
  · rcases same slot with same | unused
    · exact same.trans (linked.owned id slot found)
    · exact absurd found (unused.table id)
  · rcases same slot with same | unused
    · exact same.symm ▸ linked.carries slot
    · rw [unused.delivered, unused.taken]
      exact (Carries.fresh _ _ _).weaken (unused.table _) id

theorem internal (step : Internal owner demux after) : Linked owner after sent transit flowing := by
  refine ⟨fun id slot found => linked.owned id slot (step.shrinks found), ?_⟩
  intro slot
  have carries := linked.carries slot
  cases step with
  | detach shrinks hand delivered =>
    have taken : after.taken slot = demux.taken slot := by rw [taken, taken, hand]
    rw [taken, delivered]
    exact carries.weaken (shrinks _ _) id
  | deliver target item held table hand delivered =>
    have empty : after.taken slot = [] := by rw [taken, hand]
    rw [empty, delivered, table]
    by_cases same : target = slot
    · subst same
      have holding : demux.taken target = [item] := by simp [taken, held]
      rw [update_self]
      exact (holding ▸ carries).deliver
    · have holding : demux.taken slot = [] := by simp [taken, held, same]
      rw [update_of_ne (Ne.symm same)]
      exact holding ▸ carries
  | drop target item held shrinks off hand delivered =>
    have empty : after.taken slot = [] := by rw [taken, hand]
    rw [empty, delivered]
    by_cases same : target = slot
    · subst same
      exact carries.drop (by simp [off])
    · have holding : demux.taken slot = [] := by simp [taken, held, same]
      exact (holding ▸ carries).weaken (shrinks _ _) id

theorem attach {slot : σ} (unused : demux.Unused slot) (silent : itemsOf (owner slot) sent = [])
    (empty : itemsOf (owner slot) transit = []) :
    Linked owner (demux.attach (owner slot) slot) sent transit flowing := by
  refine ⟨fun id other found => ?_, fun other => ?_⟩
  · by_cases same : id = owner slot
    · subst same
      simp only [Demux.attach, update_self, Option.some.injEq] at found
      rw [found]
    · simp only [Demux.attach, update_of_ne same] at found
      exact linked.owned id other found
  · have taken : (demux.attach (owner slot) slot).taken other = demux.taken other := rfl
    have delivered : (demux.attach (owner slot) slot).delivered other = demux.delivered other := rfl
    rw [taken, delivered]
    by_cases same : other = slot
    · subst same
      rw [unused.delivered, unused.taken, silent, empty]
      exact .attach _ _
    · refine (linked.carries other).weaken (fun found => ?_) id
      by_cases shared : owner other = owner slot
      · simp only [Demux.attach, shared, update_self, Option.some.injEq] at found
        exact absurd found.symm same
      · simpa only [Demux.attach, update_of_ne shared] using found

end

theorem receive {id : ι} {item : α} (linked : Linked owner demux sent ((id, item) :: transit) flowing)
    (free : demux.hand = none) : Linked owner (demux.receive id item) sent transit flowing := by
  have idle (slot : σ) : demux.taken slot = [] := by rw [taken, free]
  have carries (slot : σ) := idle slot ▸ linked.carries slot
  unfold Demux.receive
  cases found : demux.table id with
  | none =>
    refine ⟨linked.owned, ?_⟩
    intro slot
    rw [idle]
    by_cases same : id = owner slot
    · subst same
      exact (itemsOf_cons_self (owner slot) item transit ▸ carries slot).skip (by simp [found])
    · exact itemsOf_cons_of_ne same item transit ▸ carries slot
  | some target =>
    have owns := linked.owned id target found
    subst owns
    refine ⟨linked.owned, ?_⟩
    intro slot
    by_cases same : target = slot
    · subst same
      have holding : taken { demux with hand := some (target, item) } target = [item] := by simp [taken]
      rw [holding]
      exact (itemsOf_cons_self (owner target) item transit ▸ carries target).take found
    · have holding : taken { demux with hand := some (target, item) } slot = [] := by simp [taken, same]
      rw [holding]
      by_cases shared : owner target = owner slot
      · rw [shared] at found carries
        refine (itemsOf_cons_self (owner slot) item transit ▸ carries slot).skip ?_
        simp [found, same]
      · exact itemsOf_cons_of_ne shared item transit ▸ carries slot

theorem step {registers : σ → Prop} {consumed : List (ι × α)}
    (linked : Linked owner demux sent (consumed ++ transit) flowing) (step : Step owner registers demux consumed after)
    (silent : ∀ slot, registers slot →
      itemsOf (owner slot) sent = [] ∧ itemsOf (owner slot) (consumed ++ transit) = []) :
    Linked owner after sent transit flowing := by
  cases step with
  | internal step => exact linked.internal step
  | attach slot registering unused =>
    obtain ⟨unsent, empty⟩ := silent slot registering
    exact linked.attach unused unsent empty
  | receive id item free => exact linked.receive free

end Linked
end Demux
end SshProxy.Library
