import Mathlib.Data.List.Basic

/-! Transports that move their items in pieces. How much one call moves is up to the
transport, so both ends carry a schedule of piece sizes, and the rules here say what a
loop over such calls has moved whatever the schedule was. -/

namespace SshProxy.Library
open List
variable {ε α : Type}

/-- The receiving end: what is still to come, and by one less the most a call finds of it. -/
structure Source (α : Type) where
  input : List α
  pieces : Nat → Nat

/-- A call with room for `limit` items comes back with none only at the end of the transport. -/
def Source.read (source : Source α) (limit : Nat) : List α × Source α :=
  let count := min limit (source.pieces 0 + 1)
  (source.input.take count, { input := source.input.drop count, pieces := fun call => source.pieces (call + 1) })

theorem Source.read_cases {source rest : Source α} {limit : Nat} {found : List α}
    (call : source.read limit = (found, rest)) :
    source.input = found ++ rest.input ∧ found.length ≤ limit ∧ (0 < limit → found = [] → source.input = []) := by
  cases call
  refine ⟨(take_append_drop ..).symm, ?_, ?_⟩
  · simp only [length_take]
    omega
  · intro room nothing
    have short := congrArg length nothing
    simp only [length_take, length_nil] at short
    exact length_eq_zero_iff.mp (by omega)

/-- Call after call until `count` items are there or the transport ends. -/
def Source.fill (source : Source α) (count : Nat) : List α × Source α :=
  if 0 < count then
    let (found, rest) := source.read count
    if _some : 0 < found.length then
      let (more, rest) := rest.fill (count - found.length)
      (found ++ more, rest)
    else ([], rest)
  else ([], source)
termination_by count

theorem Source.fill_eq (source : Source α) (count : Nat) :
    (source.fill count).1 = source.input.take count ∧ (source.fill count).2.input = source.input.drop count := by
  fun_induction Source.fill source count with
  | case1 source count room found rest call nonempty more final filled ih =>
    obtain ⟨whole, bound, _⟩ := Source.read_cases call
    rw [filled] at ih
    obtain ⟨gathered, left⟩ := ih
    rw [whole, take_append, drop_append, take_of_length_le bound, drop_of_length_le bound]
    exact ⟨congrArg (found ++ ·) gathered, left⟩
  | case2 source count room found rest call empty =>
    obtain ⟨whole, _, atEnd⟩ := Source.read_cases call
    have nothing : found = [] := length_eq_zero_iff.mp (by omega)
    have ended := atEnd room nothing
    rw [nothing, ended] at whole
    rw [ended, take_nil, drop_nil]
    exact ⟨rfl, whole.symm⟩
  | case3 source count full =>
    have none : count = 0 := by omega
    rw [none]
    exact ⟨rfl, rfl⟩

/-- The sending end: what went out, and what the next calls are willing to take. -/
structure Sink (ε α : Type) where
  written : List α
  willing : Nat → Except ε Nat

/-- A call never takes more than it is offered. -/
def Sink.write (sink : Sink ε α) (offered : List α) : Except ε (Nat × Sink ε α) := do
  let count := min (← sink.willing 0) offered.length
  return (count, { written := sink.written ++ offered.take count, willing := fun call => sink.willing (call + 1) })

theorem Sink.write_eq_ok {sink next : Sink ε α} {offered : List α} {count : Nat}
    (taken : sink.write offered = .ok (count, next)) :
    count ≤ offered.length ∧ next.written = sink.written ++ offered.take count := by
  unfold write at taken
  cases willing : sink.willing 0 with
  | error error =>
    rw [willing] at taken
    cases taken
  | ok most =>
    rw [willing] at taken
    cases taken
    exact ⟨by omega, rfl⟩

/-- A transport that always takes what it is offered, up to `most`. -/
def Sink.eager (written : List α) (most : Nat) : Sink ε α := { written, willing := fun _ => .ok most }

def Sink.Steady (sink : Sink ε α) : Prop := ∀ call, ∃ most, 0 < most ∧ sink.willing call = .ok most

theorem Sink.eager_steady (written : List α) {most : Nat} (some : 0 < most) :
    (Sink.eager written most : Sink ε α).Steady := fun _ => ⟨most, some, rfl⟩

theorem Sink.Steady.write {sink : Sink ε α} (steady : sink.Steady) (offered : List α) :
    ∃ count next, sink.write offered = .ok (count, next) ∧ next.Steady ∧ (offered ≠ [] → 0 < count) := by
  obtain ⟨most, some, willing⟩ := steady 0
  refine ⟨min most offered.length,
    { written := sink.written ++ offered.take (min most offered.length), willing := fun call => sink.willing (call + 1) },
    ?_, fun call => steady (call + 1), ?_⟩
  · unfold Sink.write
    rw [willing]
    rfl
  · intro nonempty
    have length := length_pos_iff.mpr nonempty
    omega

end SshProxy.Library
