import SshProxy.Frame

/-! The loop that reads a transport, at either end, as a demultiplexer of stream data. An entry that the loop
is about to drop counts as gone, since nobody else delivers. -/

namespace SshProxy
open Function Library

namespace Reading

def held : Reading → Option (Nat × Bytes)
  | .tcp _ slot data => some (slot, data)
  | _ => none

theorem eq_tcp_of_held {reading : Reading} {slot : Nat} {data : Bytes} (held : reading.held = some (slot, data)) :
    ∃ id, reading = .tcp id slot data := by
  cases reading with
  | tcp id other item =>
    cases held
    exact ⟨id, rfl⟩
  | _ => cases held

def drops (key : UInt32) : Reading → Bool
  | .clearing id _ .dropTcp _ => key == id
  | _ => false

theorem held_clear (id : UInt32) (sender : Option Nat) (left : List Chore) : (clear id sender left).held = none := by
  cases left <;> rfl

theorem clear_ne_tcp {left : List Chore} {key id : UInt32} {sender : Option Nat} {slot : Nat} {data : Bytes} :
    clear key sender left ≠ .tcp id slot data := by
  cases left <;> nofun

end Reading

@[ext] structure ReaderLoop where
  streams : UInt32 → Option Nat
  reading : Reading
  delivered : Nat → List Bytes

namespace ReaderLoop

def demux (reader : ReaderLoop) : Demux UInt32 Nat Bytes where
  table id := if reader.reading.drops id then none else reader.streams id
  hand := reader.reading.held
  delivered := reader.delivered

variable {before after : ReaderLoop} {owner : Nat → UInt32} {registers : Nat → Prop}

theorem streams_of_table {id : UInt32} {slot : Nat} (found : before.demux.table id = some slot) :
    before.reading.drops id = false ∧ before.streams id = some slot := by
  simp only [demux] at found
  split at found
  next => cases found
  next kept => exact ⟨Bool.eq_false_iff.mpr kept, found⟩

theorem table_of_streams {id : UInt32} (kept : before.reading.drops id = false) :
    before.demux.table id = before.streams id := by
  simp only [demux, kept, Bool.false_eq_true, if_false]

/-- What one action of an end can do to its reader, and the frames it takes off the transport. -/
inductive Step (owner : Nat → UInt32) (registers : Nat → Prop) (before : ReaderLoop) : List Frame → ReaderLoop → Prop where
  | task {consumed : List Frame} {after : ReaderLoop} (silent : streamData consumed = [])
      (shrinks : ∀ id slot, after.streams id = some slot → before.streams id = some slot)
      (reading : after.reading = before.reading) (delivered : after.delivered = before.delivered) :
      Step owner registers before consumed after
  | insert (slot : Nat) (registering : registers slot) (unused : before.demux.Unused slot) :
      Step owner registers before [] { before with streams := update before.streams (owner slot) (some slot) }
  | data (id : UInt32) (data : Bytes) (idle : before.reading = .idle) :
      Step owner registers before [.data id data]
        { before with reading := (before.streams id).elim before.reading (.tcp id · data) }
  | pass {consumed : List Frame} (reading : Reading) (silent : streamData consumed = [])
      (free : before.reading.held = none) (keeps : ∀ id, before.reading.drops id = false) (none : reading.held = none) :
      Step owner registers before consumed { before with reading }
  | deliver (id : UInt32) (slot : Nat) (data : Bytes) (holding : before.reading = .tcp id slot data) :
      Step owner registers before []
        { before with
          reading := .idle
          delivered := update before.delivered slot (before.delivered slot ++ [data]) }
  | giveUp (id : UInt32) (slot : Nat) (data : Bytes) (left : List Chore) (holding : before.reading = .tcp id slot data)
      (own : owner slot = id) : Step owner registers before [] { before with reading := .clearing id none .dropTcp left }
  | clear (id : UInt32) (sender : Option Nat) (chore : Chore) (left : List Chore)
      (holding : before.reading = .clearing id sender chore left) :
      Step owner registers before []
        { before with
          reading := .clear id sender left
          streams := if chore = .dropTcp then update before.streams id none else before.streams }

theorem Step.of_idle {consumed : List Frame} {reading : Reading} (idle : before.reading = .idle)
    (silent : streamData consumed = []) (none : reading.held = none) :
    Step owner registers before consumed { before with reading } :=
  .pass reading silent (by rw [idle]; rfl) (fun _ => by rw [idle]; rfl) none

theorem Step.of_giveUp (own : ∀ id slot data, before.reading = .tcp id slot data → owner slot = id)
    (tcp udp : List Chore) :
    Step owner registers before [] { before with reading := before.reading.giveUp tcp udp } := by
  cases reading : before.reading with
  | tcp id slot data => exact .giveUp id slot data tcp reading (own id slot data reading)
  | udp => exact .pass _ rfl (by rw [reading]; rfl) (fun _ => by rw [reading]; rfl) rfl
  | _ => exact .task rfl (fun _ _ found => found) reading.symm rfl

/-- A stream that is inserted while the reader drops its id is dropped with the older one. -/
theorem insert_demux (slot : Nat) (id : UInt32) :
    demux { before with streams := update before.streams id (some slot) } =
      if before.reading.drops id then before.demux else before.demux.attach id slot := by
  split
  next dropped =>
    have same : (demux { before with streams := update before.streams id (some slot) }).table = before.demux.table := by
      funext key
      by_cases equal : key = id
      · simp only [demux, equal, dropped, if_true]
      · simp only [demux, update_of_ne equal]
    exact congrArg (fun table => { before.demux with table }) same
  next kept =>
    have same : (demux { before with streams := update before.streams id (some slot) }).table =
        update before.demux.table id (some slot) := by
      funext key
      by_cases equal : key = id
      · simp only [demux, equal, kept, update_self, Bool.false_eq_true, if_false]
      · simp only [demux, update_of_ne equal]
    exact congrArg (fun table => { before.demux with table }) same

theorem data_demux (idle : before.reading = .idle) (id : UInt32) (data : Bytes) :
    demux { before with reading := (before.streams id).elim before.reading (.tcp id · data) } =
      before.demux.receive id data := by
  have found : before.demux.table id = before.streams id := table_of_streams (by rw [idle]; rfl)
  rw [Demux.receive, found]
  cases before.streams id with
  | none => rfl
  | some slot => simp only [demux, idle]; rfl

theorem clear_shrinks {id : UInt32} {sender : Option Nat} {chore : Chore} {left : List Chore}
    (holding : before.reading = .clearing id sender chore left) {key : UInt32} {slot : Nat}
    (found : (demux { before with
      reading := .clear id sender left
      streams := if chore = .dropTcp then update before.streams id none else before.streams }).table key = some slot) :
    before.demux.table key = some slot := by
  have found := (streams_of_table found).2
  by_cases drops : chore = .dropTcp
  · simp only [drops, if_true] at found
    have other : key ≠ id := by
      rintro rfl
      simp at found
    rw [update_of_ne other] at found
    rwa [table_of_streams (by simp [holding, drops, Reading.drops, other])]
  · simp only [drops, if_false] at found
    rwa [table_of_streams (by rw [holding]; cases chore <;> first | rfl | exact absurd rfl drops)]

theorem Step.demux {consumed : List Frame} (step : Step owner registers before consumed after) :
    Demux.Step owner registers before.demux (streamData consumed) after.demux := by
  cases step with
  | task silent shrinks reading delivered =>
    rw [silent]
    refine .internal (.detach (fun id slot found => ?_) ?_ delivered)
    · obtain ⟨kept, found⟩ := streams_of_table found
      rw [table_of_streams (reading ▸ kept)]
      exact shrinks id slot found
    · simp only [ReaderLoop.demux, reading]
  | insert slot registering unused =>
    rw [insert_demux]
    split
    · exact .internal (.refl _ _)
    · exact .attach slot registering unused
  | data id data idle =>
    rw [data_demux idle]
    exact .receive id data (by simp only [ReaderLoop.demux, idle]; rfl)
  | pass reading silent free keeps none =>
    rw [silent]
    refine .internal (.detach (fun id slot found => ?_) (none.trans free.symm) rfl)
    rw [table_of_streams (keeps id)]
    exact (streams_of_table found).2
  | deliver id slot data holding =>
    refine .internal (.deliver slot data ?_ ?_ rfl rfl) <;> simp only [ReaderLoop.demux, holding] <;> rfl
  | giveUp id slot data left holding own =>
    refine .internal (.drop slot data ?_ (fun key other found => ?_) ?_ rfl rfl)
    · simp only [ReaderLoop.demux, holding]
      rfl
    · rw [table_of_streams (by rw [holding]; rfl)]
      exact (streams_of_table found).2
    · simp [ReaderLoop.demux, Reading.drops, own]
  | clear id sender chore left holding =>
    refine .internal (.detach (fun _ _ found => clear_shrinks holding found) ?_ rfl)
    simp only [ReaderLoop.demux, holding, Reading.held_clear]
    rfl

variable {registered registered' : Nat → Prop} {owner' : Nat → UInt32} {consumed : List Frame}

/-- Who is in the table, or has data on the way, has registered under that id; nobody else has got data. -/
structure Owned (owner : Nat → UInt32) (registered : Nat → Prop) (reader : ReaderLoop) : Prop where
  streams : ∀ id slot, reader.streams id = some slot → owner slot = id ∧ registered slot
  reading : ∀ id slot data, reader.reading = .tcp id slot data → owner slot = id ∧ registered slot
  undelivered : ∀ slot, ¬ registered slot → reader.delivered slot = []

theorem Owned.unused (owned : before.Owned owner registered) {slot : Nat} (early : ¬ registered slot) :
    before.demux.Unused slot where
  delivered := owned.undelivered slot early
  taken := Demux.taken_eq_nil fun data held => by
    obtain ⟨id, reading⟩ := Reading.eq_tcp_of_held held
    exact absurd (owned.reading id slot data reading).2 early
  table id found := absurd (owned.streams id slot (streams_of_table found).2).2 early

theorem Step.owned (step : Step owner registers before consumed after) (owned : before.Owned owner registered)
    (keeps : ∀ slot, registered slot ∨ registers slot → owner' slot = owner slot ∧ registered' slot) :
    after.Owned owner' registered' := by
  have move {id : UInt32} {slot : Nat} (held : owner slot = id ∧ registered slot) : owner' slot = id ∧ registered' slot :=
    (keeps slot (.inl held.2)).imp_left (·.trans held.1)
  have streams (id : UInt32) (slot : Nat) (found : before.streams id = some slot) := move (owned.streams id slot found)
  have undelivered (slot : Nat) (early : ¬ registered' slot) : before.delivered slot = [] :=
    owned.undelivered slot fun started => early (keeps slot (.inl started)).2
  cases step with
  | task silent shrinks reading delivered =>
    exact ⟨fun id slot found => streams id slot (shrinks id slot found),
      fun id slot data held => move (owned.reading id slot data (reading.symm.trans held)), delivered ▸ undelivered⟩
  | insert slot registering unused =>
    refine ⟨fun id other found => ?_, fun id other data held => move (owned.reading id other data held), undelivered⟩
    dsimp only at found
    by_cases same : id = owner slot
    · rw [same, update_self] at found
      cases found
      exact same ▸ keeps slot (.inr registering)
    · rw [update_of_ne same] at found
      exact streams id other found
  | data id data idle =>
    refine ⟨streams, fun key slot item holding => ?_, undelivered⟩
    cases found : before.streams id with
    | none =>
      rw [found, idle] at holding
      cases holding
    | some other =>
      rw [found] at holding
      cases holding
      exact streams id slot found
  | pass reading silent free keeps none =>
    refine ⟨streams, fun id slot data holding => ?_, undelivered⟩
    obtain rfl : reading = .tcp id slot data := holding
    cases none
  | deliver id slot data holding =>
    refine ⟨streams, nofun, fun other early => ?_⟩
    have apart : other ≠ slot := by
      rintro rfl
      exact early (move (owned.reading id other data holding)).2
    exact (update_of_ne apart _ _).trans (undelivered other early)
  | giveUp => exact ⟨streams, nofun, undelivered⟩
  | clear id sender chore left holding =>
    refine ⟨fun key slot found => ?_, fun _ _ _ held => absurd held Reading.clear_ne_tcp, undelivered⟩
    apply streams key slot
    dsimp only at found
    split at found
    next =>
      by_cases same : key = id
      · rw [same, update_self] at found
        cases found
      · rwa [update_of_ne same] at found
    next => exact found

theorem Step.linked (step : Step owner registers before consumed after) {sent : List (UInt32 × Bytes)} {queue : List Frame}
    {flowing : Prop} (arrived : consumed <+: queue)
    (linked : Demux.Linked owner before.demux sent (streamData queue) flowing)
    (relinks : ∀ slot, owner' slot = owner slot ∨ after.demux.Unused slot)
    (silent : ∀ slot, registers slot → itemsOf (owner slot) sent = [] ∧ itemsOf (owner slot) (streamData queue) = []) :
    Demux.Linked owner' after.demux sent (streamData (queue.drop consumed.length)) flowing := by
  rw [streamData_split arrived] at linked silent
  exact (linked.step step.demux silent).relink relinks

end ReaderLoop
end SshProxy
