import SshProxy.Library.Machine
import SshProxy.Library.Wire

/-! Two parties that talk over a link. Each is a program of writes and of reads that wait for
their bytes; the link delivers in order, and a party that ended with an error has closed it. The
steps of the two commute, so all schedules end in the same state, which one schedule shows. -/

namespace SshProxy.Library

namespace Machine
universe u v
variable {σ : Type u} {α : Type v} {machine : Machine σ α}

inductive Leads (machine : Machine σ α) : Nat → σ → σ → Prop where
  | refl (state : σ) : Leads machine 0 state state
  | step {length : Nat} {state final : σ} {action : α} (enabled : machine.enabled state action)
      (rest : Leads machine length (machine.next state action) final) : Leads machine (length + 1) state final

theorem Leads.trans {first second : Nat} {start middle final : σ} (before : machine.Leads first start middle)
    (after : machine.Leads second middle final) : machine.Leads (first + second) start final := by
  induction before with
  | refl => rwa [Nat.zero_add]
  | @step length _ _ _ enabled _ ih =>
    rw [Nat.add_right_comm]
    exact .step enabled (ih after)

variable {state final : σ}

theorem Path.leads {length more : Nat} (path : machine.Path (fun _ _ => True) length state)
    (leads : machine.Leads more state final) : machine.Path (fun _ _ => True) (length + more) final := by
  induction leads generalizing length with
  | refl => exact path
  | step enabled _ ih =>
    rw [← Nat.add_assoc, Nat.add_right_comm]
    exact ih (path.step enabled trivial)

/-- Different actions that are both enabled can be taken in either order, to the same state. -/
def Commuting (machine : Machine σ α) : Prop :=
  ∀ state first second, first ≠ second → machine.enabled state first → machine.enabled state second →
    machine.enabled (machine.next state first) second ∧
      machine.next (machine.next state first) second = machine.next (machine.next state second) first

def Final (machine : Machine σ α) (state : σ) : Prop := ∀ action, ¬ machine.enabled state action

theorem Commuting.advance (commuting : machine.Commuting) {length : Nat} {action : α}
    (leads : machine.Leads length state final) (ended : machine.Final final) (enabled : machine.enabled state action) :
    ∃ rest, rest + 1 = length ∧ machine.Leads rest (machine.next state action) final := by
  induction leads with
  | refl state => exact (ended action enabled).elim
  | @step length state final other first later ih =>
    by_cases same : other = action
    · subst same
      exact ⟨length, rfl, later⟩
    · obtain ⟨still, diamond⟩ := commuting state other action same first enabled
      obtain ⟨rest, shorter, leads⟩ := ih ended still
      refine ⟨rest + 1, congrArg (· + 1) shorter, .step (commuting state action other (Ne.symm same) enabled first).1 ?_⟩
      rwa [← diamond]

theorem Commuting.path (commuting : machine.Commuting) {bound length : Nat}
    (leads : machine.Leads bound machine.initial final) (ended : machine.Final final)
    (path : machine.Path (fun _ _ => True) length state) :
    ∃ rest, length + rest = bound ∧ machine.Leads rest state final := by
  induction path with
  | initial => exact ⟨bound, Nat.zero_add _, leads⟩
  | @step length _ _ _ enabled _ ih =>
    obtain ⟨rest, total, onward⟩ := ih
    obtain ⟨less, shorter, leads⟩ := commuting.advance onward ended enabled
    exact ⟨less, by omega, leads⟩

theorem Commuting.ends (commuting : machine.Commuting) {bound length : Nat}
    (leads : machine.Leads bound machine.initial final) (ended : machine.Final final)
    (path : machine.Path (fun _ _ => True) length state) : length ≤ bound ∧ (machine.Final state → state = final) := by
  obtain ⟨rest, total, onward⟩ := commuting.path leads ended path
  refine ⟨by omega, fun stopped => ?_⟩
  cases onward with
  | refl => rfl
  | step enabled => exact (stopped _ enabled).elim

end Machine

/-- What one party does. A read asks for so many bytes, and has an error for a link that is closed
before they are there. -/
inductive Dialogue (ε α : Type) where
  | done (result : Except ε α)
  | write (bytes : List UInt8) (next : Dialogue ε α)
  | read (count : Nat) (short : ε) (next : List UInt8 → Dialogue ε α)

namespace Dialogue
variable {ε α β : Type}

def bind (dialogue : Dialogue ε α) (next : α → Dialogue ε β) : Dialogue ε β :=
  match dialogue with
  | .done (.ok value) => next value
  | .done (.error error) => .done (.error error)
  | .write bytes rest => .write bytes (rest.bind next)
  | .read count short rest => .read count short fun bytes => (rest bytes).bind next

instance : Monad (Dialogue ε) where
  pure value := .done (.ok value)
  bind := bind

def send (bytes : List UInt8) : Dialogue ε Unit := .write bytes (.done (.ok ()))

def exactly (short : ε) (count : Nat) : Dialogue ε (List UInt8) := .read count short fun bytes => .done (.ok bytes)

def number (short : ε) (width : Nat) : Dialogue ε Nat := do
  return ofBigEndian (← exactly short width)

def require (condition : Prop) [Decidable condition] (error : ε) : Dialogue ε Unit :=
  .done (if condition then .ok () else .error error)

def lift (result : Except ε α) : Dialogue ε α := .done result

theorem require_bind {condition : Prop} [Decidable condition] (holds : condition) (error : ε)
    (next : Unit → Dialogue ε α) : require condition error >>= next = next () := by
  unfold require
  rw [if_pos holds]
  rfl

theorem require_bind_of_not {condition : Prop} [Decidable condition] (fails : ¬ condition) (error : ε)
    (next : Unit → Dialogue ε α) : require condition error >>= next = .done (.error error) := by
  unfold require
  rw [if_neg fails]
  rfl

/-- The party alone with a whole input, as a reader; what it writes is left out. -/
def reads : Dialogue ε α → Reader ε α
  | .done result => Reader.lift result
  | .write _ next => next.reads
  | .read count short next => Reader.exactly short count >>= fun bytes => (next bytes).reads

def failed : Dialogue ε α → Bool
  | .done (.error _) => true
  | _ => false

/-- One step of a party: what it goes on with, what is left of the bytes that have come in, and
what it writes. -/
def advance (incoming : List UInt8) (closed : Bool) : Dialogue ε α → Option (Dialogue ε α × List UInt8 × List UInt8)
  | .done _ => none
  | .write bytes next => some (next, incoming, bytes)
  | .read count short next =>
    if count ≤ incoming.length then some (next (incoming.take count), incoming.drop count, [])
    else if closed then some (.done (.error short), [], [])
    else none

variable {dialogue after : Dialogue ε α} {incoming left written : List UInt8} {closed : Bool}

theorem failed_of_advance (advanced : dialogue.advance incoming closed = some (after, left, written)) :
    dialogue.failed = false := by
  cases dialogue with
  | done result => cases advanced
  | write | read => rfl

theorem advance_append (advanced : dialogue.advance incoming false = some (after, left, written)) (more : List UInt8)
    (closed : Bool) : dialogue.advance (incoming ++ more) closed = some (after, left ++ more, written) := by
  cases dialogue with
  | done result => cases advanced
  | write bytes next =>
    cases advanced
    rfl
  | read count short next =>
    simp only [advance] at advanced ⊢
    split at advanced
    next enough =>
      cases advanced
      rw [if_pos (by rw [List.length_append]; omega), List.take_append_of_le_length enough,
        List.drop_append_of_le_length enough]
    next => cases advanced

theorem advance_bind (advanced : dialogue.advance incoming closed = some (after, left, written))
    (next : α → Dialogue ε β) : (dialogue >>= next).advance incoming closed = some (after >>= next, left, written) := by
  cases dialogue with
  | done result => cases advanced
  | write bytes rest =>
    cases advanced
    rfl
  | read count short rest =>
    change (Dialogue.read count short fun bytes => (rest bytes) >>= next).advance incoming closed = _
    simp only [advance] at advanced ⊢
    split at advanced
    next enough =>
      cases advanced
      exact if_pos enough
    next few =>
      rw [if_neg few]
      split at advanced
      next isClosed =>
        cases advanced
        exact if_pos isClosed
      next => cases advanced

/-- Steps of one party with the bytes that are there. -/
inductive Runs (closed : Bool) : Dialogue ε α → List UInt8 → Dialogue ε α → List UInt8 → List UInt8 → Prop where
  | refl (dialogue : Dialogue ε α) (incoming : List UInt8) : Runs closed dialogue incoming dialogue incoming []
  | step {dialogue middle after : Dialogue ε α} {incoming kept left first rest : List UInt8}
      (advanced : dialogue.advance incoming closed = some (middle, kept, first))
      (later : Runs closed middle kept after left rest) : Runs closed dialogue incoming after left (first ++ rest)

namespace Runs
variable {closed : Bool} {incoming kept left first second : List UInt8}

theorem trans {dialogue middle after : Dialogue ε α} (before : Runs closed dialogue incoming middle kept first)
    (later : Runs closed middle kept after left second) : Runs closed dialogue incoming after left (first ++ second) := by
  induction before with
  | refl => exact later
  | step advanced _ ih =>
    rw [List.append_assoc]
    exact .step advanced (ih later)

theorem bind (runs : Runs closed dialogue incoming after left first) (next : α → Dialogue ε β) :
    Runs closed (dialogue >>= next) incoming (after >>= next) left first := by
  induction runs with
  | refl => exact .refl _ _
  | step advanced _ ih => exact .step (advance_bind advanced next) ih

theorem andThen {dialogue : Dialogue ε α} {value : α} {next : α → Dialogue ε β} {after : Dialogue ε β}
    (runs : Runs closed dialogue incoming (.done (.ok value)) kept first)
    (later : Runs closed (next value) kept after left second) :
    Runs closed (dialogue >>= next) incoming after left (first ++ second) :=
  (runs.bind next).trans later

theorem fails {dialogue : Dialogue ε α} {error : ε} (runs : Runs closed dialogue incoming (.done (.error error)) left first)
    (next : α → Dialogue ε β) : Runs closed (dialogue >>= next) incoming (.done (.error error)) left first :=
  runs.bind next

theorem send (bytes incoming : List UInt8) :
    Runs closed (Dialogue.send bytes : Dialogue ε Unit) incoming (.done (.ok ())) incoming bytes := by
  have step : Runs closed (Dialogue.send bytes : Dialogue ε Unit) incoming (.done (.ok ())) incoming (bytes ++ []) :=
    .step rfl (.refl _ _)
  rwa [List.append_nil] at step

theorem exactly (short : ε) (bytes left : List UInt8) :
    Runs closed (Dialogue.exactly short bytes.length) (bytes ++ left) (.done (.ok bytes)) left [] := by
  have enough : bytes.length ≤ (bytes ++ left).length := by
    rw [List.length_append]
    exact Nat.le_add_right _ _
  have advanced : (Dialogue.exactly short bytes.length).advance (bytes ++ left) closed =
      some (.done (.ok bytes), left, []) := by
    simp only [Dialogue.exactly, advance, if_pos enough, List.take_left, List.drop_left]
  exact .step advanced (.refl _ _)

theorem nothing (short : ε) {count : Nat} (wants : 0 < count) :
    Runs true (Dialogue.exactly short count) [] (.done (.error short)) [] [] := by
  have few : ¬ count ≤ ([] : List UInt8).length := Nat.not_le.mpr wants
  have advanced : (Dialogue.exactly short count).advance [] true = some (.done (.error short), [], []) := by
    simp only [Dialogue.exactly, advance, if_neg few, if_true]
  exact .step advanced (.refl _ _)

theorem number (short : ε) {width value : Nat} (small : value < 256 ^ width) (left : List UInt8) :
    Runs closed (Dialogue.number short width) (bigEndian width value ++ left) (.done (.ok value)) left [] := by
  have bytes : Runs closed _ _ _ left [] := exactly short (bigEndian width value) left
  rw [length_bigEndian] at bytes
  have read := bytes.bind fun bytes => (.done (.ok (ofBigEndian bytes)) : Dialogue ε Nat)
  change Runs closed _ _ (.done (.ok (ofBigEndian (bigEndian width value)))) left [] at read
  rwa [ofBigEndian_bigEndian small] at read

end Runs

theorem reads_bind (dialogue : Dialogue ε α) (next : α → Dialogue ε β) :
    (dialogue >>= next).reads = dialogue.reads >>= fun value => (next value).reads := by
  induction dialogue with
  | done result =>
    cases result with
    | ok value | error error => rfl
  | write bytes rest ih => exact ih
  | read count short rest ih =>
    change Reader.exactly short count >>= (fun bytes => (rest bytes >>= next).reads) = _
    simp only [ih]
    exact (bind_assoc ..).symm

theorem reads_exactly (short : ε) (count : Nat) : (exactly short count).reads = Reader.exactly short count :=
  bind_pure _

theorem reads_number (short : ε) (width : Nat) : (number short width).reads = Reader.number short width := by
  unfold number Reader.number
  rw [reads_bind, reads_exactly]
  rfl

theorem reads_send (bytes : List UInt8) : (send bytes : Dialogue ε Unit).reads = pure () := rfl

theorem reads_pure (value : α) : (pure value : Dialogue ε α).reads = pure value := rfl

theorem reads_require (condition : Prop) [Decidable condition] (error : ε) :
    (require condition error).reads = Reader.require condition error := by
  unfold require Reader.require
  split <;> rfl

end Dialogue

inductive Side where
  | client
  | server
  deriving DecidableEq

structure Link (ε α β : Type) where
  client : Dialogue ε α
  server : Dialogue ε β
  toServer : List UInt8 := []
  toClient : List UInt8 := []

namespace Link
variable {ε α β : Type}

def after (link : Link ε α β) : Side → Option (Link ε α β)
  | .client => (link.client.advance link.toClient link.server.failed).map fun (client, toClient, written) =>
    { link with client, toClient, toServer := link.toServer ++ written }
  | .server => (link.server.advance link.toServer link.client.failed).map fun (server, toServer, written) =>
    { link with server, toServer, toClient := link.toClient ++ written }

def machine (client : Dialogue ε α) (server : Dialogue ε β) : Machine (Link ε α β) Side where
  initial := { client, server }
  enabled link side := (link.after side).isSome
  next link side := (link.after side).getD link

variable {client : Dialogue ε α} {server : Dialogue ε β}

theorem after_client {link : Link ε α β} {next : Link ε α β} : link.after .client = some next ↔
    ∃ client toClient written, link.client.advance link.toClient link.server.failed = some (client, toClient, written) ∧
      { link with client, toClient, toServer := link.toServer ++ written } = next := by
  simp only [after, Option.map_eq_some_iff, Prod.exists]

theorem after_server {link : Link ε α β} {next : Link ε α β} : link.after .server = some next ↔
    ∃ server toServer written, link.server.advance link.toServer link.client.failed = some (server, toServer, written) ∧
      { link with server, toServer, toClient := link.toClient ++ written } = next := by
  simp only [after, Option.map_eq_some_iff, Prod.exists]

theorem after_both {link clientFirst serverFirst : Link ε α β} (byClient : link.after .client = some clientFirst)
    (byServer : link.after .server = some serverFirst) :
    ∃ both, clientFirst.after .server = some both ∧ serverFirst.after .client = some both := by
  obtain ⟨client, toClient, toServer', clientStep, rfl⟩ := after_client.mp byClient
  obtain ⟨server, toServer, toClient', serverStep, rfl⟩ := after_server.mp byServer
  rw [Dialogue.failed_of_advance serverStep] at clientStep
  rw [Dialogue.failed_of_advance clientStep] at serverStep
  refine ⟨{ client, server, toServer := toServer ++ toServer', toClient := toClient ++ toClient' }, ?_, ?_⟩
  · exact after_server.mpr ⟨_, _, _, Dialogue.advance_append serverStep toServer' _, rfl⟩
  · exact after_client.mpr ⟨_, _, _, Dialogue.advance_append clientStep toClient' _, rfl⟩

theorem next_eq {link next : Link ε α β} {side : Side} (stepped : link.after side = some next) :
    (machine client server).next link side = next := by
  change (link.after side).getD link = next
  rw [stepped]
  rfl

theorem commuting (client : Dialogue ε α) (server : Dialogue ε β) : (machine client server).Commuting := by
  have diamond (link : Link ε α β) (byClient : (machine client server).enabled link .client)
      (byServer : (machine client server).enabled link .server) :
      ∃ both, ((machine client server).next link .client).after .server = some both ∧
        ((machine client server).next link .server).after .client = some both := by
    obtain ⟨clientFirst, byClient⟩ := Option.isSome_iff_exists.mp byClient
    obtain ⟨serverFirst, byServer⟩ := Option.isSome_iff_exists.mp byServer
    obtain ⟨both, first, second⟩ := after_both byClient byServer
    exact ⟨both, by rwa [next_eq byClient], by rwa [next_eq byServer]⟩
  intro link first second apart firstEnabled secondEnabled
  cases first with
  | client =>
    cases second with
    | client => exact (apart rfl).elim
    | server =>
      obtain ⟨both, onServer, onClient⟩ := diamond link firstEnabled secondEnabled
      exact ⟨Option.isSome_iff_exists.mpr ⟨both, onServer⟩, (next_eq onServer).trans (next_eq onClient).symm⟩
  | server =>
    cases second with
    | client =>
      obtain ⟨both, onServer, onClient⟩ := diamond link secondEnabled firstEnabled
      exact ⟨Option.isSome_iff_exists.mpr ⟨both, onClient⟩, (next_eq onClient).trans (next_eq onServer).symm⟩
    | server => exact (apart rfl).elim

theorem leads_client (other : Dialogue ε β) {talking after : Dialogue ε α} {toClient left written : List UInt8}
    (runs : Dialogue.Runs closed talking toClient after left written) (isClosed : other.failed = closed)
    (toServer : List UInt8) : ∃ length, (machine client server).Leads length ⟨talking, other, toServer, toClient⟩
      ⟨after, other, toServer ++ written, left⟩ := by
  induction runs generalizing toServer with
  | refl talking toClient =>
    rw [List.append_nil]
    exact ⟨0, .refl _⟩
  | @step talking middle after toClient kept left first rest advanced _ ih =>
    have stepped : Link.after ⟨talking, other, toServer, toClient⟩ .client =
        some ⟨middle, other, toServer ++ first, kept⟩ :=
      after_client.mpr ⟨_, _, _, by rw [isClosed]; exact advanced, rfl⟩
    obtain ⟨length, leads⟩ := ih (toServer ++ first)
    rw [← List.append_assoc]
    refine ⟨length + 1, .step (Option.isSome_iff_exists.mpr ⟨_, stepped⟩) ?_⟩
    rwa [next_eq stepped]

theorem leads_server (other : Dialogue ε α) {talking after : Dialogue ε β} {toServer left written : List UInt8}
    (runs : Dialogue.Runs closed talking toServer after left written) (isClosed : other.failed = closed)
    (toClient : List UInt8) : ∃ length, (machine client server).Leads length ⟨other, talking, toServer, toClient⟩
      ⟨other, after, left, toClient ++ written⟩ := by
  induction runs generalizing toClient with
  | refl talking toServer =>
    rw [List.append_nil]
    exact ⟨0, .refl _⟩
  | @step talking middle after toServer kept left first rest advanced _ ih =>
    have stepped : Link.after ⟨other, talking, toServer, toClient⟩ .server =
        some ⟨other, middle, kept, toClient ++ first⟩ :=
      after_server.mpr ⟨_, _, _, by rw [isClosed]; exact advanced, rfl⟩
    obtain ⟨length, leads⟩ := ih (toClient ++ first)
    rw [← List.append_assoc]
    refine ⟨length + 1, .step (Option.isSome_iff_exists.mpr ⟨_, stepped⟩) ?_⟩
    rwa [next_eq stepped]

theorem final_of_done {clientResult : Except ε α} {serverResult : Except ε β} {toServer toClient : List UInt8} :
    (machine client server).Final ⟨.done clientResult, .done serverResult, toServer, toClient⟩ := by
  intro side enabled
  cases side <;> cases enabled

end Link
end SshProxy.Library
