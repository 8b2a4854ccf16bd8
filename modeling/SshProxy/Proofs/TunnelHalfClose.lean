import SshProxy.Tunnel

/-! Half-close on SPX tunnels. Each end closes the whole stream as soon as one of its two
copy tasks is done, so a client that has finished sending tears down the direction it
is still waiting on. A relay that lets its client-to-remote branch win only when the
reply is complete delivers every reply, as `relay_ssh_native_tcp` does. -/

namespace SshProxy
open Library List EndpointAction

def StreamFrame.payload? : StreamFrame → Option Bytes
  | .data payload => some payload
  | .close => none

def streamPayloads (frames : List StreamFrame) : List Bytes := frames.filterMap StreamFrame.payload?

variable (left right : List StreamFrame)

@[simp] theorem streamPayloads_nil : streamPayloads [] = [] := rfl

@[simp] theorem streamPayloads_data (payload : Bytes) (rest : List StreamFrame) :
    streamPayloads (.data payload :: rest) = payload :: streamPayloads rest := rfl

@[simp] theorem streamPayloads_close (rest : List StreamFrame) :
    streamPayloads (.close :: rest) = streamPayloads rest := rfl

@[simp] theorem streamPayloads_append :
    streamPayloads (left ++ right) = streamPayloads left ++ streamPayloads right :=
  filterMap_append

def afterClose : List StreamFrame → List Bytes
  | [] => []
  | .close :: rest => streamPayloads rest
  | .data _ :: rest => afterClose rest

variable {frames : List StreamFrame}

theorem afterClose_of_silent (silent : streamPayloads frames = []) : afterClose frames = [] := by
  induction frames with
  | nil => rfl
  | cons frame rest ih =>
    cases frame with
    | data payload => cases silent
    | close => exact silent

theorem afterClose_append (unclosed : .close ∉ frames) (frame : StreamFrame) : afterClose (frames ++ [frame]) = [] := by
  induction frames with
  | nil => cases frame <;> rfl
  | cons head rest ih =>
    cases head with
    | data payload => exact ih fun member => unclosed (mem_cons_of_mem _ member)
    | close => exact absurd (mem_cons_self ..) unclosed

variable (endpoint : Endpoint)

theorem Endpoint.read_effect (incoming : List StreamFrame) :
    ∃ entry hand, endpoint.next incoming .read = { endpoint with entry, hand } := by
  cases incoming with
  | nil => exact ⟨_, _, rfl⟩
  | cons frame rest =>
    cases frame with
    | data payload =>
      simp only [next, readFrame]
      split <;> exact ⟨_, _, rfl⟩
    | close => exact ⟨_, _, rfl⟩

def Endpoint.AtRest (endpoint : Endpoint) (incoming : List StreamFrame) : Prop :=
  endpoint.phase = .closed ∧ endpoint.copyOut.live = false ∧ endpoint.copyIn.live = false ∧ endpoint.hand = none ∧
    incoming = []

instance (endpoint : Endpoint) (incoming : List StreamFrame) : Decidable (endpoint.AtRest incoming) :=
  inferInstanceAs (Decidable (_ ∧ _ ∧ _ ∧ _ ∧ _))

variable {action : EndpointAction} {incoming : List StreamFrame}

theorem Endpoint.AtRest.not_enabled {endpoint : Endpoint}
    (rest : endpoint.AtRest incoming) : ¬ endpoint.enabled incoming action := by
  obtain ⟨phase, copyOut, copyIn, hand, silent⟩ := rest
  intro enabled
  cases action with
  | send | eof => cases copyOut.symm.trans enabled.1
  | recv | shutdown => cases copyIn.symm.trans enabled.1
  | cancelOut =>
    have aborting : endpoint.copyOut = .aborting := enabled
    simp [aborting, CopyTask.live] at copyOut
  | cancelIn =>
    have aborting : endpoint.copyIn = .aborting := enabled
    simp [aborting, CopyTask.live] at copyIn
  | selectOut | selectIn => cases phase.symm.trans enabled.1
  | close => cases phase.symm.trans enabled
  | read => exact enabled.2 silent
  | deliver | receiverGone => exact enabled.1 hand

namespace Tunnel
variable {tunnel : Tunnel} {reply : List Bytes}

def outstanding (tunnel : Tunnel) : List Bytes :=
  tunnel.controller.queue ++
    (tunnel.controller.hand.toList ++ (streamPayloads tunnel.toController ++ tunnel.helper.unread))

/-- The controller ends the relay for a finished client only when the reply is complete. -/
def Unhurried (tunnel : Tunnel) : TunnelAction → Prop
  | .controller .selectOut => tunnel.outstanding = []
  | _ => True

theorem outstanding_eq_nil : tunnel.outstanding = [] ↔ tunnel.controller.queue = [] ∧ tunnel.controller.hand = none ∧
    streamPayloads tunnel.toController = [] ∧ tunnel.helper.unread = [] := by
  simp [outstanding]

/-- A helper that has not left its `select!`, and will do so only at the end of the reply. -/
structure Active (helper : Endpoint) : Prop where
  phase : helper.phase = .relaying
  registered : helper.entry = true
  copyIn : helper.copyIn = .running
  copyOut : helper.copyOut = .running ∨ helper.copyOut = .finished ∧ helper.unread = []

/-- How far the helper is while the controller relays, given whether the controller has
the stream registered and what is on its way there. The helper ends the stream only at
the end of the reply, because nobody else closes it. -/
inductive HelperStage (helper : Endpoint) (entry : Bool) (frames : List StreamFrame) : Prop where
  | relaying (active : Active helper) (unclosed : .close ∉ frames) (attached : entry = true)
  | closing (phase : helper.phase = .closing) (done : helper.unread = []) (unclosed : .close ∉ frames)
      (attached : entry = true)
  | closed (phase : helper.phase = .closed) (done : helper.unread = []) (told : .close ∈ frames ∨ entry = false)

/-- The tunnel while the controller has not left its `select!`. -/
structure Relaying (tunnel : Tunnel) : Prop where
  phase : tunnel.controller.phase = .relaying
  unclosed : .close ∉ tunnel.toHelper
  copyIn : tunnel.controller.copyIn = .running ∨ tunnel.controller.copyIn = .finished ∧ tunnel.outstanding = []
  detached : tunnel.controller.entry = false → tunnel.controller.hand = none ∧ streamPayloads tunnel.toController = []
  ordered : afterClose tunnel.toController = []
  stage : HelperStage tunnel.helper tunnel.controller.entry tunnel.toController

structure Kept (reply : List Bytes) (tunnel : Tunnel) : Prop where
  intact : tunnel.controller.written ++ tunnel.outstanding = reply
  phase : tunnel.Relaying ∨ tunnel.controller.phase ≠ .relaying ∧ tunnel.outstanding = []

theorem HelperStage.done_of_close {helper : Endpoint} {entry : Bool} (stage : HelperStage helper entry frames)
    (closing : .close ∈ frames) : helper.phase = .closed ∧ helper.unread = [] := by
  cases stage with
  | relaying _ unclosed | closing _ _ unclosed => exact absurd closing unclosed
  | closed phase done => exact ⟨phase, done⟩

theorem HelperStage.keep {helper after : Endpoint} {entry : Bool} (stage : HelperStage helper entry frames)
    (phase : after.phase = helper.phase) (unread : after.unread = helper.unread) (active : Active helper → Active after) :
    HelperStage after entry frames := by
  cases stage with
  | relaying before unclosed attached => exact .relaying (active before) unclosed attached
  | closing closing done unclosed attached => exact .closing (phase.trans closing) (unread.trans done) unclosed attached
  | closed closed done told => exact .closed (phase.trans closed) (unread.trans done) told

theorem complete_next (complete : tunnel.outstanding = []) {action : TunnelAction} (enabled : tunnel.enabled action) :
    (tunnel.next action).outstanding = [] ∧ (tunnel.next action).controller.written = tunnel.controller.written := by
  obtain ⟨queue, hand, wire, unread⟩ := outstanding_eq_nil.mp complete
  rw [outstanding_eq_nil]
  cases action with
  | controller action =>
    cases action with
    | recv => exact absurd queue enabled.2
    | deliver | receiverGone => exact absurd hand enabled.1
    | read =>
      cases frames : tunnel.toController with
      | nil => exact absurd frames enabled.2
      | cons frame rest =>
        rw [frames] at wire
        cases frame with
        | data payload => cases wire
        | close => simp [next, Endpoint.next, Endpoint.readFrame, consumes, frames, queue, hand, unread,
            show streamPayloads rest = [] from wire]
    | _ => simp [next, Endpoint.next, consumes, queue, hand, wire, unread]
  | helper action =>
    cases action with
    | send => exact absurd unread enabled.2
    | read =>
      obtain ⟨entry, held, effect⟩ := tunnel.helper.read_effect tunnel.toHelper
      simp [next, effect, Endpoint.emits, queue, hand, wire, unread]
    | _ => simp [next, Endpoint.next, Endpoint.emits, queue, hand, wire, unread]

theorem phase_next (left : tunnel.controller.phase ≠ .relaying) {action : TunnelAction}
    (enabled : tunnel.enabled action) : (tunnel.next action).controller.phase ≠ .relaying := by
  cases action with
  | helper => exact left
  | controller action =>
    cases action with
    | selectOut | selectIn => exact absurd enabled.1 left
    | close => exact nofun
    | read =>
      obtain ⟨entry, hand, effect⟩ := tunnel.controller.read_effect tunnel.toController
      simpa [next, effect] using left
    | _ => exact left

section
variable (relaying : tunnel.Relaying)
include relaying

private theorem Relaying.live (live : tunnel.controller.copyIn.live = true) : tunnel.controller.copyIn = .running := by
  rcases relaying.copyIn with running | ⟨finished, _⟩
  · exact running
  · rw [finished] at live
    cases live

private theorem Relaying.controller_read (enabled : tunnel.enabled (.controller .read)) :
    (tunnel.next (.controller .read)).Relaying ∧
      (tunnel.next (.controller .read)).outstanding = tunnel.outstanding := by
  obtain ⟨phase, unclosed, copyIn, detached, ordered, stage⟩ := relaying
  obtain ⟨hand, arrived⟩ := enabled
  cases frames : tunnel.toController with
  | nil => exact absurd frames arrived
  | cons frame rest =>
    rw [frames] at detached ordered stage
    cases frame with
    | data payload =>
      have attached : tunnel.controller.entry = true := by
        by_contra off
        exact absurd (detached (Bool.eq_false_iff.mpr off)).2 (by simp)
      have after : tunnel.next (.controller .read) =
          { tunnel with controller := { tunnel.controller with hand := some payload }, toController := rest } := by
        simp [next, Endpoint.next, Endpoint.readFrame, Endpoint.emits, consumes, frames, attached]
      have same : (tunnel.next (.controller .read)).outstanding = tunnel.outstanding := by
        simp [after, outstanding, frames, hand]
      rw [after] at same ⊢
      refine ⟨⟨phase, unclosed, same.symm ▸ copyIn, ?_, ordered, ?_⟩, same⟩
      · intro off
        cases attached.symm.trans off
      cases stage with
      | relaying active unclosed attached =>
        exact .relaying active (fun member => unclosed (mem_cons_of_mem _ member)) attached
      | closing phase done unclosed attached =>
        exact .closing phase done (fun member => unclosed (mem_cons_of_mem _ member)) attached
      | closed phase done told =>
        exact .closed phase done (told.imp_left fun member => by simpa using member)
    | close =>
      obtain ⟨closed, done⟩ := stage.done_of_close (mem_cons_self ..)
      have after : tunnel.next (.controller .read) =
          { tunnel with controller := { tunnel.controller with entry := false }, toController := rest } := by
        simp [next, Endpoint.next, Endpoint.readFrame, Endpoint.emits, consumes, frames]
      have same : (tunnel.next (.controller .read)).outstanding = tunnel.outstanding := by
        simp [after, outstanding, frames]
      rw [after] at same ⊢
      exact ⟨⟨phase, unclosed, same.symm ▸ copyIn, fun _ => ⟨hand, ordered⟩, afterClose_of_silent ordered,
        .closed closed done (.inr rfl)⟩, same⟩

private theorem Relaying.controller_next (enabled : tunnel.enabled (.controller action))
    (unhurried : tunnel.Unhurried (.controller action))
    (intact : tunnel.controller.written ++ tunnel.outstanding = reply) :
    Kept reply (tunnel.next (.controller action)) := by
  have ⟨phase, unclosed, copyIn, detached, ordered, stage⟩ := relaying
  have silent (quiet : tunnel.controller.emits action = []) : .close ∉ (tunnel.next (.controller action)).toHelper := by
    simpa [next, quiet] using unclosed
  cases action with
  | send =>
    refine ⟨intact, .inl ⟨phase, ?_, copyIn, detached, ordered, stage⟩⟩
    intro member
    rcases mem_append.mp member with before | emitted
    · exact unclosed before
    · obtain ⟨payload, _, impossible⟩ := mem_map.mp emitted
      cases impossible
  | recv =>
    obtain ⟨live, filled⟩ := enabled
    cases queued : tunnel.controller.queue with
    | nil => exact absurd queued filled
    | cons payload rest =>
      refine ⟨?_, .inl ⟨phase, silent rfl, .inl (relaying.live live), detached, ordered, stage⟩⟩
      simpa [next, Endpoint.next, outstanding, queued, consumes] using intact
  | shutdown =>
    obtain ⟨live, off, hand, queue⟩ := enabled
    have done : tunnel.helper.unread = [] := by
      cases stage with
      | relaying _ _ attached => cases attached.symm.trans off
      | closing _ done | closed _ done => exact done
    have complete : tunnel.outstanding = [] := outstanding_eq_nil.mpr ⟨queue, hand, (detached off).2, done⟩
    exact ⟨intact, .inl ⟨phase, silent rfl, .inr ⟨rfl, complete⟩, detached, ordered, stage⟩⟩
  | eof | cancelOut => exact ⟨intact, .inl ⟨phase, silent rfl, copyIn, detached, ordered, stage⟩⟩
  | cancelIn =>
    have aborting : tunnel.controller.copyIn = .aborting := enabled
    rcases copyIn with running | ⟨finished, _⟩
    · cases running.symm.trans aborting
    · cases finished.symm.trans aborting
  | selectOut => exact ⟨intact, .inr ⟨nofun, unhurried⟩⟩
  | selectIn =>
    obtain ⟨_, finished⟩ := enabled
    rcases copyIn with running | ⟨_, complete⟩
    · cases running.symm.trans finished
    · exact ⟨intact, .inr ⟨nofun, complete⟩⟩
  | close => cases phase.symm.trans enabled
  | read =>
    obtain ⟨after, same⟩ := relaying.controller_read enabled
    obtain ⟨entry, hand, effect⟩ := tunnel.controller.read_effect tunnel.toController
    refine ⟨?_, .inl after⟩
    rw [same]
    simpa [next, effect] using intact
  | deliver =>
    obtain ⟨held, live, _⟩ := enabled
    have same : (tunnel.next (.controller .deliver)).outstanding = tunnel.outstanding := by
      simp [next, Endpoint.next, outstanding, consumes]
    refine ⟨same ▸ intact, .inl ⟨phase, silent rfl,
      .inl (relaying.live live), fun off => absurd (detached off).1 held, ordered, stage⟩⟩
  | receiverGone =>
    obtain ⟨held, dead⟩ := enabled
    rcases copyIn with running | ⟨_, complete⟩
    · rw [running] at dead
      cases dead
    · exact absurd (outstanding_eq_nil.mp complete).2.1 held

private theorem Relaying.helper_read (enabled : tunnel.enabled (.helper .read)) :
    ∃ hand, tunnel.helper.next tunnel.toHelper .read = { tunnel.helper with hand } := by
  cases frames : tunnel.toHelper with
  | nil => exact absurd frames enabled.2
  | cons frame rest =>
    cases frame with
    | data payload =>
      simp only [Endpoint.next, Endpoint.readFrame]
      split <;> exact ⟨_, rfl⟩
    | close => exact absurd (frames ▸ mem_cons_self ..) relaying.unclosed

private theorem Relaying.helper_stage (unread : (tunnel.next (.helper action)).helper.unread = tunnel.helper.unread)
    (silent : tunnel.helper.emits action = [])
    (stage : HelperStage (tunnel.next (.helper action)).helper tunnel.controller.entry tunnel.toController)
    (intact : tunnel.controller.written ++ tunnel.outstanding = reply) : Kept reply (tunnel.next (.helper action)) := by
  have wire : (tunnel.next (.helper action)).toController = tunnel.toController := by simp [next, silent]
  have same : (tunnel.next (.helper action)).outstanding = tunnel.outstanding := by
    rw [outstanding, wire, unread]
    rfl
  refine ⟨same ▸ intact, .inl ⟨relaying.phase, ?_, ?_, ?_, ?_, ?_⟩⟩
  · intro member
    exact relaying.unclosed (mem_of_mem_drop member)
  · rw [same]
    exact relaying.copyIn
  · rw [wire]
    exact relaying.detached
  · rw [wire]
    exact relaying.ordered
  · rw [wire]
    exact stage

private theorem Relaying.helper_next (enabled : tunnel.enabled (.helper action))
    (intact : tunnel.controller.written ++ tunnel.outstanding = reply) : Kept reply (tunnel.next (.helper action)) := by
  have ⟨phase, unclosed, copyIn, detached, ordered, stage⟩ := relaying
  cases action with
  | send =>
    cases pieces : tunnel.helper.unread with
    | nil => exact absurd pieces enabled.2
    | cons piece rest =>
      cases stage with
      | closing _ done | closed _ done => exact absurd done enabled.2
      | relaying active silent attached =>
        have same : (tunnel.next (.helper .send)).outstanding = tunnel.outstanding := by
          simp [next, Endpoint.next, Endpoint.emits, outstanding, pieces]
        have incomplete : tunnel.outstanding ≠ [] := by simp [outstanding, pieces]
        have running : tunnel.helper.copyOut = .running :=
          active.copyOut.resolve_right fun finished => enabled.2 finished.2
        have wire : (tunnel.next (.helper .send)).toController = tunnel.toController ++ [.data piece] := by
          simp [next, Endpoint.emits, pieces]
        refine ⟨same ▸ intact, .inl ⟨phase, unclosed, ?_, ?_, ?_, ?_⟩⟩
        · exact .inl (copyIn.resolve_right fun finished => incomplete finished.2)
        · intro off
          cases attached.symm.trans off
        · rw [wire]
          exact afterClose_append silent _
        · rw [wire]
          refine .relaying ⟨active.phase, active.registered, active.copyIn, .inl running⟩ ?_ attached
          simpa using silent
  | eof =>
    apply relaying.helper_stage rfl rfl ?_ intact
    exact stage.keep rfl rfl fun active => ⟨active.phase, active.registered, active.copyIn, .inr ⟨rfl, enabled.2⟩⟩
  | shutdown =>
    apply relaying.helper_stage rfl rfl ?_ intact
    exact stage.keep rfl rfl fun active => nomatch active.registered.symm.trans enabled.2.1
  | cancelOut =>
    have aborting : tunnel.helper.copyOut = .aborting := enabled
    apply relaying.helper_stage rfl rfl ?_ intact
    exact stage.keep rfl rfl fun active => absurd active.copyOut (by simp [aborting])
  | cancelIn =>
    apply relaying.helper_stage rfl rfl ?_ intact
    exact stage.keep rfl rfl fun active => nomatch active.copyIn.symm.trans enabled
  | selectOut =>
    obtain ⟨relayPhase, finished⟩ := enabled
    apply relaying.helper_stage rfl rfl ?_ intact
    cases stage with
    | relaying active unclosed attached =>
      refine .closing rfl ?_ unclosed attached
      rcases active.copyOut with running | ⟨_, done⟩
      · cases running.symm.trans finished
      · exact done
    | closing phase | closed phase => cases phase.symm.trans relayPhase
  | selectIn =>
    obtain ⟨relayPhase, finished⟩ := enabled
    apply relaying.helper_stage rfl rfl ?_ intact
    cases stage with
    | relaying active => cases active.copyIn.symm.trans finished
    | closing phase | closed phase => cases phase.symm.trans relayPhase
  | close =>
    have closing : tunnel.helper.phase = .closing := enabled
    have same : (tunnel.next (.helper .close)).outstanding = tunnel.outstanding := by
      simp [next, Endpoint.next, Endpoint.emits, outstanding]
    cases stage with
    | relaying active => cases active.phase.symm.trans closing
    | closed phase => cases phase.symm.trans closing
    | closing _ done silent attached =>
      refine ⟨same ▸ intact, .inl ⟨phase, unclosed, same ▸ copyIn, ?_, ?_, ?_⟩⟩
      · intro off
        cases attached.symm.trans off
      · exact afterClose_append silent _
      · exact .closed rfl done (.inl (by simp [next, Endpoint.emits]))
  | read =>
    obtain ⟨hand, effect⟩ := relaying.helper_read enabled
    have helper : (tunnel.next (.helper .read)).helper = { tunnel.helper with hand } := effect
    apply relaying.helper_stage (by rw [helper]) rfl ?_ intact
    rw [helper]
    exact stage.keep rfl rfl fun active => ⟨active.phase, active.registered, active.copyIn, active.copyOut⟩
  | recv | deliver =>
    apply relaying.helper_stage rfl rfl ?_ intact
    exact stage.keep rfl rfl fun active => ⟨active.phase, active.registered, active.copyIn, active.copyOut⟩
  | receiverGone =>
    have dead : tunnel.helper.copyIn.live = false := enabled.2
    apply relaying.helper_stage rfl rfl ?_ intact
    exact stage.keep rfl rfl fun active => absurd dead (by simp [active.copyIn, CopyTask.live])

end

theorem kept_next (kept : Kept reply tunnel) {action : TunnelAction} (enabled : tunnel.enabled action)
    (unhurried : tunnel.Unhurried action) : Kept reply (tunnel.next action) := by
  rcases kept.phase with relaying | ⟨left, complete⟩
  · cases action with
    | controller action => exact relaying.controller_next enabled unhurried kept.intact
    | helper action => exact relaying.helper_next enabled kept.intact
  · obtain ⟨still, written⟩ := complete_next complete enabled
    refine ⟨?_, .inr ⟨phase_next left enabled, still⟩⟩
    rw [still, written, ← complete]
    exact kept.intact

section
variable {initialRemote : Bytes} {request : List Bytes}

/-- Both ends have closed the stream and nothing is left to do or to read. -/
def AtRest (tunnel : Tunnel) : Prop :=
  tunnel.controller.AtRest tunnel.toController ∧ tunnel.helper.AtRest tunnel.toHelper

instance : DecidablePred AtRest := fun tunnel =>
  inferInstanceAs (Decidable (tunnel.controller.AtRest tunnel.toController ∧ tunnel.helper.AtRest tunnel.toHelper))

instance (tunnel : Tunnel) (action : TunnelAction) : Decidable (tunnel.Unhurried action) := by
  unfold Unhurried
  split <;> infer_instance

theorem AtRest.stuck (rest : tunnel.AtRest) (allowed : Tunnel → TunnelAction → Prop) :
    (machine initialRemote request reply).Stuck allowed tunnel := by
  intro action enabled
  cases action with
  | controller => exact absurd enabled rest.1.not_enabled
  | helper => exact absurd enabled rest.2.not_enabled

theorem kept_of_run (run : (machine initialRemote request reply).Run Unhurried tunnel) : Kept reply tunnel := by
  apply run.invariant (Kept reply)
  · refine ⟨rfl, .inl ⟨rfl, by simp, .inl rfl, nofun, rfl, ?_⟩⟩
    exact .relaying ⟨rfl, rfl, rfl, .inl rfl⟩ (by simp) rfl
  · intro state action _ kept enabled unhurried
    exact kept_next kept enabled unhurried

theorem Relaying.not_stuck (relaying : tunnel.Relaying) :
    ¬ (machine initialRemote request reply).Stuck Unhurried tunnel := by
  intro stuck
  obtain ⟨phase, _, copyIn, _, _, stage⟩ := relaying
  have running : tunnel.controller.copyIn = .running := by
    rcases copyIn with running | ⟨finished, _⟩
    · exact running
    · exact absurd trivial (stuck (.controller .selectIn) ⟨phase, finished⟩)
  have live : tunnel.controller.copyIn.live = true := by rw [running]; rfl
  have queue : tunnel.controller.queue = [] := by
    by_contra filled
    exact stuck (.controller .recv) ⟨live, filled⟩ trivial
  have hand : tunnel.controller.hand = none := by
    by_contra held
    exact stuck (.controller .deliver) ⟨held, live, by simp [queue, tcpStreamChannelCapacity]⟩ trivial
  have wire : tunnel.toController = [] := by
    by_contra arrived
    exact stuck (.controller .read) ⟨hand, arrived⟩ trivial
  have registered : tunnel.controller.entry ≠ false := by
    intro off
    exact stuck (.controller .shutdown) ⟨live, off, hand, queue⟩ trivial
  cases stage with
  | relaying active =>
    rcases active.copyOut with sending | ⟨finished, _⟩
    · have sendingLive : tunnel.helper.copyOut.live = true := by rw [sending]; rfl
      by_cases done : tunnel.helper.unread = []
      · exact stuck (.helper .eof) ⟨sendingLive, done⟩ trivial
      · exact stuck (.helper .send) ⟨sendingLive, done⟩ trivial
    · exact stuck (.helper .selectOut) ⟨active.phase, finished⟩ trivial
  | closing phase => exact stuck (.helper .close) phase trivial
  | closed _ _ told =>
    rcases told with member | off
    · simp [wire] at member
    · exact registered off

end
end Tunnel

/-! Every step of a tunnel moves a payload on, ends a task or leaves a phase, so no run
goes on for ever. -/

def CopyTask.weight : CopyTask → Nat
  | .running => 2
  | .aborting => 1
  | .finished | .cancelled => 0

def RelayPhase.weight : RelayPhase → Nat
  | .relaying => 4
  | .closing => 2
  | .closed => 0

def StreamFrame.weight : StreamFrame → Nat
  | .data _ => 5
  | .close => 1

def wireWeight (frames : List StreamFrame) : Nat := (frames.map StreamFrame.weight).sum

def Endpoint.weight (endpoint : Endpoint) : Nat :=
  6 * endpoint.unread.length + 3 * endpoint.hand.toList.length + 2 * endpoint.queue.length +
    endpoint.copyOut.weight + endpoint.copyIn.weight + endpoint.phase.weight

def Tunnel.weight (tunnel : Tunnel) : Nat :=
  tunnel.controller.weight + tunnel.helper.weight + wireWeight tunnel.toHelper + wireWeight tunnel.toController

theorem wireWeight_append :
    wireWeight (left ++ right) = wireWeight left + wireWeight right := by
  simp [wireWeight]

theorem CopyTask.weight_abort_le (task : CopyTask) : task.abort.weight ≤ task.weight := by
  cases task <;> decide

theorem CopyTask.weight_of_live {task : CopyTask} (live : task.live = true) : 0 < task.weight := by
  cases task with
  | running | aborting => decide
  | finished | cancelled => cases live

theorem Endpoint.weight_read (frame : StreamFrame) (free : endpoint.hand = none) :
    (endpoint.readFrame frame).weight < endpoint.weight + frame.weight := by
  cases frame with
  | data payload =>
    simp only [readFrame]
    split
    · simp [weight, free, StreamFrame.weight]
      omega
    · simp [StreamFrame.weight]
  | close => simp [readFrame, weight, StreamFrame.weight]

private theorem weight_silent {endpoint after : Endpoint} (lower : after.weight < endpoint.weight)
    (incoming : List StreamFrame) :
    after.weight + wireWeight (incoming.drop 0) + wireWeight [] < endpoint.weight + wireWeight incoming := by
  rw [drop_zero, show wireWeight [] = 0 from rfl]
  omega

theorem Endpoint.weight_next
    (enabled : endpoint.enabled incoming action) :
    (endpoint.next incoming action).weight + wireWeight (incoming.drop action.consumes) +
      wireWeight (endpoint.emits action) < endpoint.weight + wireWeight incoming := by
  cases action with
  | send =>
    cases pieces : endpoint.unread with
    | nil => exact absurd pieces enabled.2
    | cons piece rest =>
      have emitted : wireWeight (endpoint.emits .send) = 5 := by rw [emits, pieces]; rfl
      simp only [emitted, next, weight, consumes, drop_zero, pieces, tail_cons, length_cons]
      omega
  | eof | shutdown =>
    have live := CopyTask.weight_of_live enabled.1
    have finished : CopyTask.weight .finished = 0 := rfl
    apply weight_silent
    simp only [next, weight, finished]
    omega
  | recv =>
    apply weight_silent
    cases queued : endpoint.queue with
    | nil => exact absurd queued enabled.2
    | cons payload rest =>
      simp only [next, weight, queued, tail_cons, length_cons]
      omega
  | cancelOut =>
    have aborting : endpoint.copyOut = .aborting := enabled
    apply weight_silent
    simp [next, weight, CopyTask.weight, aborting]
  | cancelIn =>
    have aborting : endpoint.copyIn = .aborting := enabled
    apply weight_silent
    simp only [next, weight, CopyTask.weight, aborting, length_nil]
    omega
  | selectOut =>
    have lower := endpoint.copyIn.weight_abort_le
    apply weight_silent
    simp only [next, weight, RelayPhase.weight, enabled.1]
    omega
  | selectIn =>
    have lower := endpoint.copyOut.weight_abort_le
    apply weight_silent
    simp only [next, weight, RelayPhase.weight, enabled.1]
    omega
  | close =>
    have closing : endpoint.phase = .closing := enabled
    have emitted : wireWeight (endpoint.emits .close) = 1 := rfl
    simp only [emitted, next, weight, consumes, drop_zero, RelayPhase.weight, closing]
    omega
  | read =>
    cases frames : incoming with
    | nil => exact absurd frames enabled.2
    | cons frame rest =>
      have lower := endpoint.weight_read frame enabled.1
      have silent : wireWeight (endpoint.emits .read) = 0 := rfl
      have consumed : wireWeight (frame :: rest) = frame.weight + wireWeight rest := sum_cons
      simp only [silent, consumed, next, consumes, drop_one, tail_cons]
      omega
  | deliver | receiverGone =>
    obtain ⟨payload, held⟩ := Option.ne_none_iff_exists'.mp enabled.1
    apply weight_silent
    simp only [next, weight, held, Option.toList_some, Option.toList_none, length_append, length_cons,
      length_nil]
    omega

theorem Tunnel.weight_next {tunnel : Tunnel} {action : TunnelAction} (enabled : tunnel.enabled action) :
    (tunnel.next action).weight < tunnel.weight := by
  cases action with
  | controller action =>
    have lower := tunnel.controller.weight_next enabled
    simp only [weight, next, wireWeight_append]
    omega
  | helper action =>
    have lower := tunnel.helper.weight_next enabled
    simp only [weight, next, wireWeight_append]
    omega

namespace NativeRelay
variable {initialRemote : Bytes} {request reply : List Bytes} {relay : NativeRelay}

theorem intact_of_run (run : (machine initialRemote request reply).Reachable relay) :
    relay.toClient ++ relay.targetUnread = reply := by
  apply run.invariant fun relay => relay.toClient ++ relay.targetUnread = reply
  · rfl
  · intro state action _ intact enabled _
    cases action with
    | forwardReply =>
      cases pieces : state.targetUnread with
      | nil => exact absurd pieces enabled
      | cons piece rest => simpa [machine, next, pieces] using intact
    | _ => exact intact

theorem complete_of_stuck (run : (machine initialRemote request reply).Reachable relay)
    (stuck : (machine initialRemote request reply).Stuck (fun _ _ => True) relay) : relay.toClient = reply := by
  have done : relay.targetUnread = [] := by
    by_contra more
    exact stuck .forwardReply more trivial
  have intact := intact_of_run run
  rwa [done, append_nil] at intact

end NativeRelay

namespace Tunnel

/-- In every run whose controller waits for the reply before it ends the relay for a
client that is done, the tunnel comes to rest, and at rest the client has the whole
reply, byte for byte what the native relay delivers. -/
theorem unhurried_replies_complete (initialRemote : Bytes) (request reply : List Bytes) {length : Nat} {tunnel : Tunnel}
    (path : (machine initialRemote request reply).Path Unhurried length tunnel) :
    length ≤ (machine initialRemote request reply).initial.weight ∧
      ((machine initialRemote request reply).Stuck Unhurried tunnel →
        tunnel.controller.written.flatten = reply.flatten ∧
        ∀ relay, (NativeRelay.machine initialRemote request reply).Reachable relay →
          (NativeRelay.machine initialRemote request reply).Stuck (fun _ _ => True) relay →
          tunnel.controller.written.flatten = relay.toClient.flatten) := by
  constructor
  · have bounded := path.bounded weight fun _ _ enabled => weight_next enabled
    omega
  · intro stuck
    have kept := kept_of_run path.run
    have complete : tunnel.outstanding = [] := by
      rcases kept.phase with relaying | ⟨_, complete⟩
      · exact absurd stuck relaying.not_stuck
      · exact complete
    have written : tunnel.controller.written = reply := by
      have intact := kept.intact
      rwa [complete, append_nil] at intact
    refine ⟨by rw [written], ?_⟩
    intro relay run rest
    rw [written, NativeRelay.complete_of_stuck run rest]

private def halfClosed : List TunnelAction :=
  [.controller .send, .controller .eof, .helper .read, .helper .deliver, .helper .recv, .helper .send,
    .controller .read, .controller .deliver, .controller .recv, .helper .eof, .helper .selectOut, .helper .cancelIn,
    .helper .close, .controller .read, .controller .shutdown, .controller .selectIn, .controller .close, .helper .read]

theorem unhurried_replies_complete_halfClosed : ∃ tunnel,
    (machine [] [[1]] [[2]]).Path Unhurried 18 tunnel ∧ (machine [] [[1]] [[2]]).Stuck Unhurried tunnel ∧
      tunnel.controller.written.flatten = [2] := by
  obtain ⟨tunnel, path, rest⟩ := Machine.exists_path (machine [] [[1]] [[2]]) Unhurried AtRest halfClosed (by decide)
  exact ⟨tunnel, path, rest.stuck _, ((unhurried_replies_complete [] [[1]] [[2]] path).2 (rest.stuck _)).1⟩

private def torn : List TunnelAction :=
  [.controller .send, .controller .eof, .helper .read, .helper .deliver, .helper .recv, .controller .selectOut,
    .controller .cancelIn, .controller .close, .helper .read, .helper .shutdown, .helper .selectIn, .helper .cancelOut,
    .helper .close, .controller .read]

/-- Without waiting, the end of the request closes the stream, the helper gives up its
reader, and nothing of the reply arrives. -/
theorem half_close_loses_reply : ∃ tunnel,
    (machine [] [[1]] [[2]]).Reachable tunnel ∧ (machine [] [[1]] [[2]]).Stuck (fun _ _ => True) tunnel ∧
      tunnel.helper.written.flatten = [1] ∧ tunnel.controller.written.flatten ≠ [2] := by
  obtain ⟨tunnel, run, rest, request, reply⟩ := Machine.exists_reachable (machine [] [[1]] [[2]])
    (fun tunnel => tunnel.AtRest ∧ tunnel.helper.written = [[1]] ∧ tunnel.controller.written = []) torn (by decide)
  exact ⟨tunnel, run, rest.stuck _, by rw [request]; rfl, by rw [reply]; decide⟩

end Tunnel
end SshProxy
