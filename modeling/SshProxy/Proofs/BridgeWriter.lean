import SshProxy.BridgeTasks
import SshProxy.Proofs.BridgeSteps
import SshProxy.Proofs.ConnectHost
import SshProxy.Proofs.FrameRoundTrip
import SshProxy.Proofs.UdpAssociateClient

/-! The writer of a bridge and the frames it is handed. It runs as long as the reader does if
every frame is one that the codec accepts. One that the codec rejects ends the writer, and
nobody waits for the writer: the bridge stays in its slot and takes no more frames. -/

namespace SshProxy.Bridge
variable {bridge : Bridge} {action : BridgeAction}

theorem finished_next (finished : bridge.lifecycle = .finished) (enabled : bridge.enabled action) :
    (bridge.next action).lifecycle = .finished := by
  rcases bridge.next_transport action with still | allocates | ends
  · rw [still.lifecycle, finished]
  · cases action with
    | openTcp | registerUdp => exact finished
    | _ => cases allocates
  · cases action with
    | drainPending => exact absurd (finished.symm.trans enabled.2) nofun
    | clearTcp | clearUdp | abortWriter => exact absurd (finished.symm.trans enabled) nofun
    | failWriter => exact finished
    | _ => cases ends

end SshProxy.Bridge

namespace SshProxy.BridgeTasks
open Library

variable {text : IpText} {egressProxy : Option String} {transport : Sink String UInt8} {state : BridgeTasks}

/-- While the reader runs, the writer does and no frame that it was handed is lost; a bridge
whose writer has stopped is one whose worker is about to take it out of its slot. -/
def Usable (state : BridgeTasks) : Prop :=
  (state.bridge.reading ≠ .stopped →
    state.writer.isRunning = true ∧ state.handed = state.written ++ state.queue) ∧
  (state.writer.isRunning = false → state.slot.connected = true → state.bridge.lifecycle = .finished)

def hands (state : BridgeTasks) : BridgeTasksAction → List Frame
  | .task action => state.bridge.emits action
  | .request _ | .write | .flush | .writerEnds | .recordDisconnected | .shutDown => []

def handsFitting (state : BridgeTasks) (action : BridgeTasksAction) : Prop := ∀ frame ∈ state.hands action, frame.Fits

structure Sound (state : BridgeTasks) : Prop where
  steady : state.sink.Steady
  fits : ∀ frame ∈ state.queue, frame.Fits
  kept : state.writer.isRunning = true → state.handed = state.written ++ state.queue
  ended : state.writer.isRunning = false → state.bridge.lifecycle = .finished
  watched : state.bridge.lifecycle ≠ .watching → state.bridge.reading = .stopped

theorem Sound.initial (steady : transport.Steady) : Sound { sink := transport } :=
  ⟨steady, nofun, fun _ => rfl, nofun, fun ended => absurd rfl ended⟩

theorem Sound.usable (sound : state.Sound) : state.Usable := by
  constructor
  · intro reading
    cases running : state.writer.isRunning with
    | true => exact ⟨rfl, sound.kept running⟩
    | false =>
      have finished := sound.ended running
      exact absurd (sound.watched (by simp [finished])) reading
  · intro stopped _
    exact sound.ended stopped

theorem Sound.act (sound : state.Sound) {action : BridgeAction} (enabled : state.bridge.enabled action)
    (fits : ∀ frame ∈ state.bridge.emits action, frame.Fits) : Sound { state with
      bridge := state.bridge.next action
      queue := state.queue ++ state.bridge.emits action
      handed := state.handed ++ state.bridge.emits action } := by
  refine ⟨sound.steady, ?_, ?_, ?_, ?_⟩
  · intro frame member
    rcases List.mem_append.mp member with queued | new
    · exact sound.fits frame queued
    · exact fits frame new
  · intro running
    show state.handed ++ _ = state.written ++ (state.queue ++ _)
    rw [sound.kept running, List.append_assoc]
  · intro stopped
    exact Bridge.finished_next (sound.ended stopped) enabled
  · exact Bridge.watched_next sound.watched enabled

theorem write_of_fits {frame : Frame} {rest : List Frame} (queued : state.queue = frame :: rest) (fits : frame.Fits)
    (steady : state.sink.Steady) :
    ∃ sink scratch, sink.Steady ∧ sink.written = state.sink.written ++ frame.layout ∧ state.write =
      { state with
        queue := rest
        written := state.written ++ [frame]
        sink
        writer := .batching (state.writer.framesWritten + 1) scratch } := by
  obtain ⟨writes, sink, scratch, wrote, still⟩ := frame.writeToWithScratch_steady fits steady state.writer.scratch
  refine ⟨sink, scratch, still, (Frame.writeToWithScratch_eq_ok wrote).2, ?_⟩
  unfold write
  simp only [queued, wrote]

theorem write_of_not_fits {frame : Frame} {rest : List Frame} (queued : state.queue = frame :: rest)
    (rejected : ¬frame.Fits) :
    state.write = { state with bridge := state.bridge.next .failWriter, queue := [], writer := .stopped } := by
  unfold write
  simp only [queued]
  split
  next wrote => exact absurd (Frame.writeToWithScratch_eq_ok wrote).1 rejected
  next => rfl

theorem Sound.write (sound : state.Sound) (taking : state.writer.mayTake = true) (some : state.queue ≠ []) :
    state.write.Sound := by
  obtain ⟨frame, rest, queued⟩ := List.exists_cons_of_ne_nil some
  have running := WriterTask.isRunning_of_mayTake taking
  have fits : frame.Fits := sound.fits frame (by rw [queued]; exact List.mem_cons_self ..)
  obtain ⟨sink, scratch, still, -, wrote⟩ := write_of_fits queued fits sound.steady
  rw [wrote]
  refine ⟨still, ?_, ?_, nofun, sound.watched⟩
  · intro other member
    apply sound.fits
    rw [queued]
    exact List.mem_cons_of_mem _ member
  · intro _
    show state.handed = (state.written ++ [frame]) ++ rest
    rw [sound.kept running, queued, List.append_assoc, List.singleton_append]

theorem Sound.next (sound : state.Sound) {action : BridgeTasksAction} (enabled : state.enabled text action)
    (fitting : state.handsFitting action) : (state.next text egressProxy action).Sound := by
  cases action with
  | request reads =>
    obtain ⟨_, request, accepted⟩ := enabled
    have opened : state.bridge.enabled (.openTcp request.host request.port egressProxy) := trivial
    simp only [BridgeTasks.next, accepted]
    exact ⟨sound.steady, sound.fits, sound.kept, fun stopped => Bridge.finished_next (sound.ended stopped) opened,
      Bridge.watched_next sound.watched opened⟩
  | task action => exact sound.act enabled.2.1 fitting
  | write => exact sound.write enabled.1 enabled.2
  | flush =>
    have running : state.writer.isRunning = true := by
      cases writer : state.writer with
      | batching => rfl
      | receiving | stopped =>
        simp only [BridgeTasks.enabled, writer] at enabled
        exact enabled.elim
    exact ⟨sound.steady, sound.fits, fun _ => sound.kept running, nofun, sound.watched⟩
  | writerEnds => exact ⟨sound.steady, nofun, nofun, fun _ => enabled.1, sound.watched⟩
  | recordDisconnected | shutDown => exact ⟨sound.steady, sound.fits, sound.kept, sound.ended, sound.watched⟩

theorem sound_of_run (steady : transport.Steady) (run : (machine text egressProxy transport).Run handsFitting state) :
    state.Sound := by
  apply run.invariant Sound
  · exact .initial steady
  · intro state action _ sound enabled fitting
    exact sound.next enabled fitting

theorem writer_outlives_requests (text : IpText) (egressProxy : Option String) (transport : Sink String UInt8)
    (steady : transport.Steady) (state : BridgeTasks)
    (run : (machine text egressProxy transport).Run handsFitting state) : state.Usable :=
  (sound_of_run steady run).usable

def asked (transport : Sink String UInt8) (host : String) (port : UInt16) (egressProxy : Option String) : BridgeTasks :=
  { bridge := (((({} : Bridge).next (.openTcp host port egressProxy)).next (.insertPending 0)).next (.insertStream 0)).next
      (.sendOpen 0)
    queue := [.openTcp 1 host port egressProxy]
    sink := transport
    handed := [.openTcp 1 host port egressProxy] }

variable {allowed : BridgeTasks → BridgeTasksAction → Prop} {reads : List Bytes} {request : TunnelRequest}

section
variable (cut : isCut reads) (accepted : handleClient text reads = .ok (.tunnel request))
  (allows : ∀ state action,
    (∀ frame ∈ state.hands action, frame = .openTcp 1 request.host request.port egressProxy) → allowed state action)
include cut accepted allows

theorem asked_reached :
    (machine text egressProxy transport).Run allowed (asked transport request.host request.port egressProxy) := by
  have first : (machine text egressProxy transport).Run allowed
      { bridge := ({} : Bridge).next (.openTcp request.host request.port egressProxy), sink := transport } := by
    have step : (machine text egressProxy transport).Run allowed
        ((machine text egressProxy transport).next { sink := transport } (.request reads)) :=
      .step .initial ⟨cut, request, accepted⟩ (allows _ _ nofun)
    simpa only [machine, BridgeTasks.next, accepted] using step
  have pending : (machine text egressProxy transport).Run allowed
      ((machine text egressProxy transport).next _ (.task (.insertPending 0))) :=
    first.step ⟨rfl, rfl, (by decide : 0 ≤ 256)⟩ (allows _ _ nofun)
  have registered : (machine text egressProxy transport).Run allowed
      ((machine text egressProxy transport).next _ (.task (.insertStream 0))) :=
    pending.step ⟨rfl, rfl, (by decide : 0 ≤ 256)⟩ (allows _ _ nofun)
  have waiting : (machine text egressProxy transport).Run allowed
      ((machine text egressProxy transport).next _ (.task (.sendOpen 0))) :=
    registered.step ⟨rfl, rfl, (by decide : 1 ≤ 256)⟩ (allows _ _ fun _ only => List.mem_singleton.mp only)
  exact waiting

theorem asked_write_reached :
    (machine text egressProxy transport).Run allowed (asked transport request.host request.port egressProxy).write := by
  have step : (machine text egressProxy transport).Run allowed
      ((machine text egressProxy transport).next (asked transport request.host request.port egressProxy) .write) :=
    (asked_reached cut accepted allows).step ⟨rfl, nofun⟩ (allows _ _ nofun)
  exact step

end

theorem long_host_stops_writer (cut : isCut reads) (accepted : handleClient text reads = .ok (.tunnel request))
    (long : 65535 < (utf8 request.host).length) :
    ∃ state, (machine text egressProxy transport).Reachable state ∧ state.bridge.reading ≠ .stopped ∧
      state.slot.connected = true ∧ state.writer.isRunning = false := by
  have rejected : ¬(Frame.openTcp 1 request.host request.port egressProxy).Fits := by
    intro fits
    have short := fits.texts request.host (List.mem_cons_self ..)
    omega
  have reached : (machine text egressProxy transport).Reachable
      (asked transport request.host request.port egressProxy).write :=
    asked_write_reached cut accepted fun _ _ _ => trivial
  have queued : (asked transport request.host request.port egressProxy).queue = [_] := rfl
  rw [write_of_not_fits queued rejected] at reached
  exact ⟨_, reached, nofun, rfl, rfl⟩

theorem fitting_host_written (steady : transport.Steady) (cut : isCut reads)
    (accepted : handleClient text reads = .ok (.tunnel request))
    (fits : (Frame.openTcp 1 request.host request.port egressProxy).Fits) :
    ∃ state, (machine text egressProxy transport).Run handsFitting state ∧ state.bridge.reading ≠ .stopped ∧
      state.written = [.openTcp 1 request.host request.port egressProxy] := by
  have run : (machine text egressProxy transport).Run handsFitting
      (asked transport request.host request.port egressProxy).write := by
    apply asked_write_reached cut accepted
    intro state action only frame handed
    rw [only frame handed]
    exact fits
  have queued : (asked transport request.host request.port egressProxy).queue = [_] := rfl
  obtain ⟨sink, scratch, -, -, wrote⟩ := write_of_fits queued fits steady
  rw [wrote] at run
  exact ⟨_, run, nofun, rfl⟩

def socksConnect : List Bytes := [[5, 1, 0], [5, 1, 0, 3, 1, 97, 0, 80]]

theorem socksConnect_accepted : handleClient UdpAssociate.namesOnly socksConnect = .ok (.tunnel
    { host := "a", port := 80, response := .socksSuccess, initialRemote := [], mode := .raw, unread := [[]] }) := by
  rfl

theorem isCut_socksConnect : isCut socksConnect := by
  unfold isCut
  decide

theorem short_host_written : ∃ state, (machine UdpAssociate.namesOnly none (Sink.eager [] 1)).Run handsFitting state ∧
      state.bridge.reading ≠ .stopped ∧ state.written = [.openTcp 1 "a" 80 none] ∧ state.Usable := by
  have steady : (Sink.eager [] 1 : Sink String UInt8).Steady := Sink.eager_steady [] Nat.one_pos
  have fits : (Frame.openTcp 1 "a" 80 none).Fits := ⟨by decide, by decide⟩
  obtain ⟨state, run, reading, written⟩ := fitting_host_written steady isCut_socksConnect socksConnect_accepted fits
  exact ⟨state, run, reading, written, writer_outlives_requests _ _ _ steady state run⟩

/-- A `CONNECT` for a host of 65536 letters is accepted, and ends the writer of its bridge. -/
theorem long_host_disables_bridge :
    ∃ reads request, isCut reads ∧ handleClient UdpAssociate.namesOnly reads = .ok (.tunnel request) ∧
      (utf8 request.host).length = 65536 ∧
      ∃ state, (machine UdpAssociate.namesOnly none (Sink.eager [] 1)).Reachable state ∧
        state.bridge.reading ≠ .stopped ∧ state.slot.connected = true ∧ state.writer.isRunning = false ∧ ¬state.Usable := by
  have cut : isCut (connectReads 1016 63 8) := (cut_connectReads (by decide) (by decide)).sized
  obtain ⟨request, accepted, host⟩ :=
    handleClient_connectReads UdpAssociate.namesOnly (show 1016 ≤ 1016 by decide) (show 8 ≤ 1007 by decide)
      (show 8 + (1016 + 63 * 1024) ≤ 64 * 1024 by decide)
  have length : (utf8 request.host).length = 65536 := by
    have one : (utf8 (String.ofList ['a'])).length = 1 := by decide
    rw [host, length_utf8_replicate, one]
  have long : 65535 < (utf8 request.host).length := by omega
  obtain ⟨state, reached, reading, connected, stopped⟩ := long_host_stops_writer cut accepted long
  refine ⟨_, request, cut, accepted, length, state, reached, reading, connected, stopped, ?_⟩
  intro usable
  rw [(usable.1 reading).1] at stopped
  cases stopped

end SshProxy.BridgeTasks

