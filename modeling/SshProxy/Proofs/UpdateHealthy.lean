import SshProxy.Proofs.UpdateRequest

/-! When a self-update may be reported healthy. The start that follows an update looks at the stored
state only, so it is right where the switch has been made before it, and where the daemon was not
stopped between the record of the request and that of its job. -/

namespace SshProxy
open Library DaemonStateRecord List UpdateSound Host

namespace Host

/-- The update or its job is shown healthy only if the daemon that runs is the one that was staged. -/
def ReportsNew (host : Host) : Prop :=
  host.daemon.updateHealthy = true ∨ (host.jobs.get selfUpdatePending).map (·.state) = some .healthy →
    host.running.isSome = true ∧ host.daemon.stagedVersion = host.running.map (·.version)

instance (host : Host) : Decidable host.ReportsNew := by
  unfold ReportsNew
  infer_instance

/-- The files hold the record of a request and still the job of the update before it. -/
def isUnrecorded (host : Host) : Bool :=
  host.daemonFile.any (·.hasUpdate .pending) && (host.storedJob.map (·.state) = some .healthy)

end Host

structure UpdateLoaded (install : Installation) (host : Host) : Prop where
  sound : UpdateSound install host
  runs : host.running.isSome = true
  stored : ∀ record, host.daemonFile = some record → host.daemon = record
  fresh : host.daemonFile = none → host.daemon.update = none ∧ host.daemon.updateState = .idle
  jobs : host.jobs.store = host.jobs.file
  recorded : host.isUnrecorded = false
  version : host.daemon.isRestarting = true ∨ host.daemon.hasUpdate .healthy = true →
    host.daemon.stagedVersion = host.running.map (·.version)
  installed : host.daemon.isRestarting = true → host.switches.head?.any (·.hasInstalled) = true

inductive StartPoint where
  | loaded | recorded | healthy | started | failed

namespace StartPoint

def holds (install : Installation) : StartPoint → Host → Prop
  | .loaded, host => UpdateLoaded install host
  | .recorded, host => UpdateSound install host ∧ host.ReportsNew ∧ host.daemonFile = some host.daemon
  | .healthy, host =>
    UpdateSound install host ∧ host.ReportsNew ∧ host.daemonFile = some host.daemon ∧ host.daemon.updateHealthy = true
  | .started, host => UpdateSound install host ∧ host.ReportsNew
  | .failed, host => UpdateSound install host

variable {install : Installation} {host : Host} {point : StartPoint}

theorem sound (here : point.holds install host) : UpdateSound install host := by
  cases point with
  | loaded => exact here.sound
  | recorded | healthy | started => exact here.1
  | failed => exact here

end StartPoint

namespace Host
variable {host : Host} (now : Nat) (name controlEndpoint : Text)

theorem startedRecord_restarting (restarting : host.daemon.isRestarting = true) :
    (host.startedRecord now name controlEndpoint).hasUpdate .healthy = true ∧
      (host.startedRecord now name controlEndpoint).stagedVersion = host.daemon.stagedVersion ∧
      (host.startedRecord now name controlEndpoint).updateState = .healthy := by
  simp only [startedRecord, restarting, hasUpdate, stagedVersion]
  cases host.daemon.update <;> simp

theorem startedRecord_settled (settled : host.daemon.isRestarting = false) :
    (∀ state, (host.startedRecord now name controlEndpoint).hasUpdate state = host.daemon.hasUpdate state) ∧
      (host.startedRecord now name controlEndpoint).stagedVersion = host.daemon.stagedVersion ∧
      (host.startedRecord now name controlEndpoint).updateState = .idle := by
  simp [startedRecord, settled, hasUpdate, stagedVersion]

theorem startedRecord_stagedVersion :
    (host.startedRecord now name controlEndpoint).stagedVersion = host.daemon.stagedVersion := by
  cases restarting : host.daemon.isRestarting with
  | false => exact (startedRecord_settled now name controlEndpoint restarting).2.1
  | true => exact (startedRecord_restarting now name controlEndpoint restarting).2.1

theorem startedRecord_not_restarting : (host.startedRecord now name controlEndpoint).isRestarting = false := by
  cases restarting : host.daemon.isRestarting with
  | false => simp [isRestarting, (startedRecord_settled now name controlEndpoint restarting).2.2]
  | true => simp [isRestarting, (startedRecord_restarting now name controlEndpoint restarting).2.2]

end Host

namespace UpdateLoaded
variable {install : Installation} {host : Host} {now : Nat} {name controlEndpoint : Text}

variable (loaded : UpdateLoaded install host)
include loaded

theorem stored_of_update {state : UpdateState} (update : host.daemon.hasUpdate state = true) :
    host.daemonFile = some host.daemon := by
  cases stored : host.daemonFile with
  | none => simp [hasUpdate, loaded.fresh stored] at update
  | some record => rw [loaded.stored record stored]

theorem switched (restarting : host.daemon.isRestarting = true) :
    (∃ version, host.daemon.stagedVersion = some version ∧ host.files.HasVersion install.currentExe version) ∧
      ∀ script ∈ host.switches, script.isQuiet = true := by
  cases stored : host.daemonFile with
  | none => simp [isRestarting, loaded.fresh stored] at restarting
  | some record =>
    have same := loaded.stored record stored
    have installed := loaded.installed restarting
    rw [same] at restarting ⊢
    obtain ⟨script, version, newest, staged, delivers⟩ := loaded.sound.restarting record stored restarting
    rw [newest] at installed
    refine ⟨⟨version, staged, delivers.installed installed⟩, ?_⟩
    have older := loaded.sound.older
    obtain ⟨rest, switches⟩ := head?_eq_some_iff.mp newest
    rw [switches] at older ⊢
    intro other present
    rcases mem_cons.mp present with rfl | earlier
    · exact Switch.isQuiet_of_installed installed
    · exact Switch.isQuiet_of_finished (older other earlier)

theorem healthy_of_job {job : JobRecord} (found : host.storedJob = some job) (healthy : job.state = .healthy) :
    host.daemon.hasUpdate .healthy = true := by
  obtain ⟨record, stored, update⟩ := loaded.sound.job job found healthy
  rw [loaded.stored record stored]
  rcases update with done | pending
  · exact done
  · have recorded := loaded.recorded
    simp [isUnrecorded, stored, found, pending, healthy] at recorded

theorem record_started : UpdateSound install { host with
      daemon := host.startedRecord now name controlEndpoint,
      daemonFile := some (host.startedRecord now name controlEndpoint) } := by
  cases restarting : host.daemon.isRestarting with
  | true =>
    obtain ⟨healthy, staged, _⟩ := startedRecord_restarting now name controlEndpoint restarting
    apply loaded.sound.save_record
    · intro restarts
      rw [startedRecord_not_restarting] at restarts
      cases restarts
    · intro _
      rw [staged]
      exact loaded.switched restarting
    · intro _
      exact healthy
    · intro _ _ _
      exact .inl healthy
  | false =>
    obtain ⟨update, staged, idle⟩ := startedRecord_settled now name controlEndpoint restarting
    apply loaded.sound.save_record
    · intro restarts
      rw [startedRecord_not_restarting] at restarts
      cases restarts
    · intro healthy
      rw [update] at healthy
      rw [staged]
      exact loaded.sound.healthy _ (loaded.stored_of_update healthy) healthy
    · intro healthy
      cases idle.symm.trans healthy
    · intro job found healthy
      left
      rw [update]
      exact loaded.healthy_of_job found healthy

theorem reports_new : Host.ReportsNew { host with
      daemon := host.startedRecord now name controlEndpoint,
      daemonFile := some (host.startedRecord now name controlEndpoint) } := by
  intro shown
  refine ⟨loaded.runs, (startedRecord_stagedVersion now name controlEndpoint).trans (loaded.version ?_)⟩
  cases restarting : host.daemon.isRestarting with
  | true => exact .inl rfl
  | false =>
    right
    have settled := startedRecord_settled now name controlEndpoint restarting
    rcases shown with healthy | healthy
    · rcases of_decide_eq_true healthy with update | state
      · rw [← settled.1]
        exact decide_eq_true update
      · cases settled.2.2.symm.trans state
    · obtain ⟨job, found, state⟩ := Option.map_eq_some_iff.mp healthy
      refine loaded.healthy_of_job ?_ state
      unfold storedJob
      rw [← loaded.jobs]
      exact found

end UpdateLoaded

abbrev StartOutline {α : Type} (install : Installation) (post : α → StartPoint → Prop) (point : StartPoint)
    (program : Program Host UpdateOutside α) : Prop :=
  program.Outline (fun _ _ => True) (StartPoint.holds install) (fun _ _ _ _ => True) post point

namespace StartOutline
variable {install : Installation}
open Program.Outline (andThen)

def Ended : Except String Unit → StartPoint → Prop
  | .ok _, found => found = .started ∨ found = .healthy
  | .error _, found => found = .failed

variable (name controlEndpoint : Text)

theorem record_started :
    StartOutline install (fun result found => found = match result with | .ok _ => .recorded | .error _ => .failed) .loaded
      (recordDaemonStarted name controlEndpoint).run := by
  apply Program.Outline.performed
  intro outside host _ here
  unfold saveDaemon
  cases outside.save with
  | ok => exact ⟨⟨here.record_started, here.reports_new, rfl⟩, trivial⟩
  | error => exact ⟨here.sound.remember _, trivial⟩

theorem look_healthy : StartOutline install
      (fun result found => found = match result with | .ok true => .healthy | .ok false => .started | .error _ => .failed)
      .recorded (look (·.daemon.updateHealthy)).run := by
  apply Program.Outline.performed
  intro outside host _ here
  obtain ⟨sound, new, stored⟩ := here
  dsimp only
  cases healthy : host.daemon.updateHealthy with
  | true => exact ⟨⟨sound, new, stored, healthy⟩, trivial⟩
  | false => exact ⟨⟨sound, new⟩, trivial⟩

theorem look_job : StartOutline install (fun result found => result.isOk = true ∧ found = .healthy) .healthy
      (look (·.jobs.get selfUpdatePending)).run := by
  apply Program.Outline.stay
  intro outside host _ here
  exact ⟨here, trivial, rfl, rfl⟩

theorem complete_job {job : JobRecord} (message : String) :
    StartOutline install (fun result found => found = match result with | .ok _ => .started | .error _ => .failed) .healthy
      (upsertJob (completedJob · job) message).run := by
  apply Program.Outline.performed
  intro outside host _ here
  obtain ⟨sound, new, stored, healthy⟩ := here
  cases outside.save with
  | ok =>
    refine ⟨⟨?_, ?_⟩, trivial⟩
    · apply sound.save_jobs
      intro _ _ _
      refine ⟨host.daemon, stored, .inl ?_⟩
      rcases of_decide_eq_true healthy with update | state
      · exact decide_eq_true update
      · exact sound.agree _ stored state
    · intro _
      exact new (.inl healthy)
  | error => exact ⟨sound.save_jobs _ sound.job, trivial⟩

theorem reconcile : StartOutline install Ended .recorded reconcileDaemonUpdateJob.run := by
  unfold reconcileDaemonUpdateJob
  apply andThen look_healthy
  · intro error found here
    exact here
  intro healthy found here
  cases healthy with
  | false => exact .ok (.inl here)
  | true =>
    subst here
    apply andThen look_job
    · intro error found here
      cases here.1
    intro job found here
    obtain ⟨_, here⟩ := here
    subst here
    cases job with
    | none => exact .ok (.inr rfl)
    | some job =>
      dsimp only
      split
      next => exact .ok (.inr rfl)
      next =>
        apply andThen (complete_job _)
        · intro error found here
          exact here
        intro _ found here
        exact .ok (.inl here)

theorem daemon_startup :
    StartOutline install Ended .loaded (daemonStartup name controlEndpoint).run := by
  unfold daemonStartup
  apply andThen (record_started name controlEndpoint)
  · intro error found here
    exact here
  intro _ found here
  subst here
  exact reconcile

end StartOutline

section Scripts
variable {install : Installation} {host : Host} {script : Switch} {rest : List Switch}

theorem UpdateSound.scripted_finished (here : host.switches = script :: rest) (finished : script.isFinished = true)
    (windows : Bool) (outside : UpdateOutside) : scripted windows outside host script rest = host := by
  unfold scripted
  rw [Switch.advance_finished finished, ← here]

theorem UpdatePoint.scripted {point : UpdatePoint} (holds : point.holds install host) (here : host.switches = script :: rest)
    (windows : Bool) (outside : UpdateOutside) :
    point.holds install (scripted windows outside host script rest) := by
  have newest : script ∈ host.switches := by
    rw [here]
    exact mem_cons_self
  cases point with
  | accepted =>
    rw [scripted_finished here (holds.2 script newest)]
    exact holds
  | requested =>
    rw [scripted_finished here (holds.2.1 script newest)]
    exact holds
  | working =>
    rw [scripted_finished here (holds.1.finished script newest)]
    exact holds
  | launched =>
    obtain ⟨sound, unsettled, jobOpen, found, first, delivers⟩ := holds
    rw [here] at first
    cases first
    exact ⟨sound.script_step here windows outside, unsettled, jobOpen, _, rfl, delivers.advance (sound.proper script newest)⟩
  | ended => exact holds.script_step here windows outside

theorem StartPoint.scripted {point : StartPoint} (holds : point.holds install host) (here : host.switches = script :: rest)
    (windows : Bool) (outside : UpdateOutside) :
    point.holds install (scripted windows outside host script rest) := by
  cases point with
  | loaded =>
    obtain ⟨sound, runs, stored, fresh, jobs, recorded, version, installed⟩ := holds
    refine ⟨sound.script_step here windows outside, runs, stored, fresh, jobs, recorded, version, ?_⟩
    intro restarting
    have before := installed restarting
    rw [here] at before
    have after := (Switch.advance_quiet windows outside host.files (Switch.isQuiet_of_installed before)).2.2
    exact after.trans before
  | recorded | healthy | started => exact ⟨holds.1.script_step here windows outside, holds.2⟩
  | failed => exact holds.script_step here windows outside

end Scripts

namespace UpdateSystem

def hasStarted (system : UpdateSystem) : Bool :=
  system.tasks.any fun task => task.role = .startup ∧ task.program.result?.any (·.isOk)

/-- The orderly steps: an update is asked for when no start, update or switch script is under way;
the daemon is not started while the files hold the record of a request beside the healthy job of
the update before it; and after the launch of a switch it is not started before the script has
copied the staged binary. -/
def Orderly (system : UpdateSystem) : UpdateAction → Prop
  | .request _ => system.tasks.all (·.isFinished) = true ∧ system.host.switches.all (·.isFinished) = true
  | .start _ =>
    system.host.isUnrecorded = false ∧
      (system.host.daemonFile.any (·.isRestarting) = true → system.host.switches.head?.any (·.hasInstalled) = true)
  | .kill | .task _ _ | .script _ _ => True

inductive Outlined (install : Installation) : UpdateSystem → Prop where
  | idle {host : Host} (sound : UpdateSound install host) : Outlined install ⟨host, []⟩
  | updating {host : Host} {program : Program Host UpdateOutside (Except String Unit)} (point : UpdatePoint)
      (here : point.holds install host) (outline : UpdateOutline install (fun _ _ => True) point program) :
      Outlined install ⟨host, [⟨.update, program⟩]⟩
  | starting {host : Host} {program : Program Host UpdateOutside (Except String Unit)} (point : StartPoint)
      (here : point.holds install host) (outline : StartOutline install StartOutline.Ended point program) :
      Outlined install ⟨host, [⟨.startup, program⟩]⟩

namespace Outlined
variable {install : Installation} {system : UpdateSystem}

theorem sound (outlined : Outlined install system) : UpdateSound install system.host := by
  cases outlined with
  | idle sound => exact sound
  | updating point here => exact UpdatePoint.sound here
  | starting point here => exact StartPoint.sound here

theorem endDaemon (outlined : Outlined install system) : Outlined install system.endDaemon :=
  .idle (outlined.sound.run_as none)

theorem request (outlined : Outlined install system) (source : Option Text)
    (allowed : system.Orderly (.request source)) (name controlEndpoint : Text) :
    Outlined install (next install name controlEndpoint system (.request source)) := by
  obtain ⟨tasks, scripts⟩ := allowed
  have none : system.tasks.filter (!·.isFinished) = [] := by
    apply filter_eq_nil_iff.mpr
    intro task present
    simp [all_eq_true.mp tasks task present]
  have outline : UpdateOutline install (fun _ _ => True) .accepted
      ((daemonUpdate install source).run.bind fun result => .pure (result.map fun _ => ())) := by
    apply Program.Outline.bind (UpdateOutline.daemon_update source)
    intro result point _
    exact .pure trivial
  unfold next
  dsimp only
  rw [none]
  exact .updating .accepted ⟨outlined.sound, all_eq_true.mp scripts⟩ outline

theorem loaded (sound : UpdateSound install system.host) {now : Nat} (allowed : system.Orderly (.start now)) {binary : Binary}
    (found : system.host.files install.currentExe = some (.build binary)) (name controlEndpoint : Text) :
    UpdateLoaded install (system.startDaemon name controlEndpoint now binary).host := by
  obtain ⟨recorded, installed⟩ := allowed
  have base := ((sound.save_jobs system.host.jobs.load sound.job).remember
    (system.startDaemon name controlEndpoint now binary).host.daemon).run_as (some binary)
  cases stored : system.host.daemonFile with
  | none =>
    have fresh : (system.startDaemon name controlEndpoint now binary).host.daemon = .new now binary.version := by
      simp [startDaemon, stored]
    refine ⟨base, rfl, ?_, ?_, rfl, recorded, ?_, ?_⟩
    · intro record same
      cases stored.symm.trans same
    · intro _
      rw [fresh]
      exact ⟨rfl, rfl⟩
    · intro shown
      rw [fresh] at shown
      rcases shown with restarting | healthy
      · cases restarting
      · cases healthy
    · intro restarting
      rw [fresh] at restarting
      cases restarting
  | some record =>
    have read : (system.startDaemon name controlEndpoint now binary).host.daemon = record := by
      simp [startDaemon, stored]
    refine ⟨base, rfl, ?_, ?_, rfl, recorded, ?_, ?_⟩
    · intro other same
      cases stored.symm.trans same
      exact read
    · intro same
      cases stored.symm.trans same
    · intro shown
      rw [read] at shown ⊢
      rcases shown with restarting | healthy
      · obtain ⟨script, version, newest, staged, delivers⟩ := sound.restarting record stored restarting
        have switched : script.hasInstalled = true := by
          simpa [newest] using installed (by simpa [stored] using restarting)
        rw [staged, ← delivers.installed switched binary found]
        rfl
      · obtain ⟨⟨version, staged, runs⟩, _⟩ := sound.healthy record stored healthy
        rw [staged, ← runs binary found]
        rfl
    · intro restarting
      rw [read] at restarting
      exact installed (by simpa [stored] using restarting)

theorem start (outlined : Outlined install system) {now : Nat} (allowed : system.Orderly (.start now))
    (name controlEndpoint : Text) : Outlined install (next install name controlEndpoint system (.start now)) := by
  unfold next
  dsimp only
  split
  next binary found =>
    exact .starting .loaded (loaded outlined.sound allowed found name controlEndpoint)
      (StartOutline.daemon_startup name controlEndpoint)
  next => exact outlined

theorem task (outlined : Outlined install system) (index : Nat) (outside : UpdateOutside) :
    Outlined install (system.taskStep index outside) := by
  cases outlined with
  | idle sound => exact .idle sound
  | updating point here outline =>
    cases index with
    | succ index => exact .updating point here outline
    | zero =>
      cases outline with
      | pure done => exact .updating point here (.pure done)
      | step later kept moved rest =>
        exact .updating (later outside _) (kept outside _ trivial here) (rest outside _ trivial here)
  | @starting host program point here outline =>
    cases index with
    | succ index => exact .starting point here outline
    | zero =>
      cases outline with
      | pure done => exact .starting point here (.pure done)
      | step later kept moved rest =>
        have after := Outlined.starting (later outside _) (kept outside _ trivial here) (rest outside _ trivial here)
        unfold taskStep
        dsimp only [getElem?_cons_zero, set_cons_zero]
        split
        next => exact after.endDaemon
        next => exact after

theorem scriptStep_cases (older : ∀ script ∈ system.host.switches.tail, script.isFinished = true) (index : Nat)
    (outside : UpdateOutside) : system.scriptStep install index outside = system ∨
      ∃ script rest, system.host.switches = script :: rest ∧
        system.scriptStep install index outside =
          ⟨scripted install.windows outside system.host script rest, system.tasks⟩ := by
  unfold scriptStep
  cases switches : system.host.switches with
  | nil => exact .inl rfl
  | cons script rest =>
    cases index with
    | zero => exact .inr ⟨script, rest, rfl, rfl⟩
    | succ index =>
      left
      rw [getElem?_cons_succ]
      rw [switches] at older
      cases found : rest[index]? with
      | none => rfl
      | some other =>
        obtain ⟨inside, same⟩ := List.getElem?_eq_some_iff.mp found
        have finished := older other (mem_of_getElem? found)
        dsimp only
        rw [Switch.advance_finished finished, set_cons_succ, ← same, set_getElem_self, ← switches]

theorem script (outlined : Outlined install system) (index : Nat) (outside : UpdateOutside) :
    Outlined install (system.scriptStep install index outside) := by
  rcases scriptStep_cases outlined.sound.older index outside with same | ⟨script, rest, switches, after⟩
  · rw [same]
    exact outlined
  · rw [after]
    cases outlined with
    | idle sound => exact .idle (sound.script_step switches install.windows outside)
    | updating point here outline =>
      exact .updating point (UpdatePoint.scripted here switches install.windows outside) outline
    | starting point here outline =>
      exact .starting point (StartPoint.scripted here switches install.windows outside) outline

end Outlined

section Runs
variable {install : Installation} {name controlEndpoint : Text} {files : Files} {system : UpdateSystem}

theorem fresh_sound (install : Installation) (files : Files) : UpdateSound install (fresh files).host where
  proper := by
    intro script present
    cases present
  older := by
    intro script present
    cases present
  restarting := by
    intro record stored
    cases stored
  healthy := by
    intro record stored
    cases stored
  agree := by
    intro record stored
    cases stored
  job := by
    intro job found
    cases found

theorem run_outlined (run : (machine install name controlEndpoint files).Run Orderly system) : Outlined install system := by
  apply run.invariant (Outlined install)
  · exact .idle (fresh_sound install files)
  intro system action _ outlined _ allowed
  cases action with
  | request source => exact outlined.request source allowed name controlEndpoint
  | task index outside => exact outlined.task index outside
  | script index outside => exact outlined.script index outside
  | kill => exact outlined.endDaemon
  | start now => exact outlined.start allowed name controlEndpoint

/-- In every orderly run, whichever way the scripts and the stores fail and wherever the daemon is
stopped, a start that has ended shows the update or its job healthy only if the daemon that runs
has the staged version. -/
theorem healthy_only_new (run : (machine install name controlEndpoint files).Run Orderly system)
    (started : system.hasStarted = true) : system.host.ReportsNew := by
  cases run_outlined run with
  | idle => cases started
  | updating => simp [hasStarted] at started
  | starting point here outline =>
    cases outline with
    | step => simp [hasStarted, Program.result?] at started
    | @pure _ result done =>
      cases result with
      | error => simp [hasStarted, Program.result?, Except.isOk, Except.toBool] at started
      | ok =>
        rcases done with rfl | rfl
        · exact here.2
        · exact here.2.1

end Runs

instance (system : UpdateSystem) (action : UpdateAction) : Decidable (system.Orderly action) := by
  rcases action with _ | _ <;> dsimp only [Orderly] <;> infer_instance

section Switches

def unixInstallation : Installation where
  currentExe := "/usr/bin/ssh_proxy".toList
  updatesDir := "/var/updates".toList
  windows := false
  sha256 := fun _ => "0123456789abcdef".toList

def oldBuild : Binary := ⟨"0.1.1".toList, 1, by decide, by decide⟩

def newBuild : Binary := ⟨"0.1.2".toList, 2, by decide, by decide⟩

def newSource : Text := "/tmp/new".toList

def twoBuilds : Files := fun path =>
  if path = unixInstallation.currentExe then some (.build oldBuild)
  else if path = newSource then some (.build newBuild) else none

def toLaunch : List UpdateAction :=
  [.start 0, .task 0 {}, .task 0 {}, .request (some newSource)] ++ replicate 15 (.task 0 {})

def toCopy : List UpdateAction := [.script 0 {}, .script 0 {}, .script 0 {}, .kill]

def restarts (now : Nat) : List UpdateAction := .start now :: replicate 4 (.task 0 {})

theorem healthy_only_new_switched : ∃ system,
    (machine unixInstallation [] [] twoBuilds).Run Orderly system ∧ system.hasStarted = true ∧
      system.host.daemon.updateHealthy = true ∧ system.host.ReportsNew := by
  obtain ⟨system, run, started, healthy⟩ := Machine.exists_run (machine unixInstallation [] [] twoBuilds) Orderly
    (fun system => system.hasStarted = true ∧ system.host.daemon.updateHealthy = true)
    (toLaunch ++ toCopy ++ [.script 0 {}, .script 0 {}] ++ restarts 1) (by decide)
  exact ⟨system, run, started, healthy, healthy_only_new run started⟩

/-- The copy of the script fails, it puts the old binary back and starts it, and the old daemon
reports the update as healthy. -/
theorem old_build_reported_healthy : ∃ system,
    (machine unixInstallation [] [] twoBuilds).Reachable system ∧ system.hasStarted = true ∧ ¬ system.host.ReportsNew :=
  Machine.exists_reachable (machine unixInstallation [] [] twoBuilds)
    (fun system => system.hasStarted = true ∧ ¬ system.host.ReportsNew)
    (toLaunch ++ toCopy ++ [.script 0 { copied := .failed false }, .script 0 {}] ++ restarts 1) (by decide)

end Switches
end UpdateSystem
end SshProxy
