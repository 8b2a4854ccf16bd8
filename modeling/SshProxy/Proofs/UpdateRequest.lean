import SshProxy.Proofs.JobUpserts
import SshProxy.Proofs.UpdateSwitch
import SshProxy.Library.Quoting

/-! What a request for a self-update leaves in the files. Whenever the daemon is stopped, a state that
waits for a restart belongs to the newest switch script, and that script brings the version which
the state names. -/

namespace SshProxy
open Library List

namespace DaemonStateRecord

def stagedVersion (record : DaemonStateRecord) : Option Text := record.update.bind (·.stagedVersion)

def hasUpdate (record : DaemonStateRecord) (state : UpdateState) : Bool := record.update.map (·.state) = some state

end DaemonStateRecord

namespace Host

def storedJob (host : Host) : Option JobRecord := host.jobs.file.jobs.get selfUpdatePending

end Host

structure UpdateSound (install : Installation) (host : Host) : Prop where
  proper : ∀ script ∈ host.switches, script.Proper install
  older : ∀ script ∈ host.switches.tail, script.isFinished = true
  restarting : ∀ record, host.daemonFile = some record → record.isRestarting = true →
    ∃ script version, host.switches.head? = some script ∧ record.stagedVersion = some version ∧
      script.Delivers install host.files version
  healthy : ∀ record, host.daemonFile = some record → record.hasUpdate .healthy = true →
    (∃ version, record.stagedVersion = some version ∧ host.files.HasVersion install.currentExe version) ∧
      ∀ script ∈ host.switches, script.isQuiet = true
  agree : ∀ record, host.daemonFile = some record → record.updateState = .healthy → record.hasUpdate .healthy = true
  job : ∀ job, host.storedJob = some job → job.state = .healthy →
    ∃ record, host.daemonFile = some record ∧ (record.hasUpdate .healthy = true ∨ record.hasUpdate .pending = true)

namespace UpdateSound
variable {install : Installation} {host : Host} {script : Switch} {rest : List Switch}

def scripted (windows : Bool) (outside : UpdateOutside) (host : Host) (script : Switch) (rest : List Switch) : Host :=
  { host with
    files := (script.advance windows outside host.files).1
    switches := (script.advance windows outside host.files).2 :: rest }

variable (sound : UpdateSound install host)
include sound

theorem script_step (here : host.switches = script :: rest) (windows : Bool) (outside : UpdateOutside) :
    UpdateSound install (scripted windows outside host script rest) where
  proper := by
    intro other present
    rcases mem_cons.mp present with rfl | later
    · exact (sound.proper script (by rw [here]; exact mem_cons_self)).advance
    · exact sound.proper other (by rw [here]; exact mem_cons_of_mem script later)
  older := by
    intro other present
    exact sound.older other (by rw [here]; exact present)
  restarting := by
    intro record stored restarting
    obtain ⟨newest, version, head, staged, delivers⟩ := sound.restarting record stored restarting
    rw [here] at head
    cases head
    have proper := sound.proper script (by rw [here]; exact mem_cons_self)
    exact ⟨_, version, rfl, staged, delivers.advance proper⟩
  healthy := by
    intro record stored healthy
    obtain ⟨⟨version, staged, runs⟩, quiet⟩ := sound.healthy record stored healthy
    have still := Switch.advance_quiet windows outside host.files (quiet script (by rw [here]; exact mem_cons_self))
    refine ⟨⟨version, staged, runs.of_eq (congrFun still.1 _)⟩, ?_⟩
    intro other present
    rcases mem_cons.mp present with rfl | later
    · exact still.2.1
    · exact quiet other (by rw [here]; exact mem_cons_of_mem script later)
  agree := sound.agree
  job := sound.job

theorem save_record (daemon record : DaemonStateRecord)
    (restarting : record.isRestarting = true → ∃ script version, host.switches.head? = some script ∧
      record.stagedVersion = some version ∧ script.Delivers install host.files version)
    (healthy : record.hasUpdate .healthy = true →
      (∃ version, record.stagedVersion = some version ∧ host.files.HasVersion install.currentExe version) ∧
        ∀ script ∈ host.switches, script.isQuiet = true)
    (agree : record.updateState = .healthy → record.hasUpdate .healthy = true)
    (job : ∀ job, host.storedJob = some job → job.state = .healthy →
      record.hasUpdate .healthy = true ∨ record.hasUpdate .pending = true) :
    UpdateSound install { host with daemon, daemonFile := some record } where
  proper := sound.proper
  older := sound.older
  restarting := by
    intro stored same
    cases same
    exact restarting
  healthy := by
    intro stored same
    cases same
    exact healthy
  agree := by
    intro stored same
    cases same
    exact agree
  job := by
    intro stored found state
    exact ⟨record, rfl, job stored found state⟩

theorem remember (daemon : DaemonStateRecord) : UpdateSound install { host with daemon } :=
  ⟨sound.proper, sound.older, sound.restarting, sound.healthy, sound.agree, sound.job⟩

theorem run_as (running : Option Binary) : UpdateSound install { host with running } :=
  ⟨sound.proper, sound.older, sound.restarting, sound.healthy, sound.agree, sound.job⟩

theorem save_jobs (jobs : JobRegistry)
    (job : ∀ job, jobs.file.jobs.get selfUpdatePending = some job → job.state = .healthy →
      ∃ record, host.daemonFile = some record ∧ (record.hasUpdate .healthy = true ∨ record.hasUpdate .pending = true)) :
    UpdateSound install { host with jobs } :=
  ⟨sound.proper, sound.older, sound.restarting, sound.healthy, sound.agree, job⟩

end UpdateSound

namespace Host

def AllFinished (host : Host) : Prop := ∀ script ∈ host.switches, script.isFinished = true

def Unsettled (host : Host) : Prop :=
  ∀ record, host.daemonFile = some record →
    record.isRestarting = false ∧ record.hasUpdate .healthy = false ∧ record.updateState ≠ .healthy

def JobOpen (host : Host) : Prop := ∀ job, host.storedJob = some job → job.state ≠ .healthy

end Host

/-- How far `daemon_update` has come. While it works towards the launch it may know something of
the files, which nothing else writes then. -/
inductive UpdatePoint where
  | accepted
  | requested
  | working (known : Files → Prop)
  | launched (version : Text)
  | ended

structure UpdateWorking (install : Installation) (host : Host) : Prop where
  sound : UpdateSound install host
  finished : host.AllFinished
  unsettled : host.Unsettled
  jobOpen : host.JobOpen

structure UpdateLaunched (install : Installation) (version : Text) (host : Host) : Prop where
  sound : UpdateSound install host
  unsettled : host.Unsettled
  jobOpen : host.JobOpen
  delivers : ∃ script, host.switches.head? = some script ∧ script.Delivers install host.files version

namespace UpdatePoint

def holds (install : Installation) : UpdatePoint → Host → Prop
  | .accepted, host => UpdateSound install host ∧ host.AllFinished
  | .requested, host => UpdateSound install host ∧ host.AllFinished ∧ host.Unsettled
  | .working known, host => UpdateWorking install host ∧ known host.files
  | .launched version, host => UpdateLaunched install version host
  | .ended, host => UpdateSound install host

variable {install : Installation} {host : Host} {point : UpdatePoint}

theorem sound (here : point.holds install host) : UpdateSound install host := by
  cases point with
  | accepted | requested => exact here.1
  | working => exact here.1.sound
  | launched => exact here.sound
  | ended => exact here

end UpdatePoint

theorem UpdateWorking.write {install : Installation} {host : Host} (working : UpdateWorking install host) (files : Files) :
    UpdateWorking install { host with files } where
  sound :=
    { proper := working.sound.proper
      older := working.sound.older
      restarting := by
        intro record stored restarting
        rw [(working.unsettled record stored).1] at restarting
        cases restarting
      healthy := by
        intro record stored healthy
        rw [(working.unsettled record stored).2.1] at healthy
        cases healthy
      agree := working.sound.agree
      job := working.sound.job }
  finished := working.finished
  unsettled := working.unsettled
  jobOpen := working.jobOpen

abbrev UpdateOutline {α : Type} (install : Installation) (post : α → UpdatePoint → Prop) (point : UpdatePoint)
    (program : Program Host UpdateOutside α) : Prop :=
  program.Outline (fun _ _ => True) (UpdatePoint.holds install) (fun _ _ _ _ => True) post point

namespace UpdateOutline
variable {install : Installation} {point later : UpdatePoint}

def reached {α : Type} (later failed : UpdatePoint) : Except String α → UpdatePoint
  | .ok _ => later
  | .error _ => failed

abbrev Reaches {α : Type} (install : Installation) (later failed point : UpdatePoint) (program : UpdateProgram α) : Prop :=
  UpdateOutline install (fun result found => found = reached later failed result) point program.run

theorem Reaches.andThen {α β : Type} {failed : UpdatePoint} {program : UpdateProgram α} {next : α → UpdateProgram β}
    {post : Except String β → UpdatePoint → Prop} (first : Reaches install later failed point program)
    (stops : ∀ error, post (.error error) failed) (resume : ∀ value, UpdateOutline install post later (next value).run) :
    UpdateOutline install post point (program >>= next).run := by
  refine Program.Outline.andThen first ?_ ?_
  · rintro error _ rfl
    exact stops error
  · rintro value _ rfl
    exact resume value

theorem recordUpdate {update : Nat → UpdateRecord} (saved : ∀ host now, point.holds install host →
      later.holds install { host with
        daemon := host.updateRecorded now (update now), daemonFile := some (host.updateRecorded now (update now)) }) :
    Reaches install later .ended point (Host.recordUpdate update) := by
  apply Program.Outline.performed
  intro outside host _ here
  unfold Host.saveDaemon
  cases outside.save with
  | ok => exact ⟨saved host outside.now here, trivial⟩
  | error => exact ⟨(UpdatePoint.sound here).remember _, trivial⟩

theorem upsertJob {record : Nat → JobRecord} {message : String} (mine : ∀ now, (record now).id = selfUpdatePending)
    (unhealthy : ∀ now, (record now).state ≠ .healthy)
    (saved : ∀ host jobs, point.holds install host → Host.JobOpen { host with jobs } →
      later.holds install { host with jobs }) :
    Reaches install later .ended point (Host.upsertJob record message) := by
  apply Program.Outline.performed
  intro outside host _ here
  have own := mine outside.now
  cases outside.save with
  | ok =>
    refine ⟨saved host _ here ?_, trivial⟩
    intro job found
    have inMemory : (host.jobs.upsert outside.now (.ok ()) (record outside.now) message).1.get (record outside.now).id =
        some job := by
      rw [own]
      exact found
    rw [JobRegistry.upsert_get_self inMemory]
    exact unhealthy outside.now
  | error => exact ⟨(UpdatePoint.sound here).save_jobs _ (UpdatePoint.sound here).job, trivial⟩

variable {update : Nat → UpdateRecord} {record : Nat → JobRecord} {message : String} {known : Files → Prop}

def IsPlain (state : UpdateState) : Prop := state ≠ .switching ∧ state ≠ .restartDaemon ∧ state ≠ .healthy

theorem unsettled_of_plain {update : UpdateRecord} (plain : IsPlain update.state) (host : Host) (now : Nat)
    (daemon : DaemonStateRecord) :
    Host.Unsettled { host with daemon, daemonFile := some (host.updateRecorded now update) } := by
  intro record stored
  cases stored
  obtain ⟨notSwitching, notRestarting, notHealthy⟩ := plain
  simp [Host.updateRecorded, DaemonStateRecord.isRestarting, DaemonStateRecord.hasUpdate, notSwitching, notRestarting,
    notHealthy]

theorem sound_of_plain {host : Host} {now : Nat} {update : UpdateRecord} (plain : IsPlain update.state)
    (sound : UpdateSound install host) (job : host.JobOpen ∨ update.state = .pending) (daemon : DaemonStateRecord) :
    UpdateSound install { host with daemon, daemonFile := some (host.updateRecorded now update) } := by
  obtain ⟨unmoved, unhealthy, idle⟩ := unsettled_of_plain plain host now daemon _ rfl
  apply sound.save_record
  · intro restarting
    rw [unmoved] at restarting
    cases restarting
  · intro healthy
    rw [unhealthy] at healthy
    cases healthy
  · intro healthy
    exact absurd healthy idle
  · intro stored found healthy
    rcases job with unfinished | pending
    · exact absurd healthy (unfinished stored found)
    · right
      simp [Host.updateRecorded, DaemonStateRecord.hasUpdate, pending]

theorem record_request (pending : ∀ now, (update now).state = .pending) :
    Reaches install .requested .ended .accepted (Host.recordUpdate update) := by
  apply recordUpdate
  intro host now here
  have plain : IsPlain (update now).state := by
    rw [pending now]
    exact ⟨by decide, by decide, by decide⟩
  exact ⟨sound_of_plain plain here.1 (.inr (pending now)) _, here.2, unsettled_of_plain plain host now _⟩

theorem record_plain (plain : ∀ now, IsPlain (update now).state) :
    Reaches install (.working known) .ended (.working known) (Host.recordUpdate update) := by
  apply recordUpdate
  intro host now here
  obtain ⟨working, files⟩ := here
  exact ⟨⟨sound_of_plain (plain now) working.sound (.inl working.jobOpen) _, working.finished,
    unsettled_of_plain (plain now) host now _, working.jobOpen⟩, files⟩

section
variable (mine : ∀ now, (record now).id = selfUpdatePending) (unhealthy : ∀ now, (record now).state ≠ .healthy)
include mine unhealthy

theorem upsert_first :
    Reaches install (.working fun _ => True) .ended .requested (Host.upsertJob record message) := by
  apply upsertJob mine unhealthy
  intro host jobs here jobOpen
  obtain ⟨sound, finished, unsettled⟩ := here
  exact ⟨⟨sound.save_jobs jobs fun job found healthy => absurd healthy (jobOpen job found), finished, unsettled, jobOpen⟩,
    trivial⟩

theorem upsert_working :
    Reaches install (.working known) .ended (.working known) (Host.upsertJob record message) := by
  apply upsertJob mine unhealthy
  intro host jobs here jobOpen
  obtain ⟨⟨sound, finished, unsettled, _⟩, files⟩ := here
  exact ⟨⟨sound.save_jobs jobs fun job found healthy => absurd healthy (jobOpen job found), finished, unsettled, jobOpen⟩,
    files⟩

theorem upsert_last :
    Reaches install .ended .ended point (Host.upsertJob record message) := by
  apply upsertJob mine unhealthy
  intro host jobs here jobOpen
  exact (UpdatePoint.sound here).save_jobs jobs fun job found healthy => absurd healthy (jobOpen job found)

end

theorem system_call (failure : String) :
    Reaches install (.working known) (.working known) (.working known) (systemCall failure) := by
  apply Program.Outline.performed
  intro outside host _ here
  cases outside.call <;> exact ⟨here, trivial⟩

variable (source : Text)

theorem check_source : Reaches install (.working known) (.working known) (.working known) (checkSource source) := by
  apply Program.Outline.performed
  intro outside host _ here
  split <;> exact ⟨here, trivial⟩

theorem file_hash :
    Reaches install (.working known) (.working known) (.working known) (fileSha256Hex install source) := by
  apply Program.Outline.performed
  intro outside host _ here
  split <;> exact ⟨here, trivial⟩

theorem words_versionOutput (outside : UpdateOutside) (binary : Binary) :
    (versionOutput outside (.build binary)).words.getLast? = some binary.version := by
  have solid : ∀ char ∈ binary.version, Text.isWhitespace char = false := by
    intro char present
    simpa using all_eq_true.mp binary.solid char present
  unfold versionOutput
  rw [Text.words_append (by decide), Text.words_append (by decide), Text.words_solid solid binary.given]
  rw [getLast?_append]
  rfl

theorem binary_version : UpdateOutline install
      (fun result found => found = match result with
        | .ok version => .working (·.HasVersion source version)
        | .error _ => .working known)
      (.working known) (binaryVersion source).run := by
  apply Program.Outline.performed
  intro outside host _ here
  obtain ⟨working, files⟩ := here
  cases found : host.files source with
  | none => cases outside.call <;> exact ⟨⟨working, files⟩, trivial⟩
  | some content =>
    cases outside.call with
    | error => exact ⟨⟨working, files⟩, trivial⟩
    | ok =>
      dsimp only
      cases last : (versionOutput outside content).words.getLast? with
      | none => exact ⟨⟨working, files⟩, trivial⟩
      | some version =>
        refine ⟨⟨working, ?_⟩, trivial⟩
        intro binary present
        cases found.symm.trans present
        rw [words_versionOutput] at last
        exact Option.some.inj last

theorem stage_copy {source version : Text} (stagedPath : Text) :
    Reaches install (.working (·.HasVersion stagedPath version)) (.working fun _ => True)
      (.working (·.HasVersion source version)) (stageCopy source stagedPath) := by
  apply Program.Outline.performed
  intro outside host _ here
  obtain ⟨working, known⟩ := here
  cases found : host.files source with
  | none => exact ⟨⟨working, trivial⟩, trivial⟩
  | some content =>
    cases outside.copied with
    | failed damaged => cases damaged <;> exact ⟨⟨working.write _, trivial⟩, trivial⟩
    | done =>
      refine ⟨⟨working.write _, ?_⟩, trivial⟩
      intro binary present
      dsimp only at present
      rw [Function.update_self] at present
      split at present
      next => cases present
      next =>
        apply known
        rw [found]
        exact present

open Program.Outline (andThen triedThen)

def IsStaged (install : Installation) : Except String StagedUpdate → UpdatePoint → Prop
  | .ok staged, found =>
    found = .working (·.HasVersion staged.stagedPath staged.version) ∧
      staged.stagedPath = stagedFile install staged.hash
  | .error _, found => ∃ known, found = .working known

theorem stage :
    UpdateOutline install (IsStaged install) (.working fun _ => True) (stageUpdateBinary install source).run := by
  unfold stageUpdateBinary
  apply (check_source source).andThen fun _ => ⟨_, rfl⟩
  intro _
  apply (file_hash source).andThen fun _ => ⟨_, rfl⟩
  intro hash
  apply andThen (binary_version source)
  · intro error found here
    exact ⟨_, here⟩
  intro version found here
  subst here
  apply (system_call _).andThen fun _ => ⟨_, rfl⟩
  intro _
  apply (stage_copy _).andThen fun _ => ⟨_, rfl⟩
  intro _
  exact .ok ⟨rfl, rfl⟩

structure IsPlan (install : Installation) (staged : StagedUpdate) (plan : UpdateSwitchPlan) : Prop where
  current : plan.currentExe = install.currentExe
  elsewhere : staged.stagedPath ≠ install.currentExe
  backup : plan.backupPath = backupFile install staged.hash

theorem prepare (staged : StagedUpdate) :
    UpdateOutline install (fun result found => found = .working known ∧ ∀ plan, result = .ok plan → IsPlan install staged plan)
      (.working known) (prepareUpdateSwitch install staged).run := by
  unfold prepareUpdateSwitch
  apply (system_call _).andThen fun _ => ⟨rfl, nofun⟩
  intro _
  split
  next => exact .pure ⟨rfl, nofun⟩
  next elsewhere =>
    apply (system_call _).andThen fun _ => ⟨rfl, nofun⟩
    intro _
    refine .ok ⟨rfl, ?_⟩
    intro plan same
    cases same
    exact ⟨rfl, Ne.symm elsewhere, rfl⟩

theorem join_injective {base first second : Text} (firstRelative : first.head? ≠ some '/')
    (secondRelative : second.head? ≠ some '/') (same : Path.join base first = Path.join base second) : first = second := by
  unfold Path.join at same
  rw [if_neg firstRelative, if_neg secondRelative] at same
  split at same
  next => exact append_cancel_left same
  next => exact tail_eq_of_cons_eq (append_cancel_left same)

theorem backupFile_ne_stagedFile (hash : Text) : backupFile install hash ≠ stagedFile install hash := by
  intro same
  unfold backupFile stagedFile updateFile at same
  have names := join_injective (by simp) (by simp) same
  rw [append_assoc, append_assoc] at names
  exact absurd (append_inj_left names (by decide)) (by decide)

variable {staged : StagedUpdate}

theorem launch {plan : UpdateSwitchPlan} (planned : IsPlan install staged plan)
    (placed : staged.stagedPath = stagedFile install staged.hash)  :
    Reaches install (.launched staged.version) (.working (·.HasVersion staged.stagedPath staged.version))
      (.working (·.HasVersion staged.stagedPath staged.version)) (launchUpdateSwitch plan staged.stagedPath) := by
  apply Program.Outline.performed
  intro outside host _ here
  cases outside.call with
  | error => exact ⟨here, trivial⟩
  | ok =>
    obtain ⟨working, known⟩ := here
    refine ⟨⟨⟨?_, working.finished, ?_, ?_, working.sound.agree, working.sound.job⟩, working.unsettled, working.jobOpen,
      _, rfl, known, nofun⟩, trivial⟩
    · intro script present
      rcases mem_cons.mp present with rfl | earlier
      · refine ⟨planned.current, planned.elsewhere, ?_⟩
        dsimp only
        rw [planned.backup, placed]
        exact backupFile_ne_stagedFile staged.hash
      · exact working.sound.proper script earlier
    · intro record stored restarting
      rw [(working.unsettled record stored).1] at restarting
      cases restarting
    · intro record stored healthy
      rw [(working.unsettled record stored).2.1] at healthy
      cases healthy

theorem record_restart (staged : StagedUpdate) (plan : UpdateSwitchPlan) :
    Reaches install .ended .ended (.launched staged.version) (recordStaged .restartDaemon staged (some plan) none) := by
  apply recordUpdate
  intro host now here
  obtain ⟨sound, _, jobOpen, script, newest, delivers⟩ := here
  apply sound.save_record
  · intro _
    exact ⟨script, staged.version, newest, rfl, delivers⟩
  · intro healthy
    cases healthy
  · intro healthy
    cases healthy
  · intro job found healthy
    exact absurd healthy (jobOpen job found)

theorem reject {update : Nat → UpdateRecord} (plain : ∀ now, IsPlain (update now).state)
    (mine : ∀ now, (record now).id = selfUpdatePending) (unhealthy : ∀ now, (record now).state ≠ .healthy) :
    UpdateOutline install (fun _ _ => True) (.working known) (rejectUpdate (Host.recordUpdate update) record message).run := by
  apply (record_plain plain).andThen fun _ => trivial
  intro state
  apply (upsert_last mine unhealthy).andThen fun _ => trivial
  intro job
  exact .ok trivial

theorem plain_failed : IsPlain .failed := ⟨by decide, by decide, by decide⟩

theorem launch_and_record {plan : UpdateSwitchPlan} (planned : IsPlan install staged plan)
    (placed : staged.stagedPath = stagedFile install staged.hash) :
    UpdateOutline install (fun _ _ => True) (.working (·.HasVersion staged.stagedPath staged.version))
      (launchAndRecord staged plan).run := by
  unfold launchAndRecord
  apply triedThen (launch planned placed)
  intro result found here
  subst here
  cases result with
  | error => exact reject (fun _ => plain_failed) (fun _ => rfl) fun _ => by nofun
  | ok =>
    apply (record_restart staged plan).andThen fun _ => trivial
    intro _
    apply (upsert_last (fun _ => rfl) fun _ => by nofun).andThen fun _ => trivial
    intro job
    exact .ok trivial

theorem switch_staged (placed : staged.stagedPath = stagedFile install staged.hash) :
    UpdateOutline install (fun _ _ => True) (.working (·.HasVersion staged.stagedPath staged.version))
      (switchStaged install staged).run := by
  unfold switchStaged
  apply (upsert_working (fun _ => rfl) fun _ => by nofun).andThen fun _ => trivial
  intro _
  apply (record_plain fun _ => by exact ⟨nofun, nofun, nofun⟩).andThen fun _ => trivial
  intro _
  apply triedThen (prepare staged)
  intro result found here
  obtain ⟨here, planned⟩ := here
  subst here
  cases result with
  | error => exact reject (fun _ => plain_failed) (fun _ => rfl) fun _ => by nofun
  | ok plan =>
    apply (upsert_working (fun _ => rfl) fun _ => by nofun).andThen fun _ => trivial
    intro _
    exact launch_and_record (planned plan rfl) placed

theorem daemon_update (source : Option Text) :
    UpdateOutline install (fun _ _ => True) .accepted (daemonUpdate install source).run := by
  unfold daemonUpdate
  apply (record_request fun _ => rfl).andThen fun _ => trivial
  intro _
  apply (upsert_first (fun _ => rfl) fun _ => by nofun).andThen fun _ => trivial
  intro _
  cases source with
  | none => exact reject (fun _ => by exact ⟨nofun, nofun, nofun⟩) (fun _ => rfl) fun _ => by nofun
  | some source =>
    apply triedThen (stage source)
    intro result found here
    cases result with
    | error =>
      obtain ⟨known, here⟩ := here
      subst here
      exact reject (fun _ => plain_failed) (fun _ => rfl) fun _ => by nofun
    | ok staged =>
      obtain ⟨here, placed⟩ := here
      subst here
      exact switch_staged placed

end UpdateOutline
end SshProxy
