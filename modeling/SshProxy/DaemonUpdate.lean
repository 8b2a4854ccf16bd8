import SshProxy.Address
import SshProxy.Jobs
import SshProxy.Library.Machine
import SshProxy.Library.Program

/-! The self-update of the daemon. `daemon_update` stages a binary, writes a switch script and
launches it as a process of its own; the script stops the service, copies the staged binary over
the running one, or puts the old one back, and starts the service. The daemon that comes up next
infers from the stored state how the update went. -/

namespace SshProxy
open Library Program

structure Binary where
  version : Text
  build : Nat
  given : version ≠ []
  solid : version.all (fun char => !Text.isWhitespace char) = true
  deriving DecidableEq

inductive Executable where
  | build (binary : Binary)
  | other
  deriving DecidableEq

structure Installation where
  currentExe : Text
  updatesDir : Text
  windows : Bool
  sha256 : Executable → Text

inductive CopyResult where
  | done
  | failed (damaged : Bool)
  deriving DecidableEq

/-- What comes from outside in one step: the clock, how a store was saved, how a call of the
operating system went, whether it found a file, what a program printed that is no build of this one. -/
structure UpdateOutside where
  now : Nat := 0
  save : Except String Unit := .ok ()
  call : Except String Unit := .ok ()
  isFile : Bool := true
  output : Text := []
  copied : CopyResult := .done

inductive UpdateState where
  | idle | pending | staged | switching | restartDaemon | healthy | blocked | failed
  deriving DecidableEq, Repr

inductive DaemonHealth where
  | starting | healthy | degraded
  deriving DecidableEq, Repr

structure UpdateRecord where
  state : UpdateState
  message : Option String := none
  source : Option Text := none
  stagedPath : Option Text := none
  stagedHash : Option Text := none
  stagedVersion : Option Text := none
  switchScript : Option Text := none
  backupPath : Option Text := none
  lastError : Option String := none
  updatedAtUnix : Nat
  deriving DecidableEq

structure DaemonStateRecord where
  version : Text
  health : DaemonHealth
  updateState : UpdateState
  update : Option UpdateRecord
  controlEndpoint : Option Text
  name : Option Text
  startedAtUnix : Nat
  updatedAtUnix : Nat
  deriving DecidableEq

def DaemonStateRecord.new (now : Nat) (version : Text) : DaemonStateRecord where
  version
  health := .starting
  updateState := .idle
  update := none
  controlEndpoint := none
  name := none
  startedAtUnix := now
  updatedAtUnix := now

def DaemonStateRecord.isRestarting (record : DaemonStateRecord) : Bool :=
  record.updateState = .switching ∨ record.updateState = .restartDaemon

structure UpdateSwitchPlan where
  serviceName : Text
  currentExe : Text
  backupPath : Text
  scriptPath : Text
  deriving DecidableEq

structure StagedUpdate where
  source : Text
  stagedPath : Text
  hash : Text
  version : Text
  deriving DecidableEq

inductive SwitchStep where
  | prepare | backup | stop | install | startNew | restore | startOld
  | exited (status : Nat)
  deriving DecidableEq

structure Switch where
  plan : UpdateSwitchPlan
  stagedPath : Text
  position : SwitchStep
  deriving DecidableEq

abbrev Files := Text → Option Executable

/-- The machine the daemon is installed on. `daemon` is what the running daemon holds of
`daemon_state.json`; the newest switch script is the first. -/
structure Host where
  files : Files
  daemon : DaemonStateRecord
  daemonFile : Option DaemonStateRecord
  jobs : JobRegistry
  running : Option Binary
  switches : List Switch

/-- `cp` refuses to copy a file to itself; a copy that fails after it began leaves no program. -/
def Files.copy (files : Files) (copied : CopyResult) (source target : Text) : Files × Bool :=
  match files source, copied with
  | none, _ => (files, false)
  | some content, .done =>
    if source = target then (files, false) else (Function.update files target (some content), true)
  | some _, .failed damaged =>
    if source ≠ target ∧ damaged then (Function.update files target (some .other), false) else (files, false)

namespace Switch

/-- Where a script goes from a command that failed: `set -e` ends the Unix script, the Windows
script goes to its `catch`. -/
def giveUp (windows : Bool) : SwitchStep := if windows then .restore else .exited 1

/-- One command of the script: what it does to the files, and the command after it. Stopping and
starting are asked of the service manager, which acts in its own time. -/
def command (windows : Bool) (outside : UpdateOutside) (files : Files) (script : Switch) : Files × SwitchStep :=
  match script.position with
  | .prepare =>
    match outside.call with
    | .ok () => (files, .backup)
    | .error _ => (files, giveUp windows)
  | .backup =>
    if (files script.plan.currentExe).isSome then
      let (files, ok) := files.copy outside.copied script.plan.currentExe script.plan.backupPath
      (files, if ok then .stop else giveUp windows)
    else (files, .stop)
  | .stop => (files, .install)
  | .install =>
    let (files, ok) := files.copy outside.copied script.stagedPath script.plan.currentExe
    (files, if ok then .startNew else .restore)
  | .startNew => (files, .exited 0)
  | .restore =>
    if (files script.plan.backupPath).isSome then
      let (files, ok) := files.copy outside.copied script.plan.backupPath script.plan.currentExe
      (files, if windows ∧ !ok then .exited 1 else .startOld)
    else (files, .startOld)
  | .startOld => (files, .exited 1)
  | .exited status => (files, .exited status)

def advance (windows : Bool) (outside : UpdateOutside) (files : Files) (script : Switch) : Files × Switch :=
  let (files, position) := script.command windows outside files
  (files, { script with position })

def isFinished (script : Switch) : Bool :=
  match script.position with
  | .exited _ => true
  | _ => false

def hasInstalled (script : Switch) : Bool := script.position = .startNew ∨ script.position = .exited 0

end Switch

abbrev UpdateProgram := ExceptT String (Program Host UpdateOutside)

namespace Host

/-- `env!("CARGO_PKG_VERSION")` of the daemon that runs. -/
def version (host : Host) : Text := (host.running.map (·.version)).getD []

/-- `save_store`: memory is changed also when the file could not be written. -/
def saveDaemon (outside : UpdateOutside) (record : DaemonStateRecord) (host : Host) : Host × Except String Unit :=
  match outside.save with
  | .ok () => ({ host with daemon := record, daemonFile := some record }, .ok ())
  | .error error => ({ host with daemon := record }, .error error)

def look {α : Type} (read : Host → α) : UpdateProgram α := perform fun _ host => (host, .ok (read host))

def upsertJob (record : Nat → JobRecord) (message : String) : UpdateProgram JobRecord :=
  perform fun outside host =>
    let (jobs, result) := host.jobs.upsert outside.now outside.save (record outside.now) message
    ({ host with jobs }, result)

def startedRecord (host : Host) (now : Nat) (name controlEndpoint : Text) : DaemonStateRecord :=
  let update : UpdateRecord :=
    { host.daemon.update.getD { state := .healthy, updatedAtUnix := now } with
      state := .healthy, message := some "daemon restarted after staged update", updatedAtUnix := now }
  { version := host.version
    health := .healthy
    updateState := if host.daemon.isRestarting then .healthy else .idle
    update := if host.daemon.isRestarting then some update else host.daemon.update
    controlEndpoint := some controlEndpoint
    name := some name
    startedAtUnix := now
    updatedAtUnix := now }

def recordDaemonStarted (name controlEndpoint : Text) : UpdateProgram Unit :=
  perform fun outside host => host.saveDaemon outside (host.startedRecord outside.now name controlEndpoint)

def updateRecorded (host : Host) (now : Nat) (update : UpdateRecord) : DaemonStateRecord :=
  { host.daemon with
    version := host.version
    health := if update.state = .failed then .degraded else .healthy
    updateState := update.state
    update := some update
    updatedAtUnix := now }

/-- `record_daemon_update_requested` and `record_daemon_update_state`. -/
def recordUpdate (update : Nat → UpdateRecord) : UpdateProgram UpdateRecord :=
  perform fun outside host =>
    let (host, result) := host.saveDaemon outside (host.updateRecorded outside.now (update outside.now))
    (host, result.map fun _ => update outside.now)

def recordDaemonUpdateRequested (source : Option Text) : UpdateProgram UpdateRecord :=
  recordUpdate fun now => { state := .pending, source, updatedAtUnix := now }

def recordDaemonUpdateState (state : UpdateState) (source stagedPath stagedHash stagedVersion switchScript backupPath : Option Text)
    (lastError : Option String) : UpdateProgram UpdateRecord :=
  recordUpdate fun now =>
    { state, source, stagedPath, stagedHash, stagedVersion, switchScript, backupPath, lastError, updatedAtUnix := now }

end Host

def selfUpdatePending : Text := "self-update:pending".toList

def updateJob (now : Nat) : JobRecord := .new now selfUpdatePending .selfUpdate

section
variable (install : Installation)

def updateFile (start : String) (hash : Text) (suffix : Text) : Text :=
  Path.join install.updatesDir (start.toList ++ hash.take 12 ++ suffix)

def exeSuffix : Text := if install.windows then ".exe".toList else []

def stagedFile (hash : Text) : Text := updateFile install "ssh_proxy-staged-" hash (exeSuffix install)

def backupFile (hash : Text) : Text := updateFile install "ssh_proxy-backup-" hash (exeSuffix install)

def scriptFile (hash : Text) : Text :=
  updateFile install "ssh_proxy-self-update-" hash (if install.windows then ".ps1".toList else ".sh".toList)

/-- What `--version` prints: the command's name and the version, on one line. -/
def versionOutput (outside : UpdateOutside) : Executable → Text
  | .build binary => "ssh_proxy".toList ++ ' ' :: (binary.version ++ ['\n'])
  | .other => outside.output

def fileSha256Hex (source : Text) : UpdateProgram Text :=
  perform fun outside host =>
    match host.files source, outside.call with
    | some content, .ok () => (host, .ok (install.sha256 content))
    | _, _ => (host, .error ("failed to open update source " ++ String.ofList source))

def binaryVersion (path : Text) : UpdateProgram Text :=
  perform fun outside host =>
    match host.files path, outside.call with
    | some content, .ok () =>
      match (versionOutput outside content).words.getLast? with
      | some version => (host, .ok version)
      | none => (host, .error "staged update candidate returned empty --version output")
    | _, .error error => (host, .error error)
    | none, .ok () => (host, .error ("failed to run staged update candidate " ++ String.ofList path))

def systemCall (failure : String) : UpdateProgram Unit :=
  perform fun outside host => (host, outside.call.mapError fun _ => failure)

def checkSource (source : Text) : UpdateProgram Unit :=
  perform fun outside host =>
    match outside.call, outside.isFile with
    | .error _, _ => (host, .error ("failed to read update source " ++ String.ofList source))
    | .ok (), false => (host, .error ("update source " ++ String.ofList source ++ " is not a file"))
    | .ok (), true => (host, .ok ())

/-- `fs::copy`, which empties a file that it copies to itself. -/
def stageCopy (source stagedPath : Text) : UpdateProgram Unit :=
  perform fun outside host =>
    let failure := "failed to stage update binary " ++ String.ofList source ++ " to " ++ String.ofList stagedPath
    match host.files source, outside.copied with
    | none, _ => (host, .error failure)
    | some content, .done =>
      let content := if source = stagedPath then .other else content
      ({ host with files := Function.update host.files stagedPath (some content) }, .ok ())
    | some _, .failed true => ({ host with files := Function.update host.files stagedPath (some .other) }, .error failure)
    | some _, .failed false => (host, .error failure)

def stageUpdateBinary (source : Text) : UpdateProgram StagedUpdate := do
  checkSource source
  let hash ← fileSha256Hex install source
  let version ← binaryVersion source
  systemCall ("failed to create update staging dir " ++ String.ofList install.updatesDir)
  stageCopy source (stagedFile install hash)
  return { source, stagedPath := stagedFile install hash, hash, version }

/-- Paths are canonical, so two that name one file are equal. -/
def prepareUpdateSwitch (staged : StagedUpdate) : UpdateProgram UpdateSwitchPlan := do
  systemCall "failed to locate running daemon binary"
  if install.currentExe = staged.stagedPath then throw "staged update path is the currently running binary"
  else
    let plan : UpdateSwitchPlan :=
      { serviceName := "ssh_proxy".toList
        currentExe := install.currentExe
        backupPath := backupFile install staged.hash
        scriptPath := scriptFile install staged.hash }
    systemCall ("failed to write daemon self-update script " ++ String.ofList plan.scriptPath)
    return plan

def launchUpdateSwitch (plan : UpdateSwitchPlan) (stagedPath : Text) : UpdateProgram Unit :=
  perform fun outside host =>
    match outside.call with
    | .ok () => ({ host with switches := { plan, stagedPath, position := .prepare } :: host.switches }, .ok ())
    | .error _ => (host, .error ("failed to launch daemon self-update script " ++ String.ofList plan.scriptPath))

structure UpdateResponse where
  ok : Bool
  job : JobRecord
  updateState : UpdateRecord
  switch : Option UpdateSwitchPlan

open Host

def rejectUpdate (update : UpdateProgram UpdateRecord) (job : Nat → JobRecord) (message : String) :
    UpdateProgram UpdateResponse := do
  let updateState ← update
  let job ← upsertJob job message
  return { ok := false, job, updateState, switch := none }

def missingSource : UpdateProgram UpdateResponse :=
  let error := "daemon update requires --source in v0.3 staged mode"
  rejectUpdate (recordDaemonUpdateState .blocked none none none none none none (some error))
    (fun now => ((updateJob now).failed now error (some "missing_update_source")).withNextAction
      "ssh_proxy daemon update --source <path-to-new-binary>")
    "daemon self-update missing source"

def failedJob (now : Nat) (error blocker next : String) : JobRecord :=
  (((updateJob now).transition now .failed .failed 100).failed now error (some blocker)).withNextAction next

def stageFailed (source : Text) (error : String) : UpdateProgram UpdateResponse :=
  rejectUpdate (recordDaemonUpdateState .failed (some source) none none none none none (some error))
    (fun now => failedJob now error "update_stage_failed" "pass a readable ssh_proxy binary with --source")
    "daemon self-update staging failed"

def recordStaged (state : UpdateState) (staged : StagedUpdate) (plan : Option UpdateSwitchPlan) (error : Option String) :
    UpdateProgram UpdateRecord :=
  recordDaemonUpdateState state (some staged.source) (some staged.stagedPath) (some staged.hash) (some staged.version)
    (plan.map (·.scriptPath)) (plan.map (·.backupPath)) error

def prepareFailed (staged : StagedUpdate) (error : String) : UpdateProgram UpdateResponse :=
  rejectUpdate (recordStaged .failed staged none (some error))
    (fun now => failedJob now error "update_switch_prepare_failed" "run ssh_proxy daemon install --scope system --elevate")
    "daemon self-update switch preparation failed"

def launchFailed (staged : StagedUpdate) (plan : UpdateSwitchPlan) (error : String) : UpdateProgram UpdateResponse :=
  rejectUpdate (recordStaged .failed staged (some plan) (some error))
    (fun now => failedJob now error "update_switch_launch_failed" "run ssh_proxy daemon install --scope system --elevate")
    "daemon self-update switch launch failed"

def launchAndRecord (staged : StagedUpdate) (plan : UpdateSwitchPlan) : UpdateProgram UpdateResponse := do
  match ← tried (launchUpdateSwitch plan staged.stagedPath) with
  | .error error => launchFailed staged plan error
  | .ok () =>
    let updateState ← recordStaged .restartDaemon staged (some plan) none
    let job ← upsertJob
      (fun now => ((updateJob now).transition now .waitingRetry .restartDaemon 80).withNextAction
        "wait for daemon service restart and control endpoint health")
      "daemon self-update switch launched; waiting for restart"
    return { ok := true, job, updateState, switch := some plan }

def switchStaged (staged : StagedUpdate) : UpdateProgram UpdateResponse := do
  let _ ← upsertJob
    (fun now => ((updateJob now).transition now .running .verifyUpdate 55).withNextAction "verify_staged_binary")
    "daemon self-update binary staged"
  let _ ← recordStaged .staged staged none none
  match ← tried (prepareUpdateSwitch install staged) with
  | .error error => prepareFailed staged error
  | .ok plan =>
    let _ ← upsertJob
      (fun now => ((updateJob now).transition now .running .switchBinary 70).withNextAction
        "launch_supervised_update_switch")
      "daemon self-update switch script prepared"
    launchAndRecord staged plan

def daemonUpdate (source : Option Text) : UpdateProgram UpdateResponse := do
  let _ ← recordDaemonUpdateRequested source
  let _ ← upsertJob
    (fun now => ((updateJob now).transition now .running .stageUpdate 10).withNextAction "stage_new_binary")
    "daemon self-update requested"
  match source with
  | none => missingSource
  | some source =>
    match ← tried (stageUpdateBinary install source) with
    | .error error => stageFailed source error
    | .ok staged => switchStaged install staged

end

def DaemonStateRecord.updateHealthy (record : DaemonStateRecord) : Bool :=
  record.update.map (·.state) = some .healthy ∨ record.updateState = .healthy

def completedJob (now : Nat) (job : JobRecord) : JobRecord :=
  { job.transition now .healthy .healthy 100 with blocker := none, nextAction := none, lastError := none }

def reconcileDaemonUpdateJob : UpdateProgram Unit := do
  let healthy ← Host.look (·.daemon.updateHealthy)
  if healthy then
    match ← Host.look (·.jobs.get selfUpdatePending) with
    | none => pure ()
    | some job =>
      if job.state.isTerminal then pure ()
      else
        let _ ← Host.upsertJob (completedJob · job) "daemon self-update completed after restart"
  else pure ()

/-- The part of `run_daemon_inner` that settles an update. Requests are served already. -/
def daemonStartup (name controlEndpoint : Text) : UpdateProgram Unit := do
  Host.recordDaemonStarted name controlEndpoint
  reconcileDaemonUpdateJob

inductive DaemonRole where
  | startup | update
  deriving DecidableEq

structure DaemonTask where
  role : DaemonRole
  program : Program Host UpdateOutside (Except String Unit)

def DaemonTask.isFinished (task : DaemonTask) : Bool := task.program.result?.isSome

structure UpdateSystem where
  host : Host
  tasks : List DaemonTask

inductive UpdateAction where
  | request (source : Option Text)
  | task (index : Nat) (outside : UpdateOutside)
  | script (index : Nat) (outside : UpdateOutside)
  | kill
  | start (now : Nat)

namespace UpdateSystem

def endDaemon (system : UpdateSystem) : UpdateSystem :=
  { host := { system.host with running := none }, tasks := [] }

def taskStep (system : UpdateSystem) (index : Nat) (outside : UpdateOutside) : UpdateSystem :=
  match system.tasks[index]? with
  | some { role, program := .step write next } =>
    let program := next outside system.host
    let after : UpdateSystem :=
      { host := write outside system.host, tasks := system.tasks.set index { role, program } }
    match role, program.result? with
    | .startup, some (.error _) => after.endDaemon
    | _, _ => after
  | _ => system

def scriptStep (install : Installation) (system : UpdateSystem) (index : Nat) (outside : UpdateOutside) : UpdateSystem :=
  match system.host.switches[index]? with
  | some script =>
    let (files, script) := script.advance install.windows outside system.host.files
    { system with host := { system.host with files, switches := system.host.switches.set index script } }
  | none => system

def startDaemon (name controlEndpoint : Text) (system : UpdateSystem) (now : Nat) (binary : Binary) : UpdateSystem where
  host := { system.host with
    running := some binary
    daemon := system.host.daemonFile.getD (.new now binary.version)
    jobs := system.host.jobs.load }
  tasks := [{ role := .startup, program := (daemonStartup name controlEndpoint).run }]

def next (install : Installation) (name controlEndpoint : Text) (system : UpdateSystem) : UpdateAction → UpdateSystem
  | .request source =>
    let program := (daemonUpdate install source).run.bind fun result => .pure (result.map fun _ => ())
    { system with tasks := system.tasks.filter (!·.isFinished) ++ [{ role := .update, program }] }
  | .task index outside => system.taskStep index outside
  | .script index outside => system.scriptStep install index outside
  | .kill => system.endDaemon
  | .start now =>
    match system.host.files install.currentExe with
    | some (.build binary) => system.startDaemon name controlEndpoint now binary
    | _ => system

/-- The service manager runs one daemon at a time. -/
def enabled (system : UpdateSystem) : UpdateAction → Prop
  | .request _ => system.host.running.isSome
  | .task _ _ => True
  | .script _ _ => True
  | .kill => system.host.running.isSome
  | .start _ => system.host.running.isNone

instance (system : UpdateSystem) (action : UpdateAction) : Decidable (system.enabled action) := by
  cases action <;> dsimp only [enabled] <;> infer_instance

def fresh (files : Files) : UpdateSystem where
  host :=
    { files
      daemon := .new 0 []
      daemonFile := none
      jobs := {}
      running := none
      switches := [] }
  tasks := []

abbrev machine (install : Installation) (name controlEndpoint : Text) (files : Files) :
    Machine UpdateSystem UpdateAction where
  initial := fresh files
  enabled := enabled
  next := next install name controlEndpoint

end UpdateSystem
end SshProxy
