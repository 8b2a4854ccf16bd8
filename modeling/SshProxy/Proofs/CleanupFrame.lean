import SshProxy.RemoteCleanup

/-! What the cleanup of a remote host may touch. It looks at the policy before it asks the helper,
but not before it cleans the VS Code settings and runs its script, which cleans every Git
configuration unless the helper has cleaned those it was allowed to. -/

namespace SshProxy
open Library List

/-- Only what the policy allowed to be set is cleaned up. -/
structure CleanupFrame (policy : ApplyPolicy) (before after : RemoteHost) : Prop where
  settings : policy.vscodeSettings = false → ∀ dir, (after.settings dir).content = (before.settings dir).content
  git : policy.git = false ∨ (policy.gitGlobal = false ∧ policy.gitWorkspace = false) →
    after.globalGit = before.globalGit ∧ after.localGit = before.localGit
  gitGlobal : policy.gitGlobal = false → after.globalGit = before.globalGit
  gitWorkspace : policy.gitWorkspace = false → after.localGit = before.localGit
  serverEnv : policy.serverEnv = false → after.serverEnv = before.serverEnv

def ApplyPolicy.HelperCompletes (policy : ApplyPolicy) (workspacePaths : List String) (helper : Nat → HelperAttempt) :
    Prop := ∀ index < (policy.gitCleanups workspacePaths).length, (helper index).reply.succeeded = true

structure ApplyPolicy.AllowsCleanup (policy : ApplyPolicy) (workspacePaths : List String)
    (helper : Nat → HelperAttempt) : Prop where
  vscodeSettings : policy.vscodeSettings = true
  serverEnv : policy.serverEnv = true
  git : policy.git = true
  scopes : policy.gitGlobal = true ∧ policy.gitWorkspace = true ∨
    (policy.gitGlobal = true ∨ policy.gitWorkspace = true) ∧ policy.HelperCompletes workspacePaths helper ∨
    policy.gitGlobal = true ∧ workspacePaths = []

namespace RemoteHost
variable {helper : Nat → HelperAttempt} {host : RemoteHost} {workspacePaths : List String} {policy : ApplyPolicy}

/-- Only Git configurations have changed, and of those only what the policy has. -/
structure GitFrame (policy : ApplyPolicy) (before after : RemoteHost) : Prop where
  rest : after = { before with globalGit := after.globalGit, localGit := after.localGit }
  globalGit : policy.git = false ∨ policy.gitGlobal = false → after.globalGit = before.globalGit
  localGit : policy.git = false ∨ policy.gitWorkspace = false → after.localGit = before.localGit

theorem GitFrame.refl : GitFrame policy host host := ⟨rfl, fun _ => rfl, fun _ => rfl⟩

theorem GitFrame.admin {before : RemoteHost} (frame : GitFrame policy before host) (git : policy.git = true)
    {intent : GitCleanup} (listed : intent ∈ policy.gitCleanups workspacePaths) (leaves : GitConfig → GitConfig) :
    GitFrame policy before (host.admin intent leaves) := by
  obtain ⟨rest, globally, locally⟩ := frame
  rcases mem_append.mp listed with listed | listed
  · split at listed
    next has =>
      cases mem_singleton.mp listed
      refine ⟨congrArg (fun other => { other with globalGit := leaves host.globalGit }) rest, ?_, locally⟩
      simp [git, has]
    next => cases listed
  · split at listed
    next has =>
      obtain ⟨path, _, rfl⟩ := mem_map.mp listed
      unfold RemoteHost.admin
      dsimp only
      split
      next file _ =>
        refine ⟨congrArg (fun other => { other with localGit := (host.cleanLocalGit file leaves).localGit }) rest,
          globally, ?_⟩
        simp [git, has]
      next => exact ⟨rest, globally, locally⟩
    next => cases listed

theorem runIntents_keeps (keep : RemoteHost → Prop) {intents : List GitCleanup}
    (step : ∀ intent ∈ intents, ∀ leaves host, keep host → keep (host.admin intent leaves)) (index : Nat)
    (start : keep host) : keep (runRemoteAdminIntents helper index intents host).2 := by
  induction intents generalizing index host with
  | nil => exact start
  | cons intent rest ih =>
    have next := step intent mem_cons_self (helper index).leaves host start
    rw [runRemoteAdminIntents]
    split
    next => exact ih (fun later present => step later (mem_cons_of_mem intent present)) (index + 1) next
    next => exact next

theorem runIntents_done (index : Nat) (intents : List GitCleanup) (host : RemoteHost) :
    (runRemoteAdminIntents helper index intents host).1 = true ↔
      ∀ offset < intents.length, (helper (index + offset)).reply.succeeded = true := by
  induction intents generalizing index host with
  | nil => simp [runRemoteAdminIntents]
  | cons intent rest ih =>
    rw [runRemoteAdminIntents, length_cons, Nat.forall_lt_succ_left]
    cases first : (helper index).reply.succeeded with
    | false => simp
    | true => simp [ih, Nat.add_assoc, Nat.add_comm 1]

theorem helper_done (host : RemoteHost) : (tryCleanupGitConfigWithHelper policy workspacePaths helper host).1 = true ↔
      policy.HelperCompletes workspacePaths helper := by
  simp only [tryCleanupGitConfigWithHelper, runIntents_done, ApplyPolicy.HelperCompletes, Nat.zero_add]

theorem unsetProxies_idem (config : GitConfig) : config.unsetProxies.unsetProxies = config.unsetProxies := by
  simp only [GitConfig.unsetProxies, filter_filter]
  refine filter_congr ?_
  intro entry _
  cases decide (entry.1 ≠ "http.proxy") <;> cases decide (entry.1 ≠ "https.proxy") <;> rfl

theorem cleanupWorkspaceGit_eq (host : RemoteHost) (path : String) :
    ∃ localGit, host.cleanupWorkspaceGit path = { host with localGit } := by
  unfold cleanupWorkspaceGit
  split
  next => exact ⟨_, rfl⟩
  next => exact ⟨_, rfl⟩

theorem cleanupWorkspaces_eq (host : RemoteHost) (paths : List String) :
    ∃ localGit, paths.foldl cleanupWorkspaceGit host = { host with localGit } := by
  induction paths generalizing host with
  | nil => exact ⟨_, rfl⟩
  | cons path rest ih =>
    obtain ⟨localGit, first⟩ := cleanupWorkspaceGit_eq host path
    obtain ⟨_, later⟩ := ih { host with localGit }
    rw [foldl_cons, first]
    exact ⟨_, later⟩

theorem scriptGit_eq (host : RemoteHost) (workspacePaths : List String) :
    ∃ globalGit localGit, host.scriptGit workspacePaths = { host with globalGit, localGit } := by
  unfold scriptGit
  split
  next =>
    obtain ⟨_, cleaned⟩ := cleanupWorkspaces_eq { host with globalGit := host.globalGit.unsetProxies } workspacePaths
    exact ⟨_, _, cleaned⟩
  next => exact ⟨_, _, rfl⟩

theorem cleanupWorkspaceGit_localGit (host : RemoteHost) (path file : String) :
    (host.cleanupWorkspaceGit path).localGit file =
      if host.worktree path = some file then (host.localGit file).unsetProxies else host.localGit file := by
  cases found : host.worktree path with
  | none => simp [cleanupWorkspaceGit, found]
  | some other =>
    by_cases same : other = file
    · subst same
      simp [cleanupWorkspaceGit, found, cleanLocalGit]
    · simp [cleanupWorkspaceGit, found, cleanLocalGit, same, Function.update_of_ne (Ne.symm same)]

theorem cleanupWorkspaces_of_clean {file : String} (paths : List String)
    (clean : (host.localGit file).unsetProxies = host.localGit file) :
    (paths.foldl cleanupWorkspaceGit host).localGit file = host.localGit file := by
  induction paths generalizing host with
  | nil => rfl
  | cons path rest ih =>
    have kept : (host.cleanupWorkspaceGit path).localGit file = host.localGit file := by
      rw [cleanupWorkspaceGit_localGit, clean, ite_self]
    rw [foldl_cons, ih (by rw [kept, clean]), kept]

theorem cleanupWorkspaces_localGit {path file : String} {paths : List String} (listed : path ∈ paths)
    (found : host.worktree path = some file) :
    (paths.foldl cleanupWorkspaceGit host).localGit file = (host.localGit file).unsetProxies := by
  induction paths generalizing host with
  | nil => cases listed
  | cons first rest ih =>
    have cleaned := cleanupWorkspaceGit_localGit host first file
    rw [foldl_cons]
    by_cases here : host.worktree first = some file
    · rw [if_pos here] at cleaned
      rw [cleanupWorkspaces_of_clean rest (by rw [cleaned, unsetProxies_idem]), cleaned]
    · rw [if_neg here] at cleaned
      rcases mem_cons.mp listed with rfl | later
      · exact absurd found here
      · obtain ⟨_, same⟩ := cleanupWorkspaceGit_eq host first
        rw [ih later (by rw [same, found]), cleaned]

/-- The helper's part of a cleanup: whether it has cleaned the Git configurations, and the host
it leaves. -/
def afterHelper (policy : ApplyPolicy) (workspacePaths : List String) (helper : Nat → HelperAttempt)
    (host : RemoteHost) : Bool × RemoteHost :=
  if policy.git && (policy.gitGlobal || policy.gitWorkspace) then
    tryCleanupGitConfigWithHelper policy workspacePaths helper host
  else (false, host)

theorem afterHelper_frame : GitFrame policy host (afterHelper policy workspacePaths helper host).2 := by
  unfold afterHelper
  split
  next asked =>
    rw [Bool.and_eq_true] at asked
    exact runIntents_keeps _ (fun _ listed leaves _ frame => frame.admin asked.1 listed leaves) 0 .refl
  next => exact .refl

theorem afterHelper_done (host : RemoteHost) : (afterHelper policy workspacePaths helper host).1 = true ↔
      policy.git = true ∧ (policy.gitGlobal = true ∨ policy.gitWorkspace = true) ∧
        policy.HelperCompletes workspacePaths helper := by
  unfold afterHelper
  split
  next asked =>
    rw [Bool.and_eq_true, Bool.or_eq_true] at asked
    rw [helper_done, ← and_assoc, iff_and_self]
    exact fun _ => asked
  next idle =>
    rw [Bool.and_eq_true, Bool.or_eq_true] at idle
    simp only [Bool.false_eq_true, false_iff]
    intro completes
    exact idle ⟨completes.1, completes.2.1⟩

theorem cleanup_cases {Value : Type} (json : SerdeJson Value) (policy : ApplyPolicy) (workspacePaths : List String)
    (helper : Nat → HelperAttempt) (host : RemoteHost) :
    let settings := (json.cleanupRemoteMachineSettings host.settings policy.serverDir proxyEnvKeys).2
    let helped := afterHelper policy workspacePaths helper { host with settings }
    host.connected ≠ .ok () ∧ (cleanupRemoteSettings json policy workspacePaths helper host).2 = host ∨
    (cleanupRemoteSettings json policy workspacePaths helper host).2 = { host with settings } ∨
    (cleanupRemoteSettings json policy workspacePaths helper host).2 =
      (helped.2.runCleanupScript policy.serverDir workspacePaths (!helped.1)).2 := by
  unfold cleanupRemoteSettings
  split
  next _ failed => exact .inl ⟨by rw [failed]; exact nofun, rfl⟩
  next =>
    split
    next _ settings cleaned =>
      rw [cleaned]
      exact .inr (.inl rfl)
    next settings cleaned =>
      rw [cleaned]
      exact .inr (.inr rfl)

theorem script_git (host : RemoteHost) (serverDir : String) (workspacePaths : List String) :
    (host.runCleanupScript serverDir workspacePaths false).2.globalGit = host.globalGit ∧
      (host.runCleanupScript serverDir workspacePaths false).2.localGit = host.localGit := by
  unfold runCleanupScript
  cases host.scriptStarts with
  | false | true => exact ⟨rfl, rfl⟩

theorem script_noWorkspaces (host : RemoteHost) (serverDir : String) (includeGit : Bool) :
    (host.runCleanupScript serverDir [] includeGit).2.localGit = host.localGit := by
  unfold runCleanupScript cleanupScript scriptGit
  cases host.scriptStarts with
  | false => rfl
  | true =>
    cases includeGit with
    | false => rfl
    | true =>
      cases installed : host.gitInstalled with
      | false | true => rfl

section
variable (starts : host.scriptStarts = true) (installed : host.gitInstalled = true) (serverDir : String)
include starts installed

theorem script_eq (workspacePaths : List String) : (host.runCleanupScript serverDir workspacePaths true).2 =
      (workspacePaths.foldl cleanupWorkspaceGit { host with globalGit := host.globalGit.unsetProxies }).scriptFiles
        serverDir := by
  rw [runCleanupScript, if_pos starts, cleanupScript, if_pos rfl, scriptGit, if_pos installed]

theorem script_globalGit (workspacePaths : List String) :
    (host.runCleanupScript serverDir workspacePaths true).2.globalGit = host.globalGit.unsetProxies := by
  obtain ⟨_, cleaned⟩ := cleanupWorkspaces_eq { host with globalGit := host.globalGit.unsetProxies } workspacePaths
  rw [script_eq starts installed, cleaned]
  rfl

theorem script_localGit {path file : String} (listed : path ∈ workspacePaths) (found : host.worktree path = some file) :
    (host.runCleanupScript serverDir workspacePaths true).2.localGit file = (host.localGit file).unsetProxies := by
  let cleaned : RemoteHost := { host with globalGit := host.globalGit.unsetProxies }
  have located : cleaned.worktree path = some file := found
  rw [script_eq starts installed]
  exact cleanupWorkspaces_localGit listed located

end

theorem scriptFiles_serverEnv (host : RemoteHost) (serverDir : String) :
    (host.scriptFiles serverDir).serverEnv serverDir =
      (host.serverEnv serverDir).map fun text => dropManagedLines false (textLines text) := Function.update_self ..

theorem script_serverEnv (starts : host.scriptStarts = true) (serverDir : String) (workspacePaths : List String)
    (includeGit : Bool) : (host.runCleanupScript serverDir workspacePaths includeGit).2.serverEnv serverDir =
      (host.serverEnv serverDir).map fun text => dropManagedLines false (textLines text) := by
  rw [runCleanupScript, if_pos starts, cleanupScript, scriptFiles_serverEnv]
  cases includeGit with
  | false => rfl
  | true =>
    obtain ⟨_, _, cleaned⟩ := scriptGit_eq host workspacePaths
    rw [if_pos rfl, cleaned]

theorem script_settings (host : RemoteHost) (serverDir : String) (workspacePaths : List String) (includeGit : Bool) :
    (host.runCleanupScript serverDir workspacePaths includeGit).2.settings = host.settings := by
  rw [runCleanupScript, cleanupScript]
  split
  next =>
    split
    next =>
      obtain ⟨_, _, cleaned⟩ := scriptGit_eq host workspacePaths
      rw [cleaned]
      rfl
    next => rfl
  next => rfl

section
variable {Value : Type} {json : SerdeJson Value}

theorem cleanup_settings (connected : host.connected = .ok ()) :
    (cleanupRemoteSettings json policy workspacePaths helper host).2.settings =
      (json.cleanupRemoteMachineSettings host.settings policy.serverDir proxyEnvKeys).2 := by
  rcases cleanup_cases json policy workspacePaths helper host with ⟨failed, _⟩ | stopped | went
  · exact absurd connected failed
  · rw [stopped]
  · rw [went, script_settings, afterHelper_frame.rest]

variable (allowed : policy.AllowsCleanup workspacePaths helper)
include allowed

theorem cleanup_globalGit (excluded : policy.gitGlobal = false) (host : RemoteHost) :
    (cleanupRemoteSettings json policy workspacePaths helper host).2.globalGit = host.globalGit := by
  rcases cleanup_cases json policy workspacePaths helper host with ⟨_, idle⟩ | stopped | went
  · rw [idle]
  · rw [stopped]
  · have asked : (policy.gitGlobal = true ∨ policy.gitWorkspace = true) ∧
        policy.HelperCompletes workspacePaths helper := by
      rcases allowed.scopes with both | completes | only
      · exact absurd both.1 (by rw [excluded]; decide)
      · exact completes
      · exact absurd only.1 (by rw [excluded]; decide)
    rw [went, (afterHelper_done _).mpr ⟨allowed.git, asked⟩, Bool.not_true, (script_git _ _ _).1,
      afterHelper_frame.globalGit (.inr excluded)]

theorem cleanup_localGit (excluded : policy.gitWorkspace = false) (host : RemoteHost) :
    (cleanupRemoteSettings json policy workspacePaths helper host).2.localGit = host.localGit := by
  rcases cleanup_cases json policy workspacePaths helper host with ⟨_, idle⟩ | stopped | went
  · rw [idle]
  · rw [stopped]
  · rcases allowed.scopes with both | completes | ⟨_, rfl⟩
    · exact absurd both.2 (by rw [excluded]; decide)
    · rw [went, (afterHelper_done _).mpr ⟨allowed.git, completes⟩, Bool.not_true, (script_git _ _ _).2,
        afterHelper_frame.localGit (.inr excluded)]
    · rw [went, script_noWorkspaces, afterHelper_frame.localGit (.inr excluded)]

theorem cleanupFrame_of_allowed (host : RemoteHost) :
    CleanupFrame policy host (cleanupRemoteSettings json policy workspacePaths helper host).2 where
  settings := fun excluded => absurd allowed.vscodeSettings (by rw [excluded]; decide)
  git := by
    rintro (excluded | ⟨notGlobal, notWorkspace⟩)
    · exact absurd allowed.git (by rw [excluded]; decide)
    · exact ⟨cleanup_globalGit allowed notGlobal host, cleanup_localGit allowed notWorkspace host⟩
  gitGlobal := fun excluded => cleanup_globalGit allowed excluded host
  gitWorkspace := fun excluded => cleanup_localGit allowed excluded host
  serverEnv := fun excluded => absurd allowed.serverEnv (by rw [excluded]; decide)

end

/-- A host with a proxy in every Git configuration, a server environment without a newline at its
end, and the given VS Code settings. -/
def proxied (settings : Text) : RemoteHost where
  settings := fun _ => { content := some settings }
  gitInstalled := true
  globalGit := [("http.proxy", "http://127.0.0.1:8080")]
  localGit := fun _ => [("http.proxy", "http://127.0.0.1:8080")]
  worktree := fun _ => some ".git/config"
  helperWorktree := fun _ => some ".git/config"
  serverEnv := fun _ => some "umask 077".toList
  statusFile := fun _ => true

section
variable {Value : Type} {json : SerdeJson Value}

theorem cleanup_proxied (json : SerdeJson Value) (policy : ApplyPolicy) (workspacePaths : List String)
    (helper : Nat → HelperAttempt) : (cleanupRemoteSettings json policy workspacePaths helper (proxied [])).2 =
      ((afterHelper policy workspacePaths helper (proxied [])).2.runCleanupScript policy.serverDir workspacePaths
        (!(afterHelper policy workspacePaths helper (proxied [])).1)).2 := rfl

theorem proxied_ready (policy : ApplyPolicy) (workspacePaths : List String) (helper : Nat → HelperAttempt) :
    let host := (afterHelper policy workspacePaths helper (proxied [])).2
    host.scriptStarts = true ∧ host.gitInstalled = true ∧ (∀ path, host.worktree path = some ".git/config") ∧
      ∀ serverDir, host.serverEnv serverDir = some "umask 077".toList := by
  rw [afterHelper_frame.rest]
  exact ⟨rfl, rfl, fun _ => rfl, fun _ => rfl⟩

theorem proxied_serverEnv (json : SerdeJson Value) (policy : ApplyPolicy) (workspacePaths : List String)
    (helper : Nat → HelperAttempt) :
    (cleanupRemoteSettings json policy workspacePaths helper (proxied [])).2.serverEnv policy.serverDir =
      some "umask 077\n".toList := by
  obtain ⟨starts, _, _, unchanged⟩ := proxied_ready policy workspacePaths helper
  rw [cleanup_proxied, script_serverEnv starts, unchanged]
  decide

theorem proxied_globalGit (excluded : policy.git = false ∨ policy.gitGlobal = false)
    (undone : (afterHelper policy workspacePaths helper (proxied [])).1 = false) :
    (cleanupRemoteSettings json policy workspacePaths helper (proxied [])).2.globalGit = [] := by
  obtain ⟨starts, installed, _, _⟩ := proxied_ready policy workspacePaths helper
  rw [cleanup_proxied, undone, Bool.not_false, script_globalGit starts installed,
    afterHelper_frame.globalGit excluded]
  rfl

theorem proxied_localGit (excluded : policy.git = false ∨ policy.gitWorkspace = false)
    (undone : (afterHelper policy workspacePaths helper (proxied [])).1 = false) (workspaces : workspacePaths ≠ []) :
    (cleanupRemoteSettings json policy workspacePaths helper (proxied [])).2.localGit ".git/config" = [] := by
  obtain ⟨starts, installed, located, _⟩ := proxied_ready policy workspacePaths helper
  obtain ⟨path, listed⟩ := exists_mem_of_ne_nil workspacePaths workspaces
  rw [cleanup_proxied, undone, Bool.not_false, script_localGit starts installed _ listed (located path),
    afterHelper_frame.localGit excluded]
  rfl

theorem proxied_settings {settings text : Text} (nonblank : settings.trim ≠ [])
    (rendered : json.renderSettings (json.cleanSettings proxyEnvKeys (json.parseSettingsObject settings)) = .ok text) :
    ((cleanupRemoteSettings json policy workspacePaths helper (proxied settings)).2.settings policy.serverDir).content =
      some text := by
  have read : SerdeJson.readRemoteMachineSettings (proxied settings).settings policy.serverDir = .ok settings := rfl
  rw [cleanup_settings rfl, SerdeJson.cleanupRemoteMachineSettings, read]
  simp only [nonblank, if_false, SerdeJson.writeRemoteMachineSettings, rendered, RemoteFiles.writeArtifact, proxied, if_true,
    Function.update_self]

theorem settings_change (writes : ∀ value, ∃ text, json.toStringPretty value = .ok text) :
    ∃ host : RemoteHost, ((cleanupRemoteSettings json policy workspacePaths helper host).2.settings
      policy.serverDir).content ≠ (host.settings policy.serverDir).content := by
  have alike : json.parseSettingsObject "x ".toList = json.parseSettingsObject "x".toList := rfl
  obtain ⟨pretty, written⟩ :=
    writes (json.object (json.cleanSettings proxyEnvKeys (json.parseSettingsObject "x".toList)))
  have rendered : json.renderSettings (json.cleanSettings proxyEnvKeys (json.parseSettingsObject "x".toList)) =
      .ok (pretty ++ ['\n']) := by
    rw [SerdeJson.renderSettings, written]
    rfl
  by_cases same : pretty ++ ['\n'] = "x".toList
  · refine ⟨proxied "x ".toList, ?_⟩
    rw [proxied_settings (by decide) (alike ▸ rendered), same]
    intro kept
    exact absurd (Option.some.inj kept) (by decide)
  · refine ⟨proxied "x".toList, ?_⟩
    rw [proxied_settings (by decide) rendered]
    intro kept
    exact same (Option.some.inj kept)

end

section
variable {Value : Type} {json : SerdeJson Value}
  (frame : CleanupFrame policy (proxied []) (cleanupRemoteSettings json policy workspacePaths helper (proxied [])).2)
include frame

theorem serverEnv_of_frame : policy.serverEnv = true := by
  cases excluded : policy.serverEnv with
  | true => rfl
  | false =>
    have kept := congrFun (frame.serverEnv excluded) policy.serverDir
    rw [proxied_serverEnv] at kept
    have different : some "umask 077\n".toList ≠ some "umask 077".toList := by decide
    exact absurd kept different

theorem globalGit_of_frame (excluded : policy.git = false ∨ policy.gitGlobal = false) :
    policy.git = true ∧ (policy.gitGlobal = true ∨ policy.gitWorkspace = true) ∧
      policy.HelperCompletes workspacePaths helper := by
  have kept : (cleanupRemoteSettings json policy workspacePaths helper (proxied [])).2.globalGit =
      (proxied []).globalGit := by
    rcases excluded with noGit | noGlobal
    · exact (frame.git (.inl noGit)).1
    · exact frame.gitGlobal noGlobal
  cases done : (afterHelper policy workspacePaths helper (proxied [])).1 with
  | true => exact (afterHelper_done _).mp done
  | false =>
    rw [proxied_globalGit excluded done] at kept
    cases kept

theorem localGit_of_frame (excluded : policy.gitWorkspace = false) :
    workspacePaths = [] ∨ policy.HelperCompletes workspacePaths helper := by
  cases done : (afterHelper policy workspacePaths helper (proxied [])).1 with
  | true => exact .inr ((afterHelper_done _).mp done).2.2
  | false =>
    refine .inl (not_not.mp fun workspaces => ?_)
    have kept := congrFun (frame.gitWorkspace excluded) ".git/config"
    rw [proxied_localGit (.inr excluded) done workspaces] at kept
    cases kept

theorem git_of_frame : policy.git = true := by
  cases excluded : policy.git with
  | true => rfl
  | false => exact excluded ▸ (globalGit_of_frame frame (.inl excluded)).1

theorem scopes_of_frame : policy.gitGlobal = true ∧ policy.gitWorkspace = true ∨
    (policy.gitGlobal = true ∨ policy.gitWorkspace = true) ∧ policy.HelperCompletes workspacePaths helper ∨
    policy.gitGlobal = true ∧ workspacePaths = [] := by
  cases globally : policy.gitGlobal with
  | false =>
    obtain ⟨_, asked, completes⟩ := globalGit_of_frame frame (.inr globally)
    rw [globally] at asked
    exact .inr (.inl ⟨asked, completes⟩)
  | true =>
    cases locally : policy.gitWorkspace with
    | true => exact .inl ⟨rfl, rfl⟩
    | false =>
      rcases localGit_of_frame frame locally with none | completes
      · exact .inr (.inr ⟨rfl, none⟩)
      · exact .inr (.inl ⟨.inl rfl, completes⟩)

end

/-- Whatever the host is like, a cleanup keeps to the policy exactly where the policy has the VS
Code settings and the server environment, has Git, and either has both kinds of Git configuration
or has no need of the script for the one it has. -/
theorem cleanupFrame_iff {Value : Type} (json : SerdeJson Value)
    (writes : ∀ value, ∃ text, json.toStringPretty value = .ok text) (policy : ApplyPolicy)
    (workspacePaths : List String) (helper : Nat → HelperAttempt) :
    (∀ host, CleanupFrame policy host (cleanupRemoteSettings json policy workspacePaths helper host).2) ↔
      policy.AllowsCleanup workspacePaths helper := by
  constructor
  · intro frame
    refine ⟨?_, serverEnv_of_frame (frame _), git_of_frame (frame _), scopes_of_frame (frame _)⟩
    cases excluded : policy.vscodeSettings with
    | true => rfl
    | false =>
      obtain ⟨host, changed⟩ := settings_change writes
      exact absurd ((frame host).settings excluded policy.serverDir) changed
  · intro allowed host
    exact cleanupFrame_of_allowed allowed host

end RemoteHost

/-- Strings and objects, as far as the settings below have them. -/
inductive PlainJson where
  | string (text : String)
  | object (entries : List (String × PlainJson))

namespace PlainJson

def quoted (text : String) : Text := '"' :: text.toList ++ ['"']

mutual

/-- As `to_string_pretty` writes it, where no character has to be escaped. -/
def pretty (indent : Text) : PlainJson → Text
  | .string text => quoted text
  | .object [] => "\x7b\x7d".toList
  | .object entries => "\x7b\n".toList ++ List.intercalate ",\n".toList (members ("  ".toList ++ indent) entries) ++
      '\n' :: indent ++ "\x7d".toList

def members (indent : Text) : List (String × PlainJson) → List Text
  | [] => []
  | (key, value) :: rest => (indent ++ quoted key ++ ": ".toList ++ pretty indent value) :: members indent rest

end

def asObject : PlainJson → Option (JsonMap PlainJson)
  | .string _ => none
  | .object entries =>
    if sorted : entries.Pairwise fun first second => first.1 < second.1 then some ⟨entries, sorted⟩ else none

def settings : PlainJson := .object [("http.proxy", .string "http://127.0.0.1:8080"),
  ("terminal.integrated.env.linux", .object [("HTTP_PROXY", .string "http://127.0.0.1:8080"), ("LANG", .string "C")])]

/-- The settings are read back from their text; nothing else is read. -/
def library : SerdeJson PlainJson where
  fromStr text := if text = settings.pretty [] then some settings else none
  toStringPretty value := .ok (value.pretty [])
  object map := .object map.entries
  asObject := asObject

end PlainJson

namespace RemoteHost

def globalOnly : ApplyPolicy := { gitWorkspace := false }

def cleansGit : Nat → HelperAttempt := fun _ => { leaves := GitConfig.unsetProxies, reply := .answered true }

/-- The helper cleans the one Git configuration that it may, and the workspace keeps its own. -/
theorem globalOnly_cleanupFrame :
    let host := proxied (PlainJson.settings.pretty [])
    let after := (cleanupRemoteSettings PlainJson.library globalOnly ["/srv/app"] cleansGit host).2
    (∀ value, ∃ text, PlainJson.library.toStringPretty value = .ok text) ∧ CleanupFrame globalOnly host after ∧
      after.globalGit = [] ∧ after.localGit ".git/config" = [("http.proxy", "http://127.0.0.1:8080")] ∧
      (after.settings ".vscode-server").content =
        some "\x7b\n  \"terminal.integrated.env.linux\": \x7b\n    \"LANG\": \"C\"\n  \x7d\n\x7d\n".toList := by
  intro host after
  have writes : ∀ value, ∃ text, PlainJson.library.toStringPretty value = .ok text := fun value => ⟨value.pretty [], rfl⟩
  have completes : globalOnly.HelperCompletes ["/srv/app"] cleansGit := fun _ _ => rfl
  have allowed : globalOnly.AllowsCleanup ["/srv/app"] cleansGit := ⟨rfl, rfl, rfl, .inr (.inl ⟨.inl rfl, completes⟩)⟩
  exact ⟨writes, (cleanupFrame_iff PlainJson.library writes globalOnly ["/srv/app"] cleansGit).mpr allowed host,
    by decide, by decide, by decide +kernel⟩

def noHelper : Nat → HelperAttempt := fun _ => { leaves := id, reply := .unavailable "no such file" }

def envOnly : ApplyPolicy := { vscodeSettings := false, git := false, gitGlobal := false, gitWorkspace := false }

theorem envOnly_cleans_git :
    let host := proxied (PlainJson.settings.pretty [])
    let after := (cleanupRemoteSettings PlainJson.library envOnly ["/srv/app"] noHelper host).2
    (after.settings ".vscode-server").content ≠ (host.settings ".vscode-server").content ∧
      host.globalGit ≠ [] ∧ after.globalGit = [] ∧ after.localGit ".git/config" = [] ∧
      ¬ CleanupFrame envOnly host after := by
  intro host after
  have cleaned : after.globalGit = [] := by decide
  refine ⟨by decide +kernel, by decide, cleaned, by decide, ?_⟩
  intro frame
  have kept := frame.gitGlobal rfl
  rw [cleaned] at kept
  cases kept

end RemoteHost
end SshProxy
