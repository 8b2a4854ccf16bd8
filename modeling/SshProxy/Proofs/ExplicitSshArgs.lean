import SshProxy.Library.Layers
import SshProxy.Proofs.JumpHostKeys

/-! Which of its arguments `resolve_target` lets the config replace. The user, the port, the
identities and the jumps are put in place after everything else. The known_hosts file is put in
place before it, so that whatever names one later replaces it. -/

namespace SshProxy
open Library Target Option List

inductive SshSetting where
  | ofConfig (configHome : Option Text) (directive : SshDirective)
  | ofArgs (arg : SshArg)

namespace SshDirective

def namesKnownHosts : SshDirective → Bool
  | .userKnownHostsFile _ | .strictHostKeyChecking .no => true
  | _ => false

def knownHosts (expand : Text → Text) : SshDirective → Option Text
  | .userKnownHostsFile value => some (expand value)
  | .strictHostKeyChecking .no => some "NUL".toList
  | _ => none

end SshDirective

def SshArg.directive : SshArg → SshDirective
  | .option value => (value.splitOnce '=').elim .other fun (key, text) => .named key text
  | _ => .other

namespace SshSetting

def apply (env : SshEnv) (target : Target) : SshSetting → Except String Target
  | .ofConfig configHome directive => target.applyDirective env configHome directive
  -- The lines of the file are settings of their own.
  | .ofArgs (.config _) => .ok target
  | .ofArgs arg => target.applyArg env arg

def namesKnownHosts : SshSetting → Bool
  | .ofConfig _ directive => directive.namesKnownHosts
  | .ofArgs arg => arg.directive.namesKnownHosts

def knownHosts (env : SshEnv) (target : Target) : SshSetting → Option Text
  | .ofConfig configHome directive =>
    directive.knownHosts fun value => expandPathFromConfig env configHome (target.expandSshTokens value)
  | .ofArgs arg => arg.directive.knownHosts (expandPathFromConfig env none)

end SshSetting

def SshEnv.configSettings (env : SshEnv) (configPath : Option Text) (name : Text) : List SshSetting :=
  match env.configFile configPath with
  | none => []
  | some path =>
    match env.lines path with
    | none => []
    | some lines => ((linesFor name true lines).filterMap SshDirective.ofLine).map (.ofConfig (configHomeFromPath path))

def SshArg.settings (env : SshEnv) (name : Text) : SshArg → List SshSetting
  | .config path => env.configSettings (some path) name
  | arg => [.ofArgs arg]

/-- A hop is the host that a jump names, with the user and the port it is written with. -/
structure Target.WrittenAs (hop : Target) (text : Text) : Prop where
  host : hop.hostAlias = (parseTarget text).host
  user : ∀ user, (parseTarget text).user = some user → hop.user = user
  port : ∀ port, (parseTarget text).port = some port → hop.port = port

namespace SshTargetIntent

def start (env : SshEnv) (intent : SshTargetIntent) : Target :=
  Target.start env (parseTarget intent.target).host intent.defaultKnownHosts
    (intent.acceptNew || intent.insecureIgnoreHostKey) intent.insecureIgnoreHostKey

def settings (env : SshEnv) (intent : SshTargetIntent) : List SshSetting :=
  env.configSettings intent.config (parseTarget intent.target).host ++
    (SshArg.readAll intent.sshArgs).flatMap (SshArg.settings env (parseTarget intent.target).host)

structure ExplicitWins (intent : SshTargetIntent) (result : ResolvedTarget) : Prop where
  user : ∀ user, (parseTarget intent.target).user.or intent.user = some user → result.target.user = user
  port : ∀ port, (parseTarget intent.target).port.or intent.port = some port → result.target.port = port
  identities : intent.identity ≠ [] → result.target.identities = intent.identity
  knownHosts : ∀ path, intent.knownHosts = some path → intent.insecureIgnoreHostKey = false →
    result.target.knownHosts = some path
  jumps : intent.jump ≠ [] → List.Forall₂ Target.WrittenAs result.jumps (hopTexts intent.jump)

/-- The last of the settings that name a known_hosts file, if there is one, names the given file. -/
def LastNamesGiven (env : SshEnv) (intent : SshTargetIntent) : Prop :=
  ∀ path, intent.knownHosts = some path → intent.insecureIgnoreHostKey = false →
    ∀ before setting after target, intent.settings env = before ++ setting :: after →
      setting.namesKnownHosts = true → (∀ later ∈ after, ¬ later.namesKnownHosts = true) →
      before.foldlM (SshSetting.apply env) (intent.start env) = .ok target → setting.knownHosts env target = some path

end SshTargetIntent

namespace SshSetting
variable {env : SshEnv} {setting : SshSetting} {target after : Target}

theorem applyDirective_knownHosts {configHome : Option Text} {directive : SshDirective}
    (applied : target.applyDirective env configHome directive = .ok after) : after.knownHosts =
      (directive.knownHosts fun value => expandPathFromConfig env configHome (target.expandSshTokens value)).or
        target.knownHosts := by
  cases directive with
  | proxyCommand => cases applied
  | strictHostKeyChecking value =>
    cases value <;> cases applied <;> rfl
  | _ =>
    cases applied
    rfl

theorem applyNamed_knownHosts {directive : SshDirective} (applied : target.applyNamed env directive = .ok after) :
    after.knownHosts = (directive.knownHosts (expandPathFromConfig env none)).or target.knownHosts := by
  cases directive with
  | strictHostKeyChecking value =>
    cases value <;> cases applied <;> rfl
  | port value =>
    obtain ⟨port, _, rfl⟩ := attempt_map_eq_ok.mp applied
    rfl
  | _ =>
    cases applied
    rfl

theorem applyOOption_knownHosts {value : Text} (applied : target.applyOOption env value = .ok after) :
    after.knownHosts =
      ((SshArg.option value).directive.knownHosts (expandPathFromConfig env none)).or target.knownHosts := by
  simp only [applyOOption] at applied
  simp only [SshArg.directive]
  cases split : value.splitOnce '=' with
  | none =>
    rw [split] at applied
    cases applied
  | some pair =>
    rw [split] at applied
    exact applyNamed_knownHosts applied

theorem apply_knownHosts (applied : setting.apply env target = .ok after) :
    after.knownHosts = (setting.knownHosts env target).or target.knownHosts := by
  cases setting with
  | ofConfig configHome directive => exact applyDirective_knownHosts applied
  | ofArgs arg =>
    cases arg with
    | option value => exact applyOOption_knownHosts applied
    | missing arg => cases applied
    | port value =>
      obtain ⟨port, _, rfl⟩ := attempt_map_eq_ok.mp applied
      rfl
    | _ =>
      cases applied
      rfl

theorem isSome_knownHosts (env : SshEnv) (setting : SshSetting) (target : Target) :
    (setting.knownHosts env target).isSome = setting.namesKnownHosts := by
  have named (directive : SshDirective) (expand : Text → Text) :
      (directive.knownHosts expand).isSome = directive.namesKnownHosts := by
    cases directive with
    | strictHostKeyChecking value => cases value <;> rfl
    | _ => rfl
  cases setting <;> exact named _ _

theorem lastWins (env : SshEnv) : LastWins (apply env) (fun setting => setting.namesKnownHosts = true)
      (fun setting target => setting.knownHosts env target) Target.knownHosts where
  wrote := by
    intro target setting after applied names
    rw [← isSome_knownHosts env setting target] at names
    rw [apply_knownHosts applied, or_of_isSome names]
  kept := by
    intro target setting after applied silent
    rw [← isSome_knownHosts env setting target, Bool.not_eq_true, isSome_eq_false_iff,
      isNone_iff_eq_none] at silent
    rw [apply_knownHosts applied, silent, none_or]

end SshSetting

namespace Target
variable {env : SshEnv}

theorem applyLines_eq (configHome : Option Text) (active : Bool) (lines : List Text) (target : Target) :
    target.applyLines env configHome active lines =
      (((linesFor target.hostAlias active lines).filterMap SshDirective.ofLine).map (.ofConfig configHome)).foldlM
        (SshSetting.apply env) target := by
  induction lines generalizing active target with
  | nil => rfl
  | cons raw rest ih =>
    rw [applyLines_cons, linesFor]
    cases activeFrom target.hostAlias active raw with
    | false => exact ih false target
    | true =>
      rw [if_pos rfl, if_pos rfl, applyLine]
      cases line : SshDirective.ofLine raw with
      | none =>
        rw [filterMap_cons_none line]
        exact ih true target
      | some directive =>
        rw [filterMap_cons_some line, map_cons, foldlM_cons]
        cases applied : target.applyDirective env configHome directive with
        | error error =>
          simp only [Option.elim, SshSetting.apply, applied]
          rfl
        | ok after =>
          have named := (applyDirective_relaxes _ directive target after rfl applied).1
          simp only [Option.elim, SshSetting.apply, applied]
          rw [← named]
          exact ih true after

theorem applyConfig_eq (configPath : Option Text) (target : Target) : target.applyConfig env configPath =
      (env.configSettings configPath target.hostAlias).foldlM (SshSetting.apply env) target := by
  unfold applyConfig SshEnv.configSettings
  cases env.configFile configPath with
  | none => rfl
  | some path =>
    dsimp only
    cases env.lines path with
    | none => rfl
    | some lines => exact applyLines_eq _ true lines target

theorem applyArg_eq (arg : SshArg) (target : Target) :
    target.applyArg env arg = (arg.settings env target.hostAlias).foldlM (SshSetting.apply env) target := by
  cases arg with
  | config path => exact applyConfig_eq (some path) target
  | _ => exact (bind_pure _).symm

theorem applySshArgs_eq (env : SshEnv) (args : List Text) (target : Target) : target.applySshArgs env args =
      ((SshArg.readAll args).flatMap (SshArg.settings env target.hostAlias)).foldlM (SshSetting.apply env) target := by
  unfold applySshArgs
  induction SshArg.readAll args generalizing target with
  | nil => rfl
  | cons arg rest ih =>
    rw [foldlM_cons, flatMap_cons, foldlM_append, ← applyArg_eq]
    cases applied : target.applyArg env arg with
    | error error => rfl
    | ok after =>
      rw [← (applyArg_relaxes env _ arg target after rfl applied).1]
      exact ih after

end Target

namespace SshTargetIntent
variable {env : SshEnv} {intent : SshTargetIntent} {result : ResolvedTarget}

theorem resolveOwn_eq : intent.resolveOwn env =
      ((intent.settings env).foldlM (SshSetting.apply env) (intent.start env)).map
        (intent.finish env (parseTarget intent.target)) := by
  have config : (intent.start env).applyConfig env intent.config = (env.configSettings intent.config
      (parseTarget intent.target).host).foldlM (SshSetting.apply env) (intent.start env) :=
    Target.applyConfig_eq intent.config (intent.start env)
  unfold resolveOwn
  rw [settings, foldlM_append, ← config]
  change (intent.start env).applyConfig env intent.config >>= _ = _
  cases applied : (intent.start env).applyConfig env intent.config with
  | error error => rfl
  | ok target =>
    have named : target.hostAlias = (parseTarget intent.target).host :=
      (applyConfig_relaxes env _ intent.config (intent.start env) target rfl applied).1
    have args := applySshArgs_eq env intent.sshArgs target
    rw [named] at args
    change target.applySshArgs env intent.sshArgs >>= _ = Except.map _ (foldlM _ target _)
    rw [← args]
    cases target.applySshArgs env intent.sshArgs <;> rfl

theorem resolveTarget_run (resolved : intent.resolveTarget env = .ok result) :
    ∃ target, (intent.settings env).foldlM (SshSetting.apply env) (intent.start env) = .ok target ∧
      intent.finish env (parseTarget intent.target) target = result.target := by
  have own := (resolveTarget_ok resolved).1
  rw [resolveOwn_eq] at own
  exact attempt_map_eq_ok.mp own

theorem finish_identities {parsed : ParsedTarget} (target : Target) (given : intent.identity ≠ []) :
    (intent.finish env parsed target).identities = intent.identity := by
  unfold finish addConfigHomeDefaultIdentities
  rw [if_neg given]
  dsimp only
  split
  next empty _ => exact absurd empty given
  next => rfl

theorem writtenAs_of_resolveJump {configPath knownHosts : Option Text} {acceptNew insecure : Bool} {text : Text}
    {hop : Target} (jump : resolveJump env configPath knownHosts acceptNew insecure text = .ok hop) :
    hop.WrittenAs text := by
  have named := (resolveJump_relaxed jump).1
  obtain ⟨target, _, finished⟩ := attempt_bind_eq_ok.mp jump
  cases finished
  refine ⟨named, ?_, ?_⟩
  · intro user written
    simp only [finishHop, addConfigHomeDefaultIdentities, written, getD_some]
  · intro port written
    simp only [finishHop, addConfigHomeDefaultIdentities, written, getD_some]

theorem jumps_writtenAs (resolved : intent.resolveTarget env = .ok result) (given : intent.jump ≠ []) :
    List.Forall₂ Target.WrittenAs result.jumps (hopTexts intent.jump) := by
  have hops := (resolveTarget_ok resolved).2
  rw [jumpSpecs, if_neg given] at hops
  apply List.Forall₂.flip
  apply (attempt_mapM_forall₂ hops).imp
  intro text hop jump
  exact writtenAs_of_resolveJump jump

theorem start_knownHosts {path : Text} (given : intent.knownHosts = some path)
    (checked : intent.insecureIgnoreHostKey = false) : (intent.start env).knownHosts = some path := by
  change intent.defaultKnownHosts = some path
  rw [defaultKnownHosts, checked]
  exact given

/-- The arguments win over the config exactly when nothing that is applied after the given
known_hosts file names another one last. -/
theorem explicitWins_iff (resolved : intent.resolveTarget env = .ok result) :
    intent.ExplicitWins result ↔ intent.LastNamesGiven env := by
  obtain ⟨target, run, finished⟩ := resolveTarget_run resolved
  have file : result.target.knownHosts = target.knownHosts := by
    rw [← finished]
    rfl
  have last := (SshSetting.lastWins env).read_eq run
  constructor
  · intro wins path given checked before setting after reached split names silent prior
    have kept := wins.knownHosts path given checked
    rw [file] at kept
    rcases last with ⟨none, _⟩ | ⟨before', setting', after', reached', split', names', silent', prior', value⟩
    · have member : setting ∈ intent.settings env := by
        rw [split]
        exact mem_append_right before mem_cons_self
      exact absurd names (none setting member)
    · obtain ⟨rfl, rfl⟩ := last_unique (fun setting => setting.namesKnownHosts = true) names names' silent silent'
        (split.symm.trans split')
      rw [prior] at prior'
      cases prior'
      rw [← value, kept]
  · intro keeps
    refine ⟨?_, ?_, ?_, ?_, jumps_writtenAs resolved⟩
    · intro user given
      rw [← finished]
      simp only [finish, addConfigHomeDefaultIdentities, given, getD_some]
    · intro port given
      rw [← finished]
      simp only [finish, addConfigHomeDefaultIdentities, given, getD_some]
    · intro given
      rw [← finished]
      exact finish_identities target given
    · intro path given checked
      rw [file]
      rcases last with ⟨_, same⟩ | ⟨before, setting, after, reached, split, names, silent, prior, value⟩
      · rw [same]
        exact start_knownHosts given checked
      · rw [value]
        exact keeps path given checked before setting after reached split names silent prior

theorem lastNamesGiven_of_silent (silent : ∀ setting ∈ intent.settings env, setting.namesKnownHosts = false) :
    intent.LastNamesGiven env := by
  intro path _ _ before setting after target split names
  have member : setting ∈ intent.settings env := by
    rw [split]
    exact mem_append_right before mem_cons_self
  rw [silent setting member] at names
  cases names

def databaseAsGuest : SshTargetIntent where
  target := "guest@db:2200".toList
  identity := ["key".toList]
  config := some ['c']
  knownHosts := some "mine".toList
  jump := ["gate".toList]

def otherLogin : List Text :=
  ["Host db".toList, "  User admin".toList, "  Port 22".toList, "  IdentityFile other".toList, "  ProxyJump side".toList,
    "Host side".toList, "  UserKnownHostsFile theirs".toList]

theorem guest_login_kept :
    ∃ result, databaseAsGuest.resolveTarget (oneConfig otherLogin) = .ok result ∧ databaseAsGuest.ExplicitWins result := by
  have resolved : databaseAsGuest.resolveTarget (oneConfig otherLogin) =
      .ok ⟨{ plainHost "db".toList (some "mine".toList) false false with
          port := 2200, user := "guest".toList, identities := ["key".toList], jumpSpecs := ["side".toList] },
        [plainHost "gate".toList (some "mine".toList) false false]⟩ := by
    apply resolves_of_decide
    decide +kernel
  exact ⟨_, resolved, (explicitWins_iff resolved).mpr (lastNamesGiven_of_silent (by decide +kernel))⟩

def otherKnownHosts : List Text := ["Host db".toList, "  UserKnownHostsFile theirs".toList]

/-- The known_hosts file of the config takes the place of the one that is given. -/
theorem known_hosts_replaced : ∃ result, databaseAsGuest.resolveTarget (oneConfig otherKnownHosts) = .ok result ∧
      databaseAsGuest.knownHosts = some "mine".toList ∧ result.target.knownHosts = some "theirs".toList ∧
      ¬ databaseAsGuest.ExplicitWins result := by
  refine ⟨⟨{ plainHost "db".toList (some "theirs".toList) false false with
      port := 2200, user := "guest".toList, identities := ["key".toList] },
    [plainHost "gate".toList (some "mine".toList) false false]⟩, ?_, rfl, rfl, ?_⟩
  · apply resolves_of_decide
    decide +kernel
  · intro wins
    have kept := wins.knownHosts "mine".toList rfl rfl
    revert kept
    decide +kernel

end SshTargetIntent
end SshProxy
