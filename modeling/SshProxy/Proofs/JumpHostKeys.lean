import SshProxy.Library.Wire
import SshProxy.SshConfig

/-! Whose settings decide how the key of a jump host is checked. The flags of a hop start from
those the target was resolved to, so that a block of the config for the target alone, or an
option given for it, relaxes the check of every hop. -/

namespace SshProxy
open Library

inductive TrustFlag where
  | insecureIgnoreHostKey
  | acceptNew
  deriving DecidableEq

def Target.trusts (target : Target) : TrustFlag → Bool
  | .insecureIgnoreHostKey => target.insecureIgnoreHostKey
  | .acceptNew => target.acceptNew

/-- The flags of the command line, where `--insecure-ignore-host-key` stands for both. -/
def SshTargetIntent.given (intent : SshTargetIntent) : TrustFlag → Bool
  | .insecureIgnoreHostKey => intent.insecureIgnoreHostKey
  | .acceptNew => intent.acceptNew || intent.insecureIgnoreHostKey

def StrictHostKeyChecking.grants : StrictHostKeyChecking → TrustFlag → Bool
  | .no, _ => true
  | .acceptNew, flag => flag = .acceptNew

def SshDirective.grants (flag : TrustFlag) : SshDirective → Bool
  | .strictHostKeyChecking value => value.grants flag
  | _ => false

def lineGrants (flag : TrustFlag) (raw : Text) : Bool := (SshDirective.ofLine raw).any (SshDirective.grants flag)

/-- The lines of a config from one `Host` to the next; those before the first have no patterns. -/
structure ConfigBlock where
  patterns : Option (List Text)
  lines : List Text
  deriving DecidableEq

namespace ConfigBlock

def isFor (name : Text) (block : ConfigBlock) : Bool :=
  block.patterns.all fun patterns => patterns.any (hostPatternMatches · name)

def grants (flag : TrustFlag) (block : ConfigBlock) : Bool := block.lines.any (lineGrants flag)

end ConfigBlock

def configBlocks : List Text → ConfigBlock × List ConfigBlock
  | [] => (⟨none, []⟩, [])
  | raw :: rest =>
    let (first, others) := configBlocks rest
    match SshDirective.ofLine raw with
    | some (.host patterns) => (⟨none, []⟩, ⟨some patterns, raw :: first.lines⟩ :: others)
    | _ => (⟨none, raw :: first.lines⟩, others)

def blocksFor (name : Text) (lines : List Text) : List ConfigBlock :=
  ((configBlocks lines).1 :: (configBlocks lines).2).filter (ConfigBlock.isFor name)

namespace SshEnv

def ConfigGrants (env : SshEnv) (configPath : Option Text) (name : Text) (flag : TrustFlag) : Prop :=
  ∃ path lines, env.configFile configPath = some path ∧ env.lines path = some lines ∧
    ∃ block ∈ blocksFor name lines, block.grants flag = true

/-- The machine with the config files cut down to the blocks for one host. -/
def only (name : Text) (env : SshEnv) : SshEnv :=
  { env with lines := fun path => (env.lines path).map fun lines => (blocksFor name lines).flatMap ConfigBlock.lines }

end SshEnv

def SshArg.Grants (env : SshEnv) (name : Text) (flag : TrustFlag) : SshArg → Prop
  | .config path => env.ConfigGrants (some path) name flag
  | .option value => ∃ key text, value.splitOnce '=' = some (key, text) ∧ (SshDirective.named key text).grants flag = true
  | _ => False

namespace SshTargetIntent

def TargetGrants (env : SshEnv) (intent : SshTargetIntent) (flag : TrustFlag) : Prop :=
  env.ConfigGrants intent.config (parseTarget intent.target).host flag ∨
    ∃ arg ∈ SshArg.readAll intent.sshArgs, arg.Grants env (parseTarget intent.target).host flag

/-- A hop is trusted for the command line's flags and its own blocks only: they account for
every flag it has, and with the other blocks gone its key is checked in the same way. -/
structure TrustsOwnSettings (env : SshEnv) (intent : SshTargetIntent) (spec : Text) (hop : Target) : Prop where
  granted : ∀ flag, hop.trusts flag = true →
    intent.given flag = true ∨ env.ConfigGrants intent.config hop.hostAlias flag
  unaffected :
    (resolveJump (env.only hop.hostAlias) intent.config intent.defaultKnownHosts (intent.given .acceptNew)
      (intent.given .insecureIgnoreHostKey) spec).map handlerFor = .ok (handlerFor hop)

end SshTargetIntent

namespace Target
variable {name : Text} {env : SshEnv} {configHome : Option Text}

def withTrust (target : Target) (acceptNew insecureIgnoreHostKey : Bool) : Target :=
  { target with acceptNew, insecureIgnoreHostKey }

/-- A step of the resolution of one host: it adds the flags it grants to those there are, and
does the same to everything else whatever they are. -/
def Relaxes (name : Text) (grants : TrustFlag → Prop) (run : Target → Except String Target) : Prop :=
  ∀ target after, target.hostAlias = name → run target = .ok after →
    after.hostAlias = name ∧
    (∀ flag, after.trusts flag = true ↔ target.trusts flag = true ∨ grants flag) ∧
    ∀ acceptNew insecure, ∃ acceptNew' insecure',
      run (target.withTrust acceptNew insecure) = .ok (after.withTrust acceptNew' insecure')

variable {grants : TrustFlag → Prop}

theorem Relaxes.of_update {update : Target → Target} (name : Text) (silent : ∀ flag, ¬ grants flag)
    (hostAlias : ∀ target, (update target).hostAlias = target.hostAlias) (blind : ∀ target acceptNew insecure,
      update (target.withTrust acceptNew insecure) = (update target).withTrust acceptNew insecure) :
    Relaxes name grants fun target => .ok (update target) := by
  rintro target _ named ⟨⟩
  refine ⟨(hostAlias target).trans named, ?_, ?_⟩
  · intro flag
    -- The flags a target has are the ones to put in place of them that change nothing.
    have same : update target = (update target).withTrust target.acceptNew target.insecureIgnoreHostKey := blind target _ _
    rw [or_iff_left (silent flag), same]
    cases flag <;> rfl
  · intro acceptNew insecure
    exact ⟨acceptNew, insecure, congrArg _ (blind ..)⟩

theorem Relaxes.failed (name : Text) (grants : TrustFlag → Prop) (error : String) :
    Relaxes name grants fun _ => .error error := by
  rintro _ _ _ ⟨⟩

theorem Relaxes.bind {first second : Target → Except String Target} {here later : TrustFlag → Prop}
    (start : Relaxes name here first) (rest : Relaxes name later second) :
    Relaxes name (fun flag => here flag ∨ later flag) fun target => first target >>= second := by
  intro target after named applied
  obtain ⟨middle, began, ended⟩ := attempt_bind_eq_ok.mp applied
  obtain ⟨named, added, blind⟩ := start target middle named began
  obtain ⟨renamed, addedLater, blindLater⟩ := rest middle after named ended
  refine ⟨renamed, ?_, ?_⟩
  · intro flag
    rw [addedLater, added, or_assoc]
  · intro acceptNew insecure
    obtain ⟨acceptNew, insecure, began⟩ := blind acceptNew insecure
    obtain ⟨acceptNew, insecure, ended⟩ := blindLater acceptNew insecure
    exact ⟨acceptNew, insecure, attempt_bind_eq_ok.mpr ⟨_, began, ended⟩⟩

theorem Relaxes.congr {run : Target → Except String Target} {grants grants' : TrustFlag → Prop}
    (relaxes : Relaxes name grants run) (same : ∀ flag, grants flag ↔ grants' flag) : Relaxes name grants' run := by
  intro target after named applied
  obtain ⟨named, added, blind⟩ := relaxes target after named applied
  exact ⟨named, fun flag => (added flag).trans (or_congr_right (same flag)), blind⟩

theorem relax_relaxes (name : Text) (value : StrictHostKeyChecking) :
    Relaxes name (fun flag => value.grants flag = true) fun target => .ok (target.relax value) := by
  rintro target _ named ⟨⟩
  cases value with
  | acceptNew =>
    refine ⟨named, ?_, fun _ insecure => ⟨true, insecure, rfl⟩⟩
    intro flag
    cases flag <;> simp [relax, trusts, StrictHostKeyChecking.grants]
  | no =>
    refine ⟨named, ?_, fun _ _ => ⟨true, true, rfl⟩⟩
    intro flag
    cases flag <;> simp [relax, trusts, StrictHostKeyChecking.grants]

theorem applyDirective_relaxes (name : Text) (directive : SshDirective) :
    Relaxes name (fun flag => directive.grants flag = true) fun target => target.applyDirective env configHome directive := by
  cases directive with
  | strictHostKeyChecking value => exact relax_relaxes name value
  | proxyCommand => exact Relaxes.failed name _ _
  | hostname value | user value | port value | identityFile value | userKnownHostsFile value | proxyJump value
  | host value | other =>
    exact Relaxes.of_update name (fun _ => Bool.false_ne_true) (fun _ => rfl) fun _ _ _ => rfl

theorem Relaxes.of_eq {run run' : Target → Except String Target} (relaxes : Relaxes name grants run)
    (same : ∀ target, target.hostAlias = name → run' target = run target) : Relaxes name grants run' := by
  intro target after named applied
  rw [same target named] at applied
  obtain ⟨renamed, added, blind⟩ := relaxes target after named applied
  refine ⟨renamed, added, ?_⟩
  intro acceptNew insecure
  rw [same (target.withTrust acceptNew insecure) named]
  exact blind acceptNew insecure

end Target

def activeFrom (name : Text) (active : Bool) (raw : Text) : Bool :=
  match SshDirective.ofLine raw with
  | some (.host patterns) => patterns.any (hostPatternMatches · name)
  | _ => active

def linesFor (name : Text) : (active : Bool) → List Text → List Text
  | _, [] => []
  | active, raw :: rest =>
    if activeFrom name active raw then raw :: linesFor name true rest else linesFor name false rest

theorem activeFrom_mono {name raw : Text} {active active' : Bool} (kept : active = true → active' = true)
    (now : activeFrom name active raw = true) : activeFrom name active' raw = true := by
  unfold activeFrom at now ⊢
  split at now
  · exact now
  · exact kept now

namespace Target
variable {name : Text} {env : SshEnv} {configHome : Option Text}

def applyLine (env : SshEnv) (configHome : Option Text) (raw : Text) (target : Target) : Except String Target :=
  (SshDirective.ofLine raw).elim (.ok target) (target.applyDirective env configHome)

theorem applyLine_relaxes (env : SshEnv) (configHome : Option Text) (name raw : Text) :
    Relaxes name (fun flag => lineGrants flag raw = true) (applyLine env configHome raw) := by
  unfold lineGrants applyLine
  cases SshDirective.ofLine raw with
  | none =>
    exact Relaxes.of_update name (fun _ => Bool.false_ne_true) (fun _ => rfl) fun _ _ _ => rfl
  | some directive => exact applyDirective_relaxes name directive

theorem applyLines_cons (target : Target) (active : Bool) (raw : Text) (rest : List Text) :
    target.applyLines env configHome active (raw :: rest) =
      (if activeFrom target.hostAlias active raw then target.applyLine env configHome raw else .ok target) >>=
        applyLines env configHome (activeFrom target.hostAlias active raw) rest := by
  rw [applyLines, activeFrom, applyLine]
  cases SshDirective.ofLine raw with
  | none => cases active <;> rfl
  | some directive =>
    cases directive with
    | host patterns =>
      dsimp only
      split <;> rfl
    | _ =>
      dsimp only [Option.elim]
      split
      · rfl
      · exact (pure_bind target _).symm

theorem applyLines_relaxes (name : Text) (active : Bool) (lines : List Text) :
    Relaxes name (fun flag => ∃ raw ∈ linesFor name active lines, lineGrants flag raw = true)
      (applyLines env configHome active lines) := by
  induction lines generalizing active with
  | nil =>
    refine Relaxes.of_update name ?_ (fun _ => rfl) fun _ _ _ => rfl
    rintro flag ⟨_, member, _⟩
    cases member
  | cons raw rest ih =>
    cases now : activeFrom name active raw with
    | true =>
      refine (((applyLine_relaxes env configHome name raw).bind (ih true)).congr ?_).of_eq ?_
      · intro flag
        simp [linesFor, now]
      · intro target named
        rw [applyLines_cons, named, now]
        rfl
    | false =>
      refine ((ih false).congr ?_).of_eq ?_
      · intro flag
        simp [linesFor, now]
      · intro target named
        rw [applyLines_cons, named, now]
        rfl

theorem applyLines_linesFor {target : Target} (named : target.hostAlias = name) {active active' : Bool}
    (kept : active = true → active' = true) (lines : List Text) :
    target.applyLines env configHome active' (linesFor name active lines) =
      target.applyLines env configHome active lines := by
  induction lines generalizing target active active' with
  | nil => rfl
  | cons raw rest ih =>
    rw [applyLines_cons, named]
    cases now : activeFrom name active raw with
    | false =>
      rw [linesFor, now]
      exact ih named nofun
    | true =>
      rw [linesFor, now, if_pos rfl, applyLines_cons, named, activeFrom_mono kept now]
      cases applied : target.applyLine env configHome raw with
      | error error => rfl
      | ok after => exact ih (applyLine_relaxes env configHome name raw target after named applied).1 id

end Target

theorem configBlocks_first (lines : List Text) : (configBlocks lines).1.patterns = none := by
  cases lines with
  | nil => rfl
  | cons raw rest =>
    simp only [configBlocks]
    split <;> rfl

theorem configBlocks_lines (name : Text) (active : Bool) (lines : List Text) :
    (if active then (configBlocks lines).1.lines else []) ++
        ((configBlocks lines).2.filter (ConfigBlock.isFor name)).flatMap ConfigBlock.lines =
      linesFor name active lines := by
  induction lines generalizing active with
  | nil => cases active <;> rfl
  | cons raw rest ih =>
    cases directive : SshDirective.ofLine raw with
    | none => cases active <;> simp [configBlocks, linesFor, activeFrom, directive, ← ih]
    | some line =>
      cases line with
      | host patterns =>
        cases here : patterns.any (hostPatternMatches · name) <;>
          simp [configBlocks, linesFor, activeFrom, directive, ConfigBlock.isFor, here, ← ih]
      | _ => cases active <;> simp [configBlocks, linesFor, activeFrom, directive, ← ih]

theorem blocksFor_lines (name : Text) (lines : List Text) :
    (blocksFor name lines).flatMap ConfigBlock.lines = linesFor name true lines := by
  rw [← configBlocks_lines, blocksFor, List.filter_cons_of_pos]
  · rfl
  · rw [ConfigBlock.isFor, configBlocks_first]
    rfl

namespace SshEnv
variable {env : SshEnv} {configPath : Option Text} {name : Text} {flag : TrustFlag}

theorem configGrants_iff {path : Text} {lines : List Text} (file : env.configFile configPath = some path)
    (text : env.lines path = some lines) :
    env.ConfigGrants configPath name flag ↔ ∃ raw ∈ linesFor name true lines, lineGrants flag raw = true := by
  rw [← blocksFor_lines]
  constructor
  · rintro ⟨_, _, found, read, block, member, grants⟩
    rw [file] at found
    cases found
    rw [text] at read
    cases read
    obtain ⟨raw, inside, grants⟩ := List.any_eq_true.mp grants
    exact ⟨raw, List.mem_flatMap.mpr ⟨block, member, inside⟩, grants⟩
  · rintro ⟨raw, member, grants⟩
    obtain ⟨block, found, inside⟩ := List.mem_flatMap.mp member
    exact ⟨path, lines, file, text, block, found, List.any_eq_true.mpr ⟨raw, inside, grants⟩⟩

theorem not_configGrants (unread : (env.configFile configPath).bind env.lines = none) :
    ¬ env.ConfigGrants configPath name flag := by
  rintro ⟨path, lines, found, read, _⟩
  rw [found, Option.bind_some, read] at unread
  cases unread

end SshEnv

namespace Target
variable {name : Text} {env : SshEnv}

theorem applyConfig_relaxes (env : SshEnv) (name : Text) (configPath : Option Text) :
    Relaxes name (env.ConfigGrants configPath name) (applyConfig env configPath) := by
  unfold applyConfig
  cases file : env.configFile configPath with
  | none =>
    apply Relaxes.of_update name (fun _ => SshEnv.not_configGrants ?_) (fun _ => rfl) fun _ _ _ => rfl
    rw [file, Option.bind_none]
  | some path =>
    cases text : env.lines path with
    | none =>
      simp only [text]
      apply Relaxes.of_update name (fun _ => SshEnv.not_configGrants ?_) (fun _ => rfl) fun _ _ _ => rfl
      rw [file, Option.bind_some, text]
    | some lines =>
      simp only [text]
      apply (applyLines_relaxes name true lines).congr
      intro flag
      exact (SshEnv.configGrants_iff file text).symm

theorem setPort_relaxes (name value : Text) (silent : ∀ flag, ¬ grants flag) :
    Relaxes name grants fun target => (parseU16 value).map fun port => { target with port } := by
  cases parseU16 value with
  | error error => exact Relaxes.failed name _ _
  | ok port => exact Relaxes.of_update name silent (fun _ => rfl) fun _ _ _ => rfl

theorem applyNamed_relaxes (name : Text) (directive : SshDirective) :
    Relaxes name (fun flag => directive.grants flag = true) fun target => target.applyNamed env directive := by
  cases directive with
  | strictHostKeyChecking value => exact relax_relaxes name value
  | port value => exact setPort_relaxes name value fun _ => Bool.false_ne_true
  | hostname value | user value | identityFile value | userKnownHostsFile value | proxyJump value | host value
  | proxyCommand | other =>
    exact Relaxes.of_update name (fun _ => Bool.false_ne_true) (fun _ => rfl) fun _ _ _ => rfl

theorem applyArg_relaxes (env : SshEnv) (name : Text) (arg : SshArg) :
    Relaxes name (arg.Grants env name) fun target => target.applyArg env arg := by
  cases arg with
  | config path => exact applyConfig_relaxes env name (some path)
  | option value =>
    simp only [applyArg, applyOOption, SshArg.Grants]
    cases split : value.splitOnce '=' with
    | none => exact Relaxes.failed name _ _
    | some pair =>
      obtain ⟨key, text⟩ := pair
      refine (applyNamed_relaxes name (.named key text)).congr ?_
      intro flag
      simp
  | missing arg => exact Relaxes.failed name _ _
  | port value => exact setPort_relaxes name value fun _ => id
  | login value | identity value | unsupported value =>
    exact Relaxes.of_update name (fun _ => id) (fun _ => rfl) fun _ _ _ => rfl

theorem applySshArgs_relaxes (env : SshEnv) (name : Text) (args : List Text) :
    Relaxes name (fun flag => ∃ arg ∈ SshArg.readAll args, arg.Grants env name flag) (applySshArgs env args) := by
  unfold applySshArgs
  induction SshArg.readAll args with
  | nil =>
    refine Relaxes.of_update name ?_ (fun _ => rfl) fun _ _ _ => rfl
    rintro flag ⟨_, member, _⟩
    cases member
  | cons arg rest ih =>
    refine (((applyArg_relaxes env name arg).bind ih).congr ?_).of_eq ?_
    · intro flag
      simp
    · intro target _
      rw [List.foldlM_cons]

theorem expandPathFromConfig_only (name : Text) (configHome : Option Text) (value : Text) :
    expandPathFromConfig (env.only name) configHome value = expandPathFromConfig env configHome value := by
  unfold expandPathFromConfig SshEnv.only
  rfl

theorem applyLines_only (name : Text) (configHome : Option Text) (active : Bool) (lines : List Text) (target : Target) :
    target.applyLines (env.only name) configHome active lines = target.applyLines env configHome active lines := by
  induction lines generalizing active target with
  | nil => rfl
  | cons raw rest ih =>
    have line : target.applyLine (env.only name) configHome raw = target.applyLine env configHome raw := by
      unfold applyLine
      cases SshDirective.ofLine raw with
      | none => rfl
      | some directive => cases directive <;> simp only [Option.elim, applyDirective, expandPathFromConfig_only]
    rw [applyLines_cons, applyLines_cons, line]
    congr 1
    funext after
    exact ih _ after

theorem applyConfig_only {target : Target} (named : target.hostAlias = name) (configPath : Option Text) :
    target.applyConfig (env.only name) configPath = target.applyConfig env configPath := by
  unfold applyConfig
  rw [show (env.only name).configFile configPath = env.configFile configPath from rfl]
  cases env.configFile configPath with
  | none => rfl
  | some path =>
    simp only [SshEnv.only]
    cases env.lines path with
    | none => rfl
    | some lines =>
      rw [Option.map_some, blocksFor_lines]
      exact (applyLines_only ..).trans (applyLines_linesFor named id lines)

theorem withTrust_eq {target : Target} {acceptNew insecure : Bool}
    (same : ∀ flag, (target.withTrust acceptNew insecure).trusts flag = true ↔ target.trusts flag = true) :
    target.withTrust acceptNew insecure = target := by
  have accepts : acceptNew = target.acceptNew := Bool.eq_iff_iff.mpr (same .acceptNew)
  have ignores : insecure = target.insecureIgnoreHostKey := Bool.eq_iff_iff.mpr (same .insecureIgnoreHostKey)
  rw [accepts, ignores]
  rfl

end Target

section
variable {env : SshEnv} {configPath knownHosts : Option Text} {acceptNew insecure : Bool} {spec : Text} {hop : Target}

theorem resolveJump_relaxed (resolved : resolveJump env configPath knownHosts acceptNew insecure spec = .ok hop) :
    hop.hostAlias = (parseTarget spec).host ∧
    (∀ flag, hop.trusts flag = true ↔
      (Target.start env (parseTarget spec).host knownHosts acceptNew insecure).trusts flag = true ∨
        env.ConfigGrants configPath (parseTarget spec).host flag) ∧
    ∀ acceptNew insecure, ∃ acceptNew' insecure',
      resolveJump env configPath knownHosts acceptNew insecure spec = .ok (hop.withTrust acceptNew' insecure') := by
  have last : Target.Relaxes (parseTarget spec).host (fun _ => False) fun target =>
      .ok (target.finishHop env configPath (parseTarget spec)) :=
    Target.Relaxes.of_update _ (fun _ => id) (fun _ => rfl) fun _ _ _ => rfl
  obtain ⟨named, added, blind⟩ := (Target.applyConfig_relaxes env _ configPath).bind last
    (Target.start env (parseTarget spec).host knownHosts acceptNew insecure) hop rfl resolved
  refine ⟨named, ?_, blind⟩
  intro flag
  simpa only [or_false] using added flag

theorem resolveJump_only :
    resolveJump (env.only (parseTarget spec).host) configPath knownHosts acceptNew insecure spec =
      resolveJump env configPath knownHosts acceptNew insecure spec := by
  let start := Target.start env (parseTarget spec).host knownHosts acceptNew insecure
  have named : start.hostAlias = (parseTarget spec).host := rfl
  have same : start.applyConfig (env.only (parseTarget spec).host) configPath = start.applyConfig env configPath :=
    Target.applyConfig_only named configPath
  have atStart :
      Target.start (env.only (parseTarget spec).host) (parseTarget spec).host knownHosts acceptNew insecure = start := rfl
  simp only [resolveJump, atStart, same]
  rfl

end

namespace SshTargetIntent
variable {env : SshEnv} {intent : SshTargetIntent}

theorem start_trusts (host : Text) (knownHosts : Option Text) (flag : TrustFlag) :
    (Target.start env host knownHosts (intent.given .acceptNew) (intent.given .insecureIgnoreHostKey)).trusts flag =
      intent.given flag := by
  cases flag <;> rfl

theorem resolveOwn_trusts {target : Target} (resolved : intent.resolveOwn env = .ok target) (flag : TrustFlag) :
    target.trusts flag = true ↔ intent.given flag = true ∨ intent.TargetGrants env flag := by
  have last : Target.Relaxes (parseTarget intent.target).host (fun _ => False) fun target =>
      .ok (intent.finish env (parseTarget intent.target) target) :=
    Target.Relaxes.of_update _ (fun _ => id) (fun _ => rfl) fun _ _ _ => rfl
  have whole := (Target.applyConfig_relaxes env _ intent.config).bind
    ((Target.applySshArgs_relaxes env _ intent.sshArgs).bind last)
  obtain ⟨-, added, -⟩ := whole (Target.start env (parseTarget intent.target).host intent.defaultKnownHosts
    (intent.given .acceptNew) (intent.given .insecureIgnoreHostKey)) target rfl resolved
  have added := added flag
  rw [start_trusts] at added
  simpa only [or_false, TargetGrants] using added

theorem resolveTarget_ok {result : ResolvedTarget} (resolved : intent.resolveTarget env = .ok result) :
    intent.resolveOwn env = .ok result.target ∧
      resolveJumps env (intent.jumpSpecs result.target) intent.config intent.defaultKnownHosts result.target.acceptNew
        result.target.insecureIgnoreHostKey = .ok result.jumps := by
  obtain ⟨target, own, rest⟩ := attempt_bind_eq_ok.mp resolved
  obtain ⟨jumps, hops, rest⟩ := attempt_bind_eq_ok.mp rest
  split at rest
  · cases rest
  · cases rest
    exact ⟨own, hops⟩

theorem hop_trusts_iff {target hop : Target} {spec : Text} (own : intent.resolveOwn env = .ok target)
    (jump : resolveJump env intent.config intent.defaultKnownHosts target.acceptNew target.insecureIgnoreHostKey spec =
      .ok hop) (flag : TrustFlag) :
    hop.trusts flag = true ↔
      (intent.given flag = true ∨ intent.TargetGrants env flag) ∨
        env.ConfigGrants intent.config (parseTarget spec).host flag := by
  obtain ⟨-, added, -⟩ := resolveJump_relaxed jump
  rw [added, ← resolveOwn_trusts own]
  cases flag <;> rfl

theorem resolveJump_alone {acceptNew insecure : Bool} {hop : Target} {spec : Text}
    (jump : resolveJump env intent.config intent.defaultKnownHosts acceptNew insecure spec = .ok hop)
    (same : ∀ flag, hop.trusts flag = true ↔
      intent.given flag = true ∨ env.ConfigGrants intent.config (parseTarget spec).host flag) :
    resolveJump env intent.config intent.defaultKnownHosts (intent.given .acceptNew)
      (intent.given .insecureIgnoreHostKey) spec = .ok hop := by
  obtain ⟨-, -, blind⟩ := resolveJump_relaxed jump
  obtain ⟨acceptNew, insecure, alone⟩ := blind (intent.given .acceptNew) (intent.given .insecureIgnoreHostKey)
  obtain ⟨-, added, -⟩ := resolveJump_relaxed alone
  rw [alone, Target.withTrust_eq]
  intro flag
  rw [added, start_trusts, same]

/-- A hop keeps to its own settings exactly when each flag that is set for the target is one of
the command line, or one that a block for the hop sets. -/
theorem trustsOwnSettings_iff {result : ResolvedTarget} (resolved : intent.resolveTarget env = .ok result) {spec : Text}
    {hop : Target} (member : (spec, hop) ∈ (hopTexts (intent.jumpSpecs result.target)).zip result.jumps) :
    intent.TrustsOwnSettings env spec hop ↔
      ∀ flag, intent.TargetGrants env flag →
        intent.given flag = true ∨ env.ConfigGrants intent.config (parseTarget spec).host flag := by
  obtain ⟨own, hops⟩ := resolveTarget_ok resolved
  have jump := attempt_mapM_zip hops member
  obtain ⟨named, -, -⟩ := resolveJump_relaxed jump
  have inherited := hop_trusts_iff own jump
  constructor
  · intro trusts flag granted
    have given := trusts.granted flag ((inherited flag).mpr (.inl (.inr granted)))
    rwa [named] at given
  · intro covered
    have same (flag : TrustFlag) : hop.trusts flag = true ↔
        intent.given flag = true ∨ env.ConfigGrants intent.config (parseTarget spec).host flag := by
      rw [inherited]
      constructor
      · rintro ((given | granted) | ownBlock)
        · exact .inl given
        · exact covered flag granted
        · exact .inr ownBlock
      · exact Or.imp_left .inl
    constructor
    · intro flag trusted
      rw [named]
      exact (same flag).mp trusted
    · rw [named, resolveJump_only, resolveJump_alone jump same]
      rfl

def oneConfig (lines : List Text) : SshEnv where
  home := none
  username := none
  lines := fun _ => some lines
  present := fun _ => false

def databaseOverGate : SshTargetIntent where
  target := ['d', 'b']
  config := some ['c']
  jump := [['g', 'a', 't', 'e']]

def plainHost (name : Text) (knownHosts : Option Text) (acceptNew insecure : Bool) : Target :=
  Target.start (oneConfig []) name knownHosts acceptNew insecure

theorem resolves_of_decide {env : SshEnv} {intent : SshTargetIntent} {result : ResolvedTarget}
    (resolved : (intent.resolveTarget env).toOption = some result) : intent.resolveTarget env = .ok result := by
  cases attempt : intent.resolveTarget env with
  | error error => rw [attempt] at resolved; cases resolved
  | ok value => rw [attempt] at resolved; cases resolved; rfl

def learnEveryHost : List Text := ["Host *".toList, "  StrictHostKeyChecking accept-new".toList]

theorem every_host_learned : databaseOverGate.TrustsOwnSettings (oneConfig learnEveryHost) ['g', 'a', 't', 'e']
      (plainHost ['g', 'a', 't', 'e'] none true false) := by
  have resolved : databaseOverGate.resolveTarget (oneConfig learnEveryHost) =
      .ok ⟨plainHost ['d', 'b'] none true false, [plainHost ['g', 'a', 't', 'e'] none true false]⟩ := by
    apply resolves_of_decide
    decide +kernel
  refine (trustsOwnSettings_iff resolved (by decide +kernel)).mpr fun flag granted => .inr ?_
  have block : ∀ block ∈ blocksFor ['d', 'b'] learnEveryHost, block.grants flag = true →
      block ∈ blocksFor ['g', 'a', 't', 'e'] learnEveryHost := by
    cases flag <;> decide +kernel
  rcases granted with ⟨path, lines, file, read, found, member, grants⟩ | ⟨arg, member, _⟩
  · cases read
    exact ⟨path, learnEveryHost, file, rfl, found, block found member grants, grants⟩
  · cases member

def databaseUnchecked : List Text := ["Host db".toList, "  StrictHostKeyChecking no".toList]

/-- The key of the database is not to be checked, and that of the gate is not either. -/
theorem gate_trusted_for_database :
    ∃ result hop, databaseOverGate.resolveTarget (oneConfig databaseUnchecked) = .ok result ∧
      (['g', 'a', 't', 'e'], hop) ∈ (hopTexts (databaseOverGate.jumpSpecs result.target)).zip result.jumps ∧
      (∀ (keys : KnownHosts Text) (key : Text), (handlerFor hop).checkServerKey keys key = true) ∧
      ¬ databaseOverGate.TrustsOwnSettings (oneConfig databaseUnchecked) ['g', 'a', 't', 'e'] hop := by
  refine ⟨⟨plainHost ['d', 'b'] (some "NUL".toList) true true, [plainHost ['g', 'a', 't', 'e'] none true true]⟩,
    plainHost ['g', 'a', 't', 'e'] none true true, ?_, ?_, fun _ _ => rfl, fun trusts => ?_⟩
  · apply resolves_of_decide
    decide +kernel
  · decide +kernel
  · have none : ∀ block ∈ blocksFor ['g', 'a', 't', 'e'] databaseUnchecked, block.grants .insecureIgnoreHostKey = false := by
      decide +kernel
    rcases trusts.granted .insecureIgnoreHostKey rfl with given | ⟨path, lines, _, read, block, member, grants⟩
    · cases given
    · cases read
      rw [none block member] at grants
      cases grants

end SshTargetIntent
end SshProxy
