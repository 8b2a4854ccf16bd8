import SshProxy.Address

/-! The resolution of an SSH target and of the hosts it is reached over, `resolve_target`: the
blocks of an OpenSSH config that match a host, the options of the command line, and the check of
a server's key that comes of them. Texts and paths are lists of characters, and a config file is
the list of its lines. -/

namespace SshProxy
open Library

structure SshEnv where
  home : Option Text
  username : Option Text
  lines : Text → Option (List Text)
  present : Text → Bool

inductive StrictHostKeyChecking where
  | acceptNew
  | no
  deriving DecidableEq

inductive SshDirective where
  | host (patterns : List Text)
  | hostname (value : Text)
  | user (value : Text)
  | port (value : Text)
  | identityFile (value : Text)
  | userKnownHostsFile (value : Text)
  | strictHostKeyChecking (value : StrictHostKeyChecking)
  | proxyJump (specs : List Text)
  | proxyCommand
  | other
  deriving DecidableEq

def splitSpecs (value : Text) : List Text := ((value.splitOn ',').map Text.trim).filter (· ≠ [])

namespace SshDirective

def named (key value : Text) : SshDirective :=
  match String.ofList key.lower with
  | "host" => .host value.words
  | "hostname" => .hostname value
  | "user" => .user value
  | "port" => .port value
  | "identityfile" => .identityFile value
  | "userknownhostsfile" => .userKnownHostsFile value
  | "stricthostkeychecking" =>
    if value.eqIgnoreCase "accept-new".toList then .strictHostKeyChecking .acceptNew
    else if value.eqIgnoreCase "no".toList then .strictHostKeyChecking .no
    else .other
  | "proxyjump" => if value.eqIgnoreCase "none".toList then .other else .proxyJump (splitSpecs value)
  | "proxycommand" => .proxyCommand
  | _ => .other

def splitDirective (line : Text) : Text × Text :=
  match line.splitOnceBy Text.isWhitespace with
  | some (key, value) => (key.trim, value.trim.trimMatches '"')
  | none =>
    match line.splitOnce '=' with
    | some (key, value) => (key.trim, value.trim.trimMatches '"')
    | none => (line, [])

/-- A line without its comment; there may be nothing left of it. -/
def ofLine (raw : Text) : Option SshDirective :=
  let line := Text.trim (raw.takeWhile (· ≠ '#'))
  if line = [] then none
  else
    let (key, value) := splitDirective line
    some (named key value)

end SshDirective

/-- The loop of `wildcard_match`. A part that is `anchored` stands where the rest begins. -/
def matchParts : (anchored : Bool) → List Text → Text → Option Text
  | _, [], rest => some rest
  | anchored, part :: parts, rest =>
    if part = [] then matchParts anchored parts rest
    else if anchored then
      if part.isPrefixOf rest then matchParts false parts (rest.drop part.length) else none
    else
      match Text.afterFirst part rest with
      | some rest => matchParts false parts rest
      | none => none

def wildcardMatch (pattern value : Text) : Bool :=
  if '*' ∉ pattern then pattern.eqIgnoreCase value
  else
    match matchParts (pattern.head? ≠ some '*') (pattern.splitOn '*') value with
    | some rest => pattern.getLast? = some '*' ∨ rest = []
    | none => false

def hostPatternMatches (pattern host : Text) : Bool :=
  if pattern = ['*'] then true
  else if pattern.head? = some '!' then false
  else wildcardMatch pattern host

/-- A host as it is to be connected to. A hop has no jumps of its own. -/
structure Target where
  hostAlias : Text
  host : Text
  port : UInt16
  user : Text
  identities : List Text
  knownHosts : Option Text
  acceptNew : Bool
  insecureIgnoreHostKey : Bool
  jumpSpecs : List Text
  deriving DecidableEq

def configHomeFromPath (path : Text) : Option Text := do
  let sshDir ← Path.parent path
  let name ← Path.fileName sshDir
  if Text.eqIgnoreCase name ".ssh".toList then Path.parent sshDir else none

def expandPathFromConfig (env : SshEnv) (configHome : Option Text) (value : Text) : Text :=
  match value, configHome.or env.home with
  | '~' :: '/' :: stripped, some home => Path.join home stripped
  | _, _ => value

def parseU16 (value : Text) : Except String UInt16 := (Text.parseInteger 65535 value).map UInt16.ofNat

namespace Target

def expandSshTokens (target : Target) (value : Text) : Text :=
  replacePair '%' 'r' target.user (replacePair '%' 'p' (toString target.port).toList
    (replacePair '%' 'n' target.hostAlias (replacePair '%' 'h' target.host value)))

def relax (target : Target) : StrictHostKeyChecking → Target
  | .acceptNew => { target with acceptNew := true }
  | .no => { target with acceptNew := true, knownHosts := some "NUL".toList, insecureIgnoreHostKey := true }

def applyDirective (env : SshEnv) (configHome : Option Text) (target : Target) : SshDirective → Except String Target
  | .hostname value => .ok { target with host := target.expandSshTokens value }
  | .user value => .ok { target with user := target.expandSshTokens value }
  | .port value => .ok { target with port := (parseU16 value).toOption.getD target.port }
  | .identityFile value =>
    let path := expandPathFromConfig env configHome (target.expandSshTokens value)
    .ok { target with identities := target.identities ++ [path] }
  | .userKnownHostsFile value =>
    .ok { target with knownHosts := some (expandPathFromConfig env configHome (target.expandSshTokens value)) }
  | .strictHostKeyChecking value => .ok (target.relax value)
  | .proxyJump specs => .ok { target with jumpSpecs := specs }
  | .proxyCommand => .error "unsupported OpenSSH ProxyCommand requires explicit external SSH compatibility"
  | .host _ | .other => .ok target

/-- The lines of a config file, where the lines before the first `Host` are for every host. -/
def applyLines (env : SshEnv) (configHome : Option Text) : (active : Bool) → List Text → Target → Except String Target
  | _, [], target => .ok target
  | active, raw :: rest, target =>
    match SshDirective.ofLine raw with
    | none => applyLines env configHome active rest target
    | some (.host patterns) =>
      applyLines env configHome (patterns.any (hostPatternMatches · target.hostAlias)) rest target
    | some directive =>
      if active then do
        let target ← target.applyDirective env configHome directive
        applyLines env configHome active rest target
      else applyLines env configHome active rest target

end Target

/-- The config file that is read: the one given, else the user's own. -/
def SshEnv.configFile (env : SshEnv) (configPath : Option Text) : Option Text :=
  configPath.or (env.home.map fun home => Path.join (Path.join home ".ssh".toList) "config".toList)

namespace Target

def applyConfig (env : SshEnv) (configPath : Option Text) (target : Target) : Except String Target :=
  match env.configFile configPath with
  | none => .ok target
  | some path =>
    match env.lines path with
    | none => .ok target
    | some lines => target.applyLines env (configHomeFromPath path) true lines

end Target

inductive SshArg where
  | login (user : Text)
  | identity (path : Text)
  | port (value : Text)
  | config (path : Text)
  | option (value : Text)
  | missing (arg : Text)
  | unsupported (arg : Text)
  deriving DecidableEq

namespace SshArg

def takesValue (arg : Text) : Bool := arg ∈ [['-', 'l'], ['-', 'i'], ['-', 'p'], ['-', 'F'], ['-', 'o']]

def flagged : (arg value : Text) → SshArg
  | ['-', 'l'], value => .login value
  | ['-', 'i'], value => .identity value
  | ['-', 'p'], value => .port value
  | ['-', 'F'], value => .config value
  | ['-', 'o'], value => .option value
  | arg, _ => .unsupported arg

def glued : (arg : Text) → SshArg
  | '-' :: 'l' :: value => .login value
  | '-' :: 'i' :: value => .identity value
  | '-' :: 'p' :: value => .port value
  | '-' :: 'o' :: value => .option value
  | arg => .unsupported arg

def readAll : List Text → List SshArg
  | [] => []
  | [arg] => [if takesValue arg then .missing arg else glued arg]
  | arg :: value :: rest =>
    if takesValue arg then flagged arg value :: readAll rest else glued arg :: readAll (value :: rest)

end SshArg

namespace Target

def applyNamed (env : SshEnv) (target : Target) : SshDirective → Except String Target
  | .hostname value => .ok { target with host := value }
  | .user value => .ok { target with user := value }
  | .port value => (parseU16 value).map fun port => { target with port }
  | .identityFile value => .ok { target with identities := target.identities ++ [expandPathFromConfig env none value] }
  | .userKnownHostsFile value => .ok { target with knownHosts := some (expandPathFromConfig env none value) }
  | .strictHostKeyChecking value => .ok (target.relax value)
  | .proxyJump specs => .ok { target with jumpSpecs := specs }
  | .host _ | .proxyCommand | .other => .ok target

def applyOOption (env : SshEnv) (target : Target) (value : Text) : Except String Target :=
  match value.splitOnce '=' with
  | none => .error s!"unsupported -o format: {String.ofList value}"
  | some (key, value) => target.applyNamed env (.named key value)

def applyArg (env : SshEnv) (target : Target) : SshArg → Except String Target
  | .login user => .ok { target with user }
  | .identity path => .ok { target with identities := target.identities ++ [expandPathFromConfig env none path] }
  | .port value => (parseU16 value).map fun port => { target with port }
  | .config path => target.applyConfig env (some path)
  | .option value => target.applyOOption env value
  | .missing arg => .error s!"missing value after {String.ofList arg}"
  | .unsupported _ => .ok target

def applySshArgs (env : SshEnv) (args : List Text) (target : Target) : Except String Target :=
  (SshArg.readAll args).foldlM (applyArg env) target

end Target

def opensshDefaultIdentityCandidates (home : Text) : List Text :=
  ["id_rsa", "id_ecdsa", "id_ecdsa_sk", "id_ed25519", "id_ed25519_sk", "id_xmss", "id_dsa"].map fun name =>
    Path.join (Path.join home ".ssh".toList) name.toList

namespace Target

def addConfigHomeDefaultIdentities (env : SshEnv) (configHome : Option Text) (target : Target) : Target :=
  { target with
    identities :=
      match target.identities, configHome with
      | [], some home => (opensshDefaultIdentityCandidates home).filter env.present
      | identities, _ => identities }

end Target

structure ParsedTarget where
  user : Option Text
  host : Text
  port : Option UInt16
  deriving DecidableEq

def parseTarget (target : Text) : ParsedTarget :=
  let (user, rest) :=
    match target.splitLast '@' with
    | some (user, rest) => (some user, rest)
    | none => (none, target)
  match rest.splitLast ':' with
  | some (host, port) => if ']' ∉ host then ⟨user, host, (parseU16 port).toOption⟩ else ⟨user, rest, none⟩
  | none => ⟨user, rest, none⟩

structure SshTargetIntent where
  target : Text
  sshArgs : List Text := []
  user : Option Text := none
  port : Option UInt16 := none
  identity : List Text := []
  config : Option Text := none
  knownHosts : Option Text := none
  acceptNew : Bool := false
  insecureIgnoreHostKey : Bool := false
  jump : List Text := []

def Target.start (env : SshEnv) (host : Text) (knownHosts : Option Text) (acceptNew insecureIgnoreHostKey : Bool) :
    Target where
  hostAlias := host
  host := host
  port := 22
  user := env.username.getD "root".toList
  identities := []
  knownHosts := knownHosts
  acceptNew := acceptNew
  insecureIgnoreHostKey := insecureIgnoreHostKey
  jumpSpecs := []

structure ResolvedTarget where
  target : Target
  jumps : List Target
  deriving DecidableEq

/-- The hosts that a list of jump specifications names, one after the other. -/
def hopTexts (specs : List Text) : List Text :=
  (specs.filter fun spec => !spec.eqIgnoreCase "none".toList).flatMap splitSpecs

/-- What a hop is written with goes before the config, and it has no jumps of its own. -/
def Target.finishHop (env : SshEnv) (configPath : Option Text) (parsed : ParsedTarget) (target : Target) : Target :=
  let target := { target with user := parsed.user.getD target.user, port := parsed.port.getD target.port }
  { target.addConfigHomeDefaultIdentities env (configPath.bind configHomeFromPath) with jumpSpecs := [] }

def resolveJump (env : SshEnv) (configPath knownHosts : Option Text) (acceptNew insecureIgnoreHostKey : Bool)
    (hop : Text) : Except String Target := do
  let parsed := parseTarget hop
  let target ← (Target.start env parsed.host knownHosts acceptNew insecureIgnoreHostKey).applyConfig env configPath
  return target.finishHop env configPath parsed

def resolveJumps (env : SshEnv) (specs : List Text) (configPath knownHosts : Option Text)
    (acceptNew insecureIgnoreHostKey : Bool) : Except String (List Target) :=
  (hopTexts specs).mapM (resolveJump env configPath knownHosts acceptNew insecureIgnoreHostKey)

namespace SshTargetIntent

def defaultKnownHosts (intent : SshTargetIntent) : Option Text :=
  if intent.insecureIgnoreHostKey then some "NUL".toList else intent.knownHosts

/-- What the target is written with and what the command line says go before the config. -/
def finish (env : SshEnv) (intent : SshTargetIntent) (parsed : ParsedTarget) (target : Target) : Target :=
  let target :=
    { target with
      user := (parsed.user.or intent.user).getD target.user
      port := (parsed.port.or intent.port).getD target.port
      identities := if intent.identity = [] then target.identities else intent.identity }
  target.addConfigHomeDefaultIdentities env (intent.config.bind configHomeFromPath)

def resolveOwn (env : SshEnv) (intent : SshTargetIntent) : Except String Target := do
  let parsed := parseTarget intent.target
  let start := Target.start env parsed.host intent.defaultKnownHosts (intent.acceptNew || intent.insecureIgnoreHostKey)
    intent.insecureIgnoreHostKey
  let target ← start.applyConfig env intent.config
  let target ← target.applySshArgs env intent.sshArgs
  return intent.finish env parsed target

def jumpSpecs (intent : SshTargetIntent) (target : Target) : List Text :=
  if intent.jump = [] then target.jumpSpecs else intent.jump

def resolveTarget (env : SshEnv) (intent : SshTargetIntent) : Except String ResolvedTarget := do
  let target ← intent.resolveOwn env
  let jumps ← resolveJumps env (intent.jumpSpecs target) intent.config intent.defaultKnownHosts target.acceptNew
    target.insecureIgnoreHostKey
  if target.host = [] then throw "empty SSH host"
  return { target, jumps }

end SshTargetIntent

structure ClientHandler where
  host : Text
  port : UInt16
  knownHosts : Option Text
  acceptNew : Bool
  insecureIgnoreHostKey : Bool
  deriving DecidableEq

def handlerFor (target : Target) : ClientHandler :=
  ⟨target.host, target.port, target.knownHosts, target.acceptNew, target.insecureIgnoreHostKey⟩

/-- The known hosts of the SSH library, in the file given or its default one. -/
structure KnownHosts (κ : Type) where
  check : Option Text → Text → UInt16 → κ → Except String Bool
  learn : Option Text → Text → UInt16 → κ → Except String Unit

def isNullKnownHosts (path : Text) : Bool := path.eqIgnoreCase "nul".toList ∨ path = "/dev/null".toList

namespace ClientHandler

def checkServerKey {κ : Type} (keys : KnownHosts κ) (handler : ClientHandler) (key : κ) : Bool :=
  if handler.insecureIgnoreHostKey then true
  else if handler.knownHosts.any isNullKnownHosts then true
  else
    match keys.check handler.knownHosts handler.host handler.port key with
    | .ok true => true
    | .ok false => handler.acceptNew && (keys.learn handler.knownHosts handler.host handler.port key).isOk
    | .error _ => false

end ClientHandler
end SshProxy
