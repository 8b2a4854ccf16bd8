import SshProxy.MachineSettings

/-! Taking the proxy out of a remote host again: `cleanup_remote_settings`. It cleans the VS Code
settings, lets the installed helper clean the Git configurations, and runs a shell script for the
rest, which cleans the Git configurations too unless the helper has done so. -/

namespace SshProxy
open Library

/-- What a session may set on the remote host, as far as its cleanup is concerned. -/
structure ApplyPolicy where
  vscodeSettings : Bool := true
  serverEnv : Bool := true
  git : Bool := true
  gitGlobal : Bool := true
  gitWorkspace : Bool := true
  serverDir : String := ".vscode-server"

abbrev GitConfig := List (String × String)

def GitConfig.unsetProxies (config : GitConfig) : GitConfig :=
  (config.filter (·.1 ≠ "http.proxy")).filter (·.1 ≠ "https.proxy")

/-- The remote host and what becomes of the commands it is sent. A workspace belongs to the
configuration file that Git finds for it, and to the one that the helper finds. -/
structure RemoteHost where
  connected : Except String Unit := .ok ()
  settings : RemoteFiles
  gitInstalled : Bool
  globalGit : GitConfig
  localGit : String → GitConfig
  worktree : String → Option String
  helperWorktree : String → Option String
  serverEnv : String → Option Text
  statusFile : String → Bool
  scriptStarts : Bool := true
  scriptEnds : Except String Unit := .ok ()

structure GitCleanup where
  configPath : Option String
  workspacePath : Option String

inductive HelperReply where
  | unavailable (error : String)
  | exited (status : UInt32)
  | invalidJson (error : String)
  | answered (ok : Bool)
  deriving DecidableEq

/-- One request to the helper: what it leaves of the configuration it is pointed at, whichever
version of it answers, and its reply. -/
structure HelperAttempt where
  leaves : GitConfig → GitConfig
  reply : HelperReply

def HelperReply.succeeded : HelperReply → Bool
  | .answered ok => ok
  | _ => false

def ApplyPolicy.gitCleanups (policy : ApplyPolicy) (workspacePaths : List String) : List GitCleanup :=
  (if policy.gitGlobal then [⟨some "~/.gitconfig", none⟩] else []) ++
    (if policy.gitWorkspace then workspacePaths.map fun path => ⟨none, some path⟩ else [])

def proxyEnvKeys : List String :=
  ["HTTP_PROXY", "HTTPS_PROXY", "ALL_PROXY", "NO_PROXY", "http_proxy", "https_proxy", "all_proxy", "no_proxy"]

def blockStart : Text := "# >>> vscode-remote-proxy >>>".toList

def blockEnd : Text := "# <<< vscode-remote-proxy <<<".toList

/-- The lines of a file, without an empty one after the last newline. -/
def textLines : Text → List Text
  | [] => []
  | '\n' :: rest => [] :: textLines rest
  | char :: rest => consFirst char (textLines rest)

/-- The `awk` program of the script; every line it prints ends in a newline. -/
def dropManagedLines : Bool → List Text → Text
  | _, [] => []
  | skip, line :: rest =>
    if (Text.afterFirst blockStart line).isSome then dropManagedLines true rest
    else if (Text.afterFirst blockEnd line).isSome then dropManagedLines false rest
    else if skip then dropManagedLines skip rest
    else line ++ '\n' :: dropManagedLines skip rest

namespace RemoteHost

def cleanLocalGit (host : RemoteHost) (file : String) (clean : GitConfig → GitConfig) : RemoteHost :=
  { host with localGit := Function.update host.localGit file (clean (host.localGit file)) }

def admin (host : RemoteHost) (intent : GitCleanup) (leaves : GitConfig → GitConfig) : RemoteHost :=
  match intent.configPath, intent.workspacePath with
  | some _, _ => { host with globalGit := leaves host.globalGit }
  | none, some path =>
    match host.helperWorktree path with
    | some file => host.cleanLocalGit file leaves
    | none => host
  | none, none => host

/-- The requests are sent one after the other, up to the first that does not succeed; `helper`
says what comes of each, by its number. -/
def runRemoteAdminIntents (helper : Nat → HelperAttempt) : Nat → List GitCleanup → RemoteHost → Bool × RemoteHost
  | _, [], host => (true, host)
  | index, intent :: rest, host =>
    let host := host.admin intent (helper index).leaves
    if (helper index).reply.succeeded then runRemoteAdminIntents helper (index + 1) rest host else (false, host)

def tryCleanupGitConfigWithHelper (policy : ApplyPolicy) (workspacePaths : List String) (helper : Nat → HelperAttempt)
    (host : RemoteHost) : Bool × RemoteHost :=
  runRemoteAdminIntents helper 0 (policy.gitCleanups workspacePaths) host

def cleanupWorkspaceGit (host : RemoteHost) (path : String) : RemoteHost :=
  match host.worktree path with
  | some file => host.cleanLocalGit file GitConfig.unsetProxies
  | none => host

def scriptGit (host : RemoteHost) (workspacePaths : List String) : RemoteHost :=
  if host.gitInstalled then
    workspacePaths.foldl cleanupWorkspaceGit { host with globalGit := host.globalGit.unsetProxies }
  else host

/-- The rest of the script: the status file and the managed block of `server-env-setup`. -/
def scriptFiles (host : RemoteHost) (serverDir : String) : RemoteHost :=
  { host with
    statusFile := Function.update host.statusFile serverDir false
    serverEnv := Function.update host.serverEnv serverDir
      ((host.serverEnv serverDir).map fun text => dropManagedLines false (textLines text)) }

def cleanupScript (host : RemoteHost) (serverDir : String) (workspacePaths : List String) (includeGit : Bool) :
    RemoteHost :=
  (if includeGit then host.scriptGit workspacePaths else host).scriptFiles serverDir

def runCleanupScript (host : RemoteHost) (serverDir : String) (workspacePaths : List String) (includeGit : Bool) :
    Except String Unit × RemoteHost :=
  (host.scriptEnds, if host.scriptStarts then host.cleanupScript serverDir workspacePaths includeGit else host)

/-- `cleanup_remote_settings`, with what comes of the requests to the helper. -/
def cleanupRemoteSettings {Value : Type} (json : SerdeJson Value) (policy : ApplyPolicy) (workspacePaths : List String)
    (helper : Nat → HelperAttempt) (host : RemoteHost) : Except String Unit × RemoteHost :=
  match host.connected with
  | .error error => (.error error, host)
  | .ok () =>
    match json.cleanupRemoteMachineSettings host.settings policy.serverDir proxyEnvKeys with
    | (.error error, settings) => (.error error, { host with settings })
    | (.ok (), settings) =>
      let host := { host with settings }
      let (gitCleanupDone, host) :=
        if policy.git && (policy.gitGlobal || policy.gitWorkspace) then
          tryCleanupGitConfigWithHelper policy workspacePaths helper host
        else (false, host)
      host.runCleanupScript policy.serverDir workspacePaths (!gitCleanupDone)

end RemoteHost
end SshProxy
