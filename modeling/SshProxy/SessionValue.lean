import SshProxy.Library.Json
import SshProxy.SessionSpec

/-! A spec as `serde_json::to_value` renders it. Fields that are empty are left out where the source
says so; a path that was decoded from JSON can always be written. -/

namespace SshProxy
open Library

def listValue (values : List Text) : Option Json := if values = [] then none else some (.array (values.map .string))

def portValue (port : UInt16) : Json := .number (toString port.toNat).toList

def SshTargetSpec.toValue (ssh : SshTargetSpec) : Json := .object <| Json.present [
  ("host_name", ssh.hostName.map .string), ("user", ssh.user.map .string), ("port", ssh.port.map portValue),
  ("identity", listValue ssh.identity), ("config", ssh.config.map .string),
  ("known_hosts", ssh.knownHosts.map .string), ("jump", listValue ssh.jump),
  ("accept_new", if ssh.acceptNew then some (.bool true) else none)]

def RemotePortPolicy.toValue (policy : RemotePortPolicy) : Json := .object <| Json.present [
  ("preferred", some (portValue policy.preferred)), ("auto_pick", some (.bool policy.autoPick)),
  ("range_size", some (portValue policy.rangeSize))]

def RouteConnectMode.toValue (mode : RouteConnectMode) : Json :=
  .string <| String.toList <| match mode with
    | .auto => "auto"
    | .direct => "direct"
    | .reverseLink => "reverse-link"

def SessionApplyPolicy.toValue (policy : SessionApplyPolicy) : Json := .object <| Json.present [
  ("vscode_settings", some (.bool policy.vscodeSettings)), ("terminal_env", some (.bool policy.terminalEnv)),
  ("server_env", some (.bool policy.serverEnv)), ("git", some (.bool policy.git)),
  ("git_global", some (.bool policy.gitGlobal)), ("git_workspace", some (.bool policy.gitWorkspace)),
  ("git_force_override", some (.bool policy.gitForceOverride)),
  ("remote_status_file", some (.bool policy.remoteStatusFile)),
  ("verify_remote_port", some (.bool policy.verifyRemotePort)), ("no_proxy", some (.string policy.noProxy.toList)),
  ("proxy_support", some (.string policy.proxySupport.toList)), ("server_dir", some (.string policy.serverDir.toList))]

namespace ProxySessionSpec

def toValue (text : IpText) (spec : ProxySessionSpec) : Json := .object <| Json.present [
  ("target", some (.string spec.target)), ("workspace_id", spec.workspaceId.map .string),
  ("ssh", spec.ssh.map (·.toValue)), ("workspace_paths", listValue (spec.workspacePaths.map String.toList)),
  ("local_proxy", some (.string spec.localProxy)),
  ("remote_bind", some (.string (text.display spec.remoteBind).toList)),
  ("remote_port_policy", some spec.remotePortPolicy.toValue), ("connect_mode", some spec.connectMode.toValue),
  ("apply_policy", some spec.applyPolicy.toValue)]

def matchAtSelectedPort (text : IpText) (existing requested : ProxySessionSpec) (selectedPort : UInt16) : Prop :=
  (existing.atSelectedPort selectedPort).toValue text = (requested.atSelectedPort selectedPort).toValue text

/-- `proxy_session_specs_match`, with the values it compares. -/
def specsMatch (text : IpText) (left right : ProxySessionSpec) : Prop :=
  let selectedPort := left.remotePortPolicy.preferred
  if selectedPort = right.remotePortPolicy.preferred then matchAtSelectedPort text left right selectedPort
  else if right.remotePortPolicy.autoPick ∧ selectedPort ∈ right.remotePortPolicy.candidates then
    matchAtSelectedPort text left right selectedPort
  else False

end ProxySessionSpec
end SshProxy
