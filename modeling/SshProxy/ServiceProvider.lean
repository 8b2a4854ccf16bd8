import SshProxy.Address
import SshProxy.Library.WindowsArgs

/-! The commands that install the node daemon as a service on a remote host: a launchd property
list, a supervising shell script and a scheduled task, each with the daemon's command line written
in its own way. -/

namespace SshProxy
open Library

structure RemotePeerServiceSpec where
  remotePath : Text
  remoteToken : Option Text
  remoteTcp : SocketAddr
  remoteControl : SocketAddr
  remoteTlsTransport : Option SocketAddr
  remoteQuicTransport : Option SocketAddr
  remoteTlsCert : Option Text
  remoteTlsKey : Option Text
  remoteTlsClientCa : Option Text

def shQuote (value : Text) : Text := '\'' :: Text.replaceChar '\'' "'\\''".toList value ++ ['\'']

def xmlEscape (value : Text) : Text :=
  Text.replaceChar '"' "&quot;".toList (Text.replaceChar '>' "&gt;".toList
    (Text.replaceChar '<' "&lt;".toList (Text.replaceChar '&' "&amp;".toList value)))

def windowsCmdQuote (value : Text) : Text := '"' :: Text.replaceChar '"' "\\\"".toList value ++ ['"']

def optionArg (name : String) (value : Option Text) : Text :=
  match value with
  | some value => ' ' :: name.toList ++ ' ' :: value
  | none => []

def tokenArg (token : Option Text) : Text := optionArg "--token" (token.map shQuote)

/-- `token_arg_to_plist` and `extra_args_to_plist`: the words of an argument string, without the
quotes around them. -/
def argsToPlist (args : Text) : Text :=
  args.words.flatMap fun part => Xml.element (xmlEscape (part.trimMatches '\''))

def remoteNohupFiles (port : Text) : Text × Text × Text × Text :=
  ("$HOME/.ssh_proxy/run/helper-".toList ++ port ++ ".pid".toList,
    "$HOME/.ssh_proxy/run/helper-".toList ++ port ++ ".child.pid".toList,
    "$HOME/.ssh_proxy/log/helper-".toList ++ port ++ ".log".toList,
    "$HOME/.ssh_proxy/run/helper-".toList ++ port ++ ".supervisor.sh".toList)

def remoteNohupStopSnippet (port : Text) : Text :=
  let (pidfile, childfile, _, _) := remoteNohupFiles port
  "pidfile=".toList ++ pidfile ++ "; childfile=".toList ++ childfile ++
    ("; for f in \"$childfile\" \"$pidfile\"; do if [ -f \"$f\" ]; then pid=$(cat \"$f\" 2>/dev/null || true); " ++
      "if [ -n \"$pid\" ] && kill -0 \"$pid\" 2>/dev/null; then kill \"$pid\" 2>/dev/null || true; " ++
      "for i in 1 2 3 4 5; do kill -0 \"$pid\" 2>/dev/null || break; sleep 1; done; " ++
      "kill -9 \"$pid\" 2>/dev/null || true; fi; rm -f \"$f\"; fi; done").toList

namespace RemotePeerServiceSpec
-- `Display` of addresses.
variable (display : SocketAddr → Text) (spec : RemotePeerServiceSpec)

def nodeDaemonExtraArgs : Text :=
  optionArg "--tls-transport" (spec.remoteTlsTransport.map display) ++
    optionArg "--quic-transport" (spec.remoteQuicTransport.map display) ++
    optionArg "--tls-cert" (spec.remoteTlsCert.map shQuote) ++
    optionArg "--tls-key" (spec.remoteTlsKey.map shQuote) ++
    optionArg "--tls-client-ca" (spec.remoteTlsClientCa.map shQuote)

def windowsExtraArgs : Text :=
  optionArg "--tls-transport" (spec.remoteTlsTransport.map display) ++
    optionArg "--quic-transport" (spec.remoteQuicTransport.map display)

def daemonArgs : Text :=
  " node daemon".toList ++ optionArg "--transport" (some (display spec.remoteTcp)) ++
    optionArg "--control" (some ("tcp://".toList ++ display spec.remoteControl))

def programArguments : Text :=
  Xml.element (xmlEscape spec.remotePath) ++ Xml.element "node".toList ++ Xml.element "daemon".toList ++
    Xml.element "--transport".toList ++ Xml.element (display spec.remoteTcp) ++ Xml.element "--control".toList ++
    Xml.element ("tcp://".toList ++ display spec.remoteControl) ++ argsToPlist (tokenArg spec.remoteToken) ++
    argsToPlist (nodeDaemonExtraArgs display spec)

/-- The line of the supervising script that starts the daemon, up to its redirections. -/
def nohupCommand : Text :=
  shQuote spec.remotePath ++ daemonArgs display spec ++ tokenArg spec.remoteToken ++ nodeDaemonExtraArgs display spec

def taskCommand : Text :=
  windowsCmdQuote spec.remotePath ++ daemonArgs display spec ++
    optionArg "--token" (spec.remoteToken.map windowsCmdQuote) ++ windowsExtraArgs display spec

def remoteLaunchdInstallCommand : Text :=
  let plist := "$HOME/Library/LaunchAgents/com.ssh-proxy.helper.plist".toList
  "set -eu; mkdir -p \"$HOME/Library/LaunchAgents\"; cat > ".toList ++ plist ++
    (" <<'EOF'\n<?xml version=\"1.0\" encoding=\"UTF-8\"?>\n<!DOCTYPE plist PUBLIC \"-//Apple//DTD PLIST 1.0//EN\" " ++
      "\"http://www.apple.com/DTDs/PropertyList-1.0.dtd\">\n<plist version=\"1.0\"><dict>\n" ++
      "<key>Label</key><string>com.ssh-proxy.helper</string>\n").toList ++
    "<key>ProgramArguments</key><array>".toList ++ programArguments display spec ++ "</array>".toList ++
    ("\n<key>RunAtLoad</key><true/>\n<key>KeepAlive</key><true/>\n" ++
      "<key>StandardOutPath</key><string>$HOME/.ssh_proxy/log/launchd.log</string>\n" ++
      "<key>StandardErrorPath</key><string>$HOME/.ssh_proxy/log/launchd.log</string>\n</dict></plist>\nEOF\n" ++
      "mkdir -p \"$HOME/.ssh_proxy/log\"; launchctl bootout gui/$(id -u) ").toList ++ plist ++
    " >/dev/null 2>&1 || true; launchctl bootstrap gui/$(id -u) ".toList ++ plist ++
    "; launchctl kickstart -k gui/$(id -u)/com.ssh-proxy.helper".toList

def remoteNohupStartCommand (stopExisting : Bool) : Text :=
  let port := (toString spec.remoteTcp.port).toList
  let stop := if stopExisting then remoteNohupStopSnippet port ++ "; ".toList else []
  let (pidfile, childfile, logfile, scriptfile) := remoteNohupFiles port
  "set -eu; mkdir -p \"$HOME/.ssh_proxy/run\" \"$HOME/.ssh_proxy/log\"; ".toList ++ stop ++ " cat > ".toList ++
    scriptfile ++ " <<'EOF'\n#!/bin/sh\nset -u\ntrap 'if [ -f ".toList ++ childfile ++ " ]; then child=$(cat ".toList ++
    childfile ++ (" 2>/dev/null || true); [ -n \"$child\" ] && kill \"$child\" 2>/dev/null || true; fi; exit 0' INT TERM\n" ++
      "backoff=1\nwhile :; do\n  echo \"$(date -u +%Y-%m-%dT%H:%M:%SZ) starting ssh_proxy node daemon\" >>").toList ++
    logfile ++ "\n  ".toList ++ nohupCommand display spec ++ " >>".toList ++ logfile ++
    " 2>&1 &\n  child=$!\n  echo \"$child\" >".toList ++ childfile ++
    ("\n  wait \"$child\"\n  code=$?\n  echo \"$(date -u +%Y-%m-%dT%H:%M:%SZ) ssh_proxy node daemon exited " ++
      "status=$code; restarting in $\x7bbackoff\x7ds\" >>").toList ++ logfile ++
    ("\n  sleep \"$backoff\"\n  if [ \"$backoff\" -lt 30 ]; then backoff=$((backoff * 2)); fi\ndone\nEOF\n" ++
      "chmod 700 ").toList ++ scriptfile ++ "; nohup /bin/sh ".toList ++ scriptfile ++
    " >/dev/null 2>&1 < /dev/null & echo $! > ".toList ++ pidfile ++ "; sleep 1; pid=$(cat ".toList ++ pidfile ++
    "); kill -0 \"$pid\"".toList

def remoteSchtasksInstallCommand : Text :=
  "schtasks /Create /TN ssh_proxy_helper /SC ONLOGON /RL LIMITED /F".toList ++ " /TR ".toList ++
    windowsCmdQuote (taskCommand display spec) ++ " && ".toList ++ "schtasks /Run /TN ssh_proxy_helper".toList

end RemotePeerServiceSpec
end SshProxy
