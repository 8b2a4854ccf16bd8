import SshProxy.FrameCodec
import SshProxy.Library.Text

/-! Commands that are run on the remote host over an SSH channel: `exec_upload`, `exec_capture`
and `exec_output`. The channel belongs to the SSH library; what it does is how the calls on it
turn out and the messages that come until it is closed or ends. -/

namespace SshProxy
open Library

inductive ChannelMsg where
  | data (bytes : Bytes)
  | extendedData (ext : UInt32) (bytes : Bytes)
  | exitStatus (status : UInt32)
  | exitSignal (signal : String) (coreDumped : Bool)
  | eof
  | close
  | other
  deriving DecidableEq

/-- A channel and the session it is opened on; every call on it may fail. -/
structure ExecChannel where
  opened : Except String Unit := .ok ()
  started : Except String Unit := .ok ()
  sent : Except String Unit := .ok ()
  messages : List ChannelMsg

structure ExecOutput where
  exitStatus : UInt32
  stdout : Text
  stderr : Text
  deriving DecidableEq

/-- The error is shown as its context, with what it is the context of behind it. -/
def withContext {α : Type} (context : String) (attempt : Except String α) : Except String α :=
  attempt.mapError fun error => s!"{context}: {error}"

/-- The loop of `exec_upload`, from the status it has. What the remote writes is only logged. -/
def uploadStatus : Option UInt32 → List ChannelMsg → Option UInt32
  | status, [] => status
  | _, .exitStatus status :: rest => uploadStatus (some status) rest
  | status, .close :: _ => status
  | status, _ :: rest => uploadStatus status rest

structure Captured where
  status : Option UInt32 := none
  stdout : Bytes := []
  stderr : Bytes := []
  deriving DecidableEq

def Captured.collect : Captured → List ChannelMsg → Captured
  | captured, [] => captured
  | captured, .exitStatus status :: rest => collect { captured with status := some status } rest
  | captured, .close :: _ => captured
  | captured, .data bytes :: rest => collect { captured with stdout := captured.stdout ++ bytes } rest
  | captured, .extendedData _ bytes :: rest => collect { captured with stderr := captured.stderr ++ bytes } rest
  | captured, _ :: rest => collect captured rest

/-- `from_utf8` under the context its error is shown with. -/
def fromUtf8 (context : String) (bytes : Bytes) : Except String Text :=
  match ofUtf8 bytes with
  | some text => .ok text.toList
  | none => .error context

def statusText : Option UInt32 → String
  | some status => s!"Some({status})"
  | none => "None"

namespace ExecChannel

def execUpload (channel : ExecChannel) : Except String Unit := do
  withContext "failed to open upload channel" channel.opened
  withContext "failed to exec upload command" channel.started
  withContext "failed to send upload bytes" channel.sent
  let status := uploadStatus none channel.messages
  if status.getD 0 ≠ 0 then throw s!"remote upload command exited with status {statusText status}"

/-- `stdin` is whether there is input to send. -/
def execCapture (channel : ExecChannel) (stdin : Bool) : Except String ExecOutput := do
  withContext "failed to open command channel" channel.opened
  channel.started
  if stdin then withContext "failed to send command stdin" channel.sent
  let captured := Captured.collect {} channel.messages
  let stdout ← fromUtf8 "remote command stdout was not utf-8" captured.stdout
  let stderr ← fromUtf8 "remote command stderr was not utf-8" captured.stderr
  return { exitStatus := captured.status.getD 0, stdout, stderr }

def execOutput (channel : ExecChannel) : Except String Text := do
  let output ← channel.execCapture false
  if output.exitStatus ≠ 0 then
    throw s!"remote command exited with status {output.exitStatus}: {String.ofList output.stderr.trim}"
  return output.stdout

end ExecChannel
end SshProxy
