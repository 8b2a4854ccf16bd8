import SshProxy.SshExec
import SshProxy.Library.SortedMap
import Mathlib.Data.String.Basic

/-! The VS Code machine settings on the remote host: `cleanup_remote_machine_settings` takes the
proxy's values out of them. It reads the whole file, with comments and trailing commas forgiven, and
writes it anew. -/

namespace SshProxy
open Library

abbrev JsonMap (Value : Type) := SortedMap String Value

/-- The JSON library: its values, how they are read and written, and which of them are objects. -/
structure SerdeJson (Value : Type) where
  fromStr : Text → Option Value
  toStringPretty : Value → Except String Text
  object : JsonMap Value → Value
  asObject : Value → Option (JsonMap Value)

/-- A file on the remote host, which may be missing, and how the commands on it turn out. Whether
a new text is in place and whether the command is reported as done are two things. -/
structure RemoteFile where
  content : Option Text
  readable : Except String Unit := .ok ()
  written : Except String Unit := .ok ()
  replaced : Bool := true

def RemoteFile.text (file : RemoteFile) : Text := file.content.getD []

abbrev RemoteFiles := String → RemoteFile

def RemoteFiles.readArtifact (files : RemoteFiles) (serverDir label : String) : Except String Text := do
  withContext s!"{label} failed" (files serverDir).readable
  return (files serverDir).text

/-- The text is written to another file first, which then takes the place of this one. -/
def RemoteFiles.writeArtifact (files : RemoteFiles) (serverDir label : String) (text : Text) :
    Except String Unit × RemoteFiles :=
  let file := files serverDir
  (withContext s!"{label} failed" file.written,
    if file.replaced then Function.update files serverDir { file with content := some text } else files)

inductive JsonScan where
  | outside
  | inString
  | escaped
  | lineComment
  | blockComment (previous : Char)

namespace JsonScan

def afterStringChar (char : Char) : JsonScan :=
  if char = '\\' then .escaped else if char = '"' then .outside else .inString

/-- The first loop of `strip_json_comments_and_trailing_commas`. -/
def stripComments : JsonScan → Text → Text
  | _, [] => []
  | .escaped, char :: rest => char :: stripComments .inString rest
  | .inString, char :: rest => char :: stripComments (afterStringChar char) rest
  | .lineComment, '\n' :: rest => '\n' :: stripComments .outside rest
  | .lineComment, _ :: rest => stripComments .lineComment rest
  | .blockComment previous, char :: rest =>
    if previous = '*' ∧ char = '/' then stripComments .outside rest else stripComments (.blockComment char) rest
  | .outside, '"' :: rest => '"' :: stripComments .inString rest
  | .outside, '/' :: '/' :: rest => stripComments .lineComment rest
  | .outside, '/' :: '*' :: rest => stripComments (.blockComment '\x00') rest
  | .outside, char :: rest => char :: stripComments .outside rest

/-- A comma is dropped where the next character that is not white space closes something. -/
def closesNext (rest : Text) : Bool :=
  match rest.dropWhile Text.isWhitespace with
  | char :: _ => char == '}' || char == ']'
  | [] => false

def removeTrailingJsonCommas : JsonScan → Text → Text
  | _, [] => []
  | .escaped, char :: rest => char :: removeTrailingJsonCommas .inString rest
  | .inString, char :: rest => char :: removeTrailingJsonCommas (afterStringChar char) rest
  | _, '"' :: rest => '"' :: removeTrailingJsonCommas .inString rest
  | _, ',' :: rest =>
    if closesNext rest then removeTrailingJsonCommas .outside rest
    else ',' :: removeTrailingJsonCommas .outside rest
  | _, char :: rest => char :: removeTrailingJsonCommas .outside rest

end JsonScan

def stripJsonCommentsAndTrailingCommas (input : Text) : Text :=
  JsonScan.removeTrailingJsonCommas .outside (JsonScan.stripComments .outside input)

/-- The keys that `cleanup_remote_machine_settings` takes the proxy's variables out of. -/
def terminalEnvKeys : List String :=
  ["terminal.integrated.env.linux", "terminal.integrated.env.osx", "terminal.integrated.env.windows"]

namespace SerdeJson
variable {Value : Type} (json : SerdeJson Value)

/-- The object that settings are read as: strictly, else without comments and trailing commas. -/
def readObject (raw : Text) : Option (JsonMap Value) :=
  let trimmed := raw.trim
  if trimmed = [] then none
  else ((json.fromStr trimmed).or (json.fromStr (stripJsonCommentsAndTrailingCommas trimmed))).bind json.asObject

def parseSettingsObject (raw : Text) : JsonMap Value := (json.readObject raw).getD .empty

/-- What is left of a terminal's variables; a value that is not an object is dropped. -/
def cleanTerminalEnv (envKeys : List String) (settings : JsonMap Value) (key : String) : JsonMap Value :=
  let others := settings.erase key
  match (settings.get key).bind json.asObject with
  | some env =>
    let env := envKeys.foldl SortedMap.erase env
    if env.entries = [] then others else others.insert key (json.object env)
  | none => others

def cleanSettings (envKeys : List String) (settings : JsonMap Value) : JsonMap Value :=
  terminalEnvKeys.foldl (json.cleanTerminalEnv envKeys) ((settings.erase "http.proxy").erase "http.proxySupport")

def renderSettings (settings : JsonMap Value) : Except String Text :=
  (json.toStringPretty (json.object settings)).map (· ++ ['\n'])

def readRemoteMachineSettings (files : RemoteFiles) (serverDir : String) : Except String Text :=
  files.readArtifact serverDir "read remote VS Code machine settings"

def writeRemoteMachineSettings (files : RemoteFiles) (serverDir : String) (settings : JsonMap Value) :
    Except String Unit × RemoteFiles :=
  match json.renderSettings settings with
  | .error error => (.error error, files)
  | .ok text => files.writeArtifact serverDir "write remote VS Code machine settings" text

def cleanupRemoteMachineSettings (files : RemoteFiles) (serverDir : String) (envKeys : List String) :
    Except String Unit × RemoteFiles :=
  match readRemoteMachineSettings files serverDir with
  | .error error => (.error error, files)
  | .ok current =>
    if current.trim = [] then (.ok (), files)
    else json.writeRemoteMachineSettings files serverDir (json.cleanSettings envKeys (json.parseSettingsObject current))

end SerdeJson
end SshProxy
