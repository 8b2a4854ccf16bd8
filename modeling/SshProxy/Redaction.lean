import SshProxy.Address
import SshProxy.Library.Json

/-! The redaction of what is reported, `redact_value`. -/

namespace SshProxy
open Library

def mentions (key : Text) (part : String) : Bool := (Text.afterFirst part.toList key.lower).isSome

def isSecretKey (key : Text) : Bool :=
  mentions key "token" || mentions key "password" || mentions key "passphrase" || mentions key "secret" ||
    mentions key "credential"

def isPathKey (key : Text) : Bool := mentions key "identity" || mentions key "known_hosts"

def redactedPath (path : Text) : Text := "<redacted>/".toList ++ (Path.fileName path).getD "<path>".toList

mutual

/-- `redact_value` and `redact_pathish`, which differ in what they do with a string; what the second one
leaves to the first is written out. -/
def redactAs (pathish : Bool) : Json → Json
  | .string value => .string (if pathish then redactedPath value else value)
  | .array items => .array (redactItems pathish items)
  | .object entries => .object (redactObject entries)
  | .null => .null
  | .bool value => .bool value
  | .number value => .number value
termination_by structural value => value

def redactItems (pathish : Bool) : List Json → List Json
  | [] => []
  | item :: rest => redactAs pathish item :: redactItems pathish rest
termination_by structural items => items

def redactObject : List (Text × Json) → List (Text × Json)
  | [] => []
  | (key, value) :: rest =>
    (key, if isSecretKey key then .string "<redacted>".toList else redactAs (isPathKey key) value) :: redactObject rest
termination_by structural entries => entries

end

def redactValue : Json → Json := redactAs false

def redactPathish : Json → Json := redactAs true

end SshProxy
