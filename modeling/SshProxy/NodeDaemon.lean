import SshProxy.Library.Machine
import SshProxy.Library.Wire

/-! The token of a node daemon. It stands in the config, under a mutex, and again in the lock
that control requests and transports are checked against; whether requests are checked at all
is settled when the control listener binds. Handlers hold the mutex without waiting, so what
one of them does under it is one step; `rotate_token` writes the second copy in another. -/

namespace SshProxy
open Library

/-- What a handler meets outside of the daemon: the random generator, the checks that come
with it, and the file system. -/
structure HandlerInputs where
  identity : Except String Unit
  generated : Except String String
  defaults : Except String Unit
  saved : Except String Unit

namespace AppConfig

def ensureDaemonToken (generated : Except String String) : Option String → Except String String × Option String
  | some token => (.ok token, some token)
  | none =>
    match generated with
    | .ok token => (.ok token, some token)
    | .error error => (.error error, none)

def rotateDaemonToken (generated : Except String String) (token : Option String) : Except String String × Option String :=
  match generated with
  | .ok fresh => (.ok fresh, some fresh)
  | .error error => (.error error, token)

end AppConfig

/-- A call of `rotate_token` that returned an error, with the tokens before and after it. -/
structure FailedRotation where
  configBefore : Option String
  liveBefore : Option String
  configAfter : Option String
  liveAfter : Option String
  deriving DecidableEq

/-- What a `NodeManager` knows of the token. `publishing` holds those of the calls of `rotate_token`
that have given the mutex back and have not written `token` yet. -/
structure NodeTokens where
  config : Option String
  token : Option String
  requireAuth : Option Bool := none
  publishing : List String := []
  failedRotations : List FailedRotation := []
  deriving DecidableEq

inductive NodeAction where
  | bindControl
  | rotateToken (inputs : HandlerInputs)
  | publish (token : String)
  | ensureLocalTransportToken (inputs : HandlerInputs)
  | applyDaemonPeerDefaults (inputs : HandlerInputs)
  | ensurePeer (inputs : HandlerInputs)

namespace NodeTokens

def new (argsToken configToken : Option String) : NodeTokens :=
  let token := argsToken.or configToken
  { config := if configToken = none ∧ token ≠ none then token else configToken, token }

def tokenValue (manager : NodeTokens) : Option String := manager.token

/-- The comparison that takes the same time for every token of one length. -/
def tokenMatches (provided expected : String) : Bool :=
  if (utf8 provided).length ≠ (utf8 expected).length then false
  else ((utf8 provided).zip (utf8 expected)).foldl (fun acc (left, right) => acc ||| (left ^^^ right)) 0 == 0

def authenticateRequest (manager : NodeTokens) (authToken : Option String) (requireAuth : Bool) : Except String Unit :=
  if !requireAuth then .ok ()
  else
    match manager.tokenValue with
    | none => .ok ()
    | some expected =>
      match authToken with
      | none => .error "node control token is required"
      | some provided => if tokenMatches provided expected then .ok () else .error "invalid node control token"

/-- A control request with this token is dispatched; there are none before the listener binds. -/
def dispatches (manager : NodeTokens) (authToken : Option String) : Prop :=
  ∃ requireAuth, manager.requireAuth = some requireAuth ∧ manager.authenticateRequest authToken requireAuth = .ok ()

def rotateToken (manager : NodeTokens) (inputs : HandlerInputs) : Except String String × NodeTokens :=
  let (rotated, config) := AppConfig.rotateDaemonToken inputs.generated manager.config
  (do
    let token ← rotated
    inputs.saved
    return token, { manager with config })

def ensureLocalTransportToken (manager : NodeTokens) (inputs : HandlerInputs) : Except String String × NodeTokens :=
  let (ensured, config) := AppConfig.ensureDaemonToken inputs.generated manager.config
  (do
    let token ← ensured
    inputs.saved
    return token, { manager with config })

def ensureToken (manager : NodeTokens) (inputs : HandlerInputs) : Except String Unit × NodeTokens :=
  if manager.config = none then
    let (ensured, config) := AppConfig.ensureDaemonToken inputs.generated manager.config
    (ensured.map fun _ => (), { manager with config })
  else (.ok (), manager)

def applyDaemonPeerDefaults (manager : NodeTokens) (inputs : HandlerInputs) : Except String Unit × NodeTokens :=
  match inputs.identity with
  | .error error => (.error error, manager)
  | .ok () =>
    let (ensured, manager) := manager.ensureToken inputs
    (do
      ensured
      inputs.defaults
      inputs.saved, manager)

/-- The start of `bootstrap_peer_from_args` and of `ensure_peer_for_route`, which save before
they look at the other arguments. -/
def ensurePeer (manager : NodeTokens) (inputs : HandlerInputs) : Except String Unit × NodeTokens :=
  match inputs.identity with
  | .error error => (.error error, manager)
  | .ok () =>
    let (ensured, manager) := manager.ensureToken inputs
    (do
      ensured
      inputs.saved
      inputs.defaults, manager)

def enabled (manager : NodeTokens) : NodeAction → Prop
  | .bindControl => manager.requireAuth = none
  | .publish token => token ∈ manager.publishing
  | .rotateToken _ | .ensureLocalTransportToken _ | .applyDaemonPeerDefaults _ | .ensurePeer _ => True

def next (manager : NodeTokens) : NodeAction → NodeTokens
  | .bindControl => { manager with requireAuth := some manager.tokenValue.isSome }
  | .rotateToken inputs =>
    match manager.rotateToken inputs with
    | (.ok token, after) => { after with publishing := token :: after.publishing }
    | (.error _, after) =>
      { after with
        failedRotations := after.failedRotations ++ [⟨manager.config, manager.token, after.config, after.token⟩] }
  | .publish token => { manager with token := some token, publishing := manager.publishing.erase token }
  | .ensureLocalTransportToken inputs => (manager.ensureLocalTransportToken inputs).2
  | .applyDaemonPeerDefaults inputs => (manager.applyDaemonPeerDefaults inputs).2
  | .ensurePeer inputs => (manager.ensurePeer inputs).2

abbrev machine (argsToken configToken : Option String) : Machine NodeTokens NodeAction where
  initial := new argsToken configToken
  enabled := enabled
  next := next

instance decidableEnabled (manager : NodeTokens) (action : NodeAction) : Decidable (manager.enabled action) := by
  cases action <;> dsimp only [enabled] <;> infer_instance

end NodeTokens
end SshProxy
