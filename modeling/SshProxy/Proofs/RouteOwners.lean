import SshProxy.Proofs.RouteWalk

/-! No two routes own one listener, and what a start does that finds its id taken. -/

namespace SshProxy
open Library RouteDaemon RouteTable RouteCalls

theorem RouteStep.oneOwner {text : IpText} {sure : Prop} {point later : RoutePoint} {before after : RouteDaemon}
    (step : RouteStep text sure point later before after) (owners : before.routes.OneOwner) : after.routes.OneOwner := by
  cases step with
  | stopped | restarted => exact owners.within (erase_within _ _)
  | checked _ checked => exact owners.within checked.within
  | registered _ registered => exact registered.oneOwner owners
  | waits | unprepared | prepared | missing | confirmed | unread | read | taken | wrote | unwritten => exact owners

def RouteCalls.stored (file : List StoredRoute) : RouteCalls := { state := { file } }

theorem RouteCalls.oneOwner {text : IpText} {guard : RouteCalls → RouteAction → Prop} {initial calls : RouteCalls}
    (run : ((system text).machine initial).Run guard calls)
    (idle : initial.tasks = []) (owners : initial.state.routes.OneOwner) : calls.state.routes.OneOwner := by
  have followed : ∃ points, List.Forall₂ (RouteCall.StandsAt text False) calls.tasks points ∧ calls.state.routes.OneOwner := by
    apply points (fun _ daemon => daemon.routes.OneOwner) run
    · rw [idle]
      exact ⟨[], .nil, owners⟩
    · intro calls index task outside _ _
      exact task.role.allowed_unsure not_false outside calls.state
    · intro calls points call point _ held _ _
      exact held
    · intro calls points index outside point later held _ _ step
      exact step.oneOwner held
    · intro calls points id held _
      exact held.within (finish_within id calls.state.routes)
  obtain ⟨_, _, held⟩ := followed
  exact held

/-- A start that finds a task under its id that has not ended uses that, if it is for the same route,
and fails otherwise. All that it changes is that the tasks that have ended are dropped, and that the
task it uses may become persistent. -/
def SecondStart (id : Text) (spec : RouteSpec) (before after : RouteDaemon) (result : Option (Except String RouteStartOutcome)) :
    Prop :=
  ∀ task, before.routes.get id = some task → task.finished = false →
    (task.spec.isSame spec = true ∧ (∃ outcome, result = some (.ok outcome) ∧ outcome.isReused = true) ∧
      (after.routes = before.routes.live ∨ after.routes = before.routes.live.insert id { task with persist := true })) ∨
    task.spec.isSame spec = false ∧ (∃ error, result = some (.error error)) ∧ after.routes = before.routes.live

section
variable {text : IpText} {port : Except String Unit} {id : Text} {spec : RouteSpec} {persist : Bool} {before : RouteDaemon}
  {after : RouteTable}

theorem Checked.secondStart {result : Except String (Option RouteStartOutcome)}
    {ended : Option (Except String RouteStartOutcome)}
    (checked : RouteTable.Checked text port id spec persist before.routes after result)
    (reused : ∀ outcome, result = .ok (some outcome) → ended = some (.ok outcome))
    (failed : ∀ error, result = .error error → ended = some (.error error)) :
    SecondStart id spec before { before with routes := after } ended := by
  intro task found unended
  have there := get_live_of found unended
  cases checked with
  | @kept other found same =>
    obtain rfl : other = task := Option.some.inj (found.symm.trans there)
    exact .inl ⟨same, ⟨_, reused _ rfl, rfl⟩, .inl rfl⟩
  | @upgraded other found same =>
    obtain rfl : other = task := Option.some.inj (found.symm.trans there)
    exact .inl ⟨same, ⟨_, reused _ rfl, rfl⟩, .inr rfl⟩
  | @different other found differs =>
    obtain rfl : other = task := Option.some.inj (found.symm.trans there)
    exact .inr ⟨differs, ⟨_, failed _ rfl⟩, rfl⟩
  | refused free | admitted free =>
    rw [there] at free
    cases free

theorem Registered.secondStart {created : Nat} {reason : Option String} {result : Except String RouteStartOutcome}
    (registered : RouteTable.Registered text port id spec persist created reason before.routes after result) :
    SecondStart id spec before { before with routes := after } (some result) := by
  cases registered with
  | @reused _ outcome checked =>
    apply Checked.secondStart checked
    · intro other same
      cases same
      rfl
    · intro error never
      cases never
  | @failed _ error checked =>
    apply Checked.secondStart checked
    · intro outcome never
      cases never
    · intro other same
      cases same
      rfl
  | started free =>
    intro task found unended
    rw [get_live_of found unended] at free
    cases free

end

theorem startRouteSpec_secondStart (text : IpText) (id : Text) (spec : RouteSpec) (persist : Bool) (created : Nat)
    (reason : Option String) :
    (startRouteSpec text id spec persist created reason).run.EveryStep (SecondStart id spec) := by
  intro outside daemon
  have checked := checkStart_checked text outside.port id spec persist daemon.routes
  have second : (withRoutes fun outside => register text outside.port created reason id spec persist).run.EveryStep
      (SecondStart id spec) := by
    intro outside daemon
    have registered := register_registered text outside.port id spec persist created reason daemon.routes
    exact ⟨Registered.secondStart registered, trivial⟩
  change SecondStart id spec daemon
    { daemon with routes := (checkStart text outside.port id spec persist daemon.routes).1 }
    (ExceptT.bindCont _ (checkStart text outside.port id spec persist daemon.routes).2 : Program _ _ _).result? ∧
    (ExceptT.bindCont _ (checkStart text outside.port id spec persist daemon.routes).2 : Program _ _ _).EveryStep _
  cases result : (checkStart text outside.port id spec persist daemon.routes).2 with
  | error error =>
    rw [result] at checked
    refine ⟨Checked.secondStart checked ?_ ?_, trivial⟩
    · intro outcome never
      cases never
    · intro other same
      cases same
      rfl
  | ok outcome =>
    rw [result] at checked
    cases outcome with
    | some outcome =>
      refine ⟨Checked.secondStart checked ?_ ?_, trivial⟩
      · intro other same
        cases same
        rfl
      · intro error never
        cases never
    | none =>
      refine ⟨Checked.secondStart checked ?_ ?_, second⟩
      · intro outcome never
        cases never
      · intro error never
        cases never

/-- In every state that calls can reach, in whatever order they take their steps, no two routes own one
listener; and a start that finds its id taken changes no route that has not ended but the one it uses. -/
theorem listener_has_one_owner {text : IpText} {file : List StoredRoute} {calls : RouteCalls}
    (reachable : ((system text).machine (stored file)).Reachable calls) :
    calls.state.routes.OneOwner ∧ ∀ id spec persist created reason,
      (startRouteSpec text id spec persist created reason).run.EveryStep (SecondStart id spec) := by
  refine ⟨oneOwner reachable rfl ?_, startRouteSpec_secondStart text⟩
  intro id task other rival never
  cases never

def forwardRequest (id : String) (port : UInt16) : RouteRequest where
  id := some id.toList
  direction := some "forward"
  proxy := some ⟨"peer".toList, loopback port, []⟩

def RouteAction.calls (index : Nat) (call : RouteCall) (outside : RouteOutside) : List RouteAction :=
  .start call :: List.replicate 6 (.step index outside)

def silentText : IpText := ⟨fun _ => "", fun _ => none⟩

def oneEnded : RouteCalls :=
  (system silentText).after (stored []) (RouteAction.calls 0 (.start (forwardRequest "first" 1080)) {} ++
    RouteAction.calls 1 (.start (forwardRequest "second" 1081)) {} ++ [.event "first".toList])

/-- A second start for another listener fails and drops the route that has ended. -/
theorem listener_has_one_owner_of_two :
    let other : RouteSpec := .forward ⟨"peer".toList, loopback 1082, []⟩
    let start := checkStart silentText (.ok ()) "second".toList other true oneEnded.state.routes
    oneEnded.state.routes.entries.length = 2 ∧ oneEnded.state.routes.OneOwner ∧
      start.2.isOk = false ∧ start.1 = oneEnded.state.routes.live := by
  intro other start
  have reachable : ((system silentText).machine (stored [])).Reachable oneEnded :=
    Pool.System.reachable_after _ _ _
  obtain ⟨owned, starts⟩ := listener_has_one_owner reachable
  obtain ⟨task, found, running, differs⟩ : ∃ task, oneEnded.state.routes.get "second".toList = some task ∧
      task.finished = false ∧ task.spec.isSame other = false := by
    refine ⟨_, rfl, ?_, ?_⟩ <;> decide +kernel
  refine ⟨by decide, owned, by decide +kernel, ?_⟩
  rcases (starts _ other true 0 none {} oneEnded.state).1 task found running with ⟨same, _⟩ | ⟨_, _, kept⟩
  · rw [differs] at same
    cases same
  · exact kept

/-- A second start under the id of the route that has ended starts it anew, with another spec; and one
that fails drops the route that has ended. -/
theorem second_start_changes_registry :
    let again := (system silentText).after oneEnded (RouteAction.calls 2 (.start (forwardRequest "first" 1082)) {})
    let fails := (system silentText).after oneEnded (RouteAction.calls 2 (.start (forwardRequest "second" 1082)) {})
    again.tasks[2]?.bind (·.program.result?) = some (.ok (.started false true)) ∧
    (fails.tasks[2]?.bind (·.program.result?)).map Except.isOk = some false ∧
    (oneEnded.state.routes.get "first".toList).isSome = true ∧ fails.state.routes.get "first".toList = none := by
  decide +kernel

end SshProxy
