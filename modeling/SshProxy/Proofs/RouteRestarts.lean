import SshProxy.Proofs.RouteOwners

/-! A restart that fails, in the midst of whatever other calls do. It takes the route out of the registry
before it knows that it can be started again. -/

namespace SshProxy
open Library RouteDaemon RouteCalls SortedMap

namespace RouteTable

def Has (routes : RouteTable) (id : Text) (spec : RouteSpec) : Prop := ∃ task, routes.get id = some task ∧ task.spec = spec

def Unrivalled (routes : RouteTable) (id : Text) (spec : RouteSpec) : Prop :=
  ∀ other rival, routes.get other = some rival → rival.spec.SameListener spec → other = id

/-- What others may do to the registry while a route is restarted: they do not take the route out, and
register no other one under its id or at its listener. -/
structure Leaves (id : Text) (spec : RouteSpec) (before after : RouteTable) : Prop where
  kept : before.Has id spec → after.Has id spec
  unmoved : ∀ other rival, after.get other = some rival → before.Has other rival.spec ∨
    other ≠ id ∧ ¬ rival.spec.SameListener spec

variable {routes before after : RouteTable} {id : Text} {spec : RouteSpec}

theorem Unrivalled.leaves (unrivalled : before.Unrivalled id spec) (leaves : Leaves id spec before after) :
    after.Unrivalled id spec := by
  intro other rival found same
  rcases leaves.unmoved other rival found with ⟨old, present, spec⟩ | ⟨_, apart⟩
  · exact unrivalled other old present (spec ▸ same)
  · exact absurd same apart

theorem Free.leaves (free : before.Free id spec) (leaves : Leaves id spec before after) : after.Free id spec := by
  constructor
  · cases found : after.get id with
    | none => rfl
    | some task =>
      rcases leaves.unmoved id task found with ⟨old, present, _⟩ | ⟨never, _⟩
      · rw [free.id] at present
        cases present
      · exact absurd rfl never
  · intro other rival found
    rcases leaves.unmoved other rival found with ⟨old, present, spec⟩ | ⟨_, apart⟩
    · rw [← spec]
      exact free.listener other old present
    · exact apart

theorem finish_leaves (ended : Text) (routes : RouteTable) : Leaves id spec routes (routes.finish ended) := by
  refine ⟨?_, fun other rival found => .inl (finish_within ended routes other rival found)⟩
  rintro ⟨task, found, same⟩
  unfold finish
  split
  next other present =>
    by_cases here : id = ended
    · rw [here] at found
      cases present.symm.trans found
      refine ⟨{ task with finished := true }, ?_, same⟩
      rw [here]
      exact get_insert_self ..
    · exact ⟨task, (get_insert_of_ne here ..).trans found, same⟩
  next => exact ⟨task, found, same⟩

theorem Unrivalled.erase (unrivalled : routes.Unrivalled id spec) : Free (routes.erase id) id spec := by
  refine ⟨get_erase_self routes id, ?_⟩
  intro other rival found same
  by_cases here : other = id
  · rw [here, get_erase_self] at found
    cases found
  · rw [get_erase_of_ne here] at found
    exact here (unrivalled other rival found same)

end RouteTable

def RoutePoint.Restarts (id : Text) (spec : RouteSpec) (daemon : RouteDaemon) : RoutePoint → Prop
  | .taking other restarts => other = id ∧ restarts = true ∧ daemon.routes.Has id spec ∧ daemon.routes.Unrivalled id spec
  | .checking start goal | .registering start goal =>
    goal = .restart ∧ start.id = id ∧ start.spec = spec ∧ daemon.routes.Free id spec
  | .saving | .writing _ | .ended _ => daemon.routes.Has id spec
  | _ => False

namespace RoutePoint.Restarts
variable {text : IpText} {id : Text} {spec : RouteSpec} {before after : RouteDaemon} {point later : RoutePoint}

theorem finishing (has : after.routes.Has id spec) (saves : Bool) : (RoutePoint.finishing saves).Restarts id spec after := by
  cases saves with
  | true | false => exact has

theorem step (restarts : point.Restarts id spec before) (step : RouteStep text True point later before after) :
    later.Restarts id spec after := by
  cases step with
  | missing _ gone =>
    obtain ⟨rfl, _, ⟨task, found, _⟩, _⟩ := restarts
    rw [gone] at found
    cases found
  | restarted found =>
    obtain ⟨rfl, _, ⟨task, same, rfl⟩, unrivalled⟩ := restarts
    cases found.symm.trans same
    exact ⟨rfl, rfl, rfl, unrivalled.erase⟩
  | checked free checked =>
    obtain ⟨rfl, rfl, rfl, vacant⟩ := restarts
    rw [free trivial StartGoal.noConfusion] at checked
    obtain ⟨rfl, rfl⟩ := vacant.checked checked
    exact ⟨rfl, rfl, rfl, vacant.within (RouteTable.live_within before.routes)⟩
  | registered free registered =>
    obtain ⟨rfl, rfl, rfl, vacant⟩ := restarts
    rw [free trivial StartGoal.noConfusion] at registered
    obtain ⟨rfl, rfl⟩ := vacant.registered registered
    apply finishing
    exact ⟨_, get_insert_self .., rfl⟩
  | taken | wrote | unwritten => exact restarts
  | stopped => cases restarts.2.1
  | waits | unprepared | prepared | confirmed | unread | read => cases restarts

theorem leaves (restarts : point.Restarts id spec before)
    (leaves : RouteTable.Leaves id spec before.routes after.routes) : point.Restarts id spec after := by
  cases point with
  | taking other takes => exact ⟨restarts.1, restarts.2.1, leaves.kept restarts.2.2.1, restarts.2.2.2.leaves leaves⟩
  | checking start goal
  | registering start goal => exact ⟨restarts.1, restarts.2.1, restarts.2.2.1, restarts.2.2.2.leaves leaves⟩
  | saving | writing store | ended ok => exact leaves.kept restarts
  | preparing | confirming | reading => cases restarts

end RoutePoint.Restarts

/-- The port of the route that is restarted is free when it is probed, and the other calls leave the
route alone. -/
def RouteCalls.LeavesRestart (index : Nat) (id : Text) (spec : RouteSpec) (calls : RouteCalls) : RouteAction → Prop
  | .step other outside => (other = index → outside.port = .ok ()) ∧
    (other ≠ index → RouteTable.Leaves id spec calls.state.routes (calls.taskStep other outside).state.routes)
  | .start _ | .event _ => True

abbrev RouteCall.RestartsAt (text : IpText) (id : Text) (spec : RouteSpec)
    (call : Pool.Task RouteDaemon RouteOutside RouteCall (Except String RouteResponse)) (point : RoutePoint) : Prop :=
  Pool.Outlined (fun _ outside _ => outside.port = .ok ()) (fun point daemon => True ∧ point.Restarts id spec daemon)
    (RouteStep text True) (fun _ => RoutePoint.EndsWith) call point

theorem RouteCall.restartsAt {text : IpText} {request : RouteRequest} {id : Text} (named : request.id = some id) (spec : RouteSpec) :
    RestartsAt text id spec ⟨.restart request, program text (.restart request)⟩ (.taking id true) := by
  have walk : RouteWalk text True (fun outside _ => outside.port = .ok ()) RoutePoint.EndsWith (.taking id true)
      (restartRoute text request) := restartRoute_walk named fun outside daemon free _ => free
  apply walk.assert
  intro point later before after step restarts
  exact restarts.step step

theorem RouteCalls.LeavesRestart.leaves {text : IpText} {index : Nat} {id : Text} {spec : RouteSpec} {calls : RouteCalls}
    {action : RouteAction} (guarded : LeavesRestart index id spec calls action)
    (other : ∀ outside, action ≠ .step index outside) :
    RouteTable.Leaves id spec calls.state.routes ((system text).next calls action).state.routes := by
  cases action with
  | start call => exact ⟨fun has => has, fun third rival found => .inl ⟨rival, found, rfl⟩⟩
  | event ended => exact RouteTable.finish_leaves ended calls.state.routes
  | step third outside =>
    have different : third ≠ index := by
      rintro rfl
      exact other outside rfl
    exact guarded.2 different

/-- A restart that has failed has the route in the registry: in every run in which its port is free when
it is probed and no other call takes the route out or registers one in its way. -/
theorem failed_restart_keeps_route {text : IpText} {initial calls : RouteCalls} {index : Nat} {request : RouteRequest} {id : Text}
    {spec : RouteSpec} {error : String}
    (asked : initial.tasks[index]? = some ⟨.restart request, RouteCall.program text (.restart request)⟩)
    (named : request.id = some id) (has : initial.state.routes.Has id spec) (unrivalled : initial.state.routes.Unrivalled id spec)
    (run : ((system text).machine initial).Run (RouteCalls.LeavesRestart index id spec) calls)
    (failed : calls.tasks[index]?.bind (·.program.result?) = some (.error error)) : calls.state.routes.Has id spec := by
  have followed : ∃ call point, calls.tasks[index]? = some call ∧ RouteCall.RestartsAt text id spec call point ∧
      True ∧ point.Restarts id spec calls.state := by
    apply Pool.System.follow run
    · exact ⟨_, _, asked, RouteCall.restartsAt named spec, trivial, rfl, rfl, has, unrivalled⟩
    · intro calls call outside guarded _
      exact guarded.1 rfl
    · rintro calls action point guarded other ⟨_, restarts⟩
      exact ⟨trivial, restarts.leaves (guarded.leaves other)⟩
  obtain ⟨call, point, there, standing, _, restarts⟩ := followed
  rw [there] at failed
  have ended : point = .ended false := standing.ended failed
  rw [ended] at restarts
  exact restarts

def toRestart : RouteCalls :=
  (system silentText).after (stored []) (RouteAction.calls 0 (.start (forwardRequest "first" 1080)) {} ++
    [.start (.restart { id := some "first".toList })])

def firstSpec : RouteSpec := .forward ⟨"peer".toList, loopback 1080, []⟩

/-- The file cannot be written, and the restart fails after the route was started again. -/
theorem failed_restart_keeps_route_unsaved :
    let calls := (system silentText).after toRestart (List.replicate 5 (.step 1 { save := .error "disk full" }))
    calls.tasks[1]?.bind (·.program.result?) = some (.error "disk full") ∧ calls.state.routes.Has "first".toList firstSpec := by
  have alone (calls : RouteCalls) : RouteCalls.LeavesRestart 1 "first".toList firstSpec calls
      (.step 1 { save := .error "disk full" }) := ⟨fun _ => rfl, fun never => absurd rfl never⟩
  have run : ((system silentText).machine toRestart).Run
      (RouteCalls.LeavesRestart 1 "first".toList firstSpec)
      ((system silentText).after toRestart (List.replicate 5 (.step 1 { save := .error "disk full" }))) :=
    Pool.System.run_after .initial ⟨alone _, alone _, alone _, alone _, alone _, trivial⟩
  have unrivalled : toRestart.state.routes.Unrivalled "first".toList firstSpec := by
    intro other rival found _
    have entries : toRestart.state.routes.entries = [("first".toList, ⟨firstSpec, true, 0, none, false⟩)] := by decide
    have present := mem_of_get found
    rw [entries] at present
    exact congrArg Prod.fst (List.mem_singleton.mp present)
  have result : ((system silentText).after toRestart
      (List.replicate 5 (.step 1 { save := .error "disk full" }))).tasks[1]?.bind (·.program.result?) =
      some (.error "disk full") := by decide
  exact ⟨result, failed_restart_keeps_route rfl rfl ⟨_, rfl, rfl⟩ unrivalled run result⟩

/-- The port of the route is taken when it is restarted: the restart fails, the route is gone from the
registry, another restart does not bring it back, and the next save leaves it out of the file. -/
theorem failed_restart_loses_route :
    let failed := (system silentText).after toRestart
      (List.replicate 5 (.step 1 { port := .error "listen address 127.0.0.1:1080 is already in use or unavailable" }))
    let again := (system silentText).after failed (RouteAction.calls 2 (.restart { id := some "first".toList }) {} ++
      RouteAction.calls 3 (.start (forwardRequest "second" 1081)) {})
    (toRestart.state.routes.get "first".toList).isSome = true ∧
      (failed.tasks[1]?.bind (·.program.result?)).map Except.isOk = some false ∧
      failed.state.routes.get "first".toList = none ∧
      (again.tasks[2]?.bind (·.program.result?)).map Except.isOk = some false ∧
      again.state.routes.get "first".toList = none ∧ again.state.file.map (·.id) = ["second".toList] := by
  decide

end SshProxy
