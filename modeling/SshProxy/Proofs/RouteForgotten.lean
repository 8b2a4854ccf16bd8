import SshProxy.Proofs.RouteOwners

/-! That a stored route stays in the file until it is stopped. It is in the registry, or the call that
is under way puts it there: as long as every start of a restore and of a restart goes well. -/

namespace SshProxy
open Library RouteDaemon RouteCalls RoutePoint List RouteTable

structure StoredRoute.Apart (route other : StoredRoute) : Prop where
  id : route.id ≠ other.id
  listener : ¬ route.spec.SameListener other.spec

instance (route other : StoredRoute) : Decidable (route.Apart other) :=
  decidable_of_iff (route.id ≠ other.id ∧ ¬ route.spec.SameListener other.spec)
    ⟨fun ⟨id, listener⟩ => ⟨id, listener⟩, fun apart => ⟨apart.id, apart.listener⟩⟩

def StoredRoute.task (route : StoredRoute) : RouteTask :=
  ⟨route.spec, true, route.createdAtUnix, route.fallbackReason, false⟩

namespace RouteTable

def Serves (routes : RouteTable) (route : StoredRoute) : Prop := routes.get route.id = some route.task

namespace Serves
variable {text : IpText} {port : Except String Unit} {id : Text} {spec : RouteSpec} {persist : Bool}
  {routes after : RouteTable} {route : StoredRoute}

variable (serves : routes.Serves route)
include serves

theorem live : routes.live.Serves route := get_live_of serves rfl

theorem insert {task : RouteTask} (other : route.id ≠ id) : Serves (routes.insert id task) route :=
  (SortedMap.get_insert_of_ne other routes task).trans serves

theorem erase (other : route.id ≠ id) : Serves (routes.erase id) route :=
  (SortedMap.get_erase_of_ne other routes).trans serves

theorem checked {result : Except String (Option RouteStartOutcome)}
    (checked : Checked text port id spec persist routes after result) : after.Serves route := by
  cases checked with
  | kept | different | refused | admitted => exact serves.live
  | upgraded found =>
    by_cases same : route.id = id
    · -- It is the route itself, which is persistent already.
      have mine := serves.live
      unfold Serves at mine ⊢
      rw [same, found] at mine
      cases mine
      rw [same, SortedMap.get_insert_self]
      rfl
    · exact serves.live.insert same

theorem registered {created : Nat} {reason : Option String} {result : Except String RouteStartOutcome}
    (registered : Registered text port id spec persist created reason routes after result) : after.Serves route := by
  cases registered with
  | reused checked | failed checked => exact serves.checked checked
  | started free =>
    apply serves.live.insert
    rintro rfl
    rw [serves.live] at free
    cases free

theorem finish (other : route.id ≠ id) : (routes.finish id).Serves route := by
  unfold RouteTable.finish
  split
  next => exact serves.insert other
  next => exact serves

theorem mem_stored : route ∈ routes.stored := by
  unfold stored
  rw [mem_filterMap]
  exact ⟨(route.id, route.task), SortedMap.mem_of_get serves, rfl⟩

end Serves
end RouteTable

/-- What a start that is under way leaves of a route: it is served, or it is yet to be started and
nothing stands in its way. -/
def StartGoal.Spares (route : StoredRoute) (routes : RouteTable) (start : RouteStart) : StartGoal → Prop
  | .start => routes.Serves route
  | .restart => start = route.start ∧ routes.Free route.id route.spec ∨ start.id ≠ route.id ∧ routes.Serves route
  | .restore rest => ∃ next : StoredRoute, start = next.start ∧ (next :: rest).Pairwise StoredRoute.Apart ∧
      (∀ pending ∈ next :: rest, routes.Free pending.id pending.spec) ∧ (route ∈ next :: rest ∨ routes.Serves route)

namespace RoutePoint

def Spares (route : StoredRoute) (daemon : RouteDaemon) : RoutePoint → Prop
  | .reading => daemon.file.Pairwise StoredRoute.Apart ∧
      ∀ pending ∈ daemon.file, daemon.routes.Free pending.id pending.spec
  | .checking start goal | .registering start goal => goal.Spares route daemon.routes start
  | .taking id restarts => (restarts = false → route.id ≠ id) ∧ daemon.routes.Serves route
  | .writing store => route ∈ store ∧ daemon.routes.Serves route
  | _ => daemon.routes.Serves route

variable {route : StoredRoute} {daemon : RouteDaemon}

theorem finishing_spares (serves : daemon.routes.Serves route) (saves : Bool) : (finishing saves).Spares route daemon := by
  cases saves with
  | true | false => exact serves

theorem restoring_spares {rest : List StoredRoute} (apart : rest.Pairwise StoredRoute.Apart)
    (free : ∀ pending ∈ rest, daemon.routes.Free pending.id pending.spec)
    (kept : route ∈ rest ∨ daemon.routes.Serves route) : (restoring rest).Spares route daemon := by
  cases rest with
  | nil => exact kept.resolve_left not_mem_nil
  | cons next rest => exact ⟨next, rfl, apart, free, kept⟩

theorem afterStart_spares {start : RouteStart} {goal : StartGoal} (serves : daemon.routes.Serves route)
    (ordinary : ¬ ∃ rest, goal = .restore rest) (result : Except String RouteStartOutcome) :
    (afterStart start goal result).Spares route daemon := by
  cases goal with
  | restore rest => exact absurd ⟨rest, rfl⟩ ordinary
  | start | restart =>
    cases result with
    | ok outcome => exact finishing_spares serves _
    | error error => exact serves

theorem afterCheck_spares {start : RouteStart} {goal : StartGoal} (serves : daemon.routes.Serves route)
    (other : goal = .start ∨ goal = .restart ∧ start.id ≠ route.id) (result : Except String (Option RouteStartOutcome)) :
    (afterCheck start goal result).Spares route daemon := by
  have ordinary : ¬ ∃ rest, goal = .restore rest := by
    rintro ⟨rest, rfl⟩
    rcases other with never | ⟨never, _⟩
    · cases never
    · cases never
  cases result with
  | error error => exact afterStart_spares serves ordinary _
  | ok outcome =>
    cases outcome with
    | some outcome => exact afterStart_spares serves ordinary _
    | none =>
      rcases other with rfl | ⟨rfl, different⟩
      · exact serves
      · exact .inr ⟨different, serves⟩

end RoutePoint

section
variable {text : IpText} {point later : RoutePoint} {before after : RouteDaemon} {route : StoredRoute} {start : RouteStart}
  {routes : RouteTable} {port : Except String Unit} {goal : StartGoal}

theorem StartGoal.Spares.checked {result : Except String (Option RouteStartOutcome)}
    (spares : goal.Spares route before.routes start) (free : goal ≠ .start → port = .ok ())
    (checked : RouteTable.Checked text port start.id start.spec start.persist before.routes routes result) :
    (afterCheck start goal result).Spares route { before with routes } := by
  cases goal with
  | start =>
    have serves : before.routes.Serves route := spares
    exact afterCheck_spares (serves.checked checked) (.inl rfl) result
  | restart =>
    rcases spares with ⟨rfl, vacant⟩ | ⟨other, serves⟩
    · rw [free StartGoal.noConfusion] at checked
      obtain ⟨rfl, rfl⟩ := vacant.checked checked
      exact .inl ⟨rfl, vacant.within (live_within before.routes)⟩
    · exact afterCheck_spares (serves.checked checked) (.inr ⟨rfl, other⟩) result
  | restore rest =>
    obtain ⟨next, rfl, apart, pending, kept⟩ := spares
    rw [free StartGoal.noConfusion] at checked
    obtain ⟨rfl, rfl⟩ := (pending next mem_cons_self).checked checked
    refine ⟨next, rfl, apart, ?_, kept.imp_right (·.live)⟩
    intro other among
    exact (pending other among).within (live_within before.routes)

theorem StartGoal.Spares.registered {result : Except String RouteStartOutcome}
    (spares : goal.Spares route before.routes start) (free : goal ≠ .start → port = .ok ())
    (registered : RouteTable.Registered text port start.id start.spec start.persist start.createdAtUnix start.fallbackReason
      before.routes routes result) :
    (afterStart start goal result).Spares route { before with routes } := by
  cases goal with
  | start =>
    have serves : before.routes.Serves route := spares
    exact afterStart_spares (serves.registered registered) (fun ⟨_, never⟩ => nomatch never) result
  | restart =>
    rcases spares with ⟨rfl, vacant⟩ | ⟨other, serves⟩
    · rw [free StartGoal.noConfusion] at registered
      obtain ⟨rfl, rfl⟩ := vacant.registered registered
      apply finishing_spares
      exact SortedMap.get_insert_self ..
    · exact afterStart_spares (serves.registered registered) (fun ⟨_, never⟩ => nomatch never) result
  | restore rest =>
    obtain ⟨next, rfl, apart, pending, kept⟩ := spares
    obtain ⟨others, remaining⟩ := pairwise_cons.mp apart
    have mine := pending next mem_cons_self
    rw [free StartGoal.noConfusion] at registered
    obtain ⟨rfl, rfl⟩ := mine.registered registered
    apply restoring_spares remaining
    · intro other among
      have vacant := (pending other (mem_cons_of_mem next among)).within (live_within before.routes)
      exact vacant.insert (others other among).id.symm (others other among).listener
    · rcases kept with among | serves
      · rcases mem_cons.mp among with rfl | later
        · exact .inr (SortedMap.get_insert_self ..)
        · exact .inl later
      · right
        apply serves.live.insert
        intro same
        have taken := mine.id
        rw [← same, serves] at taken
        cases taken

theorem RouteStep.spares (step : RouteStep text True point later before after) (owners : before.routes.OneOwner)
    (listed : route ∈ before.file) (spares : point.Spares route before) : later.Spares route after := by
  cases step with
  | waits | unprepared | prepared => exact spares
  | missing | wrote | unwritten => exact spares.2
  | stopped => exact spares.2.erase (spares.1 rfl)
  | @restarted id _ task found =>
    by_cases same : id = route.id
    · left
      have mine := spares.2
      unfold RouteTable.Serves at mine
      rw [← same, found] at mine
      cases mine
      rw [same]
      exact ⟨rfl, owners.free (same ▸ found)⟩
    · exact .inr ⟨same, spares.2.erase (Ne.symm same)⟩
  | confirmed persist => exact finishing_spares spares persist
  | unread _ unsure => exact absurd trivial unsure
  | read => exact restoring_spares spares.1 spares.2 (.inl listed)
  | checked free checked => exact StartGoal.Spares.checked spares (free trivial) checked
  | registered free registered => exact StartGoal.Spares.registered spares (free trivial) registered
  | taken => exact ⟨RouteTable.Serves.mem_stored spares, spares⟩

theorem RouteStep.keeps_listed {sure : Prop} (step : RouteStep text sure point later before after) (listed : route ∈ before.file)
    (spares : point.Spares route before) : route ∈ after.file := by
  cases step with
  | wrote => exact spares.1
  | _ => exact listed

theorem StartGoal.Spares.finish {id : Text} (spares : goal.Spares route routes start) (other : route.id ≠ id) :
    goal.Spares route (routes.finish id) start := by
  have within := finish_within id routes
  cases goal with
  | start =>
    have serves : routes.Serves route := spares
    exact serves.finish other
  | restart =>
    rcases spares with ⟨same, vacant⟩ | ⟨different, serves⟩
    · exact .inl ⟨same, vacant.within within⟩
    · exact .inr ⟨different, serves.finish other⟩
  | restore rest =>
    obtain ⟨next, same, apart, pending, kept⟩ := spares
    refine ⟨next, same, apart, ?_, kept.imp_right (·.finish other)⟩
    intro third among
    exact (pending third among).within within

theorem RoutePoint.Spares.finish {id : Text} (spares : point.Spares route before) (other : route.id ≠ id) :
    point.Spares route { before with routes := before.routes.finish id } := by
  cases point with
  | reading =>
    refine ⟨spares.1, ?_⟩
    intro pending among
    exact (spares.2 pending among).within (finish_within id before.routes)
  | checking start goal | registering start goal => exact StartGoal.Spares.finish spares other
  | taking | writing => exact ⟨spares.1, spares.2.finish other⟩
  | preparing | confirming | saving | ended => exact RouteTable.Serves.finish spares other

end

namespace RouteCalls

def Idle (calls : RouteCalls) : Prop := ∀ call ∈ calls.tasks, call.program.result?.isSome = true

/-- One call after the other, of which none stops the route. The ports of routes that are restarted or
restored are free, the file can be read, and the task of the route does not end by itself. -/
def Sparing (route : StoredRoute) (calls : RouteCalls) : RouteAction → Prop
  | .start (.start _) | .start (.restart _) => Idle calls
  | .start (.stop request) => Idle calls ∧ request.id ≠ some route.id
  | .start .restore => False
  | .step index outside => ∀ call ∈ calls.tasks[index]?, call.role.allowed True outside calls.state
  | .event id => route.id ≠ id

instance (calls : RouteCalls) : Decidable (Idle calls) :=
  inferInstanceAs (Decidable (∀ call ∈ calls.tasks, call.program.result?.isSome = true))

instance (call : RouteCall) (outside : RouteOutside) (daemon : RouteDaemon) :
    Decidable (call.allowed True outside daemon) := by
  cases call <;> dsimp only [RouteCall.allowed] <;> infer_instance

instance (route : StoredRoute) (calls : RouteCalls) (action : RouteAction) :
    Decidable (Sparing route calls action) := by
  rcases action with (_ | _ | _ | _) | _ | _ <;> dsimp only [Sparing] <;> infer_instance

theorem Sparing.start {route : StoredRoute} {calls : RouteCalls} {call : RouteCall} (sparing : Sparing route calls (.start call)) :
    Idle calls ∧ (∀ request, call = .stop request → request.id ≠ some route.id) ∧ call ≠ .restore := by
  cases call with
  | start | restart => exact ⟨sparing, (fun _ never => nomatch never), RouteCall.noConfusion⟩
  | restore => cases sparing
  | stop request =>
    refine ⟨sparing.1, ?_, RouteCall.noConfusion⟩
    rintro _ ⟨rfl⟩
    exact sparing.2

theorem Idle.ended {text : IpText} {sure : Prop} {calls : RouteCalls} {points : List RoutePoint} (idle : Idle calls)
    (standing : List.Forall₂ (RouteCall.StandsAt text sure) calls.tasks points) : ∀ old ∈ points, ∃ ok, old = .ended ok := by
  intro old among
  obtain ⟨call, asked, stands⟩ := Pool.exists_of_forall₂ standing among
  obtain ⟨result, answer⟩ := Option.isSome_iff_exists.mp (idle call asked)
  exact ⟨result.isOk, stands.ended answer⟩

def restoring (text : IpText) (file : List StoredRoute) : RouteCalls :=
  { state := { file }, tasks := [⟨.restore, RouteCall.program text .restore⟩] }

end RouteCalls

/-- What is known of a route that was not forgotten: only the last call can be under way. -/
structure Spared (route : StoredRoute) (points : List RoutePoint) (daemon : RouteDaemon) : Prop where
  owners : daemon.routes.OneOwner
  listed : route ∈ daemon.file
  last : ∃ earlier point, points = earlier ++ [point] ∧ (∀ old ∈ earlier, ∃ ok, old = .ended ok) ∧ point.Spares route daemon

namespace Spared
variable {text : IpText} {route : StoredRoute} {points : List RoutePoint} {before after : RouteDaemon} {index : Nat}
  {point later : RoutePoint}

theorem step (spared : Spared route points before) (found : points[index]? = some point)
    (step : RouteStep text True point later before after) : Spared route (points.set index later) after := by
  obtain ⟨earlier, last, rfl, ended, spares⟩ := spared.last
  have inside : index < earlier.length + 1 := by
    obtain ⟨inside, _⟩ := List.getElem?_eq_some_iff.mp found
    rwa [length_append] at inside
  -- A call that has returned takes no step.
  have there : earlier.length ≤ index := by
    by_contra before
    rw [getElem?_append_left (Nat.lt_of_not_le before)] at found
    obtain ⟨ok, rfl⟩ := ended point (mem_of_getElem? found)
    cases step
  obtain rfl : index = earlier.length := Nat.le_antisymm (Nat.le_of_lt_succ inside) there
  rw [getElem?_concat_length] at found
  cases found
  refine ⟨step.oneOwner spared.owners, step.keeps_listed spared.listed spares, earlier, later, ?_, ended,
    step.spares spared.owners spared.listed spares⟩
  rw [set_append_right _ _ there, Nat.sub_self]
  rfl

theorem start {call : RouteCall} (spared : Spared route points before) (idle : ∀ old ∈ points, ∃ ok, old = .ended ok)
    (starts : call.StartsAt point) (named : ∀ request, call = .stop request → request.id ≠ some route.id)
    (ordinary : call ≠ .restore) : Spared route (points ++ [point]) before := by
  obtain ⟨earlier, last, rfl, ended, spares⟩ := spared.last
  have serves : before.routes.Serves route := by
    obtain ⟨ok, rfl⟩ := idle last (mem_append_right earlier (mem_singleton_self last))
    exact spares
  refine ⟨spared.owners, spared.listed, earlier ++ [last], point, rfl, idle, ?_⟩
  cases starts with
  | start | invalid => exact serves
  | @stop request id same =>
    refine ⟨?_, serves⟩
    rintro _ rfl
    exact named request rfl same
  | restart => exact ⟨Bool.noConfusion, serves⟩
  | restore => exact absurd rfl ordinary

theorem finish {id : Text} (spared : Spared route points before) (other : route.id ≠ id) :
    Spared route points { before with routes := before.routes.finish id } := by
  obtain ⟨earlier, last, same, ended, spares⟩ := spared.last
  exact ⟨spared.owners.within (finish_within id before.routes), spared.listed, earlier, last, same, ended,
    spares.finish other⟩

end Spared

/-- A stored route is in the file in every state of a run that spares it, if all that is stored with it
can be served together. -/
theorem stored_route_kept {text : IpText} {file : List StoredRoute} {route : StoredRoute} {calls : RouteCalls}
    (listed : route ∈ file) (apart : file.Pairwise StoredRoute.Apart)
    (run : ((system text).machine (restoring text file)).Run (RouteCalls.Sparing route) calls) :
    route ∈ calls.state.file := by
  have followed : ∃ points, List.Forall₂ (RouteCall.StandsAt text True) calls.tasks points ∧
      Spared route points calls.state := by
    apply points (Spared route) run
    · refine ⟨[.reading], .cons (RouteCall.restore_walk text True) .nil, ?_, listed, [], .reading, rfl, ?_, apart, ?_⟩
      · intro id task other rival never
        cases never
      · intro old never
        cases never
      · intro pending _
        refine ⟨rfl, ?_⟩
        intro other rival never
        cases never
    · intro calls index call outside guarded found
      exact guarded call found
    · intro calls points call point standing spared guarded starts
      obtain ⟨idle, named, ordinary⟩ := RouteCalls.Sparing.start guarded
      exact spared.start (idle.ended standing) starts named ordinary
    · intro calls points index outside point later spared _ found step
      exact spared.step found step
    · intro calls points id spared other
      exact spared.finish other
  obtain ⟨_, _, spared⟩ := followed
  exact spared.listed

def storedForward (id : String) (port : UInt16) : StoredRoute := ⟨id.toList, 0, none, .forward ⟨"peer".toList, loopback port, []⟩⟩

def twoStored : List StoredRoute := [storedForward "first" 1080, storedForward "second" 1081]

def sparingFirst : List RouteAction :=
  replicate 5 (.step 0 {}) ++ RouteAction.calls 1 (.restart { id := some "first".toList }) {} ++
    RouteAction.calls 2 (.stop { id := some "second".toList }) {}

theorem stored_route_kept_restarted :
    let calls := (system silentText).after (restoring silentText twoStored) sparingFirst
    calls.state.file.map (·.id) = ["first".toList] ∧ storedForward "first" 1080 ∈ calls.state.file := by
  have run : ((system silentText).machine (restoring silentText twoStored)).Run
      (RouteCalls.Sparing (storedForward "first" 1080))
      ((system silentText).after (restoring silentText twoStored) sparingFirst) :=
    Pool.System.run_after .initial (by decide)
  exact ⟨by decide, stored_route_kept mem_cons_self (by decide) run⟩

/-- The port of the first route is busy when the routes are restored; the save of a route that is
started later leaves the first one out of the file. -/
def busyAtBoot : List RouteAction :=
  [.step 0 {}, .step 0 { port := .error "listen address 127.0.0.1:1080 is already in use or unavailable" }, .step 0 {}, .step 0 {}] ++
    RouteAction.calls 1 (.start (forwardRequest "third" 1082)) {}

theorem stored_route_forgotten :
    let calls := (system silentText).after (restoring silentText twoStored) busyAtBoot
    calls.tasks.map (·.program.result?) = [some (.ok .restored), some (.ok (.started false true))] ∧
      storedForward "first" 1080 ∈ twoStored ∧ storedForward "first" 1080 ∉ calls.state.file := by
  decide

end SshProxy
