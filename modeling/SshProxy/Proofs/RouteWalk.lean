import SshProxy.Proofs.RouteTables

/-! Where a call on the routes stands, and what each of its steps does. The programs of the calls are
outlined once; what holds over all runs is then a matter of these steps. -/

namespace SshProxy
open Library RouteDaemon Program.Outline RouteTable

structure RouteStart where
  id : Text
  spec : RouteSpec
  persist : Bool
  createdAtUnix : Nat
  fallbackReason : Option String

def RouteTask.start (id : Text) (task : RouteTask) : RouteStart :=
  ⟨id, task.spec, task.persist, task.createdAtUnix, task.fallbackReason⟩

def StoredRoute.start (route : StoredRoute) : RouteStart :=
  ⟨route.id, route.spec, true, route.createdAtUnix, route.fallbackReason⟩

/-- What a route is started for, with the routes that are restored after it. -/
inductive StartGoal where
  | start | restart
  | restore (rest : List StoredRoute)

inductive RoutePoint where
  | preparing (request : RouteRequest)
  | taking (id : Text) (restarts : Bool)
  | confirming (persist : Bool)
  | reading
  | checking (start : RouteStart) (goal : StartGoal)
  | registering (start : RouteStart) (goal : StartGoal)
  | saving
  | writing (store : List StoredRoute)
  | ended (ok : Bool)

namespace RoutePoint

def finishing (saves : Bool) : RoutePoint := if saves then .saving else .ended true

def restoring : List StoredRoute → RoutePoint
  | [] => .ended true
  | route :: rest => .checking route.start (.restore rest)

def afterStart (start : RouteStart) : StartGoal → Except String RouteStartOutcome → RoutePoint
  | .start, .ok outcome => finishing (outcome.shouldSaveRouteStore start.persist)
  | .restart, .ok _ => finishing start.persist
  | .start, .error _ | .restart, .error _ => .ended false
  | .restore rest, _ => restoring rest

def afterCheck (start : RouteStart) (goal : StartGoal) : Except String (Option RouteStartOutcome) → RoutePoint
  | .ok none => .registering start goal
  | .ok (some outcome) => afterStart start goal (.ok outcome)
  | .error error => afterStart start goal (.error error)

end RoutePoint

/-- One step of a call. Where it is `sure`, the ports of routes that are restarted or restored are
free and the file can be read. -/
inductive RouteStep (text : IpText) (sure : Prop) : RoutePoint → RoutePoint → RouteDaemon → RouteDaemon → Prop where
  | waits (request : RouteRequest) (daemon : RouteDaemon) :
      RouteStep text sure (.preparing request) (.preparing request) daemon daemon
  | unprepared (request : RouteRequest) (daemon : RouteDaemon) :
      RouteStep text sure (.preparing request) (.ended false) daemon daemon
  | prepared {request : RouteRequest} {start : RouteStart} (daemon : RouteDaemon) (id : request.id = some start.id) :
      RouteStep text sure (.preparing request) (.checking start .start) daemon daemon
  | missing {id : Text} {daemon : RouteDaemon} (restarts : Bool) (gone : daemon.routes.get id = none) :
      RouteStep text sure (.taking id restarts) (.ended false) daemon daemon
  | stopped {id : Text} {daemon : RouteDaemon} {task : RouteTask} (found : daemon.routes.get id = some task) :
      RouteStep text sure (.taking id false) (.confirming task.persist) daemon
        { daemon with routes := daemon.routes.erase id }
  | restarted {id : Text} {daemon : RouteDaemon} {task : RouteTask} (found : daemon.routes.get id = some task) :
      RouteStep text sure (.taking id true) (.checking (task.start id) .restart) daemon
        { daemon with routes := daemon.routes.erase id }
  | confirmed (persist : Bool) (daemon : RouteDaemon) :
      RouteStep text sure (.confirming persist) (.finishing persist) daemon daemon
  | unread (daemon : RouteDaemon) (unsure : ¬ sure) : RouteStep text sure .reading (.ended true) daemon daemon
  | read (daemon : RouteDaemon) : RouteStep text sure .reading (.restoring daemon.file) daemon daemon
  | checked {start : RouteStart} {goal : StartGoal} {port : Except String Unit} {daemon : RouteDaemon} {after : RouteTable}
      {result : Except String (Option RouteStartOutcome)} (free : sure → goal ≠ .start → port = .ok ())
      (checked : RouteTable.Checked text port start.id start.spec start.persist daemon.routes after result) :
      RouteStep text sure (.checking start goal) (.afterCheck start goal result) daemon { daemon with routes := after }
  | registered {start : RouteStart} {goal : StartGoal} {port : Except String Unit} {daemon : RouteDaemon} {after : RouteTable}
      {result : Except String RouteStartOutcome} (free : sure → goal ≠ .start → port = .ok ())
      (registered : RouteTable.Registered text port start.id start.spec start.persist start.createdAtUnix
        start.fallbackReason daemon.routes after result) :
      RouteStep text sure (.registering start goal) (.afterStart start goal result) daemon { daemon with routes := after }
  | taken (daemon : RouteDaemon) :
      RouteStep text sure .saving (.writing daemon.routes.stored) daemon
        { daemon with unwritten := daemon.unwritten + 1 }
  | wrote (store : List StoredRoute) (daemon : RouteDaemon) :
      RouteStep text sure (.writing store) (.ended true) daemon
        { daemon with file := store, unwritten := daemon.unwritten - 1 }
  | unwritten (store : List StoredRoute) (daemon : RouteDaemon) :
      RouteStep text sure (.writing store) (.ended false) daemon { daemon with unwritten := daemon.unwritten - 1 }

namespace RouteCall

def allowed (sure : Prop) : RouteCall → RouteOutside → RouteDaemon → Prop
  | .restart _, outside, _ => sure → outside.port = .ok ()
  | .restore, outside, _ => sure → outside.port = .ok () ∧ outside.read = .ok ()
  | _, _, _ => True

inductive StartsAt : RouteCall → RoutePoint → Prop where
  | start (request : RouteRequest) : StartsAt (.start request) (.preparing request)
  | stop {request : RouteRequest} {id : Text} (named : request.id = some id) : StartsAt (.stop request) (.taking id false)
  | restart {request : RouteRequest} {id : Text} (named : request.id = some id) : StartsAt (.restart request) (.taking id true)
  | restore : StartsAt .restore .reading
  | invalid (call : RouteCall) : StartsAt call (.ended false)

end RouteCall

def RoutePoint.EndsWith {α : Type} (result : Except String α) (point : RoutePoint) : Prop := point = .ended result.isOk

section
variable {text : IpText} {sure : Prop}

abbrev RouteWalk (text : IpText) (sure : Prop) (allowed : RouteOutside → RouteDaemon → Prop) {α : Type}
    (post : Except String α → RoutePoint → Prop) (point : RoutePoint) (program : RouteProgram α) : Prop :=
  Program.Outline allowed (fun _ _ => True) (RouteStep text sure) post point program.run

variable {allowed : RouteOutside → RouteDaemon → Prop} {α : Type}

theorem RouteWalk.perform {point : RoutePoint} {change : RouteOutside → RouteDaemon → RouteDaemon × Except String α}
    {post : Except String α → RoutePoint → Prop} (later : RouteOutside → RouteDaemon → RoutePoint)
    (step : ∀ outside daemon, allowed outside daemon →
      RouteStep text sure point (later outside daemon) daemon (change outside daemon).1)
    (done : ∀ outside daemon, allowed outside daemon → post (change outside daemon).2 (later outside daemon)) :
    RouteWalk text sure allowed post point (Program.perform change) := by
  apply act later
  intro outside daemon may _
  exact ⟨trivial, step outside daemon may, done outside daemon may⟩

theorem saveRoutes_walk : RouteWalk text sure allowed RoutePoint.EndsWith .saving saveRoutes := by
  have taken : RouteWalk text sure allowed (fun result point => ∃ store, result = .ok store ∧ point = .writing store)
      .saving takeStore := by
    apply RouteWalk.perform fun _ daemon => .writing daemon.routes.stored
    · intro outside daemon _
      exact .taken daemon
    · intro outside daemon _
      exact ⟨_, rfl, rfl⟩
  apply andThen taken
  · rintro error point ⟨_, never, _⟩
    cases never
  · rintro store point ⟨_, same, rfl⟩
    cases same
    apply RouteWalk.perform fun outside _ => .ended outside.save.isOk
    · intro outside daemon _
      cases outside.save with
      | ok => exact .wrote store daemon
      | error error => exact .unwritten store daemon
    · intro outside daemon _
      cases outside.save with
      | ok | error error => rfl

theorem finishing_walk (saves : Bool) (response : α) :
    RouteWalk text sure allowed RoutePoint.EndsWith (.finishing saves) (do
      if saves then saveRoutes
      return response) := by
  cases saves with
  | true =>
    apply andThen saveRoutes_walk
    · intro error point ended
      exact ended
    · intro _ point ended
      exact .pure ended
  | false => exact .pure rfl

variable {start : RouteStart} {goal : StartGoal}

theorem startRouteSpec_walk (free : ∀ outside daemon, allowed outside daemon → sure → goal ≠ .start → outside.port = .ok ()) :
    RouteWalk text sure allowed (fun result point => point = .afterStart start goal result) (.checking start goal)
      (startRouteSpec text start.id start.spec start.persist start.createdAtUnix start.fallbackReason) := by
  have checked : RouteWalk text sure allowed (fun result point => point = .afterCheck start goal result)
      (.checking start goal) (withRoutes fun outside =>
        checkStart text outside.port start.id start.spec start.persist) := by
    apply RouteWalk.perform fun outside daemon => .afterCheck start goal
      (checkStart text outside.port start.id start.spec start.persist daemon.routes).2
    · intro outside daemon may
      exact .checked (free outside daemon may) (checkStart_checked ..)
    · intro outside daemon _
      rfl
  apply andThen checked
  · rintro error point rfl
    rfl
  · rintro outcome point rfl
    cases outcome with
    | some outcome => exact .pure rfl
    | none =>
      apply RouteWalk.perform fun outside daemon => .afterStart start goal
        (register text outside.port start.createdAtUnix start.fallbackReason start.id start.spec start.persist
          daemon.routes).2
      · intro outside daemon may
        exact .registered (free outside daemon may) (register_registered ..)
      · intro outside daemon _
        rfl

theorem invalid_walk (call : RouteCall) {error : String} {program : RouteProgram α} (same : program = throw error) :
    ∃ point, call.StartsAt point ∧ RouteWalk text sure allowed RoutePoint.EndsWith point program := by
  refine ⟨_, .invalid call, ?_⟩
  rw [same]
  exact .pure rfl

theorem started_walk {request : RouteRequest} {id : Text} (named : request.id = some id) (spec : RouteSpec) :
    RouteWalk text sure allowed RoutePoint.EndsWith (.preparing request) (do
      let persist := request.persist.getD true
      let now ← ask fun outside => .ok outside.now
      let outcome ← startRouteSpec text id spec persist now request.fallbackReason
      if outcome.shouldSaveRouteStore persist then saveRoutes
      return RouteResponse.started outcome.isReused (outcome.persists persist)) := by
  let start (now : Nat) : RouteStart := ⟨id, spec, request.persist.getD true, now, request.fallbackReason⟩
  have prepared : RouteWalk text sure allowed (fun result point => ∃ now, result = .ok now ∧ point = .checking (start now) .start)
      (.preparing request) (ask fun outside => .ok outside.now) := by
    apply RouteWalk.perform fun outside _ => .checking (start outside.now) .start
    · intro outside daemon _
      exact .prepared daemon named
    · intro outside daemon _
      exact ⟨outside.now, rfl, rfl⟩
  apply andThen prepared
  · rintro error point ⟨_, never, _⟩
    cases never
  · rintro now point ⟨_, same, rfl⟩
    cases same
    apply andThen (startRouteSpec_walk fun _ _ _ _ never => absurd rfl never)
    · rintro error point rfl
      rfl
    · rintro outcome point rfl
      exact finishing_walk _ _

theorem requestedSpec_walk (request : RouteRequest) : (∃ error, requestedSpec request = throw error) ∨
    RouteWalk text sure allowed (fun result point => point = if result.isOk then .preparing request else .ended false)
      (.preparing request) (requestedSpec request) := by
  unfold requestedSpec
  cases request.direction with
  | none => exact .inl ⟨_, rfl⟩
  | some direction =>
    dsimp only
    split
    next =>
      cases request.proxy with
      | none => exact .inl ⟨_, rfl⟩
      | some args =>
        right
        have completed : RouteWalk text sure allowed
            (fun result point => point = if result.isOk then .preparing request else .ended false) (.preparing request)
            (ask (·.defaults args)) := by
          apply RouteWalk.perform fun outside _ => if (outside.defaults args).isOk then .preparing request else .ended false
          · intro outside daemon _
            split
            next => exact .waits request daemon
            next => exact .unprepared request daemon
          · intro outside daemon _
            rfl
        apply andThen completed
        · rintro error point rfl
          rfl
        · rintro args point rfl
          exact .pure rfl
    next =>
      split
      next =>
        cases request.reverse with
        | none => exact .inl ⟨_, rfl⟩
        | some args => exact .inr (.pure rfl)
      next => exact .inl ⟨_, rfl⟩

theorem startRoute_walk (request : RouteRequest) : ∃ point, (RouteCall.start request).StartsAt point ∧
      RouteWalk text sure allowed RoutePoint.EndsWith point (startRoute text request) := by
  unfold startRoute
  cases named : request.id with
  | none => exact invalid_walk _ rfl
  | some id =>
    rcases requestedSpec_walk request with ⟨error, invalid⟩ | requested
    · dsimp only
      rw [invalid]
      exact invalid_walk _ rfl
    · refine ⟨_, .start request, ?_⟩
      apply andThen requested
      · rintro error point rfl
        rfl
      · rintro spec point rfl
        exact started_walk named spec

theorem takeRoute_walk {id : Text} {restarts : Bool} {later : RouteTask → RoutePoint}
    (step : ∀ daemon task, daemon.routes.get id = some task →
      RouteStep text sure (.taking id restarts) (later task) daemon { daemon with routes := daemon.routes.erase id }) :
    RouteWalk text sure allowed (fun result point => point = match result with
      | .ok task => later task
      | .error _ => .ended false) (.taking id restarts) (takeRoute id) := by
  apply RouteWalk.perform fun _ daemon => match (take id daemon.routes).2 with
    | .ok task => later task
    | .error _ => .ended false
  · intro outside daemon _
    change RouteStep text sure _ _ daemon { daemon with routes := (take id daemon.routes).1 }
    cases found : daemon.routes.get id with
    | some task =>
      rw [take_found found]
      exact step daemon task found
    | none =>
      rw [take_missing found]
      exact .missing restarts found
  · intro outside daemon _
    rfl

theorem stopRequest_walk (request : RouteRequest) : ∃ point, (RouteCall.stop request).StartsAt point ∧
      RouteWalk text sure allowed RoutePoint.EndsWith point (stopRoute request) := by
  unfold stopRoute
  cases named : request.id with
  | none => exact invalid_walk _ rfl
  | some id =>
    refine ⟨_, .stop named, ?_⟩
    apply andThen (takeRoute_walk fun daemon task found => .stopped found)
    · rintro error point rfl
      rfl
    · rintro task point rfl
      have confirmed : RouteWalk text sure allowed
          (fun result point => (∃ confirmed, result = .ok confirmed) ∧ point = .finishing task.persist)
          (.confirming task.persist) (ask fun outside => .ok outside.stopConfirmed) := by
        apply RouteWalk.perform fun _ _ => .finishing task.persist
        · intro outside daemon _
          exact .confirmed task.persist daemon
        · intro outside daemon _
          exact ⟨⟨_, rfl⟩, rfl⟩
      apply andThen confirmed
      · rintro error point ⟨⟨_, never⟩, _⟩
        cases never
      · rintro confirmed point ⟨_, rfl⟩
        exact finishing_walk task.persist _

theorem restartRoute_walk {request : RouteRequest} {id : Text} (named : request.id = some id)
    (free : ∀ outside daemon, allowed outside daemon → sure → outside.port = .ok ()) :
    RouteWalk text sure allowed RoutePoint.EndsWith (.taking id true) (restartRoute text request) := by
  unfold restartRoute
  rw [named]
  apply andThen (takeRoute_walk fun daemon task found => .restarted found)
  · rintro error point rfl
    rfl
  · rintro task point rfl
    apply andThen (startRouteSpec_walk fun outside daemon may certain _ => free outside daemon may certain)
    · rintro error point rfl
      rfl
    · rintro outcome point rfl
      exact finishing_walk task.persist _

variable (free : ∀ outside daemon, allowed outside daemon → sure → outside.port = .ok ())
include free

theorem restoreEach_walk (routes : List StoredRoute) :
    RouteWalk text sure allowed RoutePoint.EndsWith (.restoring routes) (restoreEach text routes) := by
  induction routes with
  | nil => exact .pure rfl
  | cons route rest ih =>
    apply triedThen (startRouteSpec_walk fun outside daemon may certain _ => free outside daemon may certain)
    rintro result point rfl
    exact ih

theorem restoreRoutes_walk (readable : ∀ outside daemon, allowed outside daemon → sure → outside.read = .ok ()) :
    RouteWalk text sure allowed RoutePoint.EndsWith .reading (restoreRoutes text) := by
  have read : RouteWalk text sure allowed (fun result point => ∃ routes, result = .ok routes ∧ point = .restoring routes)
      .reading readStore := by
    apply RouteWalk.perform fun outside daemon => .restoring (if outside.read.isOk then daemon.file else [])
    · intro outside daemon may
      have known := readable outside daemon may
      change RouteStep text sure _ _ daemon daemon
      cases outcome : outside.read with
      | ok => exact .read daemon
      | error error =>
        refine .unread daemon ?_
        intro certain
        rw [known certain] at outcome
        cases outcome
    · intro outside daemon _
      exact ⟨_, by cases outside.read <;> rfl, rfl⟩
  apply andThen read
  · rintro error point ⟨_, never, _⟩
    cases never
  · rintro routes point ⟨_, same, rfl⟩
    cases same
    apply andThen (restoreEach_walk free routes)
    · intro error point ended
      exact ended
    · intro _ point ended
      exact .pure ended

end

namespace RouteCall

abbrev StandsAt (text : IpText) (sure : Prop)
    (call : Pool.Task RouteDaemon RouteOutside RouteCall (Except String RouteResponse)) (point : RoutePoint) : Prop :=
  Pool.Outlined (allowed sure) (fun _ _ => True) (RouteStep text sure) (fun _ => RoutePoint.EndsWith) call point

theorem restore_walk (text : IpText) (sure : Prop) : StandsAt text sure ⟨.restore, program text .restore⟩ .reading := by
  apply restoreRoutes_walk
  · intro outside daemon may certain
    exact (may certain).1
  · intro outside daemon may certain
    exact (may certain).2

theorem walk (text : IpText) (sure : Prop) (call : RouteCall) :
    ∃ point, call.StartsAt point ∧ StandsAt text sure ⟨call, call.program text⟩ point := by
  cases call with
  | start request => exact startRoute_walk request
  | stop request => exact stopRequest_walk request
  | restart request =>
    cases named : request.id with
    | none =>
      have invalid : restartRoute text request = throw "route_restart requires id" := by
        unfold restartRoute
        rw [named]
      exact invalid_walk _ invalid
    | some id => exact ⟨_, .restart named, restartRoute_walk named fun _ _ may => may⟩
  | restore => exact ⟨_, .restore, restore_walk text sure⟩

theorem allowed_unsure {sure : Prop} (unsure : ¬ sure) (call : RouteCall) (outside : RouteOutside) (daemon : RouteDaemon) :
    call.allowed sure outside daemon := by
  cases call with
  | start request | stop request => trivial
  | restart request | restore => exact fun certain => absurd certain unsure

end RouteCall

theorem RouteCalls.points {text : IpText} {sure : Prop} {guard : RouteCalls → RouteAction → Prop} {initial calls : RouteCalls}
    (known : List RoutePoint → RouteDaemon → Prop) (run : ((RouteCalls.system text).machine initial).Run guard calls)
    (first : ∃ points, List.Forall₂ (RouteCall.StandsAt text sure) initial.tasks points ∧ known points initial.state)
    (may : ∀ calls index task outside, guard calls (.step index outside) → calls.tasks[index]? = some task →
      task.role.allowed sure outside calls.state)
    (starts : ∀ calls points call point, List.Forall₂ (RouteCall.StandsAt text sure) calls.tasks points →
      known points calls.state → guard calls (.start call) → call.StartsAt point → known (points ++ [point]) calls.state)
    (steps : ∀ calls points index outside point later, known points calls.state → guard calls (.step index outside) →
      points[index]? = some point → RouteStep text sure point later calls.state (calls.taskStep index outside).state →
      known (points.set index later) (calls.taskStep index outside).state)
    (events : ∀ calls points id, known points calls.state → guard calls (.event id) →
      known points { calls.state with routes := calls.state.routes.finish id }) :
    ∃ points, List.Forall₂ (RouteCall.StandsAt text sure) calls.tasks points ∧ known points calls.state := by
  apply Pool.System.points known run first
  · intro points state point _ _
    trivial
  · exact may
  · intro calls points call standing held guarded
    obtain ⟨point, starting, outlined⟩ := call.walk text sure
    exact ⟨point, outlined, starts calls points call point standing held guarded starting⟩
  · intro calls points index outside point later held guarded found _ moved
    exact steps calls points index outside point later held guarded found moved
  · exact events

end SshProxy
