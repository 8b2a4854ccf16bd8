import SshProxy.Proofs.RouteOwners

/-! What the file holds when all calls have returned. A call that changes the persistent routes owes a
save; what it takes from the registry for that is still right when it is written, if no other call
changes them in between. -/

namespace SshProxy
open Library RouteDaemon RoutePoint RouteCalls List

namespace RouteTable
variable {routes : RouteTable}

def Lasting (routes : RouteTable) : Prop := ∀ entry ∈ routes.entries, entry.2.persist = true → entry.2.finished = false

instance (routes : RouteTable) : Decidable routes.Lasting :=
  inferInstanceAs (Decidable (∀ entry ∈ routes.entries, entry.2.persist = true → entry.2.finished = false))

theorem stored_live (lasting : routes.Lasting) : routes.live.stored = routes.stored := by
  unfold stored live SortedMap.retain
  rw [filterMap_filter]
  apply filterMap_congr
  rintro ⟨id, task⟩ present
  dsimp only
  unfold RouteTask.stored
  cases persist : task.persist with
  | false => simp
  | true =>
    have unended := lasting (id, task) present persist
    dsimp only at unended
    simp [unended]

theorem stored_insert {id : Text} {task : RouteTask}
    (same : ((routes.get id).bind fun old => old.stored id) = task.stored id) : stored (routes.insert id task) = routes.stored :=
  SortedMap.filterMap_insertEntry routes.sorted same

theorem stored_erase {id : Text} {task : RouteTask} (found : routes.get id = some task) (persist : task.persist = false) :
    stored (routes.erase id) = routes.stored := by
  unfold stored SortedMap.erase
  rw [filterMap_filter]
  apply filterMap_congr
  rintro ⟨other, rival⟩ present
  by_cases same : other = id
  · obtain rfl : rival = task := by
      rw [same] at present
      exact Option.some.inj ((SortedMap.get_of_mem present).symm.trans found)
    unfold RouteTask.stored
    simp [persist]
  · simp [same]

theorem stored_finish (id : Text) (routes : RouteTable) : (routes.finish id).stored = routes.stored := by
  unfold finish
  cases found : routes.get id with
  | none => rfl
  | some task =>
    apply stored_insert
    rw [found]
    rfl

section
variable {text : IpText} {port : Except String Unit} {id : Text} {spec : RouteSpec} {persist : Bool} {routes after : RouteTable}

theorem Checked.stored {result : Except String (Option RouteStartOutcome)}
    (checked : Checked text port id spec persist routes after result) (lasting : routes.Lasting) :
    after.stored = routes.stored ∨
      persist = true ∧ ∃ outcome, result = .ok (some outcome) ∧ outcome.shouldSaveRouteStore persist = true := by
  cases checked with
  | upgraded _ _ unknown =>
    rw [Bool.and_eq_true] at unknown
    exact .inr ⟨unknown.1, _, rfl, rfl⟩
  | kept | different | refused | admitted => exact .inl (stored_live lasting)

theorem Registered.stored {created : Nat} {reason : Option String} {result : Except String RouteStartOutcome}
    (registered : Registered text port id spec persist created reason routes after result) (lasting : routes.Lasting) :
    after.stored = routes.stored ∨
      persist = true ∧ ∃ outcome, result = .ok outcome ∧ outcome.shouldSaveRouteStore persist = true := by
  cases registered with
  | reused checked =>
    rcases checked.stored lasting with same | ⟨asked, outcome, result, saves⟩
    · exact .inl same
    · cases result
      exact .inr ⟨asked, _, rfl, saves⟩
  | failed checked =>
    rcases checked.stored lasting with same | ⟨_, _, never, _⟩
    · exact .inl same
    · cases never
  | started free =>
    cases persist with
    | true => exact .inr ⟨rfl, .started, rfl, rfl⟩
    | false =>
      left
      rw [← stored_live lasting]
      apply stored_insert
      rw [free]
      rfl

end
end RouteTable

namespace RoutePoint

def Owes : RoutePoint → Prop
  | .confirming persist => persist = true
  | .checking start goal | .registering start goal => goal = .restart ∧ start.persist = true
  | .saving | .writing _ | .ended false => True
  | _ => False

def Restores : RoutePoint → Prop
  | .reading => True
  | .checking _ goal | .registering _ goal => ∃ rest, goal = .restore rest
  | _ => False

theorem finishing_owes (saves : Bool) : (finishing saves).Owes ↔ saves = true := by
  cases saves with
  | true => exact iff_of_true trivial rfl
  | false => exact iff_of_false id Bool.false_ne_true

theorem finishing_ordinary (saves : Bool) : ¬ (finishing saves).Restores := by
  cases saves with
  | true | false => exact id

def writes : RoutePoint → Bool
  | .writing _ => true
  | _ => false

theorem finishing_writes (saves : Bool) : (finishing saves).writes = false := by
  cases saves with
  | true | false => rfl

theorem restoring_writes (routes : List StoredRoute) : (restoring routes).writes = false := by
  cases routes with
  | nil | cons route rest => rfl

theorem afterStart_writes (start : RouteStart) (goal : StartGoal) (result : Except String RouteStartOutcome) :
    (afterStart start goal result).writes = false := by
  cases goal with
  | restore rest => exact restoring_writes rest
  | start | restart =>
    cases result with
    | ok outcome => exact finishing_writes _
    | error error => rfl

theorem afterCheck_writes (start : RouteStart) (goal : StartGoal) (result : Except String (Option RouteStartOutcome)) :
    (afterCheck start goal result).writes = false := by
  cases result with
  | error error => exact afterStart_writes start goal _
  | ok outcome =>
    cases outcome with
    | none => rfl
    | some outcome => exact afterStart_writes start goal _

end RoutePoint

/-- How a step of a call leaves the file behind the registry: the call owes a save, it owed none and
changes nothing, or it has written the file. -/
inductive Accounted (point later : RoutePoint) (before after : RouteDaemon) : Prop where
  | owed (owes : later.Owes)
  | quiet (owed : ¬ point.Owes) (stored : after.routes.stored = before.routes.stored) (file : after.file = before.file)
  | wrote {store : List StoredRoute} (writes : point = .writing store) (file : after.file = store)
      (routes : after.routes = before.routes)

section
variable {text : IpText} {point later : RoutePoint} {before after : RouteDaemon}

theorem afterStart_accounted {start : RouteStart} {goal : StartGoal} {result : Except String RouteStartOutcome}
    {routes : RouteTable} (ordinary : ¬ ∃ rest, goal = .restore rest)
    (owing : point.Owes → goal = .restart ∧ start.persist = true) (stored : routes.stored = before.routes.stored ∨
      start.persist = true ∧ ∃ outcome, result = .ok outcome ∧ outcome.shouldSaveRouteStore start.persist = true) :
    ¬ (afterStart start goal result).Restores ∧
      Accounted point (.afterStart start goal result) before { before with routes } := by
  cases goal with
  | restore rest => exact absurd ⟨rest, rfl⟩ ordinary
  | start =>
    cases result with
    | error error => exact ⟨id, .owed trivial⟩
    | ok outcome =>
      refine ⟨finishing_ordinary _, ?_⟩
      cases saves : outcome.shouldSaveRouteStore start.persist with
      | true => exact .owed ((finishing_owes _).mpr saves)
      | false =>
        refine .quiet (fun owes => nomatch (owing owes).1) ?_ rfl
        rcases stored with same | ⟨_, other, same, would⟩
        · exact same
        · cases same
          rw [saves] at would
          cases would
  | restart =>
    cases result with
    | error error => exact ⟨id, .owed trivial⟩
    | ok outcome =>
      refine ⟨finishing_ordinary _, ?_⟩
      cases persist : start.persist with
      | true => exact .owed ((finishing_owes _).mpr persist)
      | false =>
        refine .quiet ?_ ?_ rfl
        · intro owes
          rw [persist] at owing
          cases (owing owes).2
        · rcases stored with same | ⟨asked, _⟩
          · exact same
          · rw [persist] at asked
            cases asked

variable (step : RouteStep text False point later before after)
include step

theorem RouteStep.accounted (lasting : before.routes.Lasting) (ordinary : ¬ point.Restores) :
    ¬ later.Restores ∧ Accounted point later before after := by
  cases step with
  | waits => exact ⟨ordinary, .quiet id rfl rfl⟩
  | unprepared | missing | taken | unwritten => exact ⟨id, .owed trivial⟩
  | prepared =>
    refine ⟨?_, .quiet ?_ rfl rfl⟩
    · rintro ⟨_, never⟩
      cases never
    · exact id
  | @stopped id _ task found =>
    refine ⟨fun never => never, ?_⟩
    cases persist : task.persist with
    | true => exact .owed rfl
    | false => exact .quiet (fun never => never) (RouteTable.stored_erase found persist) rfl
  | @restarted id _ task found =>
    refine ⟨(fun ⟨_, never⟩ => nomatch never), ?_⟩
    cases persist : task.persist with
    | true => exact .owed ⟨rfl, persist⟩
    | false => exact .quiet (fun never => never) (RouteTable.stored_erase found persist) rfl
  | confirmed persist =>
    refine ⟨finishing_ordinary persist, ?_⟩
    cases persist with
    | true => exact .owed trivial
    | false => exact .quiet Bool.false_ne_true rfl rfl
  | unread | read => exact absurd trivial ordinary
  | @checked start goal _ _ after result _ checked =>
    have stored := checked.stored lasting
    cases result with
    | error error =>
      apply afterStart_accounted ordinary id
      rcases stored with same | ⟨_, _, never, _⟩
      · exact .inl same
      · cases never
    | ok outcome =>
      cases outcome with
      | some outcome =>
        apply afterStart_accounted ordinary id
        rcases stored with same | ⟨asked, _, same, saves⟩
        · exact .inl same
        · cases same
          exact .inr ⟨asked, _, rfl, saves⟩
      | none =>
        rcases stored with same | ⟨_, _, never, _⟩
        · refine ⟨ordinary, ?_⟩
          by_cases owes : (registering start goal).Owes
          · exact .owed owes
          · exact .quiet owes same rfl
        · cases never
  | @registered start goal _ _ after result _ registered =>
    exact afterStart_accounted ordinary id (registered.stored lasting)
  | wrote store => exact ⟨id, .wrote rfl rfl rfl⟩

theorem RouteStep.counts : after.unwritten = before.unwritten - point.writes.toNat + later.writes.toNat := by
  cases step with
  | waits | unprepared | prepared | missing | stopped | restarted | unread | taken | wrote | unwritten => rfl
  | confirmed persist => rw [finishing_writes]; rfl
  | read => rw [restoring_writes]; rfl
  | checked => rw [afterCheck_writes]; rfl
  | registered => rw [afterStart_writes]; rfl

theorem RouteStep.fresh {store : List StoredRoute} (same : later = .writing store) : store = after.routes.stored := by
  have writes : later.writes = true := congrArg writes same
  cases step with
  | taken =>
    cases same
    rfl
  | confirmed persist =>
    rw [finishing_writes] at writes
    cases writes
  | read =>
    rw [restoring_writes] at writes
    cases writes
  | checked =>
    rw [afterCheck_writes] at writes
    cases writes
  | registered =>
    rw [afterStart_writes] at writes
    cases writes
  | waits | unprepared | prepared | missing | stopped | restarted | unread | wrote | unwritten => cases writes

end

namespace RouteCalls

/-- What the steps of calls may not do if no update is to be lost: the routes that are stored do not
change while a store that was taken from the registry is not written, and no start finds a persistent
route whose task has ended. Nothing is restored. -/
def Undisturbed (calls : RouteCalls) : RouteAction → Prop
  | .start .restore => False
  | .start _ => True
  | .step index outside =>
    calls.state.routes.Lasting ∧
      (calls.state.unwritten ≠ 0 → (calls.taskStep index outside).state.routes.stored = calls.state.routes.stored)
  | .event _ => True

instance (calls : RouteCalls) (action : RouteAction) : Decidable (Undisturbed calls action) := by
  rcases action with (_ | _ | _ | _) | _ | _ <;> dsimp only [Undisturbed] <;> infer_instance

end RouteCalls

structure Updated (points : List RoutePoint) (daemon : RouteDaemon) : Prop where
  ordinary : ∀ point ∈ points, ¬ point.Restores
  fresh : ∀ store, .writing store ∈ points → store = daemon.routes.stored
  counted : daemon.unwritten = points.countP writes
  owed : (∃ point ∈ points, point.Owes) ∨ daemon.file = daemon.routes.stored

namespace Updated
variable {text : IpText} {points : List RoutePoint} {before after : RouteDaemon} {index : Nat} {point later : RoutePoint}

variable (updated : Updated points before)
include updated

theorem step (found : points[index]? = some point) (step : RouteStep text False point later before after)
    (lasting : before.routes.Lasting) (undisturbed : before.unwritten ≠ 0 → after.routes.stored = before.routes.stored) :
    Updated (points.set index later) after := by
  obtain ⟨inside, here⟩ := List.getElem?_eq_some_iff.mp found
  have present : point ∈ points := mem_of_getElem? found
  obtain ⟨ordinary, accounted⟩ := step.accounted lasting (updated.ordinary point present)
  have joined : later ∈ points.set index later := mem_set inside later
  refine ⟨?_, ?_, ?_, ?_⟩
  · intro other among
    rcases mem_or_eq_of_mem_set among with old | rfl
    · exact updated.ordinary other old
    · exact ordinary
  · intro store among
    rcases mem_or_eq_of_mem_set among with old | rfl
    · have unwritten : before.unwritten ≠ 0 := by
        rw [updated.counted]
        exact Nat.ne_of_gt (countP_pos_iff.mpr ⟨_, old, rfl⟩)
      rw [undisturbed unwritten]
      exact updated.fresh store old
    · exact step.fresh rfl
  · rw [step.counts, updated.counted, countP_set inside, here]
    cases point.writes <;> cases later.writes <;> rfl
  · cases accounted with
    | owed owes => exact .inl ⟨later, joined, owes⟩
    | wrote writes file routes =>
      right
      rw [file, routes]
      exact updated.fresh _ (writes ▸ present)
    | quiet free stored file =>
      rcases updated.owed with ⟨other, among, owes⟩ | same
      · left
        refine ⟨other, ?_, owes⟩
        obtain ⟨position, there⟩ := getElem?_of_mem among
        have apart : index ≠ position := by
          rintro rfl
          rw [found] at there
          cases there
          exact free owes
        exact mem_of_getElem? ((getElem?_set_ne apart).trans there)
      · right
        rw [file, stored]
        exact same

theorem start {call : RouteCall} (starts : call.StartsAt point) (ordinary : call ≠ .restore) :
    Updated (points ++ [point]) before := by
  have quiet : ¬ point.Restores ∧ point.writes = false := by
    cases starts with
    | start | stop | restart | invalid => exact ⟨id, rfl⟩
    | restore => exact absurd rfl ordinary
  refine ⟨?_, ?_, ?_, ?_⟩
  · intro other among
    rcases mem_append.mp among with old | new
    · exact updated.ordinary other old
    · rw [mem_singleton.mp new]
      exact quiet.1
  · intro store among
    rcases mem_append.mp among with old | new
    · exact updated.fresh store old
    · have writes : point.writes = true := congrArg writes (mem_singleton.mp new).symm
      rw [quiet.2] at writes
      cases writes
  · rw [updated.counted, countP_append, countP_singleton, quiet.2]
    rfl
  · rcases updated.owed with ⟨other, among, owes⟩ | same
    · exact .inl ⟨other, mem_append_left _ among, owes⟩
    · exact .inr same

theorem finish (id : Text) : Updated points { before with routes := before.routes.finish id } := by
  refine ⟨updated.ordinary, ?_, updated.counted, ?_⟩
  · intro store among
    exact (updated.fresh store among).trans (RouteTable.stored_finish id before.routes).symm
  · rw [RouteTable.stored_finish]
    exact updated.owed

theorem file (ended : ∀ point ∈ points, point = .ended true) : before.file = before.routes.stored := by
  rcases updated.owed with ⟨point, among, owes⟩ | same
  · rw [ended point among] at owes
    cases owes
  · exact same

end Updated

def RouteCalls.saved (routes : RouteTable) : RouteCalls := { state := { routes, file := routes.stored } }

/-- When all calls have returned and none has failed, the file holds the persistent routes of the
registry: in every run in which they do not change between what a save takes and what it writes. -/
theorem store_keeps_updates {text : IpText} {routes : RouteTable} {calls : RouteCalls}
    (run : ((system text).machine (saved routes)).Run RouteCalls.Undisturbed calls)
    (returned : ∀ call ∈ calls.tasks, ∃ response, call.program.result? = some (.ok response)) :
    calls.state.file = calls.state.routes.stored := by
  have followed : ∃ points, List.Forall₂ (RouteCall.StandsAt text False) calls.tasks points ∧ Updated points calls.state := by
    apply points Updated run
    · refine ⟨[], .nil, ?_, ?_, rfl, .inr rfl⟩
      · intro point never
        cases never
      · intro store never
        cases never
    · intro calls index call outside _ _
      exact call.role.allowed_unsure not_false outside calls.state
    · intro calls points call point _ updated guarded starts
      apply updated.start starts
      rintro rfl
      exact guarded
    · intro calls points index outside point later updated guarded found step
      exact updated.step found step guarded.1 guarded.2
    · intro calls points id updated _
      exact updated.finish id
  obtain ⟨points, standing, updated⟩ := followed
  apply updated.file
  intro point among
  obtain ⟨call, asked, stands⟩ := Pool.exists_of_forall₂ standing among
  obtain ⟨response, answer⟩ := returned call asked
  exact stands.ended answer

def startedInTurn : List RouteAction :=
  RouteAction.calls 0 (.start (forwardRequest "first" 1080)) {} ++ RouteAction.calls 1 (.start (forwardRequest "second" 1081)) {}

theorem store_keeps_updates_in_turn :
    let calls := (system silentText).after (saved .empty) startedInTurn
    calls.state.file.map (·.id) = ["first".toList, "second".toList] ∧ calls.state.file = calls.state.routes.stored := by
  have run : ((system silentText).machine (saved .empty)).Run RouteCalls.Undisturbed
      ((system silentText).after (saved .empty) startedInTurn) :=
    Pool.System.run_after .initial (by decide)
  have results : ((system silentText).after (saved .empty) startedInTurn).tasks.map
      (·.program.result?) = replicate 2 (some (.ok (.started false true))) := by decide
  refine ⟨by decide, store_keeps_updates run ?_⟩
  intro call asked
  have result := mem_map_of_mem (f := (·.program.result?)) asked
  rw [results] at result
  exact ⟨_, eq_of_mem_replicate result⟩

/-- The second start takes its store from the registry after the first and writes it before. -/
def startedAcross : List RouteAction :=
  .start (.start (forwardRequest "first" 1080)) :: replicate 5 (.step 0 {}) ++
    RouteAction.calls 1 (.start (forwardRequest "second" 1081)) {} ++ [.step 0 {}]

theorem update_lost :
    let calls := (system silentText).after (saved .empty) startedAcross
    calls.tasks.map (·.program.result?) = replicate 2 (some (.ok (.started false true))) ∧
      calls.state.file.map (·.id) = ["first".toList] ∧
      calls.state.routes.stored.map (·.id) = ["first".toList, "second".toList] := by
  decide

end SshProxy
