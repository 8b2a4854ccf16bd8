import SshProxy.RouteCalls

/-! What a start and the other operations do to the registry of routes, and that no two routes own one
listener. -/

namespace SshProxy
open Library SortedMap

namespace RouteSpec

/-- Two routes that cannot both be served: a forward route owns its address, a reverse route owns its
address at its peer. -/
structure SameListener (route other : RouteSpec) : Prop where
  direction : route.direction = other.direction
  listen : route.listen = other.listen
  peer : route.direction = .reverse → route.peer = other.peer

theorem reservesListener_iff {route candidate : RouteSpec} :
    route.reservesListener candidate = true ↔ route.SameListener candidate := by
  unfold reservesListener
  rw [decide_eq_true_eq]
  constructor
  · rintro ⟨direction, listen, owned⟩
    refine ⟨direction, listen, ?_⟩
    intro reverse
    rcases owned with forward | peer
    · rw [direction, forward] at reverse
      cases reverse
    · exact peer
  · rintro ⟨direction, listen, peer⟩
    refine ⟨direction, listen, ?_⟩
    cases named : candidate.direction with
    | forward => exact .inl rfl
    | reverse => exact .inr (peer (direction.trans named))

instance (route other : RouteSpec) : Decidable (route.SameListener other) := decidable_of_iff _ reservesListener_iff

theorem SameListener.symm {route other : RouteSpec} (same : route.SameListener other) : other.SameListener route :=
  ⟨same.direction.symm, same.listen.symm, fun reverse => (same.peer (same.direction.trans reverse)).symm⟩

end RouteSpec

namespace RouteTable

def live (routes : RouteTable) : RouteTable := routes.retain fun entry => !entry.2.finished

variable {routes : RouteTable} {id : Text} {task : RouteTask}

theorem get_live (found : routes.live.get id = some task) : routes.get id = some task ∧ task.finished = false := by
  obtain ⟨present, kept⟩ := List.mem_filter.mp (mem_of_get found)
  rw [Bool.not_eq_true'] at kept
  exact ⟨get_of_mem present, kept⟩

theorem get_live_of (found : routes.get id = some task) (unended : task.finished = false) :
    routes.live.get id = some task := by
  apply get_retain_of found
  rw [Bool.not_eq_true']
  exact unended

section
variable (text : IpText) (port : Except String Unit) (id : Text) (spec : RouteSpec) (persist : Bool)

inductive Checked (routes : RouteTable) : RouteTable → Except String (Option RouteStartOutcome) → Prop where
  | kept {task : RouteTask} (found : routes.live.get id = some task) (same : task.spec.isSame spec = true)
      (known : (persist && !task.persist) = false) :
      Checked routes routes.live (.ok (some (.reusedExisting (task.persist || persist) false)))
  | upgraded {task : RouteTask} (found : routes.live.get id = some task) (same : task.spec.isSame spec = true)
      (unknown : (persist && !task.persist) = true) :
      Checked routes (routes.live.insert id { task with persist := true })
        (.ok (some (.reusedExisting (task.persist || persist) true)))
  | different {task : RouteTask} (found : routes.live.get id = some task) (different : task.spec.isSame spec = false) :
      Checked routes routes.live (.error (differentSpec id))
  | refused {error : String} (free : routes.live.get id = none)
      (refusal : ensureNewRouteCanStart text port routes.live spec = .error error) : Checked routes routes.live (.error error)
  | admitted (free : routes.live.get id = none) (admission : ensureNewRouteCanStart text port routes.live spec = .ok ()) :
      Checked routes routes.live (.ok none)

theorem checkStart_checked (routes : RouteTable) :
    Checked text port id spec persist routes (checkStart text port id spec persist routes).1
      (checkStart text port id spec persist routes).2 := by
  have fold : (routes.retain fun entry => !entry.2.finished) = routes.live := rfl
  unfold checkStart
  rw [fold]
  dsimp only
  split
  next task found =>
    split
    next same =>
      dsimp only
      split
      next unknown =>
        rw [unknown]
        exact .upgraded found same unknown
      next known =>
        rw [Bool.not_eq_true] at known
        rw [known]
        exact .kept found same known
    next different => exact .different found (Bool.eq_false_iff.mpr different)
  next free =>
    split
    next admission => exact .admitted free admission
    next refusal => exact .refused free refusal

/-- How `register` goes: like a check, or the route is put into the registry that the check has left. -/
inductive Registered (createdAtUnix : Nat) (fallbackReason : Option String) (routes : RouteTable) :
    RouteTable → Except String RouteStartOutcome → Prop where
  | reused {after : RouteTable} {outcome : RouteStartOutcome}
      (checked : Checked text port id spec persist routes after (.ok (some outcome))) :
      Registered createdAtUnix fallbackReason routes after (.ok outcome)
  | failed {after : RouteTable} {error : String} (checked : Checked text port id spec persist routes after (.error error)) :
      Registered createdAtUnix fallbackReason routes after (.error error)
  | started (free : routes.live.get id = none) (admission : ensureNewRouteCanStart text port routes.live spec = .ok ()) :
      Registered createdAtUnix fallbackReason routes
        (routes.live.insert id { spec, persist, createdAtUnix, fallbackReason }) (.ok .started)

theorem register_registered (createdAtUnix : Nat) (fallbackReason : Option String) (routes : RouteTable) :
    Registered text port id spec persist createdAtUnix fallbackReason routes
      (register text port createdAtUnix fallbackReason id spec persist routes).1
      (register text port createdAtUnix fallbackReason id spec persist routes).2 := by
  have checked := checkStart_checked text port id spec persist routes
  unfold register
  split
  next after admitted =>
    rw [admitted] at checked
    cases checked with
    | admitted free admission => exact .started free admission
  next after outcome reused =>
    rw [reused] at checked
    exact .reused checked
  next after error failed =>
    rw [failed] at checked
    exact .failed checked

end

section
variable {text : IpText} {port : Except String Unit} {routes : RouteTable} {spec : RouteSpec}

theorem unowned_of_admission (admission : ensureNewRouteCanStart text port routes spec = .ok ())
    (found : routes.get id = some task) : ¬ task.spec.SameListener spec := by
  rw [← RouteSpec.reservesListener_iff]
  unfold ensureNewRouteCanStart at admission
  split at admission
  next => cases admission
  next none => exact List.find?_eq_none.mp none (id, task) (mem_of_get found)

theorem admission_of_unowned (unowned : ∀ id task, routes.get id = some task → ¬ task.spec.SameListener spec) :
    ensureNewRouteCanStart text (.ok ()) routes spec = .ok () := by
  have none : (routes.entries.find? fun entry => entry.2.spec.reservesListener spec) = none := by
    rw [List.find?_eq_none]
    intro entry present
    rw [RouteSpec.reservesListener_iff]
    exact unowned entry.1 entry.2 (get_of_mem present)
  unfold ensureNewRouteCanStart
  rw [none]
  cases spec with
  | forward args | reverse args => rfl

end

theorem take_found (found : routes.get id = some task) : take id routes = (routes.erase id, .ok task) := by
  unfold take
  rw [found]

theorem take_missing (gone : routes.get id = none) : take id routes = (routes, .error (notRunning id)) := by
  unfold take
  rw [gone]

/-- No two routes own one listener, whether or not their tasks have ended. -/
def OneOwner (routes : RouteTable) : Prop :=
  ∀ id task other rival, routes.get id = some task → routes.get other = some rival → task.spec.SameListener rival.spec →
    id = other

def Within (after before : RouteTable) : Prop :=
  ∀ id task, after.get id = some task → ∃ old, before.get id = some old ∧ old.spec = task.spec

theorem OneOwner.within {before after : RouteTable} (owners : before.OneOwner) (within : after.Within before) : after.OneOwner := by
  intro id task other rival found second same
  obtain ⟨old, present, spec⟩ := within id task found
  obtain ⟨oldRival, rivalPresent, rivalSpec⟩ := within other rival second
  rw [← spec, ← rivalSpec] at same
  exact owners id old other oldRival present rivalPresent same

theorem OneOwner.insert (owners : routes.OneOwner)
    (unowned : ∀ other rival, routes.get other = some rival → ¬ rival.spec.SameListener task.spec) :
    OneOwner (routes.insert id task) := by
  intro first one second two found other same
  by_cases left : first = id
  · by_cases right : second = id
    · exact left.trans right.symm
    · rw [left, get_insert_self] at found
      rw [get_insert_of_ne right] at other
      cases found
      exact absurd same.symm (unowned second two other)
  · rw [get_insert_of_ne left] at found
    by_cases right : second = id
    · rw [right, get_insert_self] at other
      cases other
      exact absurd same (unowned first one found)
    · rw [get_insert_of_ne right] at other
      exact owners first one second two found other same

theorem live_within (routes : RouteTable) : routes.live.Within routes := by
  intro id task found
  exact ⟨task, (get_live found).1, rfl⟩

theorem erase_within (routes : RouteTable) (id : Text) : Within (routes.erase id) routes := by
  intro other task found
  by_cases same : other = id
  · rw [same, get_erase_self] at found
    cases found
  · rw [get_erase_of_ne same] at found
    exact ⟨task, found, rfl⟩

theorem Within.trans {first second third : RouteTable} (within : first.Within second) (beyond : second.Within third) :
    first.Within third := by
  intro id task found
  obtain ⟨old, present, spec⟩ := within id task found
  obtain ⟨older, there, same⟩ := beyond id old present
  exact ⟨older, there, same.trans spec⟩

theorem insert_within {task new : RouteTask} (found : routes.get id = some task) (same : task.spec = new.spec) :
    Within (routes.insert id new) routes := by
  intro other rival present
  by_cases here : other = id
  · rw [here, get_insert_self] at present
    cases present
    rw [here]
    exact ⟨task, found, same⟩
  · rw [get_insert_of_ne here] at present
    exact ⟨rival, present, rfl⟩

theorem finish_within (id : Text) (routes : RouteTable) : (routes.finish id).Within routes := by
  unfold finish
  split
  next task found => exact insert_within found rfl
  next =>
    intro other task found
    exact ⟨task, found, rfl⟩

variable {result : Except String (Option RouteStartOutcome)}

theorem Checked.within {text : IpText} {port : Except String Unit} {spec : RouteSpec} {persist : Bool}
    {routes after : RouteTable} (checked : Checked text port id spec persist routes after result) :
    after.Within routes := by
  cases checked with
  | @upgraded task found =>
    have within : Within (routes.live.insert id { task with persist := true }) routes.live := insert_within found rfl
    exact within.trans (live_within routes)
  | kept | different | refused | admitted => exact live_within routes

theorem Registered.oneOwner {text : IpText} {port : Except String Unit} {spec : RouteSpec} {persist : Bool}
    {created : Nat} {reason : Option String} {routes after : RouteTable} {result : Except String RouteStartOutcome}
    (registered : Registered text port id spec persist created reason routes after result) (owners : routes.OneOwner) :
    after.OneOwner := by
  cases registered with
  | reused checked | failed checked => exact owners.within checked.within
  | started free admission =>
    apply (owners.within (live_within routes)).insert
    intro other rival found
    exact unowned_of_admission admission found

structure Free (routes : RouteTable) (id : Text) (spec : RouteSpec) : Prop where
  id : routes.get id = none
  listener : ∀ other rival, routes.get other = some rival → ¬ rival.spec.SameListener spec

namespace Free
variable {text : IpText} {routes after : RouteTable} {id : Text} {spec : RouteSpec} {persist : Bool}

variable (free : routes.Free id spec)
include free

theorem within (within : after.Within routes) : after.Free id spec := by
  constructor
  · cases found : after.get id with
    | none => rfl
    | some task =>
      obtain ⟨old, present, _⟩ := within id task found
      rw [free.id] at present
      cases present
  · intro other rival found
    obtain ⟨old, present, same⟩ := within other rival found
    rw [← same]
    exact free.listener other old present

theorem insert {other : Text} {rival : RouteTask} (apart : id ≠ other) (listener : ¬ rival.spec.SameListener spec) :
    Free (routes.insert other rival) id spec := by
  constructor
  · rw [get_insert_of_ne apart]
    exact free.id
  · intro third task found
    by_cases same : third = other
    · rw [same, get_insert_self] at found
      cases found
      exact listener
    · rw [get_insert_of_ne same] at found
      exact free.listener third task found

theorem checked (checked : Checked text (.ok ()) id spec persist routes after result) :
    result = .ok none ∧ after = routes.live := by
  have live := free.within (live_within routes)
  cases checked with
  | kept found | upgraded found | different found =>
    rw [live.id] at found
    cases found
  | refused _ refusal =>
    rw [admission_of_unowned live.listener] at refusal
    cases refusal
  | admitted => exact ⟨rfl, rfl⟩

theorem registered {created : Nat} {reason : Option String} {result : Except String RouteStartOutcome}
    (registered : Registered text (.ok ()) id spec persist created reason routes after result) :
    result = .ok .started ∧ after = routes.live.insert id ⟨spec, persist, created, reason, false⟩ := by
  cases registered with
  | reused checked | failed checked => cases (free.checked checked).1
  | started => exact ⟨rfl, rfl⟩

end Free

theorem OneOwner.free (owners : routes.OneOwner) (found : routes.get id = some task) :
    Free (routes.erase id) id task.spec := by
  refine ⟨get_erase_self routes id, ?_⟩
  intro other rival present same
  by_cases here : other = id
  · rw [here, get_erase_self] at present
    cases present
  · rw [get_erase_of_ne here] at present
    exact here (owners other rival id task present found same)

end RouteTable
end SshProxy
