import Mathlib.Data.List.Forall2
import SshProxy.Proofs.SessionIsolation

/-! Which keys are told apart. The ids of a session are made from its key by a normalisation that forgets
much, and the id is all that keeps the session from the tasks of another. -/

namespace SshProxy
open Library List ProxySessionSpec SessionSystem

/-- Neither a letter or a digit of ASCII nor an underscore. -/
def separates (char : Char) : Bool := !char.isAlphanum && char ≠ '_'

/-- Characters that make no difference in a key: two separators, or one letter in either case. -/
inductive AlikeInKeys : Char → Char → Prop where
  | separators {one other : Char} (first : separates one = true) (second : separates other = true) : AlikeInKeys one other
  | letters {one other : Char} (first : separates one = false) (second : separates other = false)
      (same : one.toLower = other.toLower) : AlikeInKeys one other

/-- What stands between the separators at the ends of a key; a key of separators only is called `default`. -/
def keyWord (key : Text) : Text :=
  let core := (key.dropWhile separates).reverse.dropWhile separates |>.reverse
  if core = [] then "default".toList else core

/-- Nothing in the first 64 characters of the two makes a difference. -/
def ConfusedKeys (one other : Text) : Prop := Forall₂ AlikeInKeys ((keyWord one).take 64) ((keyWord other).take 64)

def keyChar (char : Char) : Char := if char.isAlphanum ∨ char = '-' ∨ char = '_' then char.toLower else '-'

theorem eq_dash_of_toLower {char : Char} (lower : char.toLower = '-') : char = '-' := by
  unfold Char.toLower at lower
  split at lower
  next upper =>
    exfalso
    have value := congrArg (·.val.toNat) lower
    simp only [UInt32.toNat_add, ge_iff_le, UInt32.le_iff_toNat_le] at value upper
    simp at value upper
    omega
  next => exact lower

theorem keyChar_eq_dash_iff {char : Char} : keyChar char = '-' ↔ separates char = true := by
  by_cases dash : char = '-'
  · rw [dash]
    decide
  · unfold keyChar separates
    split
    next kept =>
      refine ⟨fun lower => absurd (eq_dash_of_toLower lower) dash, fun apart => ?_⟩
      simp_all
    next replaced => simp_all

theorem keyChar_of_letter {char : Char} (letter : separates char = false) : keyChar char = char.toLower := by
  apply if_pos
  unfold separates at letter
  by_cases alphanum : char.isAlphanum = true
  · exact .inl alphanum
  · simp_all

theorem keyChar_eq_iff {one other : Char} : keyChar one = keyChar other ↔ AlikeInKeys one other := by
  cases first : separates one with
  | true =>
    rw [keyChar_eq_dash_iff.mpr first, eq_comm, keyChar_eq_dash_iff]
    refine ⟨.separators first, ?_⟩
    rintro (⟨_, second⟩ | ⟨never, _, _⟩)
    · exact second
    · cases first.symm.trans never
  | false =>
    constructor
    · intro same
      cases second : separates other with
      | true =>
        rw [keyChar_eq_dash_iff.mpr second, keyChar_eq_dash_iff] at same
        cases first.symm.trans same
      | false =>
        rw [keyChar_of_letter first, keyChar_of_letter second] at same
        exact .letters first second same
    · rintro (⟨never, _⟩ | ⟨_, second, same⟩)
      · cases first.symm.trans never
      · rw [keyChar_of_letter first, keyChar_of_letter second, same]

theorem sanitizeKey_eq (key : Text) : sanitizeKey key = ((keyWord key).take 64).map keyChar := by
  let core := (key.dropWhile separates).reverse.dropWhile separates |>.reverse
  have dashes : (fun char => decide (char = '-')) ∘ keyChar = separates := by
    funext char
    rw [Function.comp_apply, Bool.eq_iff_iff, decide_eq_true_eq, keyChar_eq_dash_iff]
  have trimmed : Text.trimMatches '-' (key.map keyChar) = core.map keyChar := by
    rw [Text.trimMatches, dropWhile_map, dashes, ← map_reverse, dropWhile_map, dashes, ← map_reverse]
  change (if ((Text.trimMatches '-' (key.map keyChar)).take 64).isEmpty then "default".toList
    else (Text.trimMatches '-' (key.map keyChar)).take 64) = ((if core = [] then "default".toList else core).take 64).map keyChar
  rw [trimmed, ← map_take]
  by_cases empty : core = []
  · rw [empty]
    decide
  · rw [if_neg empty, if_neg]
    simpa using empty

theorem sanitizeKey_eq_iff {one other : Text} : sanitizeKey one = sanitizeKey other ↔ ConfusedKeys one other := by
  rw [sanitizeKey_eq, sanitizeKey_eq, ← forall₂_eq_eq_eq, forall₂_map_left_iff, forall₂_map_right_iff]
  simp only [keyChar_eq_iff]
  rfl

/-- The spec of the session that a task is about, unless it names a route or a job. -/
def SessionRole.spec? : SessionRole → Option ProxySessionSpec
  | .request (.ensure spec) => some spec
  | .request (.remotePeer _ spec _) => spec
  | .request (.down none spec) => spec
  | .request (.down (some _) _) => none
  | .request (.apply settings) => settings.spec
  | .runner spawned => spawned.spec?
  | .reconcile => none

theorem SessionRole.name_of_reaches {role : SessionRole} {name : Text} {spec : ProxySessionSpec} (about : role.spec? = some spec)
    (reaches : role.reaches name) : name = spec.name := by
  rcases role with (asked | ⟨operation, asked, bootstrap⟩ | ⟨id, asked⟩ | settings) | (asked | ⟨_, _, _, asked⟩) | _
  case request.ensure | runner.session =>
    cases about
    exact reaches
  case request.down =>
    cases id with
    | none => exact reaches spec rfl about
    | some => cases about
  case request.apply =>
    have named : settings.name = some name := reaches
    rw [ApplyRequest.name, show settings.spec = some spec from about] at named
    exact (Option.some.inj named).symm
  case request.remotePeer | runner.remotePeer =>
    cases about
    exact (Option.some.inj reaches).symm
  case reconcile => cases about

/-- Two keys have different ids exactly where something makes a difference between them, and then no task of
the one reaches the session of the other, nor is a request for the one answered with it. -/
theorem session_ids_differ_iff (one other : Text) :
    ((sessionIdOf (sanitizeKey one) ≠ sessionIdOf (sanitizeKey other) ∧
      jobIdOf (sanitizeKey one) ≠ jobIdOf (sanitizeKey other) ∧
      routeIdOf (sanitizeKey one) ≠ routeIdOf (sanitizeKey other)) ↔ ¬ ConfusedKeys one other) ∧
    (¬ ConfusedKeys one other → ∀ (text : IpText) (system : SessionSystem) (index : Nat) (outside : SessionOutside)
      (task : SessionTask) (spec : ProxySessionSpec), (machine text).Reachable system → system.enabled (.step index outside) →
      system.tasks[index]? = some task → task.role.spec? = some spec → spec.key = one →
      let later := system.next text (.step index outside)
      LeftAlone (sanitizeKey other) system.daemon later.daemon ∧
      ∀ asked job session reused, later.answered = some (.ensure spec, .accepted asked job session reused) →
        asked = spec ∧ job.id ≠ jobIdOf (sanitizeKey other) ∧ session.routeId ≠ routeIdOf (sanitizeKey other)) := by
  have differ : sanitizeKey one ≠ sanitizeKey other ↔ ¬ ConfusedKeys one other := not_congr sanitizeKey_eq_iff
  refine ⟨?_, ?_⟩
  · rw [← differ, Ne, sessionIdOf_inj, Ne, jobIdOf_inj, Ne, routeIdOf_inj, and_self, and_self]
  · intro apart text system index outside task spec reached enabled found about same later
    have names : spec.name ≠ sanitizeKey other := by
      rw [ProxySessionSpec.name, same]
      exact differ.mpr apart
    refine ⟨unreached_step_leaves_alone reached enabled found fun reaches =>
      names (SessionRole.name_of_reaches about reaches).symm, ?_⟩
    intro asked job session reused answered
    obtain ⟨crew, _, member, write, next, _, _, stepped⟩ := step_does reached enabled found
    obtain ⟨role, _, done⟩ := stepped.answered answered
    obtain ⟨given, jobId, routeId⟩ := done.own asked job session reused rfl
    refine ⟨given, ?_, ?_⟩
    · rw [jobId]
      exact fun mine => names (jobIdOf_inj.mp mine)
    · rw [routeId]
      exact fun mine => names (routeIdOf_inj.mp mine)

/-- The second host is asked for while the first is being set up, and leaves it alone. -/
theorem session_ids_differ_second_host : let second := { hostSpec with target := "second".toList }
    ∃ system task, (machine loopbackText).Reachable system ∧ task ∈ system.tasks[2]? ∧ task.role = .request (.ensure second) ∧
    LeftAlone hostSpec.name system.daemon (system.next loopbackText (.step 2 {})).daemon ∧
    ∃ job ∈ system.daemon.jobs.get hostSpec.jobId, job.state = .queued := by
  intro second
  obtain ⟨system, reached, enabled, task, stored⟩ := Machine.exists_reachable (machine loopbackText)
    (fun system => system.enabled (.step 2 {}) ∧ (∃ task ∈ system.tasks[2]?, task.role = .request (.ensure second)) ∧
      (∃ job ∈ system.daemon.jobs.get hostSpec.jobId, job.state = .queued))
    (accepts hostSpec ++ [.request (.ensure second)] ++ replicate 3 (.step 2 {})) (by decide)
  obtain ⟨task, found, role⟩ := task
  have apart : ¬ ConfusedKeys second.key hostSpec.key := by
    rw [← sanitizeKey_eq_iff]
    decide
  refine ⟨system, task, reached, found, role, ?_, stored⟩
  exact ((session_ids_differ_iff second.key hostSpec.key).2 apart loopbackText system 2 {} task second reached enabled found
    (by rw [role]; rfl) rfl).1

/-- Two workspaces with one session, one job and one route. -/
theorem workspaces_share_session : "Work A".toList ≠ "work-a".toList ∧
    sessionIdOf (sanitizeKey "Work A".toList) = sessionIdOf (sanitizeKey "work-a".toList) ∧
    jobIdOf (sanitizeKey "Work A".toList) = jobIdOf (sanitizeKey "work-a".toList) ∧
    routeIdOf (sanitizeKey "Work A".toList) = routeIdOf (sanitizeKey "work-a".toList) := by decide

end SshProxy
