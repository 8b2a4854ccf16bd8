import SshProxy.Proofs.SessionPool

/-! When a job has ended, for the runner of a session. Each attempt at a port writes the end of the
job by itself, and the loop over the ports takes the job up again. -/

namespace SshProxy
open Library Daemon ProxySessionSpec List

def StaysEnded (written : List JobRecord) : Prop :=
  written.Pairwise fun earlier later => earlier.state.isTerminal = true → later.state.isTerminal = true

instance (written : List JobRecord) : Decidable (StaysEnded written) := inferInstanceAs (Decidable (List.Pairwise _ _))

def SessionRole.StaysOnPort (outside : SessionOutside) : SessionRole → Prop
  | .runner (.session spec _) => Watch.triesPorts spec → outside.findsPortTaken = false
  | _ => True

namespace SessionSystem

/-- The runner of a session has one port to try, or its probe does not find the port taken. -/
def StaysOnPort (system : SessionSystem) : SessionAction → Prop
  | .step index outside => ∀ role ∈ system.role? index, role.StaysOnPort outside
  | _ => True

def toTheEnd : Watch where
  final := True

structure EndedOnce (member : Member) : Prop where
  stays : StaysEnded member.task.written
  quits : ∀ record ∈ member.task.written, record.state.isTerminal = true → member.point.owes = none

structure EndingCrew (text : IpText) (system : SessionSystem) (crew : List Member) : Prop where
  crewed : Crew toTheEnd text system crew
  plain : ∀ member ∈ crew, member.point.expected = false
  trusting : ∀ member ∈ crew, ∀ daemon, member.point.claim daemon
  once : ∀ member ∈ crew, ∀ spec id, member.task.role = .runner (.session spec id) → EndedOnce member

variable {text : IpText} {system : SessionSystem} {crew : List Member}

theorem EndedOnce.step {daemon : Daemon} {member next : Member} {write : DaemonWrite} {spec : ProxySessionSpec} {id : Text}
    (once : EndedOnce member) (step : MemberStep toTheEnd text daemon member write next)
    (settled : daemon.settled = daemon) (role : member.task.role = .runner (.session spec id)) : EndedOnce next := by
  have none : daemon.written = [] := by
    rw [← settled]
    rfl
  have grown := step.written
  rcases step.does.written with ⟨same, _, owes⟩ | ⟨record, one, writes, after, onward⟩
  · rw [same, none, append_nil] at grown
    refine ⟨grown ▸ once.stays, ?_⟩
    intro record present terminal
    rcases owes with same | done
    · rw [same]
      exact once.quits record (grown ▸ present) terminal
    · exact done
  · rw [one, none, nil_append] at grown
    rw [role] at writes onward
    obtain ⟨_, _, awaited | terminal⟩ := writes
    · -- whoever still owes the job has not ended it
      have going (earlier : JobRecord) (present : earlier ∈ member.task.written) : earlier.state.isTerminal = false := by
        cases terminal : earlier.state.isTerminal with
        | false => rfl
        | true =>
          have owed := onward trivial awaited
          rw [once.quits earlier present terminal] at owed
          cases owed
      refine ⟨?_, ?_⟩
      · rw [grown]
        refine pairwise_append.mpr ⟨once.stays, pairwise_singleton _ _, ?_⟩
        intro earlier present _ _ terminal
        rw [going earlier present] at terminal
        cases terminal
      · intro earlier present terminal
        rw [grown] at present
        rcases mem_append.mp present with old | new
        · rw [going earlier old] at terminal
          cases terminal
        · rw [mem_singleton.mp new, JobRecord.unfinished_of_isAwaited awaited] at terminal
          cases terminal
    · refine ⟨?_, ?_⟩
      · rw [grown]
        refine pairwise_append.mpr ⟨once.stays, pairwise_singleton _ _, ?_⟩
        intro _ _ later new _
        rw [mem_singleton.mp new]
        exact terminal
      · intro _ _ _
        rw [after]
        exact Progress.wrote_terminal terminal _

namespace EndingCrew

theorem initial : EndingCrew text {} [] where
  crewed := .initial False.elim
  plain _ never := nomatch never
  trusting _ never := nomatch never
  once _ never := nomatch never

variable (ending : EndingCrew text system crew)
include ending

theorem step {index : Nat} {outside : SessionOutside} (enabled : system.enabled (.step index outside))
    (stays : system.StaysOnPort (.step index outside)) :
    ∃ later, EndingCrew text (system.next text (.step index outside)) later := by
  have may (member : Member) (present : crew[index]? = some member) :
      toTheEnd.allowed member.task.role outside system.daemon := by
    have stays := stays member.task.role (ending.crewed.role? present)
    apply Watch.allowed_of
    · exact fun _ _ never => (never.elim id id).elim
    · exact fun _ _ _ _ never => nomatch never
    · intro spec id role
      rw [role] at stays
      exact ⟨fun _ several => ⟨enabled.2, stays several⟩, False.elim⟩
  obtain ⟨later, member, write, next, stepped⟩ := ending.crewed.stepped enabled may fun member present _ =>
    ending.trusting member present _
  have plain : next.point.expected = false :=
    stepped.step.does.expected.trans (ending.plain member (mem_of_getElem? stepped.present))
  refine ⟨later, stepped.crewed, ?_, ?_, ?_⟩
  · exact stepped.forall_later ending.crewed ending.plain (fun _ => plain) fun _ => rfl
  · refine stepped.forall_later ending.crewed ending.trusting ?_ Member.runner_trusting
    exact fun _ => stepped.step.trusting not_false not_false rfl plain
  · refine stepped.forall_later ending.crewed ending.once ?_ ?_
    · intro once spec id role
      rw [stepped.step.role] at role
      exact (once spec id role).step stepped.step ending.crewed.settled role
    · intro _ _ _ _
      exact ⟨List.Pairwise.nil, fun _ never => nomatch never⟩

theorem request (asked : SessionRequest) :
    EndingCrew text (system.next text (.request asked)) (crew ++ [Member.request toTheEnd text asked]) := by
  have task := Member.request_task toTheEnd text asked
  refine ⟨ending.crewed.requested (Member.request_outlined not_false asked) task, ?_, ?_, ?_⟩
  · exact forall_joined ending.plain (Member.request_expected asked)
  · exact forall_joined ending.trusting (Member.request_trusting asked)
  · apply forall_joined ending.once
    intro spec id role
    rw [task] at role
    cases role

theorem restart : EndingCrew text (system.next text .restart) [Member.reconcile text fun _ => True] := by
  refine ⟨ending.crewed.restarted (Member.reconcile_trusting not_false not_false), ?_, ?_, ?_⟩
  · exact forall_mem_singleton.mpr rfl
  · exact forall_mem_singleton.mpr fun _ => trivial
  · exact forall_mem_singleton.mpr fun _ _ never => nomatch never

theorem next {action : SessionAction} (enabled : system.enabled action) (stays : system.StaysOnPort action) :
    ∃ later, EndingCrew text (system.next text action) later := by
  cases action with
  | request asked => exact ⟨_, ending.request asked⟩
  | step index outside => exact ending.step enabled stays
  | routeEnds id =>
    obtain ⟨routes, ended, _, crewed⟩ := ending.crewed.routeEnded id
    rw [ended]
    exact ⟨crew, crewed, ending.plain, ending.trusting, ending.once⟩
  | restart => exact ⟨_, ending.restart⟩

end EndingCrew

/-- In a run in which no runner goes from one port to the next, no runner of a session writes an
unfinished record after one that has ended. -/
theorem ended_job_stays_ended (run : (machine text).Run StaysOnPort system) {task : SessionTask} (present : task ∈ system.tasks)
    {spec : ProxySessionSpec} {id : Text} (role : task.role = .runner (.session spec id)) : StaysEnded task.written := by
  obtain ⟨crew, ending⟩ := run.exists_view (EndingCrew text) .initial EndingCrew.next
  rw [ending.crewed.tasks] at present
  obtain ⟨member, mine, rfl⟩ := mem_map.mp present
  exact (ending.once member mine spec id role).stays

instance (outside : SessionOutside) (role : SessionRole) : Decidable (role.StaysOnPort outside) := by
  rcases role with _ | (_ | _) | _ <;> dsimp only [SessionRole.StaysOnPort] <;> infer_instance

instance (system : SessionSystem) (action : SessionAction) : Decidable (system.StaysOnPort action) := by
  rcases action with _ | _ <;> dsimp only [StaysOnPort] <;> infer_instance

def fixedSpec : ProxySessionSpec := { hostSpec with remotePortPolicy := .fixed 17890 }

theorem ended_job_stays_ended_fixed : ∃ system task, (machine loopbackText).Run StaysOnPort system ∧ task ∈ system.tasks ∧
    task.role = .runner (.session fixedSpec fixedSpec.jobId) ∧
    (task.written.map (·.state)).getLast? = some .failed ∧ StaysEnded task.written := by
  obtain ⟨system, run, task, found, role, failed⟩ := Machine.exists_run (machine loopbackText) StaysOnPort
    (fun system => ∃ task ∈ system.tasks[1]?, task.role = .runner (.session fixedSpec fixedSpec.jobId) ∧
      (task.written.map (·.state)).getLast? = some .failed) (portTaken fixedSpec) (by decide)
  have present := mem_of_getElem? found
  exact ⟨system, task, run, present, role, failed, ended_job_stays_ended run present role⟩

/-- With more ports to try, a job that has failed waits for the next port. -/
theorem failed_job_taken_up_again : ∃ system task, (machine loopbackText).Reachable system ∧ task ∈ system.tasks ∧
    task.role = .runner (.session hostSpec hostSpec.jobId) ∧ ¬ StaysEnded task.written := by
  obtain ⟨system, run, task, found, role, resumes⟩ := Machine.exists_reachable (machine loopbackText)
    (fun system => ∃ task ∈ system.tasks[1]?, task.role = .runner (.session hostSpec hostSpec.jobId) ∧
      ¬ StaysEnded task.written) (portTaken hostSpec ++ [.step 1 {}, .step 1 {}]) (by decide +kernel)
  exact ⟨system, task, run, mem_of_getElem? found, role, resumes⟩

end SessionSystem
end SshProxy
