import SshProxy.DaemonUpdate

/-! What a switch script leaves behind. A script that is past its copy writes no file any more, and
until then it carries the version of its staged file to the daemon's path or nowhere. -/

namespace SshProxy
open Library

namespace Files

def HasVersion (files : Files) (path version : Text) : Prop :=
  ∀ binary, files path = some (.build binary) → binary.version = version

variable {files : Files} {copied : CopyResult} {source target path version : Text}

theorem copy_elsewhere (elsewhere : path ≠ target) : (files.copy copied source target).1 path = files path := by
  unfold copy
  split
  next => rfl
  next =>
    split
    next => rfl
    next => exact Function.update_of_ne elsewhere _ _
  next =>
    split
    next => exact Function.update_of_ne elsewhere _ _
    next => rfl

theorem copy_done (done : (files.copy copied source target).2 = true) :
    (files.copy copied source target).1 target = files source := by
  unfold copy at done ⊢
  split at done
  next => cases done
  next content found =>
    split at done
    next => cases done
    next different =>
      simp only [found, if_neg different]
      exact Function.update_self _ _ _
  next =>
    split at done
    next => cases done
    next => cases done

theorem HasVersion.of_eq {other : Files} (holds : files.HasVersion path version) (same : other target = files path) :
    other.HasVersion target version := by
  intro binary found
  exact holds binary (same ▸ found)

end Files

namespace Switch
variable {install : Installation} {windows : Bool} {outside : UpdateOutside} {files : Files} {script : Switch}
  {version : Text}

structure Proper (install : Installation) (script : Switch) : Prop where
  current : script.plan.currentExe = install.currentExe
  staged : script.stagedPath ≠ install.currentExe
  backup : script.plan.backupPath ≠ script.stagedPath

def isQuiet (script : Switch) : Bool := script.position = .startNew ∨ script.isFinished = true

/-- The staged file has the version, and so has the daemon's once the script has copied it. -/
structure Delivers (install : Installation) (files : Files) (version : Text) (script : Switch) : Prop where
  staged : files.HasVersion script.stagedPath version
  installed : script.hasInstalled = true → files.HasVersion install.currentExe version

theorem Proper.advance (proper : script.Proper install) : (script.advance windows outside files).2.Proper install where
  current := proper.current
  staged := proper.staged
  backup := proper.backup

theorem advance_finished (finished : script.isFinished = true) : script.advance windows outside files = (files, script) := by
  obtain ⟨plan, stagedPath, position⟩ := script
  cases position with
  | exited status => rfl
  | _ => cases finished

theorem isQuiet_of_finished (finished : script.isFinished = true) : script.isQuiet = true := by
  simp [isQuiet, finished]

theorem isQuiet_of_installed (installed : script.hasInstalled = true) : script.isQuiet = true := by
  rcases of_decide_eq_true installed with here | here
  · simp [isQuiet, here]
  · simp [isQuiet, isFinished, here]

theorem advance_quiet (windows : Bool) (outside : UpdateOutside) (files : Files) (quiet : script.isQuiet = true) :
    (script.advance windows outside files).1 = files ∧ (script.advance windows outside files).2.isQuiet = true ∧
      (script.advance windows outside files).2.hasInstalled = script.hasInstalled := by
  rcases of_decide_eq_true quiet with here | finished
  · obtain ⟨plan, stagedPath, position⟩ := script
    cases here
    exact ⟨rfl, rfl, rfl⟩
  · rw [advance_finished finished]
    exact ⟨rfl, quiet, rfl⟩

theorem advance_staged (proper : script.Proper install) :
    (script.advance windows outside files).1 script.stagedPath = files script.stagedPath := by
  have notCurrent : script.stagedPath ≠ script.plan.currentExe := proper.current ▸ proper.staged
  unfold advance command
  cases script.position with
  | prepare => cases outside.call <;> rfl
  | backup =>
    dsimp only
    split
    next => exact Files.copy_elsewhere (Ne.symm proper.backup)
    next => rfl
  | install => exact Files.copy_elsewhere notCurrent
  | restore =>
    dsimp only
    split
    next => exact Files.copy_elsewhere notCurrent
    next => rfl
  | _ => rfl

theorem giveUp_not_installed (windows : Bool) : giveUp windows ≠ .startNew ∧ giveUp windows ≠ .exited 0 := by
  cases windows <;> decide

theorem advance_installs (proper : script.Proper install) (busy : script.isQuiet = false)
    (installed : (script.advance windows outside files).2.hasInstalled = true) :
    (script.advance windows outside files).1 install.currentExe = files script.stagedPath := by
  obtain ⟨plan, stagedPath, position⟩ := script
  have given := giveUp_not_installed windows
  cases position with
  | install =>
    have current : plan.currentExe = install.currentExe := proper.current
    rw [← current]
    simp only [advance, command, hasInstalled] at installed ⊢
    split at installed
    next done => exact Files.copy_done done
    next => simp at installed
  | prepare =>
    simp only [advance, command, hasInstalled] at installed
    cases call : outside.call <;> simp [call, given] at installed
  | backup =>
    simp only [advance, command, hasInstalled] at installed
    split at installed
    next =>
      dsimp only at installed
      split at installed <;> simp [given] at installed
    next => simp at installed
  | restore =>
    simp only [advance, command, hasInstalled] at installed
    split at installed
    next =>
      dsimp only at installed
      split at installed <;> simp at installed
    next => simp at installed
  | stop | startOld => simp [advance, command, hasInstalled] at installed
  | startNew | exited status => cases busy

theorem Delivers.advance (delivers : script.Delivers install files version) (proper : script.Proper install) :
    (script.advance windows outside files).2.Delivers install (script.advance windows outside files).1 version where
  staged := delivers.staged.of_eq (advance_staged proper)
  installed := by
    intro installed
    cases quiet : script.isQuiet with
    | false => exact delivers.staged.of_eq (advance_installs proper quiet installed)
    | true =>
      obtain ⟨same, _, alike⟩ := advance_quiet windows outside files quiet
      rw [same]
      exact delivers.installed (alike ▸ installed)

end Switch
end SshProxy
