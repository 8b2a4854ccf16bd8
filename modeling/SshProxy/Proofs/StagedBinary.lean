import SshProxy.Proofs.UpdateHealthy

/-! Whether the staged binary is the one that was hashed and probed. `stage_update_binary` reads the
source three times, and other processes may replace it before each of its steps. -/

namespace SshProxy
open Library Program

variable {α β : Type}

def Host.replaced (host : Host) (source : Text) (content : Option Executable) : Host :=
  { host with files := Function.update host.files source content }

section
variable (install : Installation) (source : Text) (schedule : SourceSchedule) (host : Host)

variable {install source schedule host} {staged : StagedUpdate} {after : Host}

end

end SshProxy
