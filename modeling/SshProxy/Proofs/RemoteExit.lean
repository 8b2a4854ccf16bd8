import SshProxy.SshExec

/-! When a remote command is reported successful. A channel that ends before the remote has sent
an exit status, after a signal for one, counts as a success. -/

namespace SshProxy
open Library List

namespace ChannelMsg

def exitStatus? : ChannelMsg → Option UInt32
  | .exitStatus status => some status
  | _ => none

def stdout : ChannelMsg → Bytes
  | .data bytes => bytes
  | _ => []

def stderr : ChannelMsg → Bytes
  | .extendedData _ bytes => bytes
  | _ => []

end ChannelMsg

def lastExitStatus (messages : List ChannelMsg) : Option UInt32 := (messages.filterMap ChannelMsg.exitStatus?).getLast?

def beforeClose (messages : List ChannelMsg) : List ChannelMsg := messages.takeWhile (· ≠ .close)

def fromClose (messages : List ChannelMsg) : List ChannelMsg := messages.dropWhile (· ≠ .close)

def outputIsText (messages : List ChannelMsg) : Prop :=
  (ofUtf8 ((beforeClose messages).flatMap ChannelMsg.stdout)).isSome = true ∧
    (ofUtf8 ((beforeClose messages).flatMap ChannelMsg.stderr)).isSome = true

/-- The remote said how the command ended: before the close, and where it said 0 it did not take
that back, or at least after the close. -/
def RemoteSaidSo (messages : List ChannelMsg) : Prop :=
  (∃ status, lastExitStatus (beforeClose messages) = some status ∧
      (status ≠ 0 ∨ lastExitStatus (fromClose messages) = none)) ∨
    lastExitStatus (fromClose messages) = some 0

/-- A success is one that the remote has reported last. -/
structure ExecChannel.ReportsRemote (channel : ExecChannel) : Prop where
  upload : channel.execUpload = .ok () → lastExitStatus channel.messages = some 0
  output : ∀ text, channel.execOutput = .ok text → lastExitStatus channel.messages = some 0

theorem lastExitStatus_cons (message : ChannelMsg) (rest : List ChannelMsg) :
    lastExitStatus (message :: rest) = (lastExitStatus rest).or message.exitStatus? := by
  unfold lastExitStatus
  cases status : message.exitStatus? with
  | none => rw [filterMap_cons_none status, Option.or_none]
  | some value => rw [filterMap_cons_some status, getLast?_cons, Option.or_some]

theorem lastExitStatus_append (front rest : List ChannelMsg) :
    lastExitStatus (front ++ rest) = (lastExitStatus rest).or (lastExitStatus front) := by
  unfold lastExitStatus
  rw [filterMap_append, getLast?_append]

theorem lastExitStatus_split (messages : List ChannelMsg) :
    lastExitStatus messages = (lastExitStatus (fromClose messages)).or (lastExitStatus (beforeClose messages)) := by
  rw [← lastExitStatus_append, beforeClose, fromClose, takeWhile_append_dropWhile]

theorem beforeClose_cons {message : ChannelMsg} (goesOn : message ≠ .close) (rest : List ChannelMsg) :
    beforeClose (message :: rest) = message :: beforeClose rest := by
  unfold beforeClose
  exact takeWhile_cons_of_pos (decide_eq_true goesOn)

theorem uploadStatus_eq (status : Option UInt32) (messages : List ChannelMsg) :
    uploadStatus status messages = (lastExitStatus (beforeClose messages)).or status := by
  induction messages generalizing status with
  | nil => rfl
  | cons message rest ih =>
    cases message with
    | close => rfl
    | exitStatus value =>
      rw [beforeClose_cons (by exact nofun), lastExitStatus_cons, Option.or_assoc]
      exact ih (some value)
    | _ =>
      rw [beforeClose_cons (by exact nofun), lastExitStatus_cons, Option.or_assoc]
      exact ih status

theorem Captured.collect_eq (captured : Captured) (messages : List ChannelMsg) : captured.collect messages =
      { status := (lastExitStatus (beforeClose messages)).or captured.status
        stdout := captured.stdout ++ (beforeClose messages).flatMap ChannelMsg.stdout
        stderr := captured.stderr ++ (beforeClose messages).flatMap ChannelMsg.stderr } := by
  induction messages generalizing captured with
  | nil =>
    have nothing : beforeClose [] = [] := rfl
    rw [nothing, flatMap_nil, flatMap_nil, append_nil, append_nil]
    rfl
  | cons message rest ih =>
    cases message with
    | close =>
      have nothing : beforeClose (.close :: rest) = [] := rfl
      rw [nothing, flatMap_nil, flatMap_nil, append_nil, append_nil]
      rfl
    | _ =>
      rw [beforeClose_cons (by exact nofun), lastExitStatus_cons, Option.or_assoc]
      apply (ih _).trans
      simp [ChannelMsg.stdout, ChannelMsg.stderr, ChannelMsg.exitStatus?]

theorem remoteSaidSo_iff (messages : List ChannelMsg) : RemoteSaidSo messages ↔
      ((lastExitStatus (beforeClose messages)).getD 0 = 0 → lastExitStatus messages = some 0) := by
  rw [lastExitStatus_split messages, RemoteSaidSo]
  cases lastExitStatus (beforeClose messages) with
  | none => simp
  | some status =>
    cases lastExitStatus (fromClose messages) with
    | none => simp [or_comm, or_iff_not_imp_left]
    | some later => simp [or_iff_not_imp_left]

namespace ExecChannel
variable {channel : ExecChannel}

theorem withContext_eq_ok {context : String} {attempt : Except String Unit} :
    withContext context attempt = .ok () ↔ attempt = .ok () := by
  cases attempt with
  | error error => exact ⟨nofun, nofun⟩
  | ok value => exact ⟨fun _ => rfl, fun _ => rfl⟩

theorem execUpload_eq_ok :
    channel.execUpload = .ok () ↔ channel.opened = .ok () ∧ channel.started = .ok () ∧ channel.sent = .ok () ∧
      (lastExitStatus (beforeClose channel.messages)).getD 0 = 0 := by
  unfold execUpload
  rw [uploadStatus_eq, Option.or_none]
  constructor
  · intro done
    obtain ⟨⟨⟩, opened, done⟩ := attempt_bind_eq_ok.mp done
    obtain ⟨⟨⟩, started, done⟩ := attempt_bind_eq_ok.mp done
    obtain ⟨⟨⟩, sent, done⟩ := attempt_bind_eq_ok.mp done
    refine ⟨withContext_eq_ok.mp opened, withContext_eq_ok.mp started, withContext_eq_ok.mp sent, ?_⟩
    by_contra bad
    rw [if_pos bad] at done
    cases done
  · rintro ⟨opened, started, sent, zero⟩
    simp only [opened, started, sent, zero, ne_eq, not_true_eq_false, if_false]
    rfl

theorem fromUtf8_eq_ok (context : String) {bytes : Bytes} :
    (∃ text, fromUtf8 context bytes = .ok text) ↔ (ofUtf8 bytes).isSome = true := by
  unfold fromUtf8
  cases ofUtf8 bytes with
  | none | some text => simp

theorem execOutput_eq_ok :
    (∃ text, channel.execOutput = .ok text) ↔ channel.opened = .ok () ∧ channel.started = .ok () ∧
      outputIsText channel.messages ∧ (lastExitStatus (beforeClose channel.messages)).getD 0 = 0 := by
  unfold execOutput execCapture outputIsText
  rw [Captured.collect_eq, Option.or_none, nil_append, nil_append]
  constructor
  · rintro ⟨text, done⟩
    obtain ⟨output, captured, done⟩ := attempt_bind_eq_ok.mp done
    obtain ⟨⟨⟩, opened, captured⟩ := attempt_bind_eq_ok.mp captured
    obtain ⟨⟨⟩, started, captured⟩ := attempt_bind_eq_ok.mp captured
    obtain ⟨stdout, out, captured⟩ := attempt_bind_eq_ok.mp captured
    obtain ⟨stderr, err, captured⟩ := attempt_bind_eq_ok.mp captured
    cases captured
    refine ⟨withContext_eq_ok.mp opened, started, ⟨(fromUtf8_eq_ok _).mp ⟨_, out⟩, (fromUtf8_eq_ok _).mp ⟨_, err⟩⟩, ?_⟩
    by_contra bad
    rw [if_pos bad] at done
    cases done
  · rintro ⟨opened, started, ⟨out, err⟩, zero⟩
    obtain ⟨stdout, out⟩ := (fromUtf8_eq_ok "remote command stdout was not utf-8").mpr out
    obtain ⟨stderr, err⟩ := (fromUtf8_eq_ok "remote command stderr was not utf-8").mpr err
    refine ⟨stdout, ?_⟩
    simp only [opened, started, out, err, zero, ne_eq]
    rfl

/-- Both report what the remote said exactly where it said so, in the calls that get as far as to
read an outcome. -/
theorem reportsRemote_iff (channel : ExecChannel) : channel.ReportsRemote ↔
      (channel.opened = .ok () → channel.started = .ok () → (channel.sent = .ok () ∨ outputIsText channel.messages) →
        RemoteSaidSo channel.messages) := by
  rw [remoteSaidSo_iff]
  constructor
  · intro reports opened started heard zero
    rcases heard with sent | readable
    · exact reports.upload (execUpload_eq_ok.mpr ⟨opened, started, sent, zero⟩)
    · obtain ⟨text, done⟩ := execOutput_eq_ok.mpr ⟨opened, started, readable, zero⟩
      exact reports.output text done
  · intro said
    constructor
    · intro done
      obtain ⟨opened, started, sent, zero⟩ := execUpload_eq_ok.mp done
      exact said opened started (.inl sent) zero
    · intro text done
      obtain ⟨opened, started, readable, zero⟩ := execOutput_eq_ok.mp ⟨text, done⟩
      exact said opened started (.inr readable) zero

def killed : ExecChannel where
  messages := [.exitSignal "KILL" false, .eof, .close]

theorem killed_succeeds :
    killed.execUpload = .ok () ∧ killed.execOutput = .ok [] ∧ lastExitStatus killed.messages = none ∧
      ¬ killed.ReportsRemote := by
  have upload : killed.execUpload = .ok () := rfl
  refine ⟨upload, ?_, rfl, ?_⟩
  · rfl
  · intro reports
    cases reports.upload upload

end ExecChannel
end SshProxy
