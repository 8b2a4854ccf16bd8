import SshProxy.Proofs.SessionsAlone

/-! The address of a session. The daemon writes it as a URL and as a port, from two sources that a
reused session can set against each other. -/

namespace SshProxy
open Library Daemon ProxySessionSpec List

theorem takeWhile_authority {kind : Char → Bool} {front suffix : Text} (plain : ∀ char ∈ front, kind char = true)
    (ends : suffix.head?.all (· = '/') = true) (slash : kind '/' = false) : (front ++ suffix).takeWhile kind = front := by
  rw [takeWhile_append_of_pos plain]
  cases suffix with
  | nil => exact append_nil _
  | cons char more =>
    have same : char = '/' := of_decide_eq_true ends
    rw [same, takeWhile_cons_of_neg (Bool.not_eq_true _ ▸ slash), append_nil]

theorem urlPort_eq (front suffix : Text) {url : Text} {port : UInt16}
    (rest : Text.afterFirst "://".toList url = some (front ++ ':' :: (toString port.toNat).toList ++ suffix))
    (plain : '/' ∉ front) (ends : suffix.head?.all (· = '/') = true) : urlPort url = some port := by
  have digits (char : Char) (present : char ∈ (toString port.toNat).toList) : char.isDigit = true :=
    Text.isDigit_of_mem_toString present
  have authority : (front ++ ':' :: (toString port.toNat).toList ++ suffix).takeWhile (· ≠ '/') =
      front ++ ':' :: (toString port.toNat).toList := by
    refine takeWhile_authority ?_ ends (by decide)
    intro char present
    apply decide_eq_true
    rintro rfl
    rcases mem_append.mp present with inFront | inBack
    · exact plain inFront
    · rcases mem_cons.mp inBack with colon | digit
      · cases colon
      · cases digits _ digit
  have colon : ':' ∉ (toString port.toNat).toList := by
    intro present
    cases digits _ present
  have fits : port.toNat ≤ 65535 := Nat.le_of_lt_succ port.toNat_lt
  unfold urlPort
  rw [rest]
  rw [Option.bind_eq_bind, Option.bind_some, authority, Text.splitLast_append colon]
  change (Text.parseUnsigned 65535 (toString port.toNat).toList).map UInt16.ofNat = some port
  rw [Text.parseUnsigned_toString fits]
  exact congrArg some UInt16.ofNat_toNat

theorem splitProxyUrl_spec {url scheme userinfo suffix : Text} (split : splitProxyUrl url = some (scheme, userinfo, suffix)) :
    (∀ other, Text.afterFirst "://".toList (scheme ++ "://".toList ++ other) = some other) ∧ '/' ∉ userinfo ∧
      suffix.head?.all (· = '/') = true ∧ (userinfo = [] ∨ ∃ user, userinfo = user ++ ['@']) := by
  obtain ⟨rest, found, built⟩ := Option.bind_eq_some_iff.mp split
  obtain ⟨front, whole, first⟩ := Text.afterFirst_eq_some found
  have authority : '/' ∉ rest.takeWhile (· ≠ '/') := by
    intro present
    have other : decide ('/' ≠ '/') = true := all_eq_true.mp all_takeWhile '/' present
    cases other
  cases built
  refine ⟨?_, ?_, ?_, ?_⟩
  · have same : url.take (url.length - rest.length - 3) = front := by
      rw [whole, append_assoc]
      have length : (front ++ ("://".toList ++ rest)).length - rest.length - 3 = front.length := by
        rw [length_append, length_append]
        change front.length + (3 + rest.length) - rest.length - 3 = front.length
        omega
      rw [length, take_left]
    rw [same]
    exact first
  · split
    next before after split =>
      intro present
      rcases mem_append.mp present with inside | sign
      · apply authority
        rw [Text.eq_of_splitLast split]
        exact mem_append_left _ inside
      · cases mem_singleton.mp sign
    next => exact not_mem_nil
  · cases drops : rest.dropWhile (· ≠ '/') with
    | nil => rfl
    | cons char more =>
      have last := head?_dropWhile_not (fun char : Char => decide (char ≠ '/')) rest
      rw [drops] at last
      simpa using last
  · split
    · exact .inr ⟨_, rfl⟩
    · exact .inl rfl

theorem IsAddress.port {text : IpText} (plain : text.Plain) {spec : ProxySessionSpec} {url : Text}
    (address : IsAddress text spec url) : urlPort url = some spec.remotePortPolicy.preferred := by
  rcases address with rfl | planned
  · unfold remoteUrl proxyUrlForRemote
    dsimp only
    split
    next =>
      have scheme : Text.afterFirst "://".toList "http://".toList = some [] := by decide
      obtain ⟨front, whole, first⟩ := Text.afterFirst_eq_some scheme
      rw [append_nil] at whole
      apply urlPort_eq (text.display spec.remoteBind).toList [] _ (plain.slashless spec.remoteBind) rfl
      rw [whole, append_nil]
      exact first _
    next scheme userinfo suffix split =>
      obtain ⟨first, user, ends, -⟩ := splitProxyUrl_spec split
      apply urlPort_eq (userinfo ++ (text.display spec.remoteBind).toList) suffix _ _ ends
      · rw [append_assoc, append_assoc, first, append_assoc, append_assoc, append_assoc]
      · intro present
        rcases mem_append.mp present with inUser | inBind
        · exact user inUser
        · exact plain.slashless _ inBind
  · obtain ⟨⟨scheme, userinfo, suffix⟩, split, rfl⟩ := Option.map_eq_some_iff.mp planned
    obtain ⟨first, user, ends, -⟩ := splitProxyUrl_spec split
    have shown : ∃ host : Text, '/' ∉ host ∧
        (RouteTable.showSocketAddr text ⟨spec.remoteBind, spec.remotePortPolicy.preferred⟩).toList =
          host ++ ':' :: (toString spec.remotePortPolicy.preferred.toNat).toList := by
      unfold RouteTable.showSocketAddr
      split
      next =>
        refine ⟨(text.display spec.remoteBind).toList, plain.slashless _, ?_⟩
        rw [String.toList_append, String.toList_append, append_assoc]
        rfl
      next =>
        refine ⟨'[' :: (text.display spec.remoteBind).toList ++ [']'], ?_, ?_⟩
        · intro present
          rcases mem_append.mp present with front | bracket
          · rcases mem_cons.mp front with bracket | inside
            · cases bracket
            · exact plain.slashless _ inside
          · cases mem_singleton.mp bracket
        · rw [String.toList_append, String.toList_append, String.toList_append, append_assoc, append_assoc,
            append_assoc]
          rfl
    obtain ⟨host, plainHost, shown⟩ := shown
    apply urlPort_eq (userinfo ++ host) suffix _ _ ends
    · dsimp only
      rw [shown, append_assoc, append_assoc, first, append_assoc, append_assoc, append_assoc]
    · intro present
      rcases mem_append.mp present with inUser | inHost
      · exact user inUser
      · exact plainHost inHost

/-- What an address is made of. -/
structure SameEndpoint (one other : ProxySessionSpec) : Prop where
  localProxy : one.localProxy = other.localProxy
  remoteBind : one.remoteBind = other.remoteBind
  port : one.remotePortPolicy.preferred = other.remotePortPolicy.preferred

theorem IsAddress.of_same {text : IpText} {one other : ProxySessionSpec} (same : SameEndpoint one other) {url : Text}
    (address : IsAddress text one url) : IsAddress text other url := by
  unfold IsAddress remoteUrl remoteProxyUrlFromPlan at *
  rwa [same.localProxy, same.remoteBind, same.port] at address

/-- Only the address of IPv6 is written in two ways. -/
theorem IsAddress.eq_remoteUrl {text : IpText} {spec : ProxySessionSpec} {url : Text} (address : IsAddress text spec url)
    {bits : BitVec 32} (short : spec.remoteBind = .v4 bits) : url = spec.remoteUrl text := by
  rcases address with same | planned
  · exact same
  · obtain ⟨⟨scheme, userinfo, suffix⟩, split, rfl⟩ := Option.map_eq_some_iff.mp planned
    unfold remoteUrl proxyUrlForRemote RouteTable.showSocketAddr
    rw [split, short]
    dsimp only
    rw [String.toList_append, String.toList_append, append_assoc (text.display _).toList]
    rfl

def ProxySessionRecord.Located (record : ProxySessionRecord) : Prop := urlPort record.remoteUrl = some record.remotePort

/-- The URL of a record is an address for the local proxy, the bind address and the port that the record has. -/
structure ProxySessionRecord.FormedFor (text : IpText) (record : ProxySessionRecord) (spec : ProxySessionSpec) : Prop where
  localProxy : spec.localProxy = record.localProxy
  remoteBind : text.display spec.remoteBind = record.remoteBind
  port : spec.remotePortPolicy.preferred = record.remotePort
  address : IsAddress text spec record.remoteUrl

def ProxySessionRecord.Formed (text : IpText) (record : ProxySessionRecord) : Prop := ∃ spec, record.FormedFor text spec

namespace ProxySessionRecord
variable {text : IpText} (plain : text.Plain) {record : ProxySessionRecord} (formed : record.Formed text)
include plain formed

theorem Formed.located : record.Located := by
  obtain ⟨spec, formed⟩ := formed
  exact (formed.address.port plain).trans (congrArg some formed.port)

theorem Formed.isAddress {spec : ProxySessionSpec} (localProxy : record.localProxy = spec.localProxy)
    (remoteBind : record.remoteBind = text.display spec.remoteBind)
    (port : record.remotePort = spec.remotePortPolicy.preferred) : IsAddress text spec record.remoteUrl := by
  obtain ⟨other, formed⟩ := formed
  have read := plain.faithful other.remoteBind
  rw [formed.remoteBind.trans remoteBind, plain.faithful] at read
  exact formed.address.of_same ⟨formed.localProxy.trans localProxy, (Option.some.inj read).symm, formed.port.trans port⟩

theorem Formed.toSpec {spec : ProxySessionSpec} (read : record.toSpec text = some spec) :
    IsAddress text spec record.remoteUrl := by
  obtain ⟨other, kept⟩ := formed
  obtain ⟨bind, parsed, built⟩ := Option.bind_eq_some_iff.mp read
  cases built
  rw [← kept.remoteBind, plain.faithful] at parsed
  cases parsed
  refine kept.address.of_same ?_
  exact ⟨kept.localProxy, rfl, kept.port⟩

end ProxySessionRecord

namespace SessionRegistry
variable {text : IpText} {registry : SessionRegistry} {store : SortedMap Text ProxySessionRecord} {saved : Except String Unit}

def AllFormed (text : IpText) (store : SortedMap Text ProxySessionRecord) : Prop := ∀ entry ∈ store.entries, entry.2.Formed text

structure Formed (text : IpText) (registry : SessionRegistry) : Prop where
  store : AllFormed text registry.store
  file : AllFormed text registry.file

theorem AllFormed.insert (all : AllFormed text store) (key : Text) {record : ProxySessionRecord} (formed : record.Formed text) :
    AllFormed text (store.insert key record) := by
  intro entry present
  rcases SortedMap.mem_insertEntry present with rfl | earlier
  · exact formed
  · exact all entry earlier

theorem Formed.save (formed : registry.Formed text) (all : AllFormed text store) {α : Type} (result : α) :
    (registry.save saved store result).1.Formed text := by
  unfold SessionRegistry.save
  cases saved with
  | ok => exact ⟨all, all⟩
  | error => exact ⟨all, formed.file⟩

theorem Formed.changeFirst (formed : registry.Formed text) {condition : ProxySessionRecord → Bool}
    {change : ProxySessionRecord → ProxySessionRecord} (keeps : ∀ record, record.Formed text → (change record).Formed text) :
    (registry.changeFirst saved condition change).1.Formed text := by
  unfold SessionRegistry.changeFirst
  split
  next key record found =>
    have before := formed.store _ (mem_of_find?_eq_some found)
    exact formed.save (formed.store.insert key (keeps record before)) _
  next => exact formed.save formed.store _

end SessionRegistry

theorem Does.formed {text : IpText} {scope : Scope} {daemon : Daemon} {before after : Progress} {write : DaemonWrite}
    (does : Does scope daemon before write after) (addressed : scope.addressed) (reads : ∀ other, scope.reads other → other = text)
    (formed : daemon.sessions.Formed text) : (write.apply daemon).sessions.Formed text := by
  cases does with
  | session other now save spec job touches own address source plain =>
    cases reads other (plain addressed)
    apply formed.save
    apply formed.store.insert
    refine ⟨spec, rfl, rfl, rfl, ?_⟩
    change IsAddress text spec (job.remoteUrl.getD (spec.remoteUrl text))
    cases known : job.remoteUrl with
    | none => exact .inl rfl
    | some url => exact address addressed url known
  | status save condition alike =>
    apply formed.changeFirst
    rintro record ⟨spec, localProxy, remoteBind, port, address⟩
    refine ⟨spec, ?_⟩
    have alike := alike record
    exact ⟨localProxy.trans alike.localProxy.symm, remoteBind.trans alike.remoteBind.symm, port.trans alike.remotePort.symm,
      alike.remoteUrl ▸ address⟩
  | cancel now save routeId jobId error =>
    apply formed.changeFirst
    rintro record ⟨spec, localProxy, remoteBind, port, address⟩
    exact ⟨spec, localProxy, remoteBind, port, address⟩
  | _ => exact formed

namespace SessionSystem

def ReusedAddress (text : IpText) (system : SessionSystem) : Prop :=
  match system.answered with
  | some (_, .accepted spec job _ true) => job.remoteUrl = some (spec.remoteUrl text)
  | _ => True

structure OneAddress (text : IpText) (system : SessionSystem) : Prop where
  records : ∀ session ∈ system.daemon.sessions.sessions, session.Located
  reused : system.ReusedAddress text

/-- The record was written from the job, for the local proxy and the port that are asked for and for the
same address of IPv4. -/
structure SetUpFor (text : IpText) (record : ProxySessionRecord) (job : JobRecord) (spec : ProxySessionSpec) : Prop where
  job : job.remoteUrl = some record.remoteUrl
  localProxy : record.localProxy = spec.localProxy
  remoteBind : record.remoteBind = text.display spec.remoteBind
  short : spec.remoteBind.isV4 = true
  port : record.remotePort = spec.remotePortPolicy.preferred

instance (text : IpText) (record : ProxySessionRecord) (job : JobRecord) (spec : ProxySessionSpec) :
    Decidable (SetUpFor text record job spec) :=
  decidable_of_iff (job.remoteUrl = some record.remoteUrl ∧ record.localProxy = spec.localProxy ∧
      record.remoteBind = text.display spec.remoteBind ∧ spec.remoteBind.isV4 = true ∧
      record.remotePort = spec.remotePortPolicy.preferred)
    ⟨fun ⟨job, localProxy, remoteBind, short, port⟩ => ⟨job, localProxy, remoteBind, short, port⟩,
      fun same => ⟨same.job, same.localProxy, same.remoteBind, same.short, same.port⟩⟩

/-- Sessions are asked for when nobody is at work on them. If there is a job that could be reused, the
session was set up by it for what is asked for. -/
def AsksForAddress (text : IpText) (system : SessionSystem) : SessionAction → Prop
  | .request (.ensure spec) =>
    system.Untouched spec.name ∧ ∀ job ∈ system.daemon.jobs.get spec.jobId, reusableProxySessionJob job true = true →
      ∃ record ∈ system.daemon.sessions.get spec.sessionId, SetUpFor text record job spec
  | .request _ => False
  | .step _ _ | .routeEnds _ | .restart => True

def addressWatch (text : IpText) : Watch where
  alone := True
  addressed := True
  reads other := other = text
  located _ := trivial

structure AddressCrew (text : IpText) (system : SessionSystem) (crew : List Member) : Prop where
  alone : AloneCrew (addressWatch text) text system crew
  plain : text.Plain
  formed : system.daemon.sessions.Formed text
  reused : system.ReusedAddress text

variable {text : IpText} {system : SessionSystem} {crew : List Member}

namespace AddressCrew

theorem initial (plain : text.Plain) : AddressCrew text {} [] where
  alone := .initial fun _ => rfl
  plain
  formed := ⟨fun _ never => (nomatch never), fun _ never => (nomatch never)⟩
  reused := trivial

theorem scope_addressed {role : SessionRole} (ofSession : role.ofSession = true) :
    ((addressWatch text).scope role).addressed ∧ ∀ other, ((addressWatch text).scope role).reads other → other = text := by
  have same (other : IpText) (read : other = text) : other = text := read
  cases role with
  | request asked =>
    cases asked with
    | ensure => exact ⟨trivial, same⟩
    | _ => cases ofSession
  | runner spawned =>
    cases spawned with
    | session => exact ⟨trivial, same⟩
    | remotePeer => cases ofSession
  | reconcile => exact ⟨trivial, same⟩

theorem allowed (role : SessionRole) (outside : SessionOutside) (daemon : Daemon) :
    (addressWatch text).allowed role outside daemon :=
  Watch.allowed_of (fun _ _ never => (never.elim id id).elim) (fun _ _ _ _ never => nomatch never)
    fun _ _ _ => ⟨False.elim, False.elim⟩

variable (addresses : AddressCrew text system crew)
include addresses

theorem reused_step {index : Nat} {after : SessionSystem} {later : List Member} {member next : Member}
    {write : DaemonWrite} (stepped : CrewStep (addressWatch text) text system crew index after later member write next) :
    after.ReusedAddress text := by
  unfold ReusedAddress
  split
  next asked spec job session answered =>
    obtain ⟨role, _, done⟩ := stepped.answered answered
    have mine := addresses.alone.ofSession member (mem_of_getElem? stepped.present)
    rw [← stepped.step.role, role] at mine
    cases asked with
    | ensure => exact done.address trivial spec job session rfl
    | _ => cases mine
  next => trivial

theorem step {index : Nat} {outside : SessionOutside} (enabled : system.enabled (.step index outside)) :
    ∃ later, AddressCrew text (system.next text (.step index outside)) later := by
  obtain ⟨later, member, write, next, alone, stepped⟩ := addresses.alone.step not_false enabled
    (fun _ _ => allowed _ _ _) False.elim
  refine ⟨later, alone, addresses.plain, ?_, addresses.reused_step stepped⟩
  obtain ⟨addressed, reads⟩ := scope_addressed (addresses.alone.ofSession member (mem_of_getElem? stepped.present))
  have formed := stepped.step.does.formed addressed reads addresses.formed
  rw [stepped.daemon]
  exact ⟨formed.store, formed.file⟩

theorem request {asked : SessionRequest} (asks : system.AsksForAddress text (.request asked)) :
    ∃ later, AddressCrew text (system.next text (.request asked)) later := by
  cases asked with
  | ensure spec =>
    obtain ⟨untouched, setUp⟩ := asks
    have addressed (job : JobRecord) (found : system.daemon.jobs.get spec.jobId = some job)
        (reusable : reusableProxySessionJob job true = true) : job.remoteUrl = some (spec.remoteUrl text) := by
      obtain ⟨record, stored, setUp⟩ := setUp job found reusable
      have formed := addresses.formed.store _ (SortedMap.mem_of_get stored)
      obtain ⟨bits, short⟩ := IpAddr.isV4_iff.mp setUp.short
      rw [setUp.job]
      exact congrArg some ((formed.isAddress addresses.plain setUp.localProxy setUp.remoteBind setUp.port).eq_remoteUrl short)
    let claim (daemon : Daemon) : Prop := ∀ job, daemon.jobs.get spec.jobId = some job →
      reusableProxySessionJob job true = true → job.remoteUrl = some (spec.remoteUrl text)
    have fading : Fading spec.jobId claim := by
      intro before after same held job found
      rcases same with same | gone
      · exact held job (same.symm.trans found)
      · rw [gone] at found
        cases found
    have outlined : (Member.ensure text spec false claim).Outlined (addressWatch text) text := by
      apply Member.ensure_outlined addresses.alone.crewed.plain
      · exact .inr (.inr (.inl ⟨trivial, fading⟩))
      · intro never
        cases never
      · intro _ daemon job held
        exact held job
    have steady : (Member.ensure text spec false claim).Steady (addressWatch text) :=
      fun _ _ beside held => fading.steady beside held
    exact ⟨_, addresses.alone.request untouched outlined addressed steady, addresses.plain, addresses.formed, trivial⟩
  | remotePeer | down | apply => exact asks.elim

theorem restart : ∃ later, AddressCrew text (system.next text .restart) later := by
  let claim (daemon : Daemon) : Prop := ∀ session ∈ daemon.sessions.sessions, session.Formed text
  have held : claim system.daemon.load := by
    intro session present
    obtain ⟨entry, stored, rfl⟩ := mem_map.mp present
    exact addresses.formed.file entry stored
  have fit (daemon : Daemon) (keyed : daemon.sessions.Keyed) (formed : claim daemon) (session : ProxySessionRecord)
      (present : session ∈ daemon.sessions.sessions) : Reconcilable (addressWatch text) text session := by
    have own : OwnJob session.name session.jobId := by
      obtain ⟨entry, stored, rfl⟩ := mem_map.mp present
      exact (keyed.store entry stored).job
    exact ⟨own, False.elim, fun _ _ read => (formed session present).toSpec addresses.plain read⟩
  have steady : (Member.reconcile text claim).Steady (addressWatch text) := by
    intro before after beside formed
    rcases beside with ⟨_, same⟩ | ⟨never, _⟩
    · change ∀ session ∈ after.sessions.sessions, session.Formed text
      rw [same]
      exact formed
    · exact absurd rfl never
  exact ⟨_, addresses.alone.restart (Member.reconcile_outlined addresses.alone.crewed.plain fit) held steady,
    addresses.plain, ⟨addresses.formed.file, addresses.formed.file⟩, trivial⟩

theorem routeEnds (key : Text) : AddressCrew text (system.next text (.routeEnds key)) crew := by
  obtain ⟨routes, ended, alone⟩ := addresses.alone.routeEnds key
  rw [ended]
  exact ⟨alone, addresses.plain, addresses.formed, trivial⟩

theorem next {action : SessionAction} (enabled : system.enabled action) (asks : system.AsksForAddress text action) :
    ∃ later, AddressCrew text (system.next text action) later := by
  cases action with
  | request asked => exact addresses.request asks
  | step index outside => exact addresses.step enabled
  | routeEnds key => exact ⟨crew, addresses.routeEnds key⟩
  | restart => exact addresses.restart

end AddressCrew

/-- URL and port of a session go together in a run in which each request that could reuse a job asks
for the port and the local proxy of that job, at an address of IPv4. -/
theorem session_has_one_address (plain : text.Plain) (run : (machine text).Run (AsksForAddress text) system) :
    system.OneAddress text := by
  obtain ⟨crew, addresses⟩ := run.exists_view (AddressCrew text) (.initial plain) AddressCrew.next
  refine ⟨?_, addresses.reused⟩
  intro session present
  obtain ⟨entry, stored, rfl⟩ := mem_map.mp present
  exact (addresses.formed.store entry stored).located plain

instance (record : ProxySessionRecord) : Decidable record.Located := inferInstanceAs (Decidable (_ = some _))

instance (text : IpText) (system : SessionSystem) : Decidable (system.ReusedAddress text) := by
  unfold ReusedAddress
  split
  · infer_instance
  · infer_instance

instance (text : IpText) (system : SessionSystem) (action : SessionAction) :
    Decidable (system.AsksForAddress text action) := by
  rcases action with (_ | _ | _ | _) | _ | _ | _ <;> dsimp only [AsksForAddress] <;> infer_instance

theorem numericText_plain : numericText.Plain := by
  refine ⟨?_, numericText_faithful⟩
  intro address present
  dsimp only [numericText] at present
  cases address with
  | v4 bits =>
    dsimp only at present
    split at present
    · exact absurd present (by decide)
    · cases Text.isDigit_of_mem_toString present
  | v6 bits =>
    rcases mem_cons.mp (String.toList_append ▸ present) with colon | digit
    · cases colon
    · cases Text.isDigit_of_mem_toString digit

theorem session_has_one_address_reused : ∃ system, numericText.Plain ∧
    (machine numericText).Run (AsksForAddress numericText) system ∧
    system.reused? = some hostSpec ∧ system.OneAddress numericText := by
  obtain ⟨system, run, reused⟩ := Machine.exists_run (machine numericText) (AsksForAddress numericText)
    (fun system => system.reused? = some hostSpec)
    (accepts hostSpec ++ replicate 46 (.step 1 {}) ++ [.request (.ensure hostSpec)] ++ replicate 5 (.step 2 {}))
    (by decide)
  exact ⟨system, numericText_plain, run, reused, session_has_one_address numericText_plain run⟩

/-- The session is up at the next port, and is asked for once more with the one that was taken. -/
theorem session_with_two_addresses : ∃ system, (machine loopbackText).Reachable system ∧
    (∃ session ∈ system.daemon.sessions.sessions, ¬ session.Located) ∧ ¬ system.ReusedAddress loopbackText :=
  Machine.exists_reachable (machine loopbackText)
    (fun system => (∃ session ∈ system.daemon.sessions.sessions, ¬ session.Located) ∧ ¬ system.ReusedAddress loopbackText)
    (portTaken hostSpec ++ replicate 27 (.step 1 {}) ++ [.request (.ensure hostSpec)] ++ replicate 5 (.step 2 {}))
    (by decide +kernel)

end SessionSystem
end SshProxy
