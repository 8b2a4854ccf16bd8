import SshProxy.ServiceProvider

/-! The command line that an installed service runs. The shell script gives back every argument;
the property list breaks tokens and paths up at white space and keeps what the shell quotes added,
and the scheduled task leaves out the TLS files and trips over quotes and last backslashes. -/

namespace SshProxy
open Library Windows RemotePeerServiceSpec List

def plainChars : Text := "abcdefghijklmnopqrstuvwxyz0123456789-/.:[]%".toList

structure PlainDisplay (display : SocketAddr → Text) : Prop where
  nonempty : ∀ address, display address ≠ []
  chars : ∀ address, ∀ char ∈ display address, char ∈ plainChars

def optionWords (name : String) (value : Option Text) : List Text :=
  match value with
  | some value => [name.toList, value]
  | none => []

namespace RemotePeerServiceSpec

def requestedArgs (display : SocketAddr → Text) (spec : RemotePeerServiceSpec) : List Text :=
  spec.remotePath :: "node".toList :: "daemon".toList ::
    (optionWords "--transport" (some (display spec.remoteTcp)) ++
    (optionWords "--control" (some ("tcp://".toList ++ display spec.remoteControl)) ++
    (optionWords "--token" spec.remoteToken ++
    (optionWords "--tls-transport" (spec.remoteTlsTransport.map display) ++
    (optionWords "--quic-transport" (spec.remoteQuicTransport.map display) ++
    (optionWords "--tls-cert" spec.remoteTlsCert ++
    (optionWords "--tls-key" spec.remoteTlsKey ++ optionWords "--tls-client-ca" spec.remoteTlsClientCa)))))))

/-- The install commands hold the command lines where launchd, the shell and schtasks look for them. -/
structure Renders (display : SocketAddr → Text) (spec : RemotePeerServiceSpec) : Prop where
  launchd : "<key>ProgramArguments</key><array>".toList ++ spec.programArguments display ++ "</array>".toList <:+:
    spec.remoteLaunchdInstallCommand display
  nohup : ∀ stopExisting, "\n  ".toList ++ spec.nohupCommand display ++ " >>".toList <:+:
    spec.remoteNohupStartCommand display stopExisting
  schtasks : " /TR ".toList ++ windowsCmdQuote (spec.taskCommand display) ++ " && ".toList <:+:
    spec.remoteSchtasksInstallCommand display

/-- All three providers run what was asked for. The scheduled task's command is itself an argument,
of the command that creates the task. -/
structure RunsRequested (display : SocketAddr → Text) (spec : RemotePeerServiceSpec) : Prop where
  renders : spec.Renders display
  launchd : Xml.strings (spec.programArguments display).length (spec.programArguments display) =
    some (spec.requestedArgs display)
  nohup : Shell.words (spec.nohupCommand display) = some (spec.requestedArgs display)
  task : Windows.arguments (windowsCmdQuote (spec.taskCommand display)) = [spec.taskCommand display]
  schtasks : Windows.argv (spec.taskCommand display) = spec.requestedArgs display

structure Renderable (spec : RemotePeerServiceSpec) : Prop where
  path : '"' ∉ spec.remotePath ∧ spec.remotePath.getLast? ≠ some '\\'
  token : ∀ token, spec.remoteToken = some token → (∀ char ∈ token, Text.isWhitespace char = false) ∧ '\'' ∉ token ∧
    '"' ∉ token ∧ token.getLast? ≠ some '\\'
  files : spec.remoteTlsCert = none ∧ spec.remoteTlsKey = none ∧ spec.remoteTlsClientCa = none

end RemotePeerServiceSpec

theorem infix_between (front opening middle closing : Text) :
    opening ++ middle ++ closing <:+: front ++ opening ++ middle ++ closing :=
  ⟨front, [], by simp only [append_assoc, append_nil]⟩

theorem infix_append_of_infix {part whole : Text} (more : Text) (within : part <:+: whole) : part <:+: whole ++ more :=
  within.trans (List.prefix_append whole more).isInfix

theorem RemotePeerServiceSpec.renders (display : SocketAddr → Text) (spec : RemotePeerServiceSpec) : spec.Renders display where
  launchd := by
    unfold remoteLaunchdInstallCommand
    iterate 5 apply infix_append_of_infix
    exact infix_between _ _ _ _
  nohup stopExisting := by
    unfold remoteNohupStartCommand remoteNohupFiles
    dsimp only
    iterate 14 apply infix_append_of_infix
    exact infix_between _ _ _ _
  schtasks := infix_append_of_infix _ (infix_between _ _ _ _)

def daemonWords (display : SocketAddr → Text) (spec : RemotePeerServiceSpec) (words : List Text) : List Text :=
  "node".toList :: "daemon".toList :: (optionWords "--transport" (some (display spec.remoteTcp)) ++
    (optionWords "--control" (some ("tcp://".toList ++ display spec.remoteControl)) ++ words))

theorem daemonWords_inj {display : SocketAddr → Text} {spec : RemotePeerServiceSpec} {words others : List Text} :
    daemonWords display spec words = daemonWords display spec others ↔ words = others := by
  simp only [daemonWords, cons.injEq, true_and, append_cancel_left_eq]

theorem RemotePeerServiceSpec.requestedArgs_eq (display : SocketAddr → Text) (spec : RemotePeerServiceSpec) :
    spec.requestedArgs display = spec.remotePath :: daemonWords display spec (optionWords "--token" spec.remoteToken ++
      (optionWords "--tls-transport" (spec.remoteTlsTransport.map display) ++
      (optionWords "--quic-transport" (spec.remoteQuicTransport.map display) ++
      (optionWords "--tls-cert" spec.remoteTlsCert ++
      (optionWords "--tls-key" spec.remoteTlsKey ++ optionWords "--tls-client-ca" spec.remoteTlsClientCa))))) := rfl

abbrev RemotePeerServiceSpec.NoFiles (spec : RemotePeerServiceSpec) : Prop :=
  spec.remoteTlsCert = none ∧ spec.remoteTlsKey = none ∧ spec.remoteTlsClientCa = none

theorem RemotePeerServiceSpec.NoFiles.requestedArgs {spec : RemotePeerServiceSpec} (files : spec.NoFiles)
    (display : SocketAddr → Text) :
    spec.requestedArgs display = spec.remotePath :: daemonWords display spec (optionWords "--token" spec.remoteToken ++
      (optionWords "--tls-transport" (spec.remoteTlsTransport.map display) ++
        optionWords "--quic-transport" (spec.remoteQuicTransport.map display))) := by
  rw [requestedArgs_eq, files.1, files.2.1, files.2.2]
  exact congrArg _ (congrArg _ (congrArg _ (congrArg _ (append_nil _))))

variable {name : String}

theorem optionWords_eq_nil {value : Option Text} (nothing : optionWords name value = []) : value = none := by
  cases value with
  | none => rfl
  | some value => cases nothing

theorem nodeDaemon_eq (rest : Text) :
    " node daemon".toList ++ rest = ' ' :: ("node".toList ++ ' ' :: ("daemon".toList ++ rest)) := rfl

theorem optionArg_some (name : String) (value rest : Text) :
    optionArg name (some value) ++ rest = ' ' :: (name.toList ++ ' ' :: (value ++ rest)) := by
  simp [optionArg]

abbrev IsWord (word : Text) : Prop := word ≠ [] ∧ word.all (plainChars.contains ·) = true

theorem IsWord.plain {word : Text} (constant : IsWord word) : ∀ char ∈ word, char ∈ plainChars :=
  fun char member => contains_iff_mem.mp (all_eq_true.mp constant.2 char member)

theorem plain_url {display : SocketAddr → Text} (plain : PlainDisplay display) (address : SocketAddr) :
    ∀ char ∈ "tcp://".toList ++ display address, char ∈ plainChars := by
  have scheme : IsWord "tcp://".toList := by decide
  intro char member
  rcases mem_append.mp member with front | back
  · exact scheme.plain char front
  · exact plain.chars address char back

/-! Any reader of arguments to which what addresses and the names of options are made of is plain
reads what the providers have in common. -/

section
variable {reader : ArgReader} (letters : plainChars.all reader.isPlain = true) {rest : Text} {words : List Text}
include letters

theorem takes_plain {word : Text} (plain : ∀ char ∈ word, char ∈ plainChars) (nonempty : word ≠ []) (rest : Text) :
    reader.Takes word word rest := by
  apply reader.plain nonempty
  intro char member
  exact all_eq_true.mp letters char (plain char member)

theorem takes_word {word : Text} (constant : IsWord word) (rest : Text) : reader.Takes word word rest :=
  takes_plain letters constant.plain constant.1 rest

theorem reads_option (named : IsWord name.toList) {written value : Text} (taken : reader.Takes written value rest)
    (later : reader.Reads rest words) :
    reader.Reads (optionArg name (some written) ++ rest) (optionWords name (some value) ++ words) := by
  rw [optionArg_some]
  exact reader.cons (takes_word letters named _) (reader.cons taken later)

theorem reads_optional {α : Type} (named : IsWord name.toList) {write read : α → Text} {value : Option α}
    (taken : ∀ given, value = some given → reader.Takes (write given) (read given) rest)
    (later : reader.Reads rest words) :
    reader.Reads (optionArg name (value.map write) ++ rest) (optionWords name (value.map read) ++ words) := by
  cases value with
  | none => exact later
  | some given => exact reads_option letters named (taken given rfl) later

variable {display : SocketAddr → Text} (plain : PlainDisplay display)
include plain

theorem takes_display (address : SocketAddr) (rest : Text) : reader.Takes (display address) (display address) rest :=
  takes_plain letters (plain.chars address) (plain.nonempty address) rest

theorem takes_url (address : SocketAddr) (rest : Text) :
    reader.Takes ("tcp://".toList ++ display address) ("tcp://".toList ++ display address) rest :=
  takes_plain letters (plain_url plain address) (append_ne_nil_of_left_ne_nil (by decide) _) rest

theorem reads_daemonArgs (spec : RemotePeerServiceSpec) (later : reader.Reads rest words) :
    reader.Reads (spec.daemonArgs display ++ rest) (daemonWords display spec words) := by
  unfold daemonArgs
  rw [append_assoc, append_assoc, nodeDaemon_eq]
  apply reader.cons (takes_word letters (by decide) _)
  apply reader.cons (takes_word letters (by decide) _)
  apply reads_option letters (by decide) (takes_display letters plain _ _)
  exact reads_option letters (by decide) (takes_url letters plain _ _) later

theorem reads_transports (spec : RemotePeerServiceSpec) (later : reader.Reads rest words) :
    reader.Reads (spec.windowsExtraArgs display ++ rest)
      (optionWords "--tls-transport" (spec.remoteTlsTransport.map display) ++
        (optionWords "--quic-transport" (spec.remoteQuicTransport.map display) ++ words)) := by
  unfold windowsExtraArgs
  rw [append_assoc]
  apply reads_optional letters (by decide) fun address _ => takes_display letters plain address _
  exact reads_optional letters (by decide) (fun address _ => takes_display letters plain address _) later

end

theorem takes_shQuote (value rest : Text) : Shell.reader.Takes (shQuote value) (id value) rest := by
  have split : shQuote value ++ rest =
      '\'' :: (Text.replaceChar '\'' "'\\''".toList value ++ '\'' :: rest) := by
    simp [shQuote]
  exact (congrArg (Shell.scan .plain none) split).trans (Shell.scan_quoted value rest)

section
variable {display : SocketAddr → Text} (plain : PlainDisplay display)
include plain

theorem nohup_runs (spec : RemotePeerServiceSpec) :
    Shell.words (spec.nohupCommand display) = some (spec.requestedArgs display) := by
  have letters : plainChars.all Shell.reader.isPlain = true := by decide
  have files : Shell.reader.Reads (optionArg "--tls-cert" (spec.remoteTlsCert.map shQuote) ++
      (optionArg "--tls-key" (spec.remoteTlsKey.map shQuote) ++
        (optionArg "--tls-client-ca" (spec.remoteTlsClientCa.map shQuote) ++ [])))
      (optionWords "--tls-cert" (spec.remoteTlsCert.map id) ++ (optionWords "--tls-key" (spec.remoteTlsKey.map id) ++
        (optionWords "--tls-client-ca" (spec.remoteTlsClientCa.map id) ++ []))) := by
    apply reads_optional letters (by decide) fun value _ => takes_shQuote value _
    apply reads_optional letters (by decide) fun value _ => takes_shQuote value _
    exact reads_optional letters (by decide) (fun value _ => takes_shQuote value _) Shell.reader.nil
  have args := reads_daemonArgs letters plain spec
    (reads_optional letters (by decide : IsWord "--token".toList)
      (fun value (_ : spec.remoteToken = some value) => takes_shQuote value _) (reads_transports letters plain spec files))
  have read := args spec.remotePath
  simp only [Option.map_id, id_eq, append_nil] at read
  rw [spec.requestedArgs_eq]
  unfold Shell.words nohupCommand tokenArg nodeDaemonExtraArgs
  unfold windowsExtraArgs at read
  simp only [append_assoc] at read ⊢
  exact (takes_shQuote spec.remotePath _).trans read

end

/-! The scheduled task. -/

theorem windowsCmdQuote_append (value rest : Text) :
    windowsCmdQuote value ++ rest = '"' :: (Windows.escape value ++ '"' :: rest) := by
  simp [windowsCmdQuote, escape]

theorem harmless {char : Char} (plain : char ∈ ' ' :: plainChars) : char ≠ '\\' ∧ char ≠ '"' := by
  have every : (' ' :: plainChars).all (fun char => char != '\\' && char != '"') = true := by decide
  simpa using all_eq_true.mp every char plain

theorem harmless_optionArg {α : Type} (named : IsWord name.toList) {write : α → Text}
    (written : ∀ value, ∀ char ∈ write value, char ∈ plainChars) (value : Option α) :
    ∀ char ∈ optionArg name (value.map write), char ≠ '\\' ∧ char ≠ '"' := by
  cases value with
  | none => exact nofun
  | some value =>
    intro char member
    apply harmless
    simp only [Option.map_some, optionArg, cons_append, mem_cons, mem_append] at member
    rcases member with blank | inName | blank | inValue
    · exact mem_cons.mpr (.inl blank)
    · exact mem_cons_of_mem _ (named.plain char inName)
    · exact mem_cons.mpr (.inl blank)
    · exact mem_cons_of_mem _ (written value char inValue)

variable {value : Text}

theorem takes_windowsCmdQuote (tame : Windows.Tame 0 value) (rest : Text) :
    Windows.reader.Takes (windowsCmdQuote value) (id value) rest := by
  intro apart
  rw [windowsCmdQuote_append]
  exact Windows.scan_quoted tame apart

theorem argv_quoted {path rest : Text} {words : List Text} (absent : '"' ∉ path)
    (read : reader.Reads (' ' :: rest) words) :
    Windows.argv ('"' :: (path ++ '"' :: ' ' :: rest)) = path :: words := by
  have arguments := read.2 []
  rw [scan_space] at arguments
  rw [Windows.argv, Windows.program_quoted absent, Windows.arguments]
  exact congrArg (path :: ·) (tail_eq_of_cons_eq arguments)

def tokenOption : Text := " --token ".toList

theorem tokenOption_eq (token rest : Text) : optionArg "--token" (some (windowsCmdQuote token)) ++ rest =
      tokenOption ++ '"' :: (Windows.escape token ++ '"' :: rest) := by
  rw [optionArg_some, windowsCmdQuote_append]
  rfl

theorem harmless_tokenOption : ∀ char ∈ tokenOption, char ≠ '\\' ∧ char ≠ '"' := by
  have every : tokenOption.all ((' ' :: plainChars).contains ·) = true := by decide
  intro char member
  exact harmless (contains_iff_mem.mp (all_eq_true.mp every char member))

theorem arguments_windowsCmdQuote (command : Text) : Windows.arguments (windowsCmdQuote command) =
      Windows.scan 0 true (some []) (Windows.escape command ++ ['"']) := by
  rw [← append_nil (windowsCmdQuote command), windowsCmdQuote_append, Windows.arguments,
    scan_quote_opens (Nat.zero_mod 2)]
  rfl

section
variable {display : SocketAddr → Text} (plain : PlainDisplay display) {spec : RemotePeerServiceSpec}

def taskArgs (display : SocketAddr → Text) (spec : RemotePeerServiceSpec) : Text :=
  spec.daemonArgs display ++ (optionArg "--token" (spec.remoteToken.map windowsCmdQuote) ++ spec.windowsExtraArgs display)

theorem taskCommand_eq (display : SocketAddr → Text) (spec : RemotePeerServiceSpec) :
    spec.taskCommand display = '"' :: (Windows.escape spec.remotePath ++ '"' :: taskArgs display spec) := by
  rw [← windowsCmdQuote_append]
  unfold taskCommand taskArgs
  rw [append_assoc, append_assoc]

theorem taskArgs_eq (display : SocketAddr → Text) (spec : RemotePeerServiceSpec) :
    ∃ rest, taskArgs display spec = ' ' :: rest := by
  refine ⟨(taskArgs display spec).tail, ?_⟩
  unfold taskArgs daemonArgs
  rw [append_assoc, append_assoc, nodeDaemon_eq]
  rfl

include plain

theorem harmless_daemonArgs (spec : RemotePeerServiceSpec) :
    ∀ char ∈ spec.daemonArgs display, char ≠ '\\' ∧ char ≠ '"' := by
  have words : " node daemon".toList.all ((' ' :: plainChars).contains ·) = true := by decide
  unfold RemotePeerServiceSpec.daemonArgs
  intro char member
  rcases mem_append.mp member with front | control
  · rcases mem_append.mp front with constant | transport
    · exact harmless (contains_iff_mem.mp (all_eq_true.mp words char constant))
    · exact harmless_optionArg (by decide) plain.chars (some spec.remoteTcp) char transport
  · exact harmless_optionArg (by decide) (plain_url plain) (some spec.remoteControl) char control

theorem harmless_windowsExtraArgs (spec : RemotePeerServiceSpec) :
    ∀ char ∈ spec.windowsExtraArgs display, char ≠ '\\' ∧ char ≠ '"' := by
  unfold windowsExtraArgs
  intro char member
  rcases mem_append.mp member with tls | quic
  · exact harmless_optionArg (by decide) plain.chars _ char tls
  · exact harmless_optionArg (by decide) plain.chars _ char quic

theorem argv_taskCommand (path : '"' ∉ spec.remotePath)
    (token : ∀ token, spec.remoteToken = some token → Windows.Tame 0 token) : Windows.argv (spec.taskCommand display) =
      spec.remotePath :: daemonWords display spec (optionWords "--token" spec.remoteToken ++
        (optionWords "--tls-transport" (spec.remoteTlsTransport.map display) ++
          optionWords "--quic-transport" (spec.remoteQuicTransport.map display))) := by
  have letters : plainChars.all reader.isPlain = true := by decide
  have args := reads_daemonArgs letters plain spec
    (reads_optional letters (by decide : IsWord "--token".toList)
      (fun value given => takes_windowsCmdQuote (token value given) _)
      (reads_transports letters plain spec reader.nil))
  simp only [Option.map_id, id_eq, append_nil] at args
  obtain ⟨rest, spaced⟩ := taskArgs_eq display spec
  have read : reader.Reads (taskArgs display spec) _ := args
  rw [spaced] at read
  rw [taskCommand_eq, spaced, escape_of_not_mem path, argv_quoted path read]

theorem task_given (path : '"' ∉ spec.remotePath ∧ Windows.Tame 0 spec.remotePath)
    (token : ∀ token, spec.remoteToken = some token → '"' ∉ token ∧ Windows.Tame 0 token) :
    Windows.arguments (windowsCmdQuote (spec.taskCommand display)) = [spec.taskCommand display] := by
  have extra : Windows.Tame 0 (spec.windowsExtraArgs display) := by
    rw [← append_nil (spec.windowsExtraArgs display)]
    exact tame_plain (harmless_windowsExtraArgs plain spec) [] rfl
  have tame : Windows.Tame 0 (taskArgs display spec) := by
    apply tame_plain (harmless_daemonArgs plain spec)
    cases given : spec.remoteToken with
    | none => exact extra
    | some value =>
      obtain ⟨absent, tame⟩ := token value given
      rw [Option.map_some, tokenOption_eq, escape_of_not_mem absent]
      apply tame_plain harmless_tokenOption
      exact ⟨rfl, tame_quoted absent tame extra⟩
  have whole : Windows.Tame 0 (spec.taskCommand display) := by
    rw [taskCommand_eq, escape_of_not_mem path.1]
    exact ⟨rfl, tame_quoted path.1 path.2 tame⟩
  rw [arguments_windowsCmdQuote, scan_tame whole [] (by decide), scan_nil]
  simp

theorem nearlyTame_of_task
    (given : Windows.arguments (windowsCmdQuote (spec.taskCommand display)) = [spec.taskCommand display]) :
    ('"' ∉ spec.remotePath ∧ Windows.Tame 0 spec.remotePath) ∧
      ∀ token, spec.remoteToken = some token →
        '"' ∉ token ∧ (Windows.Tame 0 token ∨ spec.windowsExtraArgs display = []) := by
  rw [arguments_windowsCmdQuote] at given
  have tame := nearlyTame_of_scan _ given
  obtain ⟨rest, spaced⟩ := taskArgs_eq display spec
  rw [taskCommand_eq, spaced] at tame
  rcases tame with ⟨_, tame⟩ | ⟨impossible, _⟩
  · obtain ⟨pathAbsent, later⟩ := tame_of_nearlyTame tame
    obtain ⟨pathTame, tame⟩ := later (cons_ne_nil _ _)
    refine ⟨⟨pathAbsent, pathTame⟩, ?_⟩
    intro token found
    rw [← spaced, taskArgs, found, Option.map_some] at tame
    have tame := nearlyTame_plain (harmless_daemonArgs plain spec) tame
    rw [tokenOption_eq] at tame
    rcases nearlyTame_plain harmless_tokenOption tame with ⟨_, tame⟩ | ⟨impossible, _⟩
    · obtain ⟨absent, later⟩ := tame_of_nearlyTame tame
      refine ⟨absent, ?_⟩
      by_cases last : spec.windowsExtraArgs display = []
      · exact .inr last
      · exact .inl (later last).1
    · cases impossible
  · cases impossible

theorem argv_lastToken (path : '"' ∉ spec.remotePath) {token : Text} (found : spec.remoteToken = some token)
    (last : spec.windowsExtraArgs display = []) : Windows.argv (spec.taskCommand display) =
      spec.remotePath ::
        daemonWords display spec ("--token".toList :: Windows.arguments (windowsCmdQuote token)) := by
  have letters : plainChars.all reader.isPlain = true := by decide
  have option := reads_daemonArgs letters plain spec
    (reader.cons (takes_word letters (by decide : IsWord "--token".toList) _)
      (reads_arguments (windowsCmdQuote token)))
  have args : taskArgs display spec =
      spec.daemonArgs display ++ ' ' :: ("--token".toList ++ ' ' :: windowsCmdQuote token) := by
    rw [taskArgs, last, found, Option.map_some, optionArg_some, append_nil]
  obtain ⟨rest, spaced⟩ := taskArgs_eq display spec
  rw [← args, spaced] at option
  rw [taskCommand_eq, spaced, escape_of_not_mem path, argv_quoted path option]

theorem tame_of_schtasks (path : '"' ∉ spec.remotePath) {token : Text} (found : spec.remoteToken = some token)
    (last : spec.windowsExtraArgs display = []) (absent : '"' ∉ token)
    (runs : Windows.argv (spec.taskCommand display) = spec.requestedArgs display) : Windows.Tame 0 token := by
  obtain ⟨only, single⟩ := scan_one absent 0 []
  have read : scan 0 true (some []) (escape token ++ ['"']) = [token] := by
    rw [argv_lastToken plain path found last, spec.requestedArgs_eq, found] at runs
    simp only [List.cons.injEq, true_and, daemonWords_inj, optionWords, cons_append] at runs
    rw [arguments_windowsCmdQuote, Windows.escape_of_not_mem absent, single] at runs
    rw [Windows.escape_of_not_mem absent, single, (List.cons.inj runs).1]
  exact Windows.tame_of_not_mem absent (Windows.nearlyTame_of_scan token read)

end

/-! The property list. -/

theorem xmlEscape_append (front rest : Text) : xmlEscape (front ++ rest) = xmlEscape front ++ xmlEscape rest := by
  simp only [xmlEscape, Text.replaceChar_append]

theorem xmlEscape_eq (value : Text) : xmlEscape value = value.flatMap Xml.escapeChar := by
  induction value with
  | nil => rfl
  | cons char rest ih =>
    rw [← singleton_append, xmlEscape_append, ih, singleton_append, flatMap_cons]
    congr 1
    unfold Xml.escapeChar
    split
    next same =>
      subst same
      decide
    next notAmp =>
      split
      next same =>
        subst same
        decide
      next notLt =>
        split
        next same =>
          subst same
          decide
        next notGt =>
          split
          next same =>
            subst same
            decide
          next notQuote => simp [xmlEscape, Text.replaceChar, notAmp, notLt, notGt, notQuote]

def plistWords (args : Text) : List Text := args.words.map (·.trimMatches '\'')

theorem argsToPlist_eq (args : Text) : argsToPlist args = Xml.elements (plistWords args) := by
  simp only [argsToPlist, Xml.elements, plistWords, xmlEscape_eq, flatMap_map]

theorem escaped_plain (plain : ∀ char ∈ value, char ∈ plainChars) : value.flatMap Xml.escapeChar = value := by
  have every : plainChars.all (fun char => Xml.escapeChar char == [char]) = true := by decide
  induction value with
  | nil => rfl
  | cons char rest ih =>
    have same : Xml.escapeChar char = [char] := by
      simpa using all_eq_true.mp every char (plain char mem_cons_self)
    rw [flatMap_cons, same, ih fun other member => plain other (mem_cons_of_mem char member),
      singleton_append]

theorem count_shQuote (value : Text) : (shQuote value).count '\\' = value.count '\\' + value.count '\'' := by
  have inner : (Text.replaceChar '\'' "'\\''".toList value).count '\\' = value.count '\\' + value.count '\'' := by
    induction value with
    | nil => rfl
    | cons char rest ih =>
      by_cases quote : char = '\''
      · subst quote
        rw [Text.replaceChar_cons_self, count_append, ih, count_cons_self, count_cons_of_ne (by decide)]
        have one : ("'\\''".toList).count '\\' = 1 := by decide
        omega
      · rw [Text.replaceChar_cons_of_ne quote, count_cons, ih, count_cons, count_cons_of_ne quote]
        omega
  rw [shQuote, count_append, count_cons_of_ne (by decide), inner]
  rfl

theorem solid_shQuote (solid : ∀ char ∈ value, Text.isWhitespace char = false) :
    ∀ char ∈ shQuote value, Text.isWhitespace char = false := by
  have escape : ("'\\''".toList).all (!Text.isWhitespace ·) = true := by decide
  intro char member
  simp only [shQuote, Text.replaceChar, cons_append, mem_cons, mem_append, mem_flatMap,
    not_mem_nil, or_false] at member
  rcases member with rfl | ⟨original, inside, written⟩ | rfl
  · decide
  · split at written
    next => simpa using all_eq_true.mp escape char written
    next => exact mem_singleton.mp written ▸ solid original inside
  · decide

theorem solid_of_plistWords (one : plistWords (shQuote value) = [value]) :
    ∀ char ∈ value, Text.isWhitespace char = false := by
  intro char member
  cases blank : Text.isWhitespace char with
  | false => rfl
  | true =>
    obtain ⟨front, rest, rfl⟩ := append_of_mem member
    have notQuote : char ≠ '\'' := by
      rintro rfl
      cases blank
    have split : shQuote (front ++ char :: rest) =
        ('\'' :: Text.replaceChar '\'' "'\\''".toList front) ++
          char :: (Text.replaceChar '\'' "'\\''".toList rest ++ ['\'']) := by
      simp only [shQuote, Text.replaceChar_append, Text.replaceChar_cons_of_ne notQuote, cons_append,
        append_assoc]
    have lengths := congrArg List.length one
    rw [plistWords, length_map, split, Text.words_append blank, length_append, length_singleton] at lengths
    have before := length_pos_iff.mpr
      (Text.words_ne_nil (mem_cons_self (a := '\'') (l := Text.replaceChar '\'' "'\\''".toList front)) (by decide))
    have after : 0 < (Text.words (Text.replaceChar '\'' "'\\''".toList rest ++ ['\''])).length :=
      length_pos_iff.mpr (Text.words_ne_nil (mem_append_right _ (mem_singleton_self '\'')) (by decide))
    omega

theorem plistWords_shQuote_iff (value : Text) :
    plistWords (shQuote value) = [value] ↔ (∀ char ∈ value, Text.isWhitespace char = false) ∧ '\'' ∉ value := by
  constructor
  · intro one
    have solid := solid_of_plistWords one
    refine ⟨solid, ?_⟩
    rw [plistWords, Text.words_solid (solid_shQuote solid) (by simp [shQuote]), map_singleton] at one
    have counts := congrArg (List.count '\\') (head_eq_of_cons_eq one)
    rw [Text.count_trimMatches (by decide), count_shQuote] at counts
    exact count_eq_zero.mp (by omega)
  · rintro ⟨solid, absent⟩
    rw [plistWords, Text.words_solid (solid_shQuote solid) (by simp [shQuote]), map_singleton, shQuote,
      Text.replaceChar_of_not_mem absent, Text.trimMatches_quoted absent]

theorem plistWords_plain {word : Text} (plain : ∀ char ∈ word, char ∈ plainChars) (nonempty : word ≠ []) :
    plistWords word = [word] := by
  have every : plainChars.all (fun char => !Text.isWhitespace char && char != '\'') = true := by decide
  have simple : ∀ char ∈ word, Text.isWhitespace char = false ∧ char ≠ '\'' := by
    intro char member
    simpa using all_eq_true.mp every char (plain char member)
  rw [plistWords, Text.words_solid (fun char member => (simple char member).1) nonempty, map_singleton,
    Text.trimMatches_of_not_mem fun member => (simple _ member).2 rfl]

def Spaced (args : Text) : Prop := args = [] ∨ ∃ rest, args = ' ' :: rest

theorem spaced_optionArg (name : String) (value : Option Text) {rest : Text} (spaced : Spaced rest) :
    Spaced (optionArg name value ++ rest) := by
  cases value with
  | none => exact spaced
  | some value => exact .inr ⟨_, optionArg_some name value rest⟩

theorem plistWords_append (value : Text) {rest : Text} (spaced : Spaced rest) :
    plistWords (value ++ rest) = plistWords value ++ plistWords rest := by
  rcases spaced with rfl | ⟨more, rfl⟩
  · rw [append_nil]
    exact (append_nil _).symm
  · rw [plistWords, Text.words_append (by decide), map_append, plistWords, plistWords, Text.words_cons (by decide)]

theorem plistWords_option (named : IsWord name.toList) (value : Text) {rest : Text} (spaced : Spaced rest) :
    plistWords (optionArg name (some value) ++ rest) = name.toList :: (plistWords value ++ plistWords rest) := by
  have word : plistWords name.toList = [name.toList] := plistWords_plain named.plain named.1
  have first : plistWords (optionArg name (some value) ++ rest) =
      plistWords (name.toList ++ ' ' :: (value ++ rest)) := by
    rw [optionArg_some, plistWords, Text.words_cons (by decide), plistWords]
  have second : plistWords (' ' :: (value ++ rest)) = plistWords (value ++ rest) := by
    rw [plistWords, Text.words_cons (by decide), plistWords]
  rw [first, plistWords_append _ (.inr ⟨_, rfl⟩), word, second, plistWords_append value spaced, singleton_append]

section
variable {display : SocketAddr → Text} (plain : PlainDisplay display) {spec : RemotePeerServiceSpec}
include plain

theorem plistWords_address (named : IsWord name.toList) (address : Option SocketAddr) {rest : Text}
    (spaced : Spaced rest) : plistWords (optionArg name (address.map display) ++ rest) =
      optionWords name (address.map display) ++ plistWords rest := by
  cases address with
  | none => rfl
  | some address =>
    rw [Option.map_some, plistWords_option named _ spaced,
      plistWords_plain (plain.chars address) (plain.nonempty address)]
    rfl

theorem plistWords_extraArgs (files : spec.NoFiles) : plistWords (spec.nodeDaemonExtraArgs display) =
      optionWords "--tls-transport" (spec.remoteTlsTransport.map display) ++
        optionWords "--quic-transport" (spec.remoteQuicTransport.map display) := by
  obtain ⟨cert, key, clientCa⟩ := files
  have extra : spec.nodeDaemonExtraArgs display =
      optionArg "--tls-transport" (spec.remoteTlsTransport.map display) ++
        (optionArg "--quic-transport" (spec.remoteQuicTransport.map display) ++ []) := by
    unfold nodeDaemonExtraArgs
    rw [cert, key, clientCa]
    simp only [Option.map_none, optionArg, append_nil]
  rw [extra, plistWords_address plain (by decide) _ (spaced_optionArg _ _ (.inl rfl)),
    plistWords_address plain (by decide) _ (.inl rfl)]
  exact congrArg _ (append_nil _)

theorem strings_programArguments (spec : RemotePeerServiceSpec) :
    Xml.strings (spec.programArguments display).length (spec.programArguments display) =
      some (spec.remotePath :: daemonWords display spec
        (plistWords (tokenArg spec.remoteToken) ++ plistWords (spec.nodeDaemonExtraArgs display))) := by
  have text : spec.programArguments display = Xml.elements (spec.remotePath :: daemonWords display spec
      (plistWords (tokenArg spec.remoteToken) ++ plistWords (spec.nodeDaemonExtraArgs display))) := by
    have constant : ∀ {word : Text}, IsWord word → word.flatMap Xml.escapeChar = word :=
      fun constant => escaped_plain constant.plain
    have url := escaped_plain (plain_url plain spec.remoteControl)
    unfold programArguments daemonWords optionWords
    simp only [Xml.elements_cons, Xml.elements_append, cons_append, nil_append, append_assoc]
    rw [constant (by decide : IsWord "node".toList), constant (by decide : IsWord "daemon".toList),
      constant (by decide : IsWord "--transport".toList), constant (by decide : IsWord "--control".toList),
      url, escaped_plain (plain.chars spec.remoteTcp), xmlEscape_eq, argsToPlist_eq, argsToPlist_eq]
  rw [text, Xml.strings_elements]

theorem launchd_iff (files : spec.NoFiles) :
    Xml.strings (spec.programArguments display).length (spec.programArguments display) =
        some (spec.requestedArgs display) ↔
      ∀ token, spec.remoteToken = some token → (∀ char ∈ token, Text.isWhitespace char = false) ∧ '\'' ∉ token := by
  rw [strings_programArguments plain, plistWords_extraArgs plain files, files.requestedArgs]
  simp only [Option.some.injEq, cons.injEq, true_and, daemonWords_inj, append_cancel_right_eq]
  cases spec.remoteToken with
  | none =>
    have nothing : plistWords (tokenArg none) = optionWords "--token" none := rfl
    simp [nothing]
  | some token =>
    have option : plistWords (tokenArg (some token)) = "--token".toList :: plistWords (shQuote token) := by
      have split := plistWords_option (by decide : IsWord "--token".toList) (shQuote token) (.inl rfl)
      rw [append_nil] at split
      exact split.trans (congrArg _ (append_nil _))
    rw [option, optionWords, cons.injEq, plistWords_shQuote_iff]
    constructor
    · rintro ⟨_, solid⟩ _ same
      cases same
      exact solid
    · intro solid
      exact ⟨rfl, solid token rfl⟩

theorem RemotePeerServiceSpec.Renderable.runs (renderable : spec.Renderable) : spec.RunsRequested display where
  renders := spec.renders display
  launchd := (launchd_iff plain renderable.files).mpr fun token found =>
    ⟨(renderable.token token found).1, (renderable.token token found).2.1⟩
  nohup := nohup_runs plain spec
  task := task_given plain ⟨renderable.path.1, (tame_iff renderable.path.1).mpr renderable.path.2⟩
    fun token found =>
      have quotable := (renderable.token token found).2.2
      ⟨quotable.1, (tame_iff quotable.1).mpr quotable.2⟩
  schtasks := by
    have read := argv_taskCommand plain renderable.path.1 fun token found =>
      have quotable := (renderable.token token found).2.2
      (tame_iff quotable.1).mpr quotable.2
    exact read.trans (NoFiles.requestedArgs renderable.files display).symm

theorem RemotePeerServiceSpec.RunsRequested.renderable (runs : spec.RunsRequested display) : spec.Renderable := by
  obtain ⟨⟨pathAbsent, pathTame⟩, tokens⟩ := nearlyTame_of_task plain runs.task
  have tame : ∀ token, spec.remoteToken = some token → '"' ∉ token ∧ Windows.Tame 0 token := by
    intro token found
    obtain ⟨absent, tame | last⟩ := tokens token found
    · exact ⟨absent, tame⟩
    · exact ⟨absent, tame_of_schtasks plain pathAbsent found last absent runs.schtasks⟩
  have files : spec.NoFiles := by
    have read := (argv_taskCommand plain pathAbsent fun token found => (tame token found).2).symm.trans runs.schtasks
    rw [requestedArgs_eq] at read
    simp only [List.cons.injEq, true_and, daemonWords_inj, append_cancel_left_eq] at read
    have nothing := self_eq_append_right.mp read
    rw [append_eq_nil_iff, append_eq_nil_iff] at nothing
    exact ⟨optionWords_eq_nil nothing.1, optionWords_eq_nil nothing.2.1, optionWords_eq_nil nothing.2.2⟩
  have solid := (launchd_iff plain files).mp runs.launchd
  refine ⟨⟨pathAbsent, (Windows.tame_iff pathAbsent).mp pathTame⟩, ?_, files⟩
  intro token found
  obtain ⟨absent, isTame⟩ := tame token found
  exact ⟨(solid token found).1, (solid token found).2, absent, (Windows.tame_iff absent).mp isTame⟩

end

/-- All three providers run what was asked for exactly where it has no TLS files, a path and a token
without double quotes and last backslashes, and a token without white space and single quotes. -/
theorem RemotePeerServiceSpec.runsRequested_iff {display : SocketAddr → Text} (plain : PlainDisplay display)
    (spec : RemotePeerServiceSpec) : spec.RunsRequested display ↔ spec.Renderable :=
  ⟨fun runs => runs.renderable plain, fun renderable => renderable.runs plain⟩

namespace RemotePeerServiceSpec

def displayLocal (address : SocketAddr) : Text :=
  if address.port = 19080 then "127.0.0.1:19080".toList else "127.0.0.1:19081".toList

theorem displayLocal_plain : PlainDisplay displayLocal where
  nonempty := by
    intro address
    unfold displayLocal
    split <;> decide
  chars := by
    have transport : IsWord "127.0.0.1:19080".toList := by decide
    have control : IsWord "127.0.0.1:19081".toList := by decide
    intro address char member
    unfold displayLocal at member
    split at member
    next => exact transport.plain char member
    next => exact control.plain char member

def helperSpec (token : Text) (cert : Option Text) : RemotePeerServiceSpec where
  remotePath := "/opt/my tools/ssh_proxy".toList
  remoteToken := some token
  remoteTcp := loopback 19080
  remoteControl := loopback 19081
  remoteTlsTransport := none
  remoteQuicTransport := none
  remoteTlsCert := cert
  remoteTlsKey := none
  remoteTlsClientCa := none

theorem secret_runs : PlainDisplay displayLocal ∧ (helperSpec "secret".toList none).RunsRequested displayLocal := by
  refine ⟨displayLocal_plain, (runsRequested_iff displayLocal_plain _).mpr ⟨⟨by decide, by decide⟩, ?_, rfl, rfl, rfl⟩⟩
  intro token found
  cases found
  have solid : "secret".toList.all (!Text.isWhitespace ·) = true := by decide
  refine ⟨?_, by decide, by decide, by decide⟩
  intro char member
  simpa using all_eq_true.mp solid char member

/-- A token of two words becomes two arguments, and the certificate is left out of the task. -/
theorem two_word_token :
    let spec := helperSpec "my secret".toList (some "/etc/tls.pem".toList)
    Xml.strings (spec.programArguments displayLocal).length (spec.programArguments displayLocal) =
        some (["/opt/my tools/ssh_proxy", "node", "daemon", "--transport", "127.0.0.1:19080", "--control",
          "tcp://127.0.0.1:19081", "--token", "my", "secret", "--tls-cert", "/etc/tls.pem"].map String.toList) ∧
      Windows.argv (spec.taskCommand displayLocal) =
        ["/opt/my tools/ssh_proxy", "node", "daemon", "--transport", "127.0.0.1:19080", "--control",
          "tcp://127.0.0.1:19081", "--token", "my secret"].map String.toList ∧
      spec.requestedArgs displayLocal =
        ["/opt/my tools/ssh_proxy", "node", "daemon", "--transport", "127.0.0.1:19080", "--control",
          "tcp://127.0.0.1:19081", "--token", "my secret", "--tls-cert", "/etc/tls.pem"].map String.toList ∧
      ¬ spec.RunsRequested displayLocal := by
  intro spec
  have task : Windows.argv (spec.taskCommand displayLocal) ≠ spec.requestedArgs displayLocal := by decide +kernel
  refine ⟨by decide +kernel, by decide +kernel, by decide +kernel, ?_⟩
  intro runs
  exact task runs.schtasks

end RemotePeerServiceSpec
end SshProxy
