import SshProxy.Library.Quoting

/-! The Windows command line, as programs written in C and Rust read it back into arguments, and
which texts survive being put in quotes with a backslash before each quote. -/

namespace SshProxy.Library.Windows
open List

def isBlank (char : Char) : Bool := char == ' ' || char == '\t'

/-- The argument that is being read, with the backslashes before it goes on. -/
def flush (pending : Nat) (word : Option Text) : Option Text :=
  if pending = 0 then word else some (word.getD [] ++ replicate pending '\\')

/-- The arguments after the name of the program. `pending` counts the backslashes just read: before
a quote they are halved and an odd one escapes it. Within quotes two quotes stand for one. -/
def scan : Nat → Bool → Option Text → Text → List Text
  | pending, _, word, [] => (flush pending word).toList
  | pending, quoted, word, '\\' :: rest => scan (pending + 1) quoted word rest
  | pending, quoted, word, '"' :: rest =>
    let word := word.getD [] ++ List.replicate (pending / 2) '\\'
    if pending % 2 = 1 then scan 0 quoted (some (word ++ ['"'])) rest
    else if quoted then
      match rest with
      | '"' :: rest => scan 0 true (some (word ++ ['"'])) rest
      | rest => scan 0 false (some word) rest
    else scan 0 true (some word) rest
  | pending, quoted, word, char :: rest =>
    if isBlank char ∧ quoted = false then (flush pending word).toList ++ scan 0 false none rest
    else scan 0 quoted (some ((flush pending word).getD [] ++ [char])) rest

def arguments (text : Text) : List Text := scan 0 false none text

/-- The name of the program, where quotes count and backslashes do not, and what comes after it. -/
def program : Bool → Text → Text × Text
  | _, [] => ([], [])
  | quoted, '"' :: rest => program (!quoted) rest
  | quoted, char :: rest =>
    if isBlank char ∧ quoted = false then ([], rest)
    else ((program quoted rest).1.cons char, (program quoted rest).2)

def argv (text : Text) : List Text := (program false text).1 :: arguments (program false text).2

def escape (text : Text) : Text := Text.replaceChar '"' ['\\', '"'] text

/-- Backslashes that stand for themselves within quotes: none before a quote and none at the end,
where `pending` of them come first. -/
def Tame : Nat → Text → Prop
  | pending, [] => pending = 0
  | pending, '\\' :: rest => Tame (pending + 1) rest
  | pending, '"' :: rest => pending = 0 ∧ Tame 0 rest
  | _, _ :: rest => Tame 0 rest

@[simp] theorem escape_nil : escape [] = [] := rfl

theorem escape_quote (rest : Text) : escape ('"' :: rest) = '\\' :: '"' :: escape rest :=
  Text.replaceChar_cons_self '"' ['\\', '"'] rest

variable {char : Char}

theorem escape_cons (different : char ≠ '"') (rest : Text) : escape (char :: rest) = char :: escape rest :=
  Text.replaceChar_cons_of_ne different _ rest

variable {text : Text}

theorem escape_of_not_mem (absent : '"' ∉ text) : escape text = text :=
  Text.replaceChar_of_not_mem absent _

theorem getD_flush (pending : Nat) (word : Text) :
    (flush pending (some word)).getD [] = word ++ replicate pending '\\' := by
  unfold flush
  split
  next none => rw [none, replicate_zero, append_nil, Option.getD_some]
  next => rfl

theorem scan_char (noEscape : char ≠ '\\') (noQuote : char ≠ '"') {quoted : Bool}
    (inside : quoted = true ∨ isBlank char = false) (pending : Nat) (word : Option Text) (rest : Text) :
    scan pending quoted word (char :: rest) = scan 0 quoted (some ((flush pending word).getD [] ++ [char])) rest := by
  rw [scan]
  · rw [if_neg]
    rintro ⟨blank, bare⟩
    rcases inside with isQuoted | solid
    · rw [isQuoted] at bare
      cases bare
    · rw [solid] at blank
      cases blank
  · exact noEscape
  · exact noQuote

variable {pending : Nat}

theorem scan_quote_odd (odd : pending % 2 = 1) (quoted : Bool) (word rest : Text) :
    scan pending quoted (some word) ('"' :: rest) =
      scan 0 quoted (some (word ++ replicate (pending / 2) '\\' ++ ['"'])) rest := by
  rw [scan.eq_def]
  simp only [odd, if_true, Option.getD_some]

theorem scan_quote_opens (even : pending % 2 = 0) (word : Option Text) (rest : Text) :
    scan pending false word ('"' :: rest) =
      scan 0 true (some (word.getD [] ++ replicate (pending / 2) '\\')) rest := by
  rw [scan.eq_def]
  simp only [even, Nat.zero_ne_one, Bool.false_eq_true, if_false]

variable {rest : Text}

theorem scan_quote_closes (even : pending % 2 = 0) (word : Text) (single : rest.head? ≠ some '"') :
    scan pending true (some word) ('"' :: rest) =
      scan 0 false (some (word ++ replicate (pending / 2) '\\')) rest := by
  rw [scan.eq_4]
  · simp only [even, Nat.zero_ne_one, if_false, if_true, Option.getD_some]
  · intro _ same
    exact single (by rw [same, head?_cons])

theorem scan_quote_twice (even : pending % 2 = 0) (word rest : Text) :
    scan pending true (some word) ('"' :: '"' :: rest) =
      scan 0 true (some (word ++ replicate (pending / 2) '\\' ++ ['"'])) rest := by
  rw [scan.eq_3]
  simp only [even, Nat.zero_ne_one, if_false, if_true, Option.getD_some]

theorem scan_nil (pending : Nat) (quoted : Bool) (word : Text) :
    scan pending quoted (some word) [] = [word ++ List.replicate pending '\\'] := by
  rw [scan, ← getD_flush]
  unfold flush
  split <;> rfl

theorem scan_blank (blank : isBlank char = true) (pending : Nat) (word rest : Text) :
    scan pending false (some word) (char :: rest) =
      (word ++ List.replicate pending '\\') :: scan 0 false none rest := by
  have ended := scan_nil pending false word
  rw [scan] at ended
  rw [scan]
  · rw [if_pos ⟨blank, rfl⟩, ended, singleton_append]
  · intro same
    rw [same] at blank
    cases blank
  · intro same
    rw [same] at blank
    cases blank

theorem tame_char (noEscape : char ≠ '\\') (noQuote : char ≠ '"') (pending : Nat) (rest : Text) :
    Tame pending (char :: rest) ↔ Tame 0 rest := by
  rw [Tame]
  · exact noEscape
  · exact noQuote

theorem byChar {motive : Text → Prop} (nil : motive []) (backslash : ∀ rest, motive rest → motive ('\\' :: rest))
    (quote : ∀ rest, motive rest → motive ('"' :: rest))
    (other : ∀ char rest, char ≠ '\\' → char ≠ '"' → motive rest → motive (char :: rest)) (text : Text) :
    motive text := by
  induction text with
  | nil => exact nil
  | cons char rest ih =>
    by_cases isBackslash : char = '\\'
    · exact isBackslash ▸ backslash rest ih
    · by_cases isQuote : char = '"'
      · exact isQuote ▸ quote rest ih
      · exact other char rest isBackslash isQuote ih

theorem scan_tame (tame : Tame pending text) (word : Text) (single : rest.head? ≠ some '"') :
    scan pending true (some word) (escape text ++ '"' :: rest) =
      scan 0 false (some (word ++ List.replicate pending '\\' ++ text)) rest := by
  induction text using byChar generalizing pending word with
  | nil =>
    cases tame
    simpa using scan_quote_closes (Nat.zero_mod 2) word single
  | backslash text ih =>
    rw [escape_cons (by decide), cons_append, scan, ih tame, replicate_succ', append_assoc,
      append_assoc, append_assoc]
    rfl
  | quote text ih =>
    obtain ⟨rfl, tame⟩ := tame
    rw [escape_quote, cons_append, cons_append, scan, scan_quote_odd (by decide), ih tame]
    simp
  | other char text noEscape noQuote ih =>
    rw [escape_cons noQuote, cons_append, scan_char noEscape noQuote (.inl rfl), getD_flush,
      ih ((tame_char noEscape noQuote pending text).mp tame)]
    simp

/-- The same, but the very last character may be a quote after one backslash. -/
def NearlyTame : Nat → Text → Prop
  | pending, [] => pending = 0
  | pending, '\\' :: rest => NearlyTame (pending + 1) rest
  | pending, '"' :: rest => pending = 0 ∧ NearlyTame 0 rest ∨ pending = 1 ∧ rest = []
  | _, _ :: rest => NearlyTame 0 rest

theorem nearlyTame_char (noEscape : char ≠ '\\') (noQuote : char ≠ '"') (pending : Nat) (rest : Text) :
    NearlyTame pending (char :: rest) ↔ NearlyTame 0 rest := by
  rw [NearlyTame]
  · exact noEscape
  · exact noQuote

theorem head_escape (nonempty : text ≠ []) (rest : Text) : (escape text ++ rest).head? ≠ some '"' := by
  cases text with
  | nil => exact absurd rfl nonempty
  | cons char text =>
    by_cases quote : char = '"'
    · subst quote
      rw [escape_quote]
      exact fun same => absurd (Option.some.inj same) (by decide)
    · rw [escape_cons quote]
      exact fun same => absurd (Option.some.inj same) quote

/-- A quote that is not escaped, with an escaped text after it: with the closing quote of that text
it makes one, or it is lost. -/
theorem scan_quote_lost (even : pending % 2 = 0) (quoted : Bool) (word text : Text) :
    (text = [] ∧ scan pending quoted (some word) ('"' :: (escape text ++ ['"'])) =
      [word ++ List.replicate (pending / 2) '\\' ++ ['"']]) ∨
    ∃ next, scan pending quoted (some word) ('"' :: (escape text ++ ['"'])) =
      scan 0 next (some (word ++ replicate (pending / 2) '\\')) (escape text ++ ['"']) := by
  cases quoted with
  | false => exact .inr ⟨true, scan_quote_opens even (some word) _⟩
  | true =>
    by_cases last : text = []
    · subst last
      refine .inl ⟨rfl, ?_⟩
      rw [escape_nil, nil_append, scan_quote_twice even, scan_nil, replicate_zero, append_nil]
    · exact .inr ⟨false, scan_quote_closes even word (head_escape last _)⟩

/-- Reading an escaped text back makes it no longer than it was, and within quotes only what is nearly
tame is read back as it was. -/
theorem scan_escaped (text : Text) (pending : Nat) (quoted : Bool) (word : Text) :
    ∀ first later, scan pending quoted (some word) (escape text ++ ['"']) = first :: later →
      first.length ≤ word.length + pending + text.length ∧
        (quoted = true → first = word ++ replicate pending '\\' ++ text → NearlyTame pending text) := by
  induction text using byChar generalizing pending quoted word with
  | nil =>
    intro first later read
    rw [escape_nil, nil_append] at read
    rcases Nat.mod_two_eq_zero_or_one pending with even | odd
    · have halved : first = word ++ replicate (pending / 2) '\\' := by
        cases quoted with
        | true =>
          rw [scan_quote_closes even word (by decide), scan_nil] at read
          cases read
          exact append_nil _
        | false =>
          rw [scan_quote_opens even, scan_nil, Option.getD_some] at read
          cases read
          exact append_nil _
      subst halved
      simp only [length_append, length_replicate, length_nil]
      refine ⟨by omega, fun _ same => ?_⟩
      have lengths := congrArg length same
      simp only [length_append, length_replicate, length_nil] at lengths
      exact (by omega : pending = 0)
    · rw [scan_quote_odd odd, scan_nil] at read
      cases read
      simp only [length_append, length_replicate, length_cons, length_nil]
      refine ⟨by omega, fun _ same => ?_⟩
      have lengths := congrArg length same
      simp only [length_append, length_replicate, length_cons, length_nil] at lengths
      have one : pending = 1 := by omega
      subst one
      simp at same
  | backslash text ih =>
    intro first later read
    rw [escape_cons (by decide), cons_append, scan] at read
    obtain ⟨bound, tame⟩ := ih _ _ _ _ _ read
    rw [length_cons]
    refine ⟨by omega, fun inside same => tame inside ?_⟩
    rw [same, replicate_succ']
    simp
  | quote text ih =>
    intro first later read
    rw [escape_quote, cons_append, cons_append, scan] at read
    rcases Nat.mod_two_eq_zero_or_one (pending + 1) with even | odd
    · rcases scan_quote_lost even quoted word text with ⟨rfl, kept⟩ | ⟨next, lost⟩
      · rw [kept] at read
        cases read
        simp only [length_append, length_replicate, length_cons, length_nil]
        refine ⟨by omega, fun _ same => ?_⟩
        have lengths := congrArg length same
        simp only [length_append, length_replicate, length_cons, length_nil] at lengths
        exact .inr ⟨by omega, rfl⟩
      · rw [lost] at read
        obtain ⟨bound, -⟩ := ih _ _ _ _ _ read
        simp only [length_append, length_replicate, length_cons] at bound ⊢
        refine ⟨by omega, fun _ same => ?_⟩
        have lengths := congrArg length same
        simp only [length_append, length_replicate, length_cons] at lengths
        omega
    · rw [scan_quote_odd odd] at read
      obtain ⟨bound, tame⟩ := ih _ _ _ _ _ read
      simp only [length_append, length_replicate, length_cons, length_nil] at bound ⊢
      refine ⟨by omega, fun inside same => ?_⟩
      have none : pending = 0 := by
        have lengths := congrArg length same
        simp only [length_append, length_replicate, length_cons] at lengths
        omega
      subst none
      exact .inl ⟨rfl, tame inside (by simpa using same)⟩
  | other char text noEscape noQuote ih =>
    intro first later read
    rw [escape_cons noQuote, cons_append] at read
    by_cases blank : isBlank char = true ∧ quoted = false
    · obtain ⟨blank, rfl⟩ := blank
      rw [scan_blank blank] at read
      cases read
      exact ⟨by simp, nofun⟩
    · have inside : quoted = true ∨ isBlank char = false := by
        cases quoted with
        | true => exact .inl rfl
        | false => exact .inr (Bool.eq_false_iff.mpr fun isBlank => blank ⟨isBlank, rfl⟩)
      rw [scan_char noEscape noQuote inside, getD_flush] at read
      obtain ⟨bound, tame⟩ := ih _ _ _ _ _ read
      rw [nearlyTame_char noEscape noQuote]
      simp only [length_append, length_replicate, length_cons, length_nil] at bound ⊢
      refine ⟨by omega, fun inside same => tame inside ?_⟩
      rw [same]
      simp

theorem nearlyTame_of_scan (text : Text) (read : scan 0 true (some []) (escape text ++ ['"']) = [text]) :
    NearlyTame 0 text := (scan_escaped text 0 true [] text [] read).2 rfl rfl

theorem scan_one (absent : '"' ∉ text) (pending : Nat) (word : Text) :
    ∃ only, scan pending true (some word) (text ++ ['"']) = [only] := by
  induction text using byChar generalizing pending word with
  | nil =>
    rcases Nat.mod_two_eq_zero_or_one pending with even | odd
    · exact ⟨_, (scan_quote_closes even word (by decide)).trans (scan_nil 0 false _)⟩
    · exact ⟨_, (scan_quote_odd odd true word []).trans (scan_nil 0 true _)⟩
  | backslash text ih => exact ih (not_mem_of_not_mem_cons absent) (pending + 1) word
  | quote => exact absurd mem_cons_self absent
  | other char text noEscape noQuote ih =>
    rw [cons_append, scan_char noEscape noQuote (.inl rfl)]
    exact ih (not_mem_of_not_mem_cons absent) 0 _

def isPlain (char : Char) : Bool := !isBlank char && char != '\\' && char != '"'

theorem isPlain_iff : isPlain char = true ↔ isBlank char = false ∧ char ≠ '\\' ∧ char ≠ '"' := by
  simp [isPlain, and_assoc]

theorem scan_plain (plain : ∀ char ∈ text, isPlain char = true) (word rest : Text) :
    scan 0 false (some word) (text ++ rest) = scan 0 false (some (word ++ text)) rest := by
  induction text generalizing word with
  | nil => rw [nil_append, append_nil]
  | cons char text ih =>
    obtain ⟨solid, noEscape, noQuote⟩ := isPlain_iff.mp (plain char mem_cons_self)
    rw [cons_append, scan_char noEscape noQuote (.inr solid), getD_flush,
      ih fun other member => plain other (mem_cons_of_mem char member)]
    simp

theorem scan_plain_first (plain : ∀ char ∈ text, isPlain char = true) (nonempty : text ≠ []) (rest : Text) :
    scan 0 false none (text ++ rest) = scan 0 false (some text) rest := by
  cases text with
  | nil => exact absurd rfl nonempty
  | cons char text =>
    obtain ⟨solid, noEscape, noQuote⟩ := isPlain_iff.mp (plain char mem_cons_self)
    rw [cons_append, scan_char noEscape noQuote (.inr solid),
      scan_plain fun other member => plain other (mem_cons_of_mem char member)]
    rfl

theorem scan_space (word rest : Text) : scan 0 false (some word) (' ' :: rest) = word :: scan 0 false none rest := by
  rw [scan_blank (by decide), replicate_zero, append_nil]

theorem scan_quoted (tame : Tame 0 text) (single : rest.head? ≠ some '"') :
    scan 0 false none ('"' :: (escape text ++ '"' :: rest)) = scan 0 false (some text) rest := by
  rw [scan_quote_opens (Nat.zero_mod 2), scan_tame tame _ single]
  rfl

def reader : ArgReader where
  Takes written word rest := rest.head? ≠ some '"' → scan 0 false none (written ++ rest) = scan 0 false (some word) rest
  Reads args words := args.head? ≠ some '"' ∧ ∀ word, scan 0 false (some word) args = word :: words
  isPlain := isPlain
  plain := fun nonempty plain rest _ => scan_plain_first plain nonempty rest
  nil := ⟨nofun, fun word => by rw [scan_nil, replicate_zero, append_nil]⟩
  cons := by
    rintro written word rest words taken ⟨apart, read⟩
    refine ⟨fun same => absurd (Option.some.inj same) (by decide), ?_⟩
    intro previous
    rw [scan_space, taken apart, read]

theorem reads_arguments (args : Text) : reader.Reads (' ' :: args) (arguments args) :=
  ⟨fun same => absurd (Option.some.inj same) (by decide), fun word => scan_space word args⟩

theorem program_quoted (absent : '"' ∉ text) (rest : Text) :
    program false ('"' :: (text ++ '"' :: ' ' :: rest)) = (text, rest) := by
  have inside : program true (text ++ '"' :: ' ' :: rest) = (text, rest) := by
    induction text with
    | nil => rfl
    | cons char text ih =>
      rw [mem_cons, not_or] at absent
      rw [cons_append, program, if_neg fun both => Bool.noConfusion both.2, ih absent.2]
      exact Ne.symm absent.1
  rw [program]
  exact inside

theorem tame_plain {front : Text} (plain : ∀ char ∈ front, char ≠ '\\' ∧ char ≠ '"') (rest : Text) :
    Tame 0 rest → Tame 0 (front ++ rest) := by
  intro tame
  induction front with
  | nil => exact tame
  | cons char front ih =>
    obtain ⟨noEscape, noQuote⟩ := plain char mem_cons_self
    exact (tame_char noEscape noQuote 0 _).mpr (ih fun other member => plain other (mem_cons_of_mem char member))

theorem nearlyTame_plain {front : Text} (plain : ∀ char ∈ front, char ≠ '\\' ∧ char ≠ '"')
    (tame : NearlyTame 0 (front ++ rest)) : NearlyTame 0 rest := by
  induction front with
  | nil => exact tame
  | cons char front ih =>
    obtain ⟨noEscape, noQuote⟩ := plain char mem_cons_self
    exact ih (fun other member => plain other (mem_cons_of_mem char member))
      ((nearlyTame_char noEscape noQuote 0 _).mp tame)

theorem tame_quoted (absent : '"' ∉ text) (tame : Tame pending text) (later : Tame 0 rest) :
    Tame pending (text ++ '"' :: rest) := by
  induction text using byChar generalizing pending with
  | nil => exact ⟨tame, later⟩
  | backslash text ih => exact ih (not_mem_of_not_mem_cons absent) tame
  | quote => exact absurd mem_cons_self absent
  | other char text noEscape noQuote ih =>
    rw [tame_char noEscape noQuote] at tame
    exact (tame_char noEscape noQuote pending _).mpr (ih (not_mem_of_not_mem_cons absent) tame)

/-- Escaping hides no quote within another pair of quotes: neither a quote nor, with more to come, a
last backslash is allowed in a text that is quoted twice. -/
theorem tame_of_nearlyTame (tame : NearlyTame pending (escape text ++ '"' :: rest)) :
    '"' ∉ text ∧ (rest ≠ [] → Tame pending text ∧ NearlyTame 0 rest) := by
  induction text using byChar generalizing pending with
  | nil =>
    rcases tame with ⟨none, later⟩ | ⟨_, last⟩
    · exact ⟨not_mem_nil, fun _ => ⟨none, later⟩⟩
    · exact ⟨not_mem_nil, fun more => absurd last more⟩
  | backslash text ih =>
    rw [escape_cons (by decide)] at tame
    obtain ⟨absent, later⟩ := ih tame
    exact ⟨not_mem_cons_of_ne_of_not_mem (by decide) absent, later⟩
  | quote text ih =>
    rw [escape_quote] at tame
    rcases tame with ⟨none, _⟩ | ⟨_, last⟩
    · cases none
    · simp at last
  | other char text noEscape noQuote ih =>
    rw [escape_cons noQuote, cons_append, nearlyTame_char noEscape noQuote] at tame
    rw [tame_char noEscape noQuote]
    obtain ⟨absent, later⟩ := ih tame
    exact ⟨not_mem_cons_of_ne_of_not_mem (Ne.symm noQuote) absent, later⟩

theorem tame_of_not_mem (absent : '"' ∉ text) (tame : NearlyTame pending text) : Tame pending text := by
  induction text using byChar generalizing pending with
  | nil => exact tame
  | backslash text ih => exact ih (not_mem_of_not_mem_cons absent) tame
  | quote => exact absurd mem_cons_self absent
  | other char text noEscape noQuote ih =>
    rw [nearlyTame_char noEscape noQuote] at tame
    exact (tame_char noEscape noQuote pending text).mpr (ih (not_mem_of_not_mem_cons absent) tame)

theorem tame_iff_last (absent : '"' ∉ text) (pending : Nat) :
    Tame pending text ↔ (text = [] → pending = 0) ∧ text.getLast? ≠ some '\\' := by
  induction text using byChar generalizing pending with
  | nil => simp [Tame]
  | backslash text ih =>
    rw [Tame, ih (not_mem_of_not_mem_cons absent)]
    cases text <;> simp
  | quote => exact absurd mem_cons_self absent
  | other char text noEscape noQuote ih =>
    rw [tame_char noEscape noQuote, ih (not_mem_of_not_mem_cons absent)]
    cases text <;> simp [noEscape]

theorem tame_iff (absent : '"' ∉ text) : Tame 0 text ↔ text.getLast? ≠ some '\\' := by
  rw [tame_iff_last absent]
  exact and_iff_right fun _ => rfl

end SshProxy.Library.Windows
