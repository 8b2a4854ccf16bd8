import SshProxy.Library.Text

/-! Argument vectors as text: how a POSIX shell and a property list are read back into the words
they stand for. -/

namespace SshProxy.Library
open List

namespace Text

def replaceChar (char : Char) (into : Text) (text : Text) : Text := text.flatMap fun c => if c = char then into else [c]

@[simp] theorem replaceChar_nil (char : Char) (into : Text) : replaceChar char into [] = [] := rfl

theorem replaceChar_cons_self (char : Char) (into rest : Text) :
    replaceChar char into (char :: rest) = into ++ replaceChar char into rest := by
  simp [replaceChar]

theorem replaceChar_cons_of_ne {char other : Char} (different : other ≠ char) (into rest : Text) :
    replaceChar char into (other :: rest) = other :: replaceChar char into rest := by
  simp [replaceChar, different]

theorem replaceChar_append (char : Char) (into front rest : Text) :
    replaceChar char into (front ++ rest) = replaceChar char into front ++ replaceChar char into rest := flatMap_append

variable {char : Char} {text : Text}

theorem replaceChar_of_not_mem (absent : char ∉ text) (into : Text) : replaceChar char into text = text := by
  induction text with
  | nil => rfl
  | cons first rest ih =>
    rw [mem_cons, not_or] at absent
    rw [replaceChar_cons_of_ne (Ne.symm absent.1), ih absent.2]

theorem words_append {blank : Char} (isBlank : isWhitespace blank = true) (front rest : Text) :
    words (front ++ blank :: rest) = front.words ++ rest.words := by
  rw [words, splitOnP_append_cons _ _ isBlank, filter_append]
  rfl

theorem words_cons {blank : Char} (isBlank : isWhitespace blank = true) (rest : Text) :
    words (blank :: rest) = rest.words := words_append isBlank [] rest

theorem words_solid {word : Text} (solid : ∀ char ∈ word, isWhitespace char = false) (nonempty : word ≠ []) :
    word.words = [word] := by
  rw [words, splitOnP_eq_singleton solid, filter_cons_of_pos (by simpa using nonempty), filter_nil]

theorem words_ne_nil (member : char ∈ text) (solid : isWhitespace char = false) : text.words ≠ [] := by
  induction text with
  | nil => cases member
  | cons first rest ih =>
    cases blank : isWhitespace first with
    | true =>
      rw [words_cons blank]
      rcases mem_cons.mp member with rfl | later
      · rw [solid] at blank
        cases blank
      · exact ih later
    | false =>
      rw [words, splitOnP_cons_eq_if_modifyHead, if_neg (by rw [blank]; decide)]
      cases pieces : splitOnP isWhitespace rest with
      | nil => exact absurd pieces (splitOnP_ne_nil _ _)
      | cons piece others => simp

theorem dropWhile_of_not_mem (absent : char ∉ text) : text.dropWhile (· = char) = text := by
  cases text with
  | nil => rfl
  | cons first rest =>
    rw [mem_cons, not_or] at absent
    exact dropWhile_cons_of_neg (by simpa using Ne.symm absent.1)

theorem trimMatches_of_not_mem (absent : char ∉ text) : text.trimMatches char = text := by
  rw [trimMatches, dropWhile_of_not_mem absent, dropWhile_of_not_mem (by simpa using absent), reverse_reverse]

theorem trimMatches_quoted (absent : char ∉ text) : trimMatches char (char :: text ++ [char]) = text := by
  have front : (char :: text ++ [char]).dropWhile (· = char) = (text ++ [char]).dropWhile (· = char) := by
    rw [cons_append, dropWhile_cons_of_pos (by simp)]
  cases text with
  | nil => simp [trimMatches]
  | cons first rest =>
    have first_ne : char ≠ first := fun same => absent (same ▸ mem_cons_self)
    rw [trimMatches, front, cons_append, dropWhile_cons_of_neg (by simpa using Ne.symm first_ne),
      ← cons_append, reverse_append, reverse_singleton, singleton_append,
      dropWhile_cons_of_pos (by simp), dropWhile_of_not_mem fun member => absent (mem_reverse.mp member),
      reverse_reverse]

theorem count_dropWhile {char other : Char} (different : other ≠ char) (text : Text) :
    (text.dropWhile (· = char)).count other = text.count other := by
  induction text with
  | nil => rfl
  | cons first rest ih =>
    by_cases same : first = char
    · rw [dropWhile_cons_of_pos (by simpa using same), ih, count_cons_of_ne]
      exact same ▸ Ne.symm different
    · rw [dropWhile_cons_of_neg (by simpa using same)]

theorem count_trimMatches {char other : Char} (different : other ≠ char) (text : Text) :
    (text.trimMatches char).count other = text.count other := by
  rw [trimMatches, count_reverse, count_dropWhile different, count_reverse, count_dropWhile different]

end Text

/-- A way to read arguments that stand one after the other, each after a blank: what each of them
is taken for in front of the rest, and what all of them are read as. -/
structure ArgReader where
  Takes : Text → Text → Text → Prop
  Reads : Text → List Text → Prop
  isPlain : Char → Bool
  plain : ∀ {word : Text}, word ≠ [] → (∀ char ∈ word, isPlain char = true) → ∀ rest, Takes word word rest
  nil : Reads [] []
  cons : ∀ {written word rest : Text} {words : List Text}, Takes written word rest → Reads rest words →
    Reads (' ' :: (written ++ rest)) (word :: words)

/-! A shell reads a simple command. -/

namespace Shell

inductive Quote where
  | plain
  | single
  | double

def isSpecial (char : Char) : Bool := "$`;&|<>()".toList.contains char

def isBlank (char : Char) : Bool := char == ' ' || char == '\t' || char == '\n'

/-- The words of a command, with the one that is being read. Text with an expansion, an operator
or an open quote is refused. -/
def scan : Quote → Option Text → Text → Option (List Text)
  | .plain, word, [] => some word.toList
  | .plain, word, '\'' :: rest => scan .single (some (word.getD [])) rest
  | .plain, word, '"' :: rest => scan .double (some (word.getD [])) rest
  | .plain, word, '\\' :: char :: rest => scan .plain (some (word.getD [] ++ [char])) rest
  | .plain, word, char :: rest =>
    if isSpecial char then none
    else if isBlank char then (scan .plain none rest).map (word.toList ++ ·)
    else scan .plain (some (word.getD [] ++ [char])) rest
  | .single, _, [] => none
  | .single, word, '\'' :: rest => scan .plain word rest
  | .single, word, char :: rest => scan .single (some (word.getD [] ++ [char])) rest
  | .double, _, [] => none
  | .double, word, '"' :: rest => scan .plain word rest
  | .double, word, '\\' :: char :: rest =>
    scan .double (some (word.getD [] ++ if "$`\"\\".toList.contains char then [char] else ['\\', char])) rest
  | .double, word, char :: rest =>
    if char = '$' ∨ char.toNat = 0x60 then none else scan .double (some (word.getD [] ++ [char])) rest

def words (text : Text) : Option (List Text) := scan .plain none text

def isPlain (char : Char) : Bool :=
  !isSpecial char && !isBlank char && char != '\'' && char != '"' && char != '\\'

theorem scan_plain_cons (plain : isPlain char = true) (word : Option Text) (rest : Text) :
    scan .plain word (char :: rest) = scan .plain (some (word.getD [] ++ [char])) rest := by
  simp only [isPlain, Bool.and_eq_true, Bool.not_eq_true', bne_iff_ne] at plain
  obtain ⟨⟨⟨⟨ordinary, solid⟩, single⟩, double⟩, escape⟩ := plain
  rw [scan]
  · rw [if_neg (by rw [ordinary]; decide), if_neg (by rw [solid]; decide)]
  · exact single
  · exact double
  · exact fun _ _ same => absurd same escape

theorem scan_plain_append (plain : ∀ char ∈ text, isPlain char = true) (word rest : Text) :
    scan .plain (some word) (text ++ rest) = scan .plain (some (word ++ text)) rest := by
  induction text generalizing word with
  | nil => rw [List.nil_append, List.append_nil]
  | cons char text ih =>
    rw [List.cons_append, scan_plain_cons (plain char List.mem_cons_self), Option.getD_some,
      ih fun other member => plain other (List.mem_cons_of_mem char member), List.append_assoc, List.singleton_append]

theorem scan_plain_first (plain : ∀ char ∈ text, isPlain char = true) (nonempty : text ≠ []) (rest : Text) :
    scan .plain none (text ++ rest) = scan .plain (some text) rest := by
  cases text with
  | nil => exact absurd rfl nonempty
  | cons char text =>
    rw [List.cons_append, scan_plain_cons (plain char List.mem_cons_self), Option.getD_none, List.nil_append,
      scan_plain_append fun other member => plain other (List.mem_cons_of_mem char member)]
    rfl

theorem scan_single (word value rest : Text) :
    scan .single (some word) (Text.replaceChar '\'' "'\\''".toList value ++ '\'' :: rest) =
      scan .plain (some (word ++ value)) rest := by
  induction value generalizing word with
  | nil => rw [Text.replaceChar_nil, List.nil_append, List.append_nil, scan]
  | cons char value ih =>
    by_cases quote : char = '\''
    · subst quote
      rw [Text.replaceChar_cons_self, List.append_assoc]
      refine Eq.trans ?_ ((ih (word ++ ['\''])).trans (by rw [List.append_assoc, List.singleton_append]))
      rfl
    · rw [Text.replaceChar_cons_of_ne quote, List.cons_append, scan, Option.getD_some, ih, List.append_assoc,
        List.singleton_append]
      exact quote

theorem scan_quoted (value rest : Text) :
    scan .plain none ('\'' :: (Text.replaceChar '\'' "'\\''".toList value ++ '\'' :: rest)) =
      scan .plain (some value) rest := by
  rw [scan]
  exact scan_single [] value rest

/-- The arguments after a first word. -/
def reader : ArgReader where
  Takes written word rest := scan .plain none (written ++ rest) = scan .plain (some word) rest
  Reads args words := ∀ word, scan .plain (some word) args = some (word :: words)
  isPlain := isPlain
  plain := fun nonempty plain rest => scan_plain_first plain nonempty rest
  nil := fun _ => rfl
  cons := by
    intro written word rest words taken read previous
    have blank : scan .plain (some previous) (' ' :: (written ++ rest)) =
        (scan .plain none (written ++ rest)).map ([previous] ++ ·) := rfl
    rw [blank, taken, read word, Option.map_some, List.singleton_append]

end Shell

/-! The strings of a property list. -/

namespace Xml

def entity? (text : Text) : Option (Char × Text) :=
  [("amp;", '&'), ("lt;", '<'), ("gt;", '>'), ("quot;", '"'), ("apos;", '\'')].findSome? fun (name, char) =>
    if name.toList.isPrefixOf text then some (char, text.drop name.length) else none

/-- Entities are replaced by what they stand for; `fuel` bounds how many characters are read. -/
def unescape : Nat → Text → Text
  | 0, text => text
  | _, [] => []
  | fuel + 1, '&' :: rest =>
    match entity? rest with
    | some (char, rest) => char :: unescape fuel rest
    | none => '&' :: unescape fuel rest
  | fuel + 1, char :: rest => char :: unescape fuel rest

def openTag : Text := "<string>".toList

def closeTag : Text := "</string>".toList

def dropTag (tag text : Text) : Option Text := if tag.isPrefixOf text then some (text.drop tag.length) else none

/-- The contents of `string` elements, one after the other and nothing else; `fuel` bounds their
number. -/
def strings : Nat → Text → Option (List Text)
  | 0, text => if text = [] then some [] else none
  | fuel + 1, text =>
    if text = [] then some []
    else
      (dropTag openTag text).bind fun inner =>
        (dropTag closeTag (inner.dropWhile (· ≠ '<'))).bind fun rest =>
          let content := inner.takeWhile (· ≠ '<')
          (strings fuel rest).map (unescape content.length content :: ·)

def escapeChar (char : Char) : Text :=
  if char = '&' then "&amp;".toList
  else if char = '<' then "&lt;".toList
  else if char = '>' then "&gt;".toList
  else if char = '"' then "&quot;".toList
  else [char]

def element (text : Text) : Text := openTag ++ (text ++ closeTag)

theorem dropTag_append (tag rest : Text) : dropTag tag (tag ++ rest) = some rest := by
  simp [dropTag]

theorem unescape_escapeChar (fuel : Nat) (char : Char) (rest : Text) :
    unescape (fuel + 1) (escapeChar char ++ rest) = char :: unescape fuel rest := by
  unfold escapeChar
  split
  next same =>
    subst same
    rfl
  next notAmp =>
    split
    next same =>
      subst same
      rfl
    next =>
      split
      next same =>
        subst same
        rfl
      next =>
        split
        next same =>
          subst same
          rfl
        next =>
          rw [singleton_append, unescape]
          exact notAmp

theorem length_escapeChar (char : Char) : 1 ≤ (escapeChar char).length := by
  unfold escapeChar
  repeat' split
  all_goals simp

theorem not_mem_escapeChar (char : Char) : '<' ∉ escapeChar char := by
  unfold escapeChar
  split
  next => decide
  next =>
    split
    next => decide
    next notOpen =>
      split
      next => decide
      next =>
        split
        next => decide
        next => exact fun member => notOpen (mem_singleton.mp member).symm

theorem unescape_escaped (value : Text) (spare : Nat) :
    unescape (value.length + spare) (value.flatMap escapeChar) = value := by
  induction value with
  | nil => cases spare <;> rfl
  | cons char rest ih =>
    rw [length_cons, flatMap_cons, Nat.add_right_comm, unescape_escapeChar, ih]

theorem length_escaped (value : Text) : value.length ≤ (value.flatMap escapeChar).length := by
  induction value with
  | nil => simp
  | cons char rest ih =>
    have one := length_escapeChar char
    rw [length_cons, flatMap_cons, length_append]
    omega

theorem not_mem_escaped (value : Text) : '<' ∉ value.flatMap escapeChar := by
  intro member
  obtain ⟨char, _, inside⟩ := mem_flatMap.mp member
  exact not_mem_escapeChar char inside

theorem strings_element (fuel : Nat) (value rest : Text) :
    strings (fuel + 1) (element (value.flatMap escapeChar) ++ rest) = (strings fuel rest).map (value :: ·) := by
  have inside : ∀ char ∈ value.flatMap escapeChar, (decide (char ≠ '<')) = true := by
    intro char member
    rw [decide_eq_true_iff]
    intro opens
    exact not_mem_escaped value (opens ▸ member)
  have content : (value.flatMap escapeChar ++ (closeTag ++ rest)).takeWhile (· ≠ '<') = value.flatMap escapeChar := by
    rw [takeWhile_append_of_pos inside]
    exact append_nil _
  have after : (value.flatMap escapeChar ++ (closeTag ++ rest)).dropWhile (· ≠ '<') = closeTag ++ rest := by
    rw [dropWhile_append_of_pos inside]
    rfl
  obtain ⟨spare, enough⟩ := Nat.exists_eq_add_of_le (length_escaped value)
  have decoded : unescape (value.flatMap escapeChar).length (value.flatMap escapeChar) = value := by
    rw [enough, unescape_escaped]
  have nonempty : openTag ++ (value.flatMap escapeChar ++ (closeTag ++ rest)) ≠ [] := by
    exact append_ne_nil_of_left_ne_nil (by decide) _
  rw [element, append_assoc, append_assoc, strings, if_neg nonempty, dropTag_append, Option.bind_some, after,
    dropTag_append, Option.bind_some, content]
  simp only [decoded]

def elements (values : List Text) : Text := values.flatMap fun value => element (value.flatMap escapeChar)

theorem elements_append (front rest : List Text) : elements (front ++ rest) = elements front ++ elements rest :=
  flatMap_append

theorem elements_cons (value : Text) (rest : List Text) :
    elements (value :: rest) = element (value.flatMap escapeChar) ++ elements rest := rfl

theorem length_elements (values : List Text) : values.length ≤ (elements values).length := by
  induction values with
  | nil => exact Nat.le_refl _
  | cons value rest ih =>
    have tag : openTag.length = 8 := by decide
    rw [elements_cons, length_cons, length_append, element, length_append, tag]
    omega

theorem strings_elements (values : List Text) : strings (elements values).length (elements values) = some values := by
  have read : ∀ spare, strings (values.length + spare) (elements values) = some values := by
    intro spare
    induction values with
    | nil => cases spare <;> rfl
    | cons value rest ih =>
      rw [length_cons, elements_cons, Nat.add_right_comm, strings_element, ih, Option.map_some]
  obtain ⟨spare, enough⟩ := Nat.exists_eq_add_of_le (length_elements values)
  rw [enough, read]

end Xml

end SshProxy.Library
