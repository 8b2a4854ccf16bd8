import Mathlib.Data.List.Basic

/-! Text as a list of characters, with the operations that line-based protocols are parsed
with. They follow the string functions of Rust's standard library. -/

namespace SshProxy.Library
open List

abbrev Text := List Char

namespace Text

/-- The Unicode property `White_Space`. -/
def isWhitespace (char : Char) : Bool :=
  let code := char.toNat
  (9 ≤ code && code ≤ 13) || code == 32 || code == 0x85 || code == 0xA0 || code == 0x1680 ||
    (0x2000 ≤ code && code ≤ 0x200A) || code == 0x2028 || code == 0x2029 || code == 0x202F || code == 0x205F ||
    code == 0x3000

/-- `split_whitespace`: the maximal runs without white space. -/
def words (text : Text) : List Text := (text.splitOnP isWhitespace).filter (· ≠ [])

def trim (text : Text) : Text := (text.dropWhile isWhitespace).reverse.dropWhile isWhitespace |>.reverse

/-- `Char.toLower` changes the letters of ASCII only. -/
def lower (text : Text) : Text := text.map Char.toLower

def eqIgnoreCase (left right : Text) : Bool := left.lower == right.lower

/-- `split_once`, at the first character of a kind. -/
def splitOnceBy (kind : Char → Bool) : Text → Option (Text × Text)
  | [] => none
  | char :: rest =>
    if kind char then some ([], rest)
    else (splitOnceBy kind rest).map fun (before, after) => (char :: before, after)

def splitOnce (separator : Char) : Text → Option (Text × Text) := splitOnceBy (· = separator)

/-- `rsplit_once`, at the last separator. -/
def splitLast (separator : Char) (text : Text) : Option (Text × Text) :=
  (splitOnce separator text.reverse).map fun (after, before) => (before.reverse, after.reverse)

/-- `trim_matches` with one character. -/
def trimMatches (char : Char) (text : Text) : Text :=
  (text.dropWhile (· = char)).reverse.dropWhile (· = char) |>.reverse

def afterFirst (part : Text) : Text → Option Text
  | [] => if part = [] then some [] else none
  | char :: rest =>
    if part.isPrefixOf (char :: rest) then some ((char :: rest).drop part.length) else afterFirst part rest

def parseDigits (largest : Nat) : Nat → Text → Except String Nat
  | value, [] => .ok value
  | value, char :: rest =>
    if !char.isDigit then .error "invalid digit found in string"
    else
      let value := value * 10 + (char.toNat - '0'.toNat)
      if largest < value then .error "number too large to fit in target type" else parseDigits largest value rest

/-- `str::parse` for an unsigned type with the given largest value: digits, perhaps after
a plus sign. -/
def parseInteger (largest : Nat) : Text → Except String Nat
  | [] => .error "cannot parse integer from empty string"
  | ['+'] => .error "invalid digit found in string"
  | '+' :: digits => parseDigits largest 0 digits
  | digits => parseDigits largest 0 digits

def parseUnsigned (largest : Nat) (text : Text) : Option Nat := (parseInteger largest text).toOption

theorem afterFirst_eq_some {part text rest : Text} (found : afterFirst part text = some rest) :
    ∃ front, text = front ++ part ++ rest ∧ ∀ other, afterFirst part (front ++ part ++ other) = some other := by
  have here (other : Text) : afterFirst part (part ++ other) = some other := by
    cases whole : part ++ other with
    | nil =>
      obtain ⟨rfl, rfl⟩ := append_eq_nil_iff.mp whole
      rfl
    | cons char more =>
      have starts : part.isPrefixOf (char :: more) = true := by
        rw [List.isPrefixOf_iff_prefix, ← whole]
        exact prefix_append part other
      rw [afterFirst, if_pos starts, ← whole, drop_left]
  induction text with
  | nil =>
    unfold afterFirst at found
    split at found
    next none =>
      cases found
      exact ⟨[], none.symm ▸ rfl, here⟩
    next => cases found
  | cons char more ih =>
    unfold afterFirst at found
    split at found
    next starts =>
      obtain ⟨tail, whole⟩ := isPrefixOf_iff_prefix.mp starts
      rw [← whole, drop_left] at found
      cases found
      exact ⟨[], whole.symm, here⟩
    next apart =>
      obtain ⟨front, rfl, first⟩ := ih found
      refine ⟨char :: front, rfl, ?_⟩
      intro other
      have still : ¬ part.isPrefixOf (char :: (front ++ part ++ other)) = true := by
        rw [List.isPrefixOf_iff_prefix] at apart ⊢
        intro starts
        apply apart
        -- as far as the part reaches the two texts are the same
        have within : part <+: char :: front ++ part := by
          apply prefix_of_prefix_length_le starts
          · exact ⟨other, rfl⟩
          · rw [length_append]
            exact Nat.le_add_left _ _
        exact within.trans ⟨rest, rfl⟩
      change afterFirst part (char :: (front ++ part ++ other)) = some other
      rw [afterFirst, if_neg still]
      exact first other

variable {separator : Char}

theorem splitOnce_append {front : Text} (absent : separator ∉ front) (back : Text) :
    splitOnce separator (front ++ separator :: back) = some (front, back) := by
  induction front with
  | nil => simp [splitOnce, splitOnceBy]
  | cons char front ih =>
    rw [mem_cons, not_or] at absent
    have later := ih absent.2
    unfold splitOnce at later ⊢
    rw [cons_append, splitOnceBy, if_neg (by simpa using Ne.symm absent.1), later]
    rfl

theorem splitLast_append {back : Text} (absent : separator ∉ back) (front : Text) :
    splitLast separator (front ++ separator :: back) = some (front, back) := by
  have absent : separator ∉ back.reverse := by
    rwa [mem_reverse]
  have turned : (front ++ separator :: back).reverse = back.reverse ++ separator :: front.reverse := by
    rw [reverse_append, reverse_cons, append_assoc]
    rfl
  rw [splitLast, turned, splitOnce_append absent, Option.map_some]
  dsimp only
  rw [reverse_reverse, reverse_reverse]

theorem eq_of_splitOnce {text front back : Text} (split : splitOnce separator text = some (front, back)) :
    text = front ++ separator :: back := by
  induction text generalizing front with
  | nil => cases split
  | cons char rest ih =>
    unfold splitOnce splitOnceBy at split
    split at split
    next same =>
      cases split
      rw [of_decide_eq_true same]
      rfl
    next =>
      obtain ⟨⟨before, after⟩, inner, built⟩ := Option.map_eq_some_iff.mp split
      cases built
      rw [ih inner]
      rfl

theorem eq_of_splitLast {text front back : Text} (split : splitLast separator text = some (front, back)) :
    text = front ++ separator :: back := by
  obtain ⟨⟨after, before⟩, turned, built⟩ := Option.map_eq_some_iff.mp split
  cases built
  rw [← reverse_reverse text, eq_of_splitOnce turned, reverse_append, reverse_cons, append_assoc]
  rfl

theorem toList_toString (value : Nat) : (toString value).toList = Nat.toDigits 10 value := by
  rw [Nat.toString_eq_ofList_toDigits, String.toList_ofList]

theorem isDigit_of_mem_toString {value : Nat} {char : Char} (present : char ∈ (toString value).toList) :
    char.isDigit = true := by
  rw [toList_toString] at present
  exact Nat.isDigit_of_mem_toDigits (by decide) (by decide) present

theorem parseDigits_of_isDigit {largest value : Nat} {digits : Text} (numeric : ∀ char ∈ digits, char.isDigit = true)
    (fits : Nat.ofDigitChars 10 digits value ≤ largest) :
    parseDigits largest value digits = .ok (Nat.ofDigitChars 10 digits value) ∧ value ≤ Nat.ofDigitChars 10 digits value := by
  induction digits generalizing value with
  | nil => exact ⟨rfl, Nat.le_refl value⟩
  | cons char rest ih =>
    obtain ⟨digit, others⟩ := forall_mem_cons.mp numeric
    rw [Nat.ofDigitChars_cons, Nat.mul_comm] at fits ⊢
    obtain ⟨read, grows⟩ := ih others fits
    constructor
    · rw [parseDigits, if_neg (by simp [digit])]
      dsimp only
      rw [if_neg (Nat.not_lt.mpr (Nat.le_trans grows fits)), read]
    · omega

theorem parseUnsigned_toString {largest value : Nat} (fits : value ≤ largest) :
    parseUnsigned largest (toString value).toList = some value := by
  have digits (char : Char) (present : char ∈ (toString value).toList) : char.isDigit = true :=
    isDigit_of_mem_toString present
  have known : Nat.ofDigitChars 10 (toString value).toList 0 = value := by
    rw [toList_toString]
    exact Nat.ofDigitChars_ten_toDigits
  have read := (parseDigits_of_isDigit digits (Nat.le_trans (Nat.le_of_eq known) fits)).1
  have nonempty : (toString value).toList ≠ [] := by
    rw [toList_toString]
    exact Nat.toDigits_ne_nil
  rw [known] at read
  unfold parseUnsigned parseInteger
  split
  next empty => exact absurd empty nonempty
  next plus =>
    have never := digits '+' (plus ▸ mem_singleton_self '+')
    cases never
  next rest plus =>
    have never := digits '+' (plus ▸ mem_cons_self)
    cases never
  next =>
    rw [read]
    rfl

end Text

section
variable {α : Type} [DecidableEq α]

def consFirst (item : α) : List (List α) → List (List α)
  | [] => [[item]]
  | first :: rest => (item :: first) :: rest

/-- `split` at every occurrence of two items in a row, from the left. -/
def splitOnPair (left right : α) : List α → List (List α)
  | [] => [[]]
  | [item] => [[item]]
  | item :: next :: rest =>
    if item = left ∧ next = right then [] :: splitOnPair left right rest
    else consFirst item (splitOnPair left right (next :: rest))

/-- `replace` of two items in a row. -/
def replacePair (left right : α) (value items : List α) : List α := intercalate value (splitOnPair left right items)

theorem splitOnPair_ne_nil (left right : α) (items : List α) : splitOnPair left right items ≠ [] := by
  fun_cases splitOnPair left right items with
  | case1 | case2 | case3 => simp
  | case4 item next rest _ =>
    cases splitOnPair left right (next :: rest) with
    | nil | cons => simp [consFirst]

theorem splitOnPair_append_of_not_mem {left right : α} {front : List α} (absent : left ∉ front) (rest : List α) :
    splitOnPair left right (front ++ left :: right :: rest) = front :: splitOnPair left right rest := by
  induction front with
  | nil => simp [splitOnPair]
  | cons item front ih =>
    rw [mem_cons, not_or] at absent
    obtain ⟨different, others⟩ := absent
    have later := ih others
    cases front with
    | nil =>
      simp only [nil_append] at later
      rw [cons_append, nil_append, splitOnPair, if_neg fun both => different both.1.symm, later]
      rfl
    | cons next front =>
      rw [cons_append, cons_append, splitOnPair, if_neg fun both => different both.1.symm, ← cons_append,
        later]
      rfl

theorem splitOnPair_head {left right item next : α} {items first : List α} {more : List (List α)}
    (split : splitOnPair left right (item :: items) = (next :: first) :: more) : next = item := by
  cases items with
  | nil =>
    cases split
    rfl
  | cons second rest =>
    rw [splitOnPair] at split
    split at split
    next => cases split
    next =>
      cases later : splitOnPair left right (second :: rest) with
      | nil => exact absurd later (splitOnPair_ne_nil _ _ _)
      | cons piece pieces =>
        rw [later] at split
        cases split
        rfl

theorem splitOnPair_first {left right : α} (different : left ≠ right) {items first : List α} {more : List (List α)}
    (split : splitOnPair left right items = first :: more) (rest : List α) :
    splitOnPair left right (first ++ left :: right :: rest) = first :: splitOnPair left right rest := by
  induction items generalizing first more with
  | nil =>
    cases split
    simp [splitOnPair]
  | cons item items ih =>
    cases items with
    | nil =>
      cases split
      simp [splitOnPair, different, consFirst]
    | cons next tail =>
      rw [splitOnPair] at split
      split at split
      next pair =>
        cases split
        simp [splitOnPair]
      next notPair =>
        cases later : splitOnPair left right (next :: tail) with
        | nil => exact absurd later (splitOnPair_ne_nil _ _ _)
        | cons piece pieces =>
          have again := ih later
          rw [later] at split
          cases split
          cases piece with
          | nil => simp [splitOnPair, different, consFirst]
          | cons char piece =>
            have same := splitOnPair_head later
            subst same
            rw [cons_append, cons_append, splitOnPair, if_neg notPair, ← cons_append, again]
            rfl

end
end SshProxy.Library
