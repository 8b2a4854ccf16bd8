import Mathlib.Algebra.Ring.Nat
import Mathlib.Data.List.Forall2
import Mathlib.Data.List.Induction

/-! Binary formats: big-endian numerals, and readers that take their input off the front
of a byte string. A reader that wants more than there is fails with an error of the
caller's choosing, so short input and malformed input are told apart by the format. -/

namespace SshProxy.Library
open List

section Except
variable {ε α β : Type}

theorem attempt_bind_eq_ok {attempt : Except ε α} {next : α → Except ε β} {result : β} :
    attempt >>= next = .ok result ↔ ∃ value, attempt = .ok value ∧ next value = .ok result := by
  cases attempt with
  | error error => exact ⟨nofun, by rintro ⟨_, failed, _⟩; cases failed⟩
  | ok value =>
    constructor
    · intro rest
      exact ⟨value, rfl, rest⟩
    · rintro ⟨_, found, rest⟩
      cases found
      exact rest

theorem attempt_map_eq_ok {attempt : Except ε α} {change : α → β} {result : β} :
    attempt.map change = .ok result ↔ ∃ value, attempt = .ok value ∧ change value = result := by
  cases attempt with
  | error error => exact ⟨nofun, by rintro ⟨_, failed, _⟩; cases failed⟩
  | ok value => simp [Except.map]

variable {attempt : α → Except ε β}

theorem attempt_mapM_forall₂ {items : List α} {results : List β}
    (done : items.mapM attempt = .ok results) : List.Forall₂ (fun item result => attempt item = .ok result) items results := by
  induction items generalizing results with
  | nil =>
    cases done
    exact .nil
  | cons first items ih =>
    rw [mapM_cons] at done
    obtain ⟨head, began, done⟩ := attempt_bind_eq_ok.mp done
    obtain ⟨tail, later, same⟩ := attempt_bind_eq_ok.mp done
    cases same
    exact .cons began (ih later)

theorem attempt_mapM_zip {items : List α} {results : List β}
    (done : items.mapM attempt = .ok results) {item : α} {result : β} (member : (item, result) ∈ items.zip results) :
    attempt item = .ok result :=
  (forall₂_iff_zip.mp (attempt_mapM_forall₂ done)).2 member

end Except

/-- The low `width` bytes of a number, the most significant first. -/
def bigEndian : Nat → Nat → List UInt8
  | 0, _ => []
  | width + 1, value => bigEndian width (value / 256) ++ [UInt8.ofNat value]

def ofBigEndian (bytes : List UInt8) : Nat := bytes.foldl (fun value byte => value * 256 + byte.toNat) 0

variable (bytes : List UInt8)

@[simp] theorem length_bigEndian (width value : Nat) : (bigEndian width value).length = width := by
  induction width generalizing value with
  | zero => rfl
  | succ width ih => simp [bigEndian, ih]

@[simp] theorem ofBigEndian_concat (byte : UInt8) :
    ofBigEndian (bytes ++ [byte]) = ofBigEndian bytes * 256 + byte.toNat := by
  simp [ofBigEndian]

theorem ofBigEndian_bigEndian {width value : Nat} (small : value < 256 ^ width) :
    ofBigEndian (bigEndian width value) = value := by
  induction width generalizing value with
  | zero =>
    have zero : value = 0 := by simpa using small
    exact zero.symm
  | succ width ih =>
    have high : value / 256 < 256 ^ width := by
      rw [Nat.div_lt_iff_lt_mul (by decide)]
      rwa [← Nat.pow_succ]
    rw [bigEndian, ofBigEndian_concat, ih high, UInt8.toNat_ofNat']
    omega

theorem bigEndian_ofBigEndian : bigEndian bytes.length (ofBigEndian bytes) = bytes := by
  induction bytes using reverseRecOn with
  | nil => rfl
  | append_singleton bytes byte ih =>
    have bound := byte.toNat_lt
    have high : (ofBigEndian bytes * 256 + byte.toNat) / 256 = ofBigEndian bytes := by omega
    have low : UInt8.ofNat (ofBigEndian bytes * 256 + byte.toNat) = byte := by
      apply UInt8.toNat_inj.mp
      rw [UInt8.toNat_ofNat']
      omega
    rw [length_append, length_singleton, bigEndian, ofBigEndian_concat, high, low, ih]

theorem ofBigEndian_lt : ofBigEndian bytes < 256 ^ bytes.length := by
  induction bytes using reverseRecOn with
  | nil => decide
  | append_singleton bytes byte ih =>
    have bound := byte.toNat_lt
    rw [ofBigEndian_concat, length_append, length_singleton, Nat.pow_succ]
    omega

def utf8 (text : String) : List UInt8 := text.toByteArray.data.toList

def ofUtf8 (bytes : List UInt8) : Option String := String.fromUTF8? ⟨bytes.toArray⟩

theorem ofUtf8_utf8 (value : String) : ofUtf8 (utf8 value) = some value := by
  simp only [ofUtf8, utf8, Array.toArray_toList]
  exact dif_pos value.isValidUTF8

variable {value : String}

theorem ofUtf8_eq_some {bytes : List UInt8} : ofUtf8 bytes = some value ↔ bytes = utf8 value := by
  constructor
  · intro found
    unfold ofUtf8 String.fromUTF8? at found
    split at found
    case isTrue valid =>
      cases found
      rfl
    case isFalse => cases found
  · rintro rfl
    exact ofUtf8_utf8 value

theorem utf8_append (left right : String) : utf8 (left ++ right) = utf8 left ++ utf8 right := by
  simp [utf8, String.toByteArray_append]

theorem utf8_replicate (char : Char) (count : Nat) :
    utf8 (String.ofList (replicate count char)) = (replicate count (utf8 (String.ofList [char]))).flatten := by
  induction count with
  | zero => simp [utf8]
  | succ count ih =>
    have front : char :: replicate count char = [char] ++ replicate count char := rfl
    rw [replicate_succ, front, String.ofList_append, utf8_append, ih, replicate_succ, flatten_cons]

theorem length_utf8_replicate (char : Char) (count : Nat) :
    (utf8 (String.ofList (replicate count char))).length = count * (utf8 (String.ofList [char])).length := by
  simp [utf8_replicate]

def counted (value : String) : List UInt8 := bigEndian 2 (utf8 value).length ++ utf8 value

@[simp] theorem length_counted (value : String) : (counted value).length = 2 + (utf8 value).length := by
  simp [counted]

/-- A text that may be left out, behind a byte that says whether it is there. -/
def marked : Option String → List UInt8
  | some value => 1 :: counted value
  | none => [0]

/-- A copy over the part of a buffer that starts at `offset`. -/
def copyInto (buffer : List UInt8) (offset : Nat) (bytes : List UInt8) : List UInt8 :=
  buffer.take offset ++ bytes ++ buffer.drop (offset + bytes.length)

abbrev Reader (ε α : Type) := StateT (List UInt8) (Except ε) α

namespace Reader
variable {ε α β : Type}

def exactly (short : ε) (count : Nat) : Reader ε (List UInt8) := fun input =>
  if count ≤ input.length then .ok (input.take count, input.drop count) else .error short

def number (short : ε) (width : Nat) : Reader ε Nat := do
  let bytes ← exactly short width
  return ofBigEndian bytes

def require (condition : Prop) [Decidable condition] (error : ε) : Reader ε Unit :=
  if condition then pure () else throw error

def lift (result : Except ε α) : Reader ε α := fun input => result.map (·, input)

def atEnd : Reader ε Bool := fun input => .ok (input.isEmpty, input)

def ensureEmpty (trailing : Nat → ε) : Reader ε Unit := fun input =>
  if input.isEmpty then .ok ((), input) else .error (trailing input.length)

def text (short malformed : ε) : Reader ε String := do
  let count ← number short 2
  let bytes ← exactly short count
  lift ((ofUtf8 bytes).elim (.error malformed) .ok)

def parse (reader : Reader ε α) (input : List UInt8) : Except ε α := (reader input).map Prod.fst

variable {reader : Reader ε α} {input rest : List UInt8} {next : α → Reader ε β}

theorem bind_eq_ok {value : β} : (reader >>= next) input = .ok (value, rest) ↔
      ∃ head middle, reader input = .ok (head, middle) ∧ next head middle = .ok (value, rest) := by
  show Except.bind (reader input) (fun result => next result.1 result.2) = _ ↔ _
  cases reader input with
  | error error => simp [Except.bind]
  | ok result =>
    obtain ⟨head, middle⟩ := result
    simp [Except.bind]

theorem bind_of_ok {input middle : List UInt8} {head : α}
    (first : reader input = .ok (head, middle)) : (reader >>= next) input = next head middle := by
  show Except.bind (reader input) (fun result => next result.1 result.2) = _
  rw [first]
  rfl

theorem map_of_ok {change : α → β} {value : α} (read : reader input = .ok (value, rest)) :
    (change <$> reader) input = .ok (change value, rest) := by
  show Except.bind (reader input) (fun result => .ok (change result.1, result.2)) = _
  rw [read]
  rfl

theorem parse_of_ok {value : α} (read : reader input = .ok (value, rest)) : reader.parse input = .ok value :=
  attempt_map_eq_ok.mpr ⟨_, read, rfl⟩

variable {short : ε}

theorem exactly_eq_ok {count : Nat} {input bytes rest : List UInt8} :
    exactly short count input = .ok (bytes, rest) ↔ input = bytes ++ rest ∧ bytes.length = count := by
  unfold exactly
  split
  case isTrue enough =>
    constructor
    · intro read
      cases read
      exact ⟨(take_append_drop count input).symm, length_take_of_le enough⟩
    · rintro ⟨rfl, rfl⟩
      simp
  case isFalse short =>
    refine ⟨nofun, ?_⟩
    rintro ⟨rfl, rfl⟩
    exact absurd (by simp) short

theorem number_eq_ok {width value : Nat} :
    number short width input = .ok (value, rest) ↔ input = bigEndian width value ++ rest ∧ value < 256 ^ width := by
  rw [number, bind_eq_ok]
  constructor
  · rintro ⟨bytes, middle, read, value⟩
    obtain ⟨rfl, rfl⟩ := exactly_eq_ok.mp read
    cases value
    exact ⟨by rw [bigEndian_ofBigEndian], ofBigEndian_lt bytes⟩
  · rintro ⟨rfl, small⟩
    refine ⟨bigEndian width value, rest, exactly_eq_ok.mpr ⟨rfl, length_bigEndian ..⟩, ?_⟩
    rw [ofBigEndian_bigEndian small]
    rfl

theorem exactly_of_le {count : Nat} {input : List UInt8} (enough : count ≤ input.length) :
    exactly short count input = .ok (input.take count, input.drop count) := if_pos enough

theorem number_of_le {width : Nat} {input : List UInt8} (enough : width ≤ input.length) :
    number short width input = .ok (ofBigEndian (input.take width), input.drop width) := by
  rw [number, bind_of_ok (exactly_of_le enough)]
  rfl

theorem number_cons (byte : UInt8) (rest : List UInt8) :
    number short 1 (byte :: rest) = .ok (byte.toNat, rest) := number_eq_ok.mpr ⟨by simp [bigEndian], byte.toNat_lt⟩

theorem number_append {width value : Nat} (small : value < 256 ^ width) (rest : List UInt8) :
    number short width (bigEndian width value ++ rest) = .ok (value, rest) := number_eq_ok.mpr ⟨rfl, small⟩

theorem require_eq_ok {condition : Prop} [Decidable condition] {error : ε} {done : Unit} :
    require condition error input = .ok (done, rest) ↔ condition ∧ input = rest := by
  unfold require
  split
  case isTrue holds =>
    constructor
    · intro passed
      cases passed
      exact ⟨holds, rfl⟩
    · rintro ⟨_, rfl⟩
      rfl
  case isFalse fails => exact ⟨nofun, fun both => absurd both.1 fails⟩

theorem lift_eq_ok {result : Except ε α} {value : α} :
    lift result input = .ok (value, rest) ↔ result = .ok value ∧ input = rest := by
  cases result with
  | error error | ok found => simp [lift, Except.map]

theorem map_eq_ok {change : α → β} {value : β} :
    (change <$> reader) input = .ok (value, rest) ↔ ∃ found, reader input = .ok (found, rest) ∧ change found = value := by
  show Except.bind (reader input) (fun result => .ok (change result.1, result.2)) = _ ↔ _
  cases reader input with
  | error error => simp [Except.bind]
  | ok result =>
    obtain ⟨found, left⟩ := result
    simp only [Except.bind, Except.ok.injEq, Prod.mk.injEq]
    constructor
    · rintro ⟨same, rfl⟩
      exact ⟨found, ⟨rfl, rfl⟩, same⟩
    · rintro ⟨_, ⟨rfl, rfl⟩, same⟩
      exact ⟨same, rfl⟩

theorem pure_eq_ok {value result : α} :
    (pure value : Reader ε α) input = .ok (result, rest) ↔ value = result ∧ input = rest := by
  show (Except.ok (value, input) : Except ε (α × List UInt8)) = _ ↔ _
  rw [Except.ok.injEq, Prod.mk.injEq]

theorem ensureEmpty_eq_ok {trailing : Nat → ε} {done : Unit} :
    ensureEmpty trailing input = .ok (done, rest) ↔ input = [] ∧ rest = [] := by
  cases input with
  | nil => simp [ensureEmpty, eq_comm]
  | cons byte more => simp [ensureEmpty]

theorem parse_eq_ok {input : List UInt8} {value : α} :
    reader.parse input = .ok value ↔ ∃ rest, reader input = .ok (value, rest) := by
  rw [parse, attempt_map_eq_ok]
  constructor
  · rintro ⟨⟨_, rest⟩, read, rfl⟩
    exact ⟨rest, read⟩
  · rintro ⟨rest, read⟩
    exact ⟨_, read, rfl⟩

theorem text_counted {short malformed : ε} (fits : (utf8 value).length ≤ 65535) (rest : List UInt8) :
    text short malformed (counted value ++ rest) = .ok (value, rest) := by
  have small : (utf8 value).length < 256 ^ 2 := by omega
  rw [text, counted, append_assoc, bind_of_ok (number_eq_ok.mpr ⟨rfl, small⟩),
    bind_of_ok (exactly_eq_ok.mpr ⟨rfl, rfl⟩), ofUtf8_utf8]
  exact lift_eq_ok.mpr ⟨rfl, rfl⟩

theorem text_eq_ok {short malformed : ε} :
    text short malformed input = .ok (value, rest) ↔ input = counted value ++ rest ∧ (utf8 value).length ≤ 65535 := by
  constructor
  · intro read
    obtain ⟨count, _, number, text⟩ := bind_eq_ok.mp read
    obtain ⟨bytes, _, exactly, lifted⟩ := bind_eq_ok.mp text
    obtain ⟨rfl, small⟩ := number_eq_ok.mp number
    obtain ⟨rfl, rfl⟩ := exactly_eq_ok.mp exactly
    obtain ⟨decoded, rfl⟩ := lift_eq_ok.mp lifted
    cases found : ofUtf8 bytes with
    | none =>
      rw [found] at decoded
      cases decoded
    | some text =>
      rw [found] at decoded
      cases decoded
      obtain rfl := ofUtf8_eq_some.mp found
      exact ⟨by rw [counted, append_assoc], by omega⟩
  · rintro ⟨rfl, short⟩
    exact text_counted short rest

end Reader

abbrev Encoder (ε α : Type) := StateT (List UInt8) (Except ε) α

namespace Encoder
variable {ε α β : Type}

def clear : Encoder ε Unit := set ([] : List UInt8)

def put (bytes : List UInt8) : Encoder ε Unit := modify (· ++ bytes)

def text (long : ε) (value : String) : Encoder ε Unit :=
  if 65535 < (utf8 value).length then throw long else put (counted value)

def optional (long : ε) : Option String → Encoder ε Unit
  | some value => do
    put [1]
    text long value
  | none => put [0]

theorem clear_bind (next : Unit → Encoder ε α) (out : List UInt8) : (clear >>= next) out = next () [] := rfl

theorem put_bind (bytes : List UInt8) (next : Unit → Encoder ε α) (out : List UInt8) :
    (put bytes >>= next) out = next () (out ++ bytes) := rfl

theorem get_bind (next : List UInt8 → Encoder ε α) (out : List UInt8) : (get >>= next) out = next out out := rfl

variable {next : Unit → Encoder ε α} {out rest : List UInt8}

theorem require_bind_eq_ok {condition : Prop} [Decidable condition] {error : ε} {result : α} :
    (Reader.require condition error >>= next) out = .ok (result, rest) ↔
      condition ∧ next () out = .ok (result, rest) := by
  rw [Reader.bind_eq_ok]
  constructor
  · rintro ⟨_, _, passed, after⟩
    obtain ⟨holds, rfl⟩ := Reader.require_eq_ok.mp passed
    exact ⟨holds, after⟩
  · rintro ⟨holds, after⟩
    exact ⟨(), out, Reader.require_eq_ok.mpr ⟨holds, rfl⟩, after⟩

theorem text_bind_eq_ok {long : ε} {result : α} : (text long value >>= next) out = .ok (result, rest) ↔
      (utf8 value).length ≤ 65535 ∧ next () (out ++ counted value) = .ok (result, rest) := by
  unfold text
  split
  case isTrue tooLong => exact ⟨nofun, fun both => absurd both.1 (by omega)⟩
  case isFalse fits =>
    rw [put_bind]
    exact ⟨fun written => ⟨by omega, written⟩, fun both => both.2⟩

theorem optional_bind_eq_ok {long : ε} {value : Option String} {result : α} :
    (optional long value >>= next) out = .ok (result, rest) ↔
      (∀ text ∈ value.toList, (utf8 text).length ≤ 65535) ∧ next () (out ++ marked value) = .ok (result, rest) := by
  cases value with
  | none => simp [optional, marked, put_bind]
  | some value =>
    simp only [optional, bind_assoc, put_bind, text_bind_eq_ok, marked]
    simp

theorem pure_eq_ok {value result : α} :
    (pure value : Encoder ε α) out = .ok (result, rest) ↔ value = result ∧ out = rest := by
  show (Except.ok (value, out) : Except ε (α × List UInt8)) = _ ↔ _
  rw [Except.ok.injEq, Prod.mk.injEq]

theorem modify_eq_ok {change : List UInt8 → List UInt8} {done : Unit} :
    (modify change : Encoder ε Unit) out = .ok (done, rest) ↔ change out = rest := by
  show (Except.ok ((), change out) : Except ε (Unit × List UInt8)) = _ ↔ _
  rw [Except.ok.injEq, Prod.mk.injEq]
  exact and_iff_right rfl

end Encoder
end SshProxy.Library
