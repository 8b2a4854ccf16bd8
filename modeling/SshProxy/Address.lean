import Mathlib.Algebra.Ring.Nat
import SshProxy.Library.Text

/-! Network addresses, and file paths as the config store expands them. -/

namespace SshProxy

inductive IpAddr where
  | v4 (bits : BitVec 32)
  | v6 (bits : BitVec 128)
  deriving DecidableEq

def IpAddr.isV4 : IpAddr → Bool
  | .v4 _ => true
  | .v6 _ => false

theorem IpAddr.isV4_iff {ip : IpAddr} : ip.isV4 = true ↔ ∃ bits, ip = .v4 bits := by
  cases ip <;> simp [isV4]

structure SocketAddr where
  ip : IpAddr
  port : UInt16
  deriving DecidableEq

structure IpText where
  display : IpAddr → String
  parse : String → Option IpAddr

/-- A text form that can be read back: the loopback address as it is written, any other as a number,
after a colon if it is a long one. -/
def numericText : IpText where
  display
    | .v4 bits => if bits = 0x7f000001#32 then "127.0.0.1" else toString bits.toNat
    | .v6 bits => ":" ++ toString bits.toNat
  parse host :=
    if host = "127.0.0.1" then some (.v4 0x7f000001#32)
    else if host.toList.head? = some ':' then
      (Library.Text.parseUnsigned (2 ^ 128 - 1) host.toList.tail).map fun value => .v6 (BitVec.ofNat 128 value)
    else (Library.Text.parseUnsigned (2 ^ 32 - 1) host.toList).map fun value => .v4 (BitVec.ofNat 32 value)

theorem numericText_faithful (ip : IpAddr) : numericText.parse (numericText.display ip) = some ip := by
  cases ip with
  | v4 bits =>
    dsimp only [numericText]
    have digits {char : Char} (present : char ∈ (toString bits.toNat).toList) : char.isDigit = true :=
      Library.Text.isDigit_of_mem_toString present
    have plain : (toString bits.toNat).toList.head? ≠ some ':' := by
      intro colon
      cases digits (List.mem_of_head? colon)
    have dotless : toString bits.toNat ≠ "127.0.0.1" := by
      intro same
      have dot : '.' ∈ (toString bits.toNat).toList := by
        rw [same]
        decide
      cases digits dot
    by_cases loopback : bits = 0x7f000001#32
    · rw [if_pos loopback, if_pos rfl, loopback]
    · rw [if_neg loopback, if_neg dotless, if_neg plain, Library.Text.parseUnsigned_toString (Nat.le_sub_one_of_lt bits.isLt),
        Option.map_some, BitVec.ofNat_toNat, BitVec.setWidth_eq]
  | v6 bits =>
    dsimp only [numericText]
    have long : (":" ++ toString bits.toNat).toList = ':' :: (toString bits.toNat).toList := String.toList_append
    have other : ":" ++ toString bits.toNat ≠ "127.0.0.1" := by
      intro same
      have first := congrArg String.toList same
      rw [long] at first
      cases first
    rw [if_neg other, long, List.head?_cons, if_pos rfl, List.tail_cons,
      Library.Text.parseUnsigned_toString (Nat.le_sub_one_of_lt bits.isLt), Option.map_some, BitVec.ofNat_toNat,
      BitVec.setWidth_eq]

def loopback (port : UInt16) : SocketAddr := ⟨.v4 0x7f000001#32, port⟩

structure TcpTarget where
  host : String
  port : UInt16
  deriving DecidableEq

namespace Path

/-- `Path::join` with `/` as the separator: an absolute path replaces the one it is put after. -/
def join (base rest : List Char) : List Char :=
  if rest.head? = some '/' then rest
  else if base = [] ∨ base.getLast? = some '/' then base ++ rest
  else base ++ '/' :: rest

/-- The components of a path; a dot counts at its start only. -/
def components (path : List Char) : List (List Char) :=
  match path.splitOn '/' with
  | [] => []
  | first :: rest => (first :: rest.filter (· ≠ ['.'])).filter (· ≠ [])

def ofComponents (like : List Char) (parts : List (List Char)) : List Char :=
  (if like.head? = some '/' then ['/'] else []) ++ List.intercalate ['/'] parts

def parent (path : List Char) : Option (List Char) :=
  if components path = [] then none else some (ofComponents path (components path).dropLast)

def fileName (path : List Char) : Option (List Char) :=
  (components path).getLast?.filter fun name => name ≠ ['.'] ∧ name ≠ ['.', '.']

/-- `expand_path`, with the home directory if there is one. -/
def expand (home : Option String) (path : String) : String :=
  match path.toList, home with
  | '~' :: '/' :: rest, some home => String.ofList (join home.toList rest)
  | _, _ => path

end Path
end SshProxy
