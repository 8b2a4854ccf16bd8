import SshProxy.Proofs.ConnectBoundary
import SshProxy.Socks5

/-! Hosts that a `CONNECT` may name. Nothing but the limit on the head bounds their length,
and the limit is looked at only while the head is incomplete: a head of up to one read more
passes. -/

namespace SshProxy
open Library List

/-- A character that a request line does not give a meaning to. -/
def isPlain (char : Char) : Bool := !Text.isWhitespace char && char != ':' && char != '['

def portText : Text := [':', '4', '4', '3']

def versionText : Text := ['H', 'T', 'T', 'P', '/', '1', '.', '1']

def connectLine (host : Text) : Text :=
  ['C', 'O', 'N', 'N', 'E', 'C', 'T'] ++ ' ' :: ((host ++ portText) ++ ' ' :: versionText)

def connectText (host : Text) : Text := connectLine host ++ ['\r', '\n', '\r', '\n']

variable {host : Text}

theorem isPlain_iff {char : Char} : isPlain char = true ↔ Text.isWhitespace char = false ∧ char ≠ ':' ∧ char ≠ '[' := by
  simp [isPlain, and_assoc]

theorem not_whitespace_of_all {text : Text} (checked : text.all (fun char => !Text.isWhitespace char) = true) :
    ∀ char ∈ text, Text.isWhitespace char = false := by
  intro char member
  have plain := all_eq_true.mp checked char member
  rwa [Bool.not_eq_true'] at plain

theorem target_plain (plain : ∀ char ∈ host, isPlain char = true) :
    ∀ char ∈ host ++ portText, Text.isWhitespace char = false := by
  intro char member
  rcases mem_append.mp member with named | port
  · exact (isPlain_iff.mp (plain char named)).1
  · exact not_whitespace_of_all (by decide) char port

theorem words_connectLine (plain : ∀ char ∈ host, isPlain char = true) :
    (connectLine host).words = [['C', 'O', 'N', 'N', 'E', 'C', 'T'], host ++ portText, versionText] := by
  have method : splitOnP Text.isWhitespace ['C', 'O', 'N', 'N', 'E', 'C', 'T'] = [['C', 'O', 'N', 'N', 'E', 'C', 'T']] :=
    splitOnP_eq_singleton (not_whitespace_of_all (by decide))
  have version : splitOnP Text.isWhitespace versionText = [versionText] :=
    splitOnP_eq_singleton (not_whitespace_of_all (by decide))
  rw [Text.words, connectLine, splitOnP_append_cons _ _ (by decide), splitOnP_append_cons _ _ (by decide),
    splitOnP_eq_singleton (target_plain plain), method, version]
  simp [portText, versionText]

theorem parseHostPort_plain (plain : ∀ char ∈ host, isPlain char = true) :
    parseHostPort (host ++ portText) 443 = .ok (String.ofList host, 443) := by
  have split : (host ++ portText).splitLast ':' = some (host, ['4', '4', '3']) := by
    have back : (host ++ portText).reverse = '3' :: '4' :: '4' :: ':' :: host.reverse := by simp [portText]
    rw [Text.splitLast, back]
    simp [Text.splitOnce, Text.splitOnceBy]
  have one : host.contains ':' = false := by
    rw [contains_eq_mem, decide_eq_false_iff_not]
    intro colon
    exact (isPlain_iff.mp (plain _ colon)).2.1 rfl
  unfold parseHostPort
  split
  next empty => simp [portText] at empty
  next rest bracketed =>
    cases host with
    | nil => cases bracketed
    | cons first others =>
      cases bracketed
      exact absurd rfl (isPlain_iff.mp (plain _ (mem_cons_self ..))).2.2
  next =>
    rw [split]
    simp only [one]
    rfl

theorem textOf_textBytes (text : Text) : textOf (textBytes text) = some text := by
  simp [textOf, textBytes, ofUtf8_utf8]

theorem not_return_mem (plain : ∀ char ∈ host, isPlain char = true) : '\r' ∉ connectLine host := by
  intro member
  simp only [connectLine, mem_append, mem_cons] at member
  rcases member with method | space | (named | port) | space | version
  · revert method
    decide
  · revert space
    decide
  · have free := (isPlain_iff.mp (plain _ named)).1
    revert free
    decide
  · revert port
    decide
  · revert space
    decide
  · revert version
    decide

theorem parse_connectText (plain : ∀ char ∈ host, isPlain char = true) :
    HttpRequest.parse (textBytes (connectText host)) [] = .ok (.connect (String.ofList host) 443) := by
  have lines : splitLines (connectText host) = connectLine host :: [[], []] :=
    splitOnPair_append_of_not_mem (not_return_mem plain) _
  unfold HttpRequest.parse
  simp only [textOf_textBytes, lines, words_connectLine plain]
  rw [if_neg (by decide), if_pos (by decide), parseHostPort_plain plain]
  rfl

theorem httpHeaderEnd_connectText (oneLine : 13 ∉ textBytes (connectLine host)) :
    httpHeaderEnd (textBytes (connectText host)) = some (textBytes (connectText host)).length := by
  have bytes : textBytes (connectText host) = textBytes (connectLine host) ++ [13, 10, 13, 10] := by
    rw [connectText, textBytes, String.ofList_append, utf8_append]
    rfl
  rw [bytes, httpHeaderEnd, endOf_append_of_not_mem oneLine, length_append, Nat.add_comm]
  rfl

theorem withinLimit_of_init {front : List Bytes} {last : Bytes} (small : front.flatten.length ≤ 64 * 1024) :
    WithinLimit (front ++ [last]) (front ++ [last]).flatten.length := by
  intro other rest same short
  rcases eq_nil_or_concat rest with rfl | ⟨rest, final, rfl⟩
  · rw [append_nil] at same
    rw [same] at short
    exact absurd short (Nat.lt_irrefl _)
  · rw [concat_eq_append, ← append_assoc] at same
    have inside : front = other ++ rest := (append_inj' same rfl).1
    rw [inside, flatten_append, length_append] at small
    omega

theorem handleHttpProxy_connectText {reads : List Bytes} (plain : ∀ char ∈ host, isPlain char = true)
    (oneLine : 13 ∉ textBytes (connectLine host)) (cut : Cut reads (textBytes (connectText host)))
    (within : WithinLimit reads (textBytes (connectText host)).length) : ∃ unread, handleHttpProxy reads =
      .ok { host := String.ofList host, port := 443, response := .httpConnect, initialRemote := [], mode := .raw, unread } := by
  have complete := httpHeaderEnd_connectText oneLine
  have found : httpHeaderEnd ([] ++ reads.flatten) = some (textBytes (connectText host)).length := by
    rw [nil_append, cut.whole, complete]
  have nonempty : ([] : Bytes).length < (textBytes (connectText host)).length := (endOf_le complete).1.trans_lt' (by decide)
  rcases HttpRequest.readHead_spec found nonempty fun chunk member => (cut.sized chunk member).1 with
    ⟨front, chunk, rest, rfl, before, small, reached, read⟩ | ⟨front, rest, rfl, before, large, read⟩
  · have whole : ([] ++ front.flatten ++ chunk).take (textBytes (connectText host)).length = textBytes (connectText host) := by
      have all := cut.whole
      rw [flatten_append, flatten_cons, ← append_assoc] at all
      rw [nil_append] at reached ⊢
      have longer : ((front.flatten ++ chunk) ++ rest.flatten).take (textBytes (connectText host)).length =
          (front.flatten ++ chunk).take (textBytes (connectText host)).length :=
        take_append_of_le_length reached
      rw [← longer, all, take_length]
    refine ⟨rest, ?_⟩
    rw [handleHttpProxy, HttpRequest.readFrom, read]
    simp only [bind, Except.bind, whole, HttpRequest.parse_connect (parse_connectText plain)]
    rfl
  · have bound := within front rest rfl (by simpa using before)
    rw [nil_append] at large
    omega

def letters (count : Nat) : Bytes := replicate count 97

theorem textBytes_letters (count : Nat) : textBytes (replicate count 'a') = letters count := by
  have one : utf8 (String.ofList ['a']) = [97] := by decide
  rw [textBytes, utf8_replicate, one, flatten_replicate_singleton, letters]

theorem textBytes_append (left right : Text) : textBytes (left ++ right) = textBytes left ++ textBytes right := by
  rw [textBytes, String.ofList_append, utf8_append]
  rfl

/-- A `CONNECT` for a host of many letters, as the socket delivers it: full reads between
the first and the last. -/
def connectReads (first full last : Nat) : List Bytes :=
  ((textBytes ['C', 'O', 'N', 'N', 'E', 'C', 'T', ' '] ++ letters first) :: replicate full (letters 1024)) ++
    [letters last ++ textBytes (portText ++ ' ' :: versionText ++ ['\r', '\n', '\r', '\n'])]

theorem textBytes_connectLine (count : Nat) : textBytes (connectLine (replicate count 'a')) =
      textBytes ['C', 'O', 'N', 'N', 'E', 'C', 'T', ' '] ++ (letters count ++ textBytes (portText ++ ' ' :: versionText)) := by
  have split : connectLine (replicate count 'a') =
      ['C', 'O', 'N', 'N', 'E', 'C', 'T', ' '] ++ (replicate count 'a' ++ (portText ++ ' ' :: versionText)) := by
    simp [connectLine]
  rw [split, textBytes_append, textBytes_append, textBytes_letters]

theorem flatten_connectReads (first full last : Nat) : (connectReads first full last).flatten =
      textBytes (connectText (replicate (first + (full * 1024 + last)) 'a')) := by
  have host : letters (first + (full * 1024 + last)) = letters first ++ (letters (full * 1024) ++ letters last) := by
    simp only [letters, replicate_append_replicate]
  rw [connectText, textBytes_append, textBytes_connectLine, host, connectReads]
  simp only [flatten_append, flatten_cons, flatten_nil, append_nil, append_assoc, textBytes_append]
  rw [letters, letters, flatten_replicate_replicate]
  rfl

theorem cut_connectReads {first full last : Nat} (start : first ≤ 1016) (tail : last ≤ 1007) :
    Cut (connectReads first full last) (textBytes (connectText (replicate (first + (full * 1024 + last)) 'a'))) := by
  refine ⟨flatten_connectReads first full last, ?_⟩
  have front : (textBytes ['C', 'O', 'N', 'N', 'E', 'C', 'T', ' ']).length = 8 := by decide
  have back : (textBytes (portText ++ ' ' :: versionText ++ ['\r', '\n', '\r', '\n'])).length = 17 := by decide
  have sized : ∀ chunk ∈ connectReads first full last, 0 < chunk.length ∧ chunk.length ≤ 1024 := by
    intro chunk member
    simp only [connectReads, mem_append, mem_cons, mem_replicate, not_mem_nil, or_false] at member
    rcases member with (rfl | ⟨_, rfl⟩) | rfl
    · rw [length_append, front, letters, length_replicate]
      omega
    · rw [letters, length_replicate]
      omega
    · rw [length_append, back, letters, length_replicate]
      omega
  intro chunk member
  exact ⟨ne_nil_of_length_pos (sized chunk member).1, (sized chunk member).2⟩

theorem handleClient_connectReads (text : IpText) {first full last : Nat} (start : first ≤ 1016) (tail : last ≤ 1007)
    (small : 8 + (first + full * 1024) ≤ 64 * 1024) :
    ∃ request, handleClient text (connectReads first full last) = .ok (.tunnel request) ∧
      request.host = String.ofList (replicate (first + (full * 1024 + last)) 'a') := by
  have cut : Cut (connectReads first full last) _ := cut_connectReads start tail
  have plain : ∀ char ∈ replicate (first + (full * 1024 + last)) 'a', isPlain char = true := by
    intro char member
    rw [eq_of_mem_replicate member]
    decide
  have oneLine : 13 ∉ textBytes (connectLine (replicate (first + (full * 1024 + last)) 'a')) := by
    rw [textBytes_connectLine, mem_append, mem_append]
    rintro (method | named | version)
    · exact absurd method (by decide)
    · exact absurd (eq_of_mem_replicate named) (by decide)
    · exact absurd version (by decide)
  have within : WithinLimit (connectReads first full last) (connectReads first full last).flatten.length := by
    apply withinLimit_of_init
    have front : (textBytes ['C', 'O', 'N', 'N', 'E', 'C', 'T', ' ']).length = 8 := by decide
    rw [flatten_cons, letters, letters, flatten_replicate_replicate, length_append, length_append, front,
      length_replicate, length_replicate]
    omega
  rw [flatten_connectReads] at within
  obtain ⟨unread, opened⟩ := handleHttpProxy_connectText plain oneLine cut within
  have http : (connectReads first full last).flatten.head? ≠ some 5 := by
    have method : textBytes ['C', 'O', 'N', 'N', 'E', 'C', 'T', ' '] = [67, 79, 78, 78, 69, 67, 84, 32] := by decide
    rw [connectReads, method, cons_append, flatten_cons]
    exact nofun
  refine ⟨{ host := _, port := 443, response := .httpConnect, initialRemote := [], mode := .raw, unread }, ?_, rfl⟩
  rw [handleClient, if_neg http, opened]
  rfl

end SshProxy
