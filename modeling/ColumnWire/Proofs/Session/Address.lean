import Mathlib.Tactic.Common
import ColumnWire.Proofs.Number.Numeral
import ColumnWire.Proofs.Text.Blank
import ColumnWire.Proofs.Text.Split
import ColumnWire.Proofs.Wire.Action
import ColumnWire.Session.Address

/-!
# Addresses and their texts

Which addresses come back from their text (`HostAddress.ofChars_chars_iff`): those whose host is there and
either stands in brackets and does not close them itself, or stands alone and begins with what no address
in brackets and no text with blanks before it begins with. What is known of an address that was read is
`HostAddress.ofChars_eq_ok`.
-/

namespace ColumnWire.Session.HostAddress

open ColumnWire.Text ColumnWire.Number ColumnWire.Wire

variable {a : HostAddress} {s host : List Char} {port : Option (List Char)}

/-- An address that its text tells apart from others. -/
def IsTellable (a : HostAddress) : Prop :=
  a.host ≠ "" ∧
    (':' ∈ a.host.toList ∧ ']' ∉ a.host.toList ∨
      ':' ∉ a.host.toList ∧ ∀ c ∈ a.host.toList.head?, isBlank c = false ∧ c ≠ '[')

/-! ## Ports -/

/-- A port comes back from its digits. -/
lemma readPort_toDigits (p : UInt16) : readPort (Nat.toDigits 10 p.toNat) = .ok p := by
  rw [readPort, readNatural?_toDigits (show p.toNat < 65536 from p.toNat_lt)]
  simp

/-- A digit is not blank. -/
lemma isBlank_of_isDigit {c : Char} (h : c.isDigit = true) : isBlank c = false := by
  rw [Char.isDigit_iff_toNat] at h
  have hlow : 0x30 ≤ c.toNat := h.1
  have hhigh : c.toNat ≤ 0x39 := h.2
  unfold isBlank
  simp only [Bool.or_eq_false_iff, Bool.and_eq_false_iff, decide_eq_false_iff_not, beq_eq_false_iff_ne]
  omega

/-- The digits of a port end with one that is not blank. -/
lemma exists_last_digit (n : Nat) :
    ∃ front d, Nat.toDigits 10 n = front ++ [d] ∧ isBlank d = false := by
  rcases List.eq_nil_or_concat (Nat.toDigits 10 n) with hnil | ⟨front, d, hconcat⟩
  · exact absurd hnil Nat.toDigits_ne_nil
  · rw [List.concat_eq_append] at hconcat
    refine ⟨front, d, hconcat, isBlank_of_isDigit (isDigit_of_mem_toDigits (n := n) ?_)⟩
    rw [hconcat]
    exact List.mem_append_right _ List.mem_cons_self

/-! ## Texts -/

/-- The host as its text has it. -/
def hostChars (a : HostAddress) : List Char :=
  if ':' ∈ a.host.toList then '[' :: (a.host.toList ++ [']']) else a.host.toList

/-- The text of an address is that of its host, a colon, and the digits of its port. -/
lemma chars_eq (a : HostAddress) : a.chars = a.hostChars ++ ':' :: Nat.toDigits 10 a.port.toNat := by
  unfold chars hostChars
  by_cases h : ':' ∈ a.host.toList
  · simp [h]
  · simp [h]

/-- Blanks before the text of an address are blanks before its host, and there are none behind it. -/
lemma trim_chars (a : HostAddress) :
    trim a.chars = trimStart a.hostChars ++ ':' :: Nat.toDigits 10 a.port.toNat := by
  obtain ⟨front, d, hdigits, hd⟩ := exists_last_digit a.port.toNat
  have hlast : trimEnd (front ++ [d]) = front ++ [d] := trimEnd_append_cons hd front []
  rw [chars_eq, trim, trimStart_append_cons (by decide), trimEnd_append_cons (by decide), hdigits,
    hlast]

/-- A host in brackets is cut from the port behind it. -/
lemma splitPort_bracketed (h : ']' ∉ host) (p : List Char) :
    splitPort ('[' :: (host ++ ']' :: ':' :: p)) = .ok (host, some p) := by
  have hcut : splitFirst ']' (host ++ ']' :: ':' :: p) = some (host, ':' :: p) := splitFirst_append h _
  simp only [splitPort, hcut]

/-- So is a host without brackets. -/
lemma splitPort_plain (hopen : (host ++ ':' :: s).head? ≠ some '[') (h : ':' ∉ host) :
    splitPort (host ++ ':' :: s) = .ok (host, some s) := by
  unfold splitPort
  split
  · next heq =>
      rw [heq] at hopen
      exact absurd rfl hopen
  · rw [splitFirst_append h]

/-- A text that is cut is one of the two, or a host alone in either. -/
lemma splitPort_eq_ok (h : splitPort s = .ok (host, port)) :
    (∃ after, s = '[' :: (host ++ ']' :: after) ∧ ']' ∉ host ∧
      (after = [] ∧ port = none ∨ ∃ p, after = ':' :: p ∧ port = some p)) ∨
    (s.head? ≠ some '[' ∧
      (':' ∉ s ∧ host = s ∧ port = none ∨
        ∃ p, s = host ++ ':' :: p ∧ ':' ∉ host ∧ port = some p)) := by
  unfold splitPort at h
  split at h
  · next rest =>
      split at h
      · cases h
      · next hcut =>
          cases h
          obtain ⟨hrest, hclose⟩ := splitFirst_eq_some_iff.1 hcut
          exact .inl ⟨[], by rw [hrest], hclose, .inl ⟨rfl, rfl⟩⟩
      · next p hcut =>
          cases h
          obtain ⟨hrest, hclose⟩ := splitFirst_eq_some_iff.1 hcut
          exact .inl ⟨':' :: p, by rw [hrest], hclose, .inr ⟨p, rfl, rfl⟩⟩
      · cases h
  · next hopen =>
      have hhead : s.head? ≠ some '[' := by
        intro hhead
        obtain ⟨rest, hrest⟩ := List.head?_eq_some_iff.1 hhead
        exact hopen rest hrest
      refine .inr ⟨hhead, ?_⟩
      split at h
      · next p hcut =>
          cases h
          obtain ⟨hs, hcolon⟩ := splitFirst_eq_some_iff.1 hcut
          exact .inr ⟨p, hs, hcolon, rfl⟩
      · next hcut =>
          cases h
          exact .inl ⟨splitFirst_eq_none_iff.1 hcut, rfl, rfl⟩

/-- An address is read from its host and its port. -/
lemma ofChars_eq (s : List Char) :
    ofChars s = splitPort (trim s) >>= fun p =>
      if p.1 = [] then .error (.emptyHost (String.ofList (trim s)))
      else (p.2.elim (.ok defaultPort) readPort).map fun n => ⟨String.ofList p.1, n⟩ := by
  unfold ofChars
  dsimp only
  cases splitPort (trim s) with
  | error e => rfl
  | ok p =>
      obtain ⟨host, port⟩ := p
      cases host with
      | nil => rfl
      | cons c rest =>
          cases port with
          | none => rfl
          | some digits =>
              simp only [bind, Except.bind, List.isEmpty_cons, Option.elim_some]
              cases readPort digits <;> rfl

/-- An address that was read has a host, and its host is that of its characters. -/
lemma ofChars_eq_ok (h : ofChars s = .ok a) :
    a.host.toList ≠ [] ∧ ∃ port, splitPort (trim s) = .ok (a.host.toList, port) := by
  rw [ofChars_eq] at h
  obtain ⟨⟨host, port⟩, hsplit, h⟩ := except_bind_eq_ok.1 h
  dsimp only at h
  split_ifs at h with hempty
  cases hport : port.elim (.ok defaultPort) readPort with
  | error e =>
      rw [hport] at h
      cases h
  | ok n =>
      rw [hport] at h
      cases h
      rw [String.toList_ofList]
      exact ⟨hempty, port, hsplit⟩

/-- An address whose text is cut into its host and the digits of its port comes back. -/
lemma ofChars_of_splitPort (hne : a.host ≠ "")
    (h : splitPort (trim s) = .ok (a.host.toList, some (Nat.toDigits 10 a.port.toNat))) :
    ofChars s = .ok a := by
  have hfull : a.host.toList ≠ [] := by simpa using hne
  rw [ofChars_eq, h]
  change (if a.host.toList = [] then _ else _ : Except ConfigError HostAddress) = _
  rw [if_neg hfull, Option.elim_some, readPort_toDigits, String.ofList_toList]
  rfl

/-! ## Which addresses come back -/

/-- The text of a host that stands alone, without blanks before it. -/
lemma trim_chars_plain (h : ':' ∉ a.host.toList) :
    trim a.chars = trimStart a.host.toList ++ ':' :: Nat.toDigits 10 a.port.toNat := by
  rw [trim_chars, hostChars, if_neg h]

/-- The text of a host in brackets. -/
lemma trim_chars_bracketed (h : ':' ∈ a.host.toList) :
    trim a.chars = '[' :: (a.host.toList ++ ']' :: ':' :: Nat.toDigits 10 a.port.toNat) := by
  have hopen : isBlank '[' = false := by decide
  rw [trim_chars, hostChars, if_pos h, trimStart, List.dropWhile_cons_of_neg (by simp [hopen])]
  simp

/-- An address that can be told from its text comes back. -/
lemma ofChars_of_isTellable (h : a.IsTellable) : ofChars a.chars = .ok a := by
  obtain ⟨hne, ⟨hcolon, hclose⟩ | ⟨hcolon, hhead⟩⟩ := h
  · apply ofChars_of_splitPort hne
    rw [trim_chars_bracketed hcolon]
    exact splitPort_bracketed hclose _
  · apply ofChars_of_splitPort hne
    obtain ⟨c, rest, hhost⟩ : ∃ c rest, a.host.toList = c :: rest :=
      List.exists_cons_of_ne_nil (by simpa using hne)
    rw [hhost] at hhead
    obtain ⟨hblank, hopen⟩ := hhead c rfl
    have hstart : trimStart a.host.toList = a.host.toList := by
      rw [hhost, trimStart, List.dropWhile_cons_of_neg (by simp [hblank])]
    rw [trim_chars_plain hcolon, hstart]
    apply splitPort_plain _ hcolon
    rw [hhost]
    simpa using hopen

/-- A host without a colon that comes back does not begin with a blank or a bracket: either is dropped, and
what is left is no longer than the host. -/
lemma head_of_splitPort {p : List Char} (hcolon : ':' ∉ host)
    (h : splitPort (trimStart host ++ ':' :: p) = .ok (host, port)) :
    ∀ c ∈ host.head?, isBlank c = false ∧ c ≠ '[' := by
  obtain ⟨gap, hgap, hhost⟩ := exists_trimStart host
  have hstart : ':' ∉ trimStart host := fun hmem => hcolon (by
    rw [hhost]
    exact List.mem_append_right _ hmem)
  rcases splitPort_eq_ok h with ⟨after, hs, _⟩ | ⟨hopen, ⟨hnone, _⟩ | ⟨p', hs, _⟩⟩
  · -- The first colon would stand behind the host in its brackets, and behind the host without.
    exfalso
    have hbracketed : ':' ∉ '[' :: (host ++ [']']) := by simp [hcolon]
    have hs' : trimStart host ++ ':' :: p = ('[' :: (host ++ [']'])) ++ after := by simpa using hs
    have hlength := congrArg List.length hhost
    rw [List.length_append] at hlength
    rcases List.append_eq_append_iff.1 hs' with ⟨middle, hmiddle, hbehind⟩ | ⟨middle, hmiddle, _⟩
    · cases middle with
      | nil =>
          have hlength' := congrArg List.length hmiddle
          simp at hlength'
          omega
      | cons c rest =>
          cases hbehind
          exact hbracketed (by simp [hmiddle])
    · have hlength' := congrArg List.length hmiddle
      simp at hlength'
      omega
  · simp at hnone
  · have hcut := splitFirst_append hstart p
    rw [hs, splitFirst_append hcolon] at hcut
    have hsame : host = trimStart host := congrArg Prod.fst (Option.some.inj hcut)
    intro c hc
    obtain ⟨rest, hrest⟩ := List.head?_eq_some_iff.1 hc
    refine ⟨?_, fun hbracket => hopen ?_⟩
    · by_contra hblank
      rw [hrest, trimStart, List.dropWhile_cons_of_pos (by simpa using hblank)] at hsame
      have hlength := List.length_dropWhile_le isBlank rest
      rw [← hsame, List.length_cons] at hlength
      omega
    · rw [← hsame, hrest, hbracket]
      rfl

/-- An address comes back from its text exactly when it can be told from it. -/
lemma ofChars_chars_iff : ofChars a.chars = .ok a ↔ a.IsTellable := by
  refine ⟨fun h => ?_, ofChars_of_isTellable⟩
  obtain ⟨hne, port, hsplit⟩ := ofChars_eq_ok h
  refine ⟨by simpa using hne, ?_⟩
  by_cases hcolon : ':' ∈ a.host.toList
  · rw [trim_chars_bracketed hcolon] at hsplit
    rcases splitPort_eq_ok hsplit with ⟨_, _, hclose, _⟩ | ⟨hopen, _⟩
    · exact .inl ⟨hcolon, hclose⟩
    · exact absurd rfl hopen
  · rw [trim_chars_plain hcolon] at hsplit
    exact .inr ⟨hcolon, head_of_splitPort hcolon hsplit⟩

/-- The text of an address is read as that address exactly when the host is there and either has a colon
and closes no bracket, or has no colon and begins with neither a blank nor a bracket. -/
theorem parse_text_iff (host : String) (port : UInt16) :
    parse (⟨host, port⟩ : HostAddress).text = .ok ⟨host, port⟩ ↔
      host ≠ "" ∧
        (':' ∈ host.toList ∧ ']' ∉ host.toList ∨
          ':' ∉ host.toList ∧ (∀ c ∈ host.toList.head?, isBlank c = false) ∧
            host.toList.head? ≠ some '[') := by
  have hhead : (∀ c ∈ host.toList.head?, isBlank c = false ∧ c ≠ '[') ↔
      (∀ c ∈ host.toList.head?, isBlank c = false) ∧ host.toList.head? ≠ some '[' := by
    rw [forall₂_and]
    refine and_congr_right fun _ => ?_
    cases host.toList.head? <;> simp
  rw [parse, text, String.toList_ofList, ofChars_chars_iff, IsTellable, hhead]

/-! ## What is known of an address that was read -/

/-- Its host is part of the text. -/
lemma mem_of_ofChars (h : ofChars s = .ok a) {c : Char} (hc : c ∈ a.host.toList) : c ∈ s := by
  obtain ⟨_, port, hsplit⟩ := ofChars_eq_ok h
  obtain ⟨gap, gap', _, _, hs⟩ := exists_trim s
  have htrim : c ∈ trim s := by
    rcases splitPort_eq_ok hsplit with ⟨after, htrim, _⟩ | ⟨_, ⟨_, hhost, _⟩ | ⟨p, htrim, _⟩⟩
    · rw [htrim]
      simp [hc]
    · rwa [← hhost]
    · rw [htrim]
      exact List.mem_append_left _ hc
  rw [hs]
  exact List.mem_append_right _ (List.mem_append_left _ htrim)

/-- Its host does not close brackets if it has to stand in some. -/
lemma isTellable_iff_of_ofChars (h : ofChars s = .ok a) :
    a.IsTellable ↔
      ':' ∈ a.host.toList ∨ ∀ c ∈ a.host.toList.head?, isBlank c = false ∧ c ≠ '[' := by
  obtain ⟨hne, port, hsplit⟩ := ofChars_eq_ok h
  have hclose (hcolon : ':' ∈ a.host.toList) : ']' ∉ a.host.toList := by
    rcases splitPort_eq_ok hsplit with ⟨_, _, hclose, _⟩ | ⟨_, ⟨hnone, hhost, _⟩ | ⟨_, _, hnone, _⟩⟩
    · exact hclose
    · rw [← hhost] at hnone
      exact absurd hcolon hnone
    · exact absurd hcolon hnone
  constructor
  · rintro ⟨_, ⟨hcolon, _⟩ | ⟨_, hhead⟩⟩
    · exact .inl hcolon
    · exact .inr hhead
  · intro htell
    refine ⟨by simpa using hne, ?_⟩
    by_cases hcolon : ':' ∈ a.host.toList
    · exact .inl ⟨hcolon, hclose hcolon⟩
    · exact .inr ⟨hcolon, htell.resolve_left hcolon⟩

/-! ## The characters of a text -/

/-- A mark that a host does not have is not in its text, unless it belongs to every text. -/
lemma notMem_chars {c : Char} (hhost : c ∉ a.host.toList) (hmark : c ∉ ['[', ']', ':'])
    (hdigit : c.isDigit = false) : c ∉ a.chars := by
  have hport : c ∉ Nat.toDigits 10 a.port.toNat := fun h => by
    rw [isDigit_of_mem_toDigits h] at hdigit
    cases hdigit
  have hhost' : c ∉ a.hostChars := by
    unfold hostChars
    split_ifs
    · simp_all
    · exact hhost
  rw [chars_eq, List.mem_append, List.mem_cons]
  simp_all

/-- A text ends with a character that is not blank. -/
lemma exists_last (a : HostAddress) : ∃ front c, a.chars = front ++ [c] ∧ isBlank c = false := by
  obtain ⟨front, d, hdigits, hd⟩ := exists_last_digit a.port.toNat
  refine ⟨a.hostChars ++ ':' :: front, d, ?_, hd⟩
  rw [chars_eq, hdigits]
  simp

end ColumnWire.Session.HostAddress
