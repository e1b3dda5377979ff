import Mathlib.Tactic.Common
import ColumnWire.Proofs.Text.Split
import ColumnWire.Text.FormEncoded

/-!
# Form encoding and back

What a text that carries pairs relies on is `FormCoding`: the pairs come back, and they are written with
visible characters. Form encoding keeps it (`formCoding`). A text is written byte for byte, so it comes back
if each byte does (`formBytes_formByte_append`) and the bytes of a text spell its characters
(`ofUtf8Lossy_utf8Of`). The characters that are written are visible, and neither an ampersand nor an equals
sign is among those of a text (`mem_formByte`), so the pairs can be cut apart.
-/

namespace ColumnWire.Text

/-! ## UTF-8 -/

/-- The bytes of a text, character for character. -/
def utf8Of (s : List Char) : List UInt8 :=
  s.flatMap String.utf8EncodeChar

/-- The bytes of a string are those of its characters. -/
lemma toByteArray_ofList (s : List Char) :
    (String.ofList s).toByteArray.data.toList = utf8Of s := by
  simp [utf8Of, List.utf8Encode]

/-- A byte below 256 is that number. -/
lemma toNat_byte {m : Nat} (h : m < 256) : (UInt8.ofNat m).toNat = m :=
  UInt8.toNat_ofNat_of_lt' h

section Front

variable {n k count low high value used : Nat} {rest : List UInt8}

/-- The bytes that follow the first one carry six bits each. -/
lemma continueWith_cons (hlow : low ≤ k % 64 + 0x80) (hhigh : k % 64 + 0x80 ≤ high) :
    continueWith (count + 1) low high value used (UInt8.ofNat (k % 64 + 0x80) :: rest) =
      continueWith count 0x80 0xbf (value * 64 + k % 64) (used + 1) rest := by
  have hbits : (k % 64 + 0x80) % 64 = k % 64 := by omega
  rw [continueWith, toNat_byte (by omega), if_pos ⟨hlow, hhigh⟩, hbits]

/-- The first byte of two. -/
lemma leadByte_of_two (hn : 0x7f < n) (hn' : n ≤ 0x7ff) :
    leadByte (n / 64 % 32 + 0xc0) = some (1, 0x80, 0xbf, n / 64) := by
  have hbits : n / 64 % 32 + 0xc0 - 0xc0 = n / 64 := by omega
  rw [leadByte, if_pos (by omega), hbits]

/-- The first byte of three. The second one is bounded where the character might be shorter or a
surrogate. -/
lemma leadByte_of_three (hn : 0x7ff < n) (hn' : n ≤ 0xffff) (hvalid : n < 0xd800 ∨ 0xdfff < n) :
    ∃ low high, leadByte (n / 4096 % 16 + 0xe0) = some (2, low, high, n / 4096) ∧
      low ≤ n / 64 % 64 + 0x80 ∧ n / 64 % 64 + 0x80 ≤ high := by
  have hbits : n / 4096 % 16 + 0xe0 - 0xe0 = n / 4096 := by omega
  rw [leadByte, if_neg (by omega), hbits]
  split_ifs with hfirst hsurrogate
  · exact ⟨0xa0, 0xbf, by rw [show n / 4096 = 0 by omega], by omega, by omega⟩
  · exact ⟨0x80, 0x9f, rfl, by omega, by omega⟩
  · exact ⟨0x80, 0xbf, rfl, by omega, by omega⟩
  all_goals omega

/-- The first byte of four. The second one is bounded where the character might be shorter or beyond the
last one. -/
lemma leadByte_of_four (hn : 0xffff < n) (hn' : n < 0x110000) :
    ∃ low high, leadByte (n / 262144 % 8 + 0xf0) = some (3, low, high, n / 262144) ∧
      low ≤ n / 4096 % 64 + 0x80 ∧ n / 4096 % 64 + 0x80 ≤ high := by
  have hbits : n / 262144 % 8 + 0xf0 - 0xf0 = n / 262144 := by omega
  rw [leadByte, if_neg (by omega), if_neg (by omega), if_neg (by omega), if_neg (by omega), hbits]
  split_ifs with hfirst hmiddle hlast
  · exact ⟨0x90, 0xbf, by rw [show n / 262144 = 0 by omega], by omega, by omega⟩
  · exact ⟨0x80, 0xbf, rfl, by omega, by omega⟩
  · exact ⟨0x80, 0x8f, by rw [show n / 262144 = 4 by omega], by omega, by omega⟩
  all_goals omega

end Front

/-- The first byte of several is not one of a character of one byte. -/
lemma not_byte_lt {m : Nat} (h : 0x80 ≤ m) (h' : m < 256) : ¬ UInt8.ofNat m < 0x80 := by
  rw [UInt8.lt_iff_toNat_lt, toNat_byte h']
  exact Nat.not_lt.2 h

/-- The bytes of a character at the front are read as that character, and no more. -/
lemma frontChar_utf8EncodeChar (c : Char) (rest : List UInt8) :
    ∃ b more, String.utf8EncodeChar c = b :: more ∧
      frontChar b (more ++ rest) = (c, more.length) := by
  have hvalid : c.toNat < 0xd800 ∨ 0xdfff < c.toNat ∧ c.toNat < 0x110000 := c.valid
  have hchar : Char.ofNat c.toNat = c := Char.ofNat_toNat c
  unfold String.utf8EncodeChar
  simp only [show c.val.toNat = c.toNat from rfl]
  split_ifs with h1 h2 h3
  · refine ⟨_, _, rfl, ?_⟩
    have hlow : UInt8.ofNat c.toNat < 0x80 := by
      rw [UInt8.lt_iff_toNat_lt, toNat_byte (by omega)]
      exact Nat.lt_succ_of_le h1
    rw [frontChar, if_pos hlow, toNat_byte (by omega), hchar]
    rfl
  · have hsum : c.toNat / 64 * 64 + c.toNat % 64 = c.toNat := by omega
    refine ⟨_, _, rfl, ?_⟩
    rw [frontChar, if_neg (not_byte_lt (by omega) (by omega)), toNat_byte (by omega),
      leadByte_of_two (by omega) h2]
    dsimp only [List.cons_append, List.nil_append]
    rw [continueWith_cons (by omega) (by omega), continueWith, hsum, hchar]
    rfl
  · have hsum : (c.toNat / 4096 * 64 + c.toNat / 64 % 64) * 64 + c.toNat % 64 = c.toNat := by omega
    obtain ⟨low, high, hfirst, hlow, hhigh⟩ := leadByte_of_three (n := c.toNat) (by omega) h3 (by omega)
    refine ⟨_, _, rfl, ?_⟩
    rw [frontChar, if_neg (not_byte_lt (by omega) (by omega)), toNat_byte (by omega), hfirst]
    dsimp only [List.cons_append, List.nil_append]
    rw [continueWith_cons hlow hhigh, continueWith_cons (by omega) (by omega), continueWith, hsum,
      hchar]
    rfl
  · have hsum : ((c.toNat / 262144 * 64 + c.toNat / 4096 % 64) * 64 + c.toNat / 64 % 64) * 64 +
        c.toNat % 64 = c.toNat := by omega
    obtain ⟨low, high, hfirst, hlow, hhigh⟩ := leadByte_of_four (n := c.toNat) (by omega) (by omega)
    refine ⟨_, _, rfl, ?_⟩
    rw [frontChar, if_neg (not_byte_lt (by omega) (by omega)), toNat_byte (by omega), hfirst]
    dsimp only [List.cons_append, List.nil_append]
    rw [continueWith_cons hlow hhigh, continueWith_cons (by omega) (by omega),
      continueWith_cons (by omega) (by omega), continueWith, hsum, hchar]
    rfl

/-- The bytes of a text are read as its characters. -/
lemma lossyChars_utf8Of {fuel : Nat} {s : List Char} (h : (utf8Of s).length ≤ fuel) :
    lossyChars fuel (utf8Of s) = s := by
  induction s generalizing fuel with
  | nil => cases fuel <;> rfl
  | cons c rest ih =>
      obtain ⟨b, more, hbytes, hfront⟩ := frontChar_utf8EncodeChar c (utf8Of rest)
      have hsplit : utf8Of (c :: rest) = b :: (more ++ utf8Of rest) := by
        rw [utf8Of, List.flatMap_cons, hbytes]
        rfl
      rw [hsplit, List.length_cons, List.length_append] at h
      obtain ⟨fuel, rfl⟩ : ∃ k, fuel = k + 1 := ⟨fuel - 1, by omega⟩
      rw [hsplit, lossyChars, hfront]
      dsimp only
      rw [List.drop_left, ih (by omega)]

/-- So the bytes of a text are read without a replacement. -/
lemma ofUtf8Lossy_utf8Of (s : List Char) : ofUtf8Lossy (utf8Of s) = s :=
  lossyChars_utf8Of (Nat.le_refl _)

/-! ## Bytes -/

/-- What a byte is written with: a visible character that neither separates pairs nor a name from its
value. -/
def IsFormChar (c : Char) : Prop :=
  0x20 < c.toNat ∧ c.toNat < 0x7f ∧ c ≠ '&' ∧ c ≠ '='

instance : DecidablePred IsFormChar := fun c =>
  inferInstanceAs (Decidable (0x20 < c.toNat ∧ c.toNat < 0x7f ∧ c ≠ '&' ∧ c ≠ '='))

variable {b : UInt8} {n : Nat} {c : Char}

/-- Characters of one byte are written as that byte. -/
lemma utf8Of_ascii {s : List Char} (h : ∀ c ∈ s, c.toNat < 0x80) :
    utf8Of s = s.map fun c => UInt8.ofNat c.toNat := by
  induction s with
  | nil => rfl
  | cons c rest ih =>
      have hc : c.val.toNat ≤ 0x7f := Nat.le_of_lt_succ (h c List.mem_cons_self)
      have hbytes : String.utf8EncodeChar c = [UInt8.ofNat c.toNat] := by
        rw [String.utf8EncodeChar]
        exact if_pos hc
      rw [utf8Of, List.flatMap_cons, hbytes, List.map_cons]
      exact congrArg (_ :: ·) (ih fun c hc => h c (List.mem_cons_of_mem _ hc))

/-- A byte that stands for itself is visible, and none of the marks. -/
lemma bounds_of_isUnreserved (h : isUnreserved b = true) :
    0x20 < b.toNat ∧ b.toNat < 0x7f ∧ b.toNat ≠ 0x25 ∧ b.toNat ≠ 0x26 ∧ b.toNat ≠ 0x2b ∧
      b.toNat ≠ 0x3d := by
  simp only [isUnreserved, Bool.or_eq_true, Bool.and_eq_true, decide_eq_true_eq, beq_iff_eq,
    UInt8.le_iff_toNat_le, ← UInt8.toNat_inj] at h
  simp only [UInt8.reduceToNat] at h
  omega

/-- The two digits of a byte are digits. -/
lemma upperHex_spec (h : n < 16) : IsFormChar (upperHex n) ∧
    hexValue? (UInt8.ofNat (upperHex n).toNat) = some n := by
  have hall : ∀ n < 16, IsFormChar (upperHex n) ∧
      hexValue? (UInt8.ofNat (upperHex n).toNat) = some n := by decide
  exact hall n h

/-- A small number is the code of its character. -/
lemma toNat_ofNat_char (h : n < 0x80) : (Char.ofNat n).toNat = n := by
  have hvalid : n.isValidChar := .inl (by omega)
  rw [Char.ofNat, dif_pos hvalid]
  rfl

/-- How a byte is written. -/
lemma mem_formByte (h : c ∈ formByte b) : IsFormChar c := by
  unfold formByte at h
  split_ifs at h with hself hspace
  · obtain ⟨hlow, hhigh, _, hamp, _, heq⟩ := bounds_of_isUnreserved hself
    have hcode := toNat_ofNat_char (n := b.toNat) (by omega)
    rw [List.mem_singleton] at h
    subst h
    refine ⟨by omega, by omega, fun h => ?_, fun h => ?_⟩
    · rw [h] at hcode
      exact hamp hcode.symm
    · rw [h] at hcode
      exact heq hcode.symm
  · rw [List.mem_singleton] at h
    subst h
    decide
  · have hb := b.toNat_lt
    simp only [List.mem_cons, List.not_mem_nil, or_false] at h
    rcases h with rfl | rfl | rfl
    · decide
    · exact (upperHex_spec (by omega)).1
    · exact (upperHex_spec (by omega)).1

/-- A byte that is no percent sign stands for one byte. -/
lemma formBytes_cons (h : b ≠ 0x25) (rest : List UInt8) :
    formBytes (b :: rest) = spaced b :: formBytes rest := by
  match rest with
  | [] => rfl
  | [x] => rfl
  | x :: y :: more => rw [formBytes, if_neg h]

/-- A byte that was written comes back. -/
lemma formBytes_formByte_append (b : UInt8) (rest : List UInt8) :
    formBytes (utf8Of (formByte b) ++ rest) = b :: formBytes rest := by
  rw [utf8Of_ascii fun c hc => Nat.lt_succ_of_lt (mem_formByte hc).2.1]
  unfold formByte
  split_ifs with hself hspace
  · obtain ⟨_, hhigh, hpercent, _, hplus, _⟩ := bounds_of_isUnreserved hself
    have hcode : UInt8.ofNat (Char.ofNat b.toNat).toNat = b := by
      rw [toNat_ofNat_char (by omega), UInt8.ofNat_toNat]
    have hne : b ≠ 0x25 := fun h => hpercent (congrArg UInt8.toNat h)
    have hne' : b ≠ 0x2b := fun h => hplus (congrArg UInt8.toNat h)
    rw [List.map_singleton, hcode, List.singleton_append, formBytes_cons hne, spaced, if_neg hne']
  · subst hspace
    exact formBytes_cons (by decide) rest
  · have hb := b.toNat_lt
    obtain ⟨_, hfirst⟩ := upperHex_spec (n := b.toNat / 16) (by omega)
    obtain ⟨_, hlast⟩ := upperHex_spec (n := b.toNat % 16) (by omega)
    simp only [List.map_cons, List.map_nil, List.cons_append, List.nil_append]
    rw [formBytes, if_pos (by decide), hfirst, hlast]
    have hsum : 16 * (b.toNat / 16) + b.toNat % 16 = b.toNat := by omega
    simp only [hsum, UInt8.ofNat_toNat]

/-- So do bytes. -/
lemma formBytes_flatMap (bytes : List UInt8) :
    formBytes (utf8Of (bytes.flatMap formByte)) = bytes := by
  induction bytes with
  | nil => rfl
  | cons b rest ih =>
      have hsplit : utf8Of (formByte b ++ rest.flatMap formByte) =
          utf8Of (formByte b) ++ utf8Of (rest.flatMap formByte) := List.flatMap_append
      rw [List.flatMap_cons, hsplit, formBytes_formByte_append, ih]

/-! ## Pairs -/

/-- A text comes back. -/
lemma formDecode_formEncode (s : String) : formDecode (formEncode s) = s := by
  rw [formDecode, toByteArray_ofList, formEncode, formBytes_flatMap]
  have hbytes : s.toByteArray.data.toList = utf8Of s.toList := by
    rw [← toByteArray_ofList, String.ofList_toList]
  rw [hbytes, ofUtf8Lossy_utf8Of, String.ofList_toList]

/-- A text is written with such characters. -/
lemma mem_formEncode {s : String} (h : c ∈ formEncode s) : IsFormChar c := by
  obtain ⟨b, _, hc⟩ := List.mem_flatMap.1 h
  exact mem_formByte hc

/-- A pair is written with such characters and an equals sign. -/
lemma mem_formPair {p : String × String} (h : c ∈ formPair p) : IsFormChar c ∨ c = '=' := by
  rcases List.mem_append.1 h with h | h
  · exact .inl (mem_formEncode h)
  rcases List.mem_cons.1 h with rfl | h
  · exact .inr rfl
  · exact .inl (mem_formEncode h)

/-- A pair is not written as nothing. -/
lemma formPair_ne_nil (p : String × String) : formPair p ≠ [] := by
  simp [formPair]

/-- A pair comes back. -/
lemma readFormPair_formPair (p : String × String) : readFormPair (formPair p) = p := by
  have hname : '=' ∉ formEncode p.1 := fun h => (mem_formEncode h).2.2.2 rfl
  rw [readFormPair, formPair, splitFirst_append hname]
  simp only [formDecode_formEncode]

/-- Nothing is written for no pairs alone. -/
lemma formPairs_eq_nil {ps : List (String × String)} : formPairs ps = [] ↔ ps = [] := by
  constructor
  · intro h
    rcases ps with _ | ⟨p, rest⟩
    · rfl
    · obtain ⟨c, hc⟩ := List.exists_mem_of_ne_nil _ (formPair_ne_nil p)
      have hmem : c ∈ formPairs (p :: rest) :=
        mem_joinWith_of_mem (List.mem_map_of_mem List.mem_cons_self) hc
      rw [h] at hmem
      cases hmem
  · rintro rfl
    rfl

/-- Pairs are written with visible characters. -/
lemma mem_formPairs {ps : List (String × String)} (h : c ∈ formPairs ps) :
    0x20 < c.toNat ∧ c.toNat < 0x7f := by
  rcases mem_joinWith h with ⟨part, hpart, hc⟩ | hc
  · obtain ⟨p, _, rfl⟩ := List.mem_map.1 hpart
    rcases mem_formPair hc with hc | rfl
    · exact ⟨hc.1, hc.2.1⟩
    · decide
  · rw [List.mem_singleton] at hc
    subst hc
    decide

/-- Pairs come back. -/
lemma readFormPairs_formPairs (ps : List (String × String)) : readFormPairs (formPairs ps) = ps := by
  by_cases hps : ps = []
  · subst hps
    rfl
  have hparts : ∀ part ∈ ps.map formPair, '&' ∉ part := by
    intro part hpart hamp
    obtain ⟨p, _, rfl⟩ := List.mem_map.1 hpart
    rcases mem_formPair hamp with h | h
    · exact h.2.2.1 rfl
    · cases h
  have hfull : ∀ part ∈ ps.map formPair, (!part.isEmpty) = true := by
    intro part hpart
    obtain ⟨p, _, rfl⟩ := List.mem_map.1 hpart
    simp [formPair_ne_nil p]
  rw [readFormPairs, formPairs, splitEvery_joinWith hparts (by simpa using hps),
    List.filter_eq_self.2 hfull, List.map_map]
  exact List.map_id'' (fun p => readFormPair_formPair p) ps

/-- What is relied on when pairs of texts are written as one text and read again. -/
structure FormCoding (write : List (String × String) → List Char)
    (read : List Char → List (String × String)) : Prop where
  /-- Pairs come back, in their order. -/
  read_write : ∀ ps, read (write ps) = ps
  /-- Nothing is written for no pairs alone. -/
  write_eq_nil : ∀ {ps}, write ps = [] ↔ ps = []
  /-- Pairs are written with visible characters. -/
  visible : ∀ {ps c}, c ∈ write ps → 0x20 < c.toNat ∧ c.toNat < 0x7f

/-- Form encoding may be relied on. -/
theorem formCoding : FormCoding formPairs readFormPairs where
  read_write := readFormPairs_formPairs
  write_eq_nil := formPairs_eq_nil
  visible := mem_formPairs

end ColumnWire.Text
