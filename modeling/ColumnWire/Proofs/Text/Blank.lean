import Mathlib.Data.List.Forall2
import Mathlib.Data.List.TakeWhile
import Mathlib.Tactic.Common
import ColumnWire.Text.Blank

/-!
# Blanks around and between tokens

Trimming drops blanks and nothing else (`exists_trim`), and blanks around a text do not change what is
left of it (`trim_append_blanks`): the text between them that begins and ends with something else
(`trim_eq_iff`). `Spaced tokens s` says that a text is made of tokens in order with any
number of blanks before, between and behind them; it can be cut between any two tokens
(`spaced_append`).
-/

namespace ColumnWire.Text

/-- A text of blanks alone. -/
def Blank (gap : List Char) : Prop :=
  ∀ c ∈ gap, isBlank c = true

variable {gap gap' s s' x : List Char}

/-- No characters are blanks alone. -/
lemma Blank.nil : Blank [] := by
  intro c hc
  cases hc

/-- Blanks behind blanks are blanks. -/
lemma Blank.append (h : Blank gap) (h' : Blank gap') : Blank (gap ++ gap') := by
  intro c hc
  rcases List.mem_append.1 hc with hc | hc
  · exact h c hc
  · exact h' c hc

/-! ## Trimming -/

/-- Only blanks are dropped from the front. -/
lemma exists_trimStart (s : List Char) : ∃ gap, Blank gap ∧ s = gap ++ trimStart s :=
  ⟨s.takeWhile isBlank, fun _ hc => List.mem_takeWhile_imp hc, List.takeWhile_append_dropWhile.symm⟩

/-- Only blanks are dropped from the back. -/
lemma exists_trimEnd (s : List Char) : ∃ gap, Blank gap ∧ s = trimEnd s ++ gap := by
  obtain ⟨gap, hgap, hs⟩ := exists_trimStart s.reverse
  refine ⟨gap.reverse, fun c hc => hgap c (List.mem_reverse.1 hc), ?_⟩
  have hback := congrArg List.reverse hs
  rwa [List.reverse_reverse, List.reverse_append] at hback

/-- Only blanks are dropped, from both ends. -/
lemma exists_trim (s : List Char) :
    ∃ gap gap', Blank gap ∧ Blank gap' ∧ s = gap ++ (trim s ++ gap') := by
  obtain ⟨gap, hgap, hs⟩ := exists_trimStart s
  obtain ⟨gap', hgap', hs'⟩ := exists_trimEnd (trimStart s)
  exact ⟨gap, gap', hgap, hgap', hs.trans (congrArg (gap ++ ·) hs')⟩

/-- Blanks before a text are dropped. -/
lemma trimStart_append (h : Blank gap) : trimStart (gap ++ s) = trimStart s :=
  List.dropWhile_append_of_pos h

/-- Blanks behind a text are dropped. -/
lemma trimEnd_append (h : Blank gap) : trimEnd (s ++ gap) = trimEnd s := by
  unfold trimEnd
  rw [List.reverse_append]
  exact congrArg List.reverse (trimStart_append fun c hc => h c (List.mem_reverse.1 hc))

/-- What comes before a character that is not blank is trimmed on its own. -/
lemma trimStart_append_cons {c : Char} (hc : isBlank c = false) (s s' : List Char) :
    trimStart (s ++ c :: s') = trimStart s ++ c :: s' := by
  unfold trimStart
  rw [List.dropWhile_append]
  split_ifs with h
  · rw [List.dropWhile_cons_of_neg (by simp [hc]), List.isEmpty_iff.1 h, List.nil_append]
  · rfl

/-- So is what comes behind one. -/
lemma trimEnd_append_cons {c : Char} (hc : isBlank c = false) (s s' : List Char) :
    trimEnd (s ++ c :: s') = s ++ c :: trimEnd s' := by
  unfold trimEnd
  have hback : (s ++ c :: s').reverse = s'.reverse ++ c :: s.reverse := by simp
  have hstart := trimStart_append_cons hc s'.reverse s.reverse
  unfold trimStart at hstart
  rw [hback, hstart]
  simp

/-- Blanks around a text do not change what is left of it. -/
lemma trim_append_blanks (h : Blank gap) (h' : Blank gap') :
    trim (gap ++ (s ++ gap')) = trim s := by
  rw [trim, trimStart_append h, trim]
  by_cases hs : trimStart s = []
  · -- The text is blank itself, so blanks are all there is.
    have hall : trimStart (s ++ gap') = [] := by
      rw [trimStart, List.dropWhile_eq_nil_iff] at hs ⊢
      intro c hc
      rcases List.mem_append.1 hc with hc | hc
      · exact hs c hc
      · exact h' c hc
    rw [hall, hs]
  · have hkeep : trimStart (s ++ gap') = trimStart s ++ gap' := by
      rw [trimStart, List.dropWhile_append, if_neg (by simpa [trimStart] using hs)]
      rfl
    rw [hkeep, trimEnd_append h']

/-- What was trimmed stays. -/
lemma trim_trim (s : List Char) : trim (trim s) = trim s := by
  obtain ⟨gap, gap', hgap, hgap', hs⟩ := exists_trim s
  have htrim := trim_append_blanks (s := trim s) hgap hgap'
  rw [← hs] at htrim
  exact htrim.symm

/-- A text with neither end blank stays. -/
lemma trim_of_ends {c d : Char} (hc : isBlank c = false) (hd : isBlank d = false) (s : List Char) :
    trim (c :: (s ++ [d])) = c :: (s ++ [d]) := by
  have hstart : trimStart (c :: (s ++ [d])) = c :: (s ++ [d]) := by simp [trimStart, hc]
  have hend : (c :: (s ++ [d])).reverse = d :: (c :: s).reverse := by simp
  rw [trim, hstart, trimEnd, hend, List.dropWhile_cons, if_neg (by simp [hd])]
  simp

/-- A text without blanks stays. -/
lemma trim_of_no_blank (h : ∀ c ∈ s, isBlank c = false) : trim s = s := by
  cases s with
  | nil => rfl
  | cons c rest =>
      have hc := h c List.mem_cons_self
      rcases List.eq_nil_or_concat rest with rfl | ⟨front, d, rfl⟩
      · simp [trim, trimStart, trimEnd, hc]
      · rw [List.concat_eq_append] at h ⊢
        exact trim_of_ends hc (h d (by simp)) front

/-- The end of a text is trimmed if it is blank. -/
lemma trimEnd_eq_self_iff : trimEnd s = s ↔ ∀ c ∈ s.getLast?, isBlank c = false := by
  rcases List.eq_nil_or_concat s with rfl | ⟨front, c, rfl⟩
  · simp [trimEnd]
  rw [List.concat_eq_append]
  have hback : trimEnd (front ++ [c]) = front ++ [c] ↔ isBlank c = false := by
    constructor
    · intro h
      by_contra hc
      have hgap : Blank [c] := fun x hx => by
        rw [List.mem_singleton.1 hx]
        simpa using hc
      obtain ⟨gap, _, hfront⟩ := exists_trimEnd front
      have hlength := congrArg List.length hfront
      rw [trimEnd_append hgap] at h
      rw [h] at hlength
      simp at hlength
    · intro hc
      exact trimEnd_append_cons hc front []
  rw [hback]
  simp

/-- The beginning of a text is trimmed if it is blank. -/
lemma trimStart_eq_self_iff : trimStart s = s ↔ ∀ c ∈ s.head?, isBlank c = false := by
  cases s with
  | nil => simp [trimStart]
  | cons c rest =>
      simp only [trimStart, List.head?_cons, Option.mem_some_iff, forall_eq']
      constructor
      · intro h
        by_contra hc
        have hlength := congrArg List.length h
        rw [List.dropWhile_cons_of_pos (by simpa using hc), List.length_cons] at hlength
        have hle := (List.dropWhile_suffix (l := rest) isBlank).length_le
        omega
      · intro hc
        exact List.dropWhile_cons_of_neg (by simp [hc])

/-- A text stays if neither end of it is blank. -/
lemma trim_eq_self_iff :
    trim s = s ↔ (∀ c ∈ s.head?, isBlank c = false) ∧ ∀ c ∈ s.getLast?, isBlank c = false := by
  rw [← trimStart_eq_self_iff, ← trimEnd_eq_self_iff]
  constructor
  · intro h
    -- Neither end can have lost a character, since together they have lost none.
    obtain ⟨gap, _, hs⟩ := exists_trimStart s
    obtain ⟨gap', _, hs'⟩ := exists_trimEnd (trimStart s)
    have hstart := congrArg List.length hs
    have hend := congrArg List.length hs'
    have hall := congrArg List.length h
    rw [List.length_append] at hstart hend
    rw [trim] at hall
    have hgap : gap = [] := List.eq_nil_of_length_eq_zero (by omega)
    have hself : trimStart s = s := by
      rw [hgap] at hs
      exact hs.symm
    refine ⟨hself, ?_⟩
    rw [trim, hself] at h
    exact h
  · rintro ⟨hstart, hend⟩
    rw [trim, hstart, hend]

/-- `x` is `s` without the blanks around it. -/
structure TrimsTo (s x : List Char) : Prop where
  /-- There is nothing but blanks around it. -/
  around : ∃ gap gap', Blank gap ∧ Blank gap' ∧ s = gap ++ (x ++ gap')
  /-- It begins with no blank. -/
  first : ∀ c ∈ x.head?, isBlank c = false
  /-- It ends with no blank. -/
  last : ∀ c ∈ x.getLast?, isBlank c = false

/-- What is left of a text is the one without the blanks around it. -/
lemma trim_eq_iff : trim s = x ↔ TrimsTo s x := by
  constructor
  · rintro rfl
    obtain ⟨hfirst, hlast⟩ := trim_eq_self_iff.1 (trim_trim s)
    exact ⟨exists_trim s, hfirst, hlast⟩
  · rintro ⟨⟨gap, gap', hgap, hgap', rfl⟩, hfirst, hlast⟩
    rw [trim_append_blanks hgap hgap']
    exact trim_eq_self_iff.2 ⟨hfirst, hlast⟩

/-- So are the texts that are left of several. -/
lemma forall₂_trimsTo_iff {texts left : List (List Char)} :
    List.Forall₂ TrimsTo texts left ↔ left = texts.map trim := by
  have hrel : TrimsTo = fun s x => trim s = x := by
    funext s x
    exact propext trim_eq_iff.symm
  rw [hrel, ← List.forall₂_map_left_iff (f := trim) (R := Eq), List.forall₂_eq_eq_eq]
  exact eq_comm

/-! ## Tokens -/

/-- The text is made of the tokens in order, with any number of blanks before, between and behind
them. -/
inductive Spaced : List (List Char) → List Char → Prop where
  /-- No token: blanks alone. -/
  | nil {gap : List Char} (h : Blank gap) : Spaced [] gap
  /-- Blanks, a token, and others behind it. -/
  | cons {gap token rest : List Char} {tokens : List (List Char)} (h : Blank gap)
      (hrest : Spaced tokens rest) : Spaced (token :: tokens) (gap ++ (token ++ rest))

variable {tokens tokens' : List (List Char)}

/-- Without tokens there are blanks alone. -/
lemma spaced_nil : Spaced [] x ↔ Blank x := by
  constructor
  · rintro ⟨h⟩
    exact h
  · exact .nil

/-- Before the first token stand blanks, and behind it the others. -/
lemma spaced_cons {token : List Char} : Spaced (token :: tokens) x ↔
    ∃ gap rest, Blank gap ∧ x = gap ++ (token ++ rest) ∧ Spaced tokens rest := by
  constructor
  · rintro (_ | ⟨hgap, hrest⟩)
    exact ⟨_, _, hgap, rfl, hrest⟩
  · rintro ⟨gap, rest, hgap, rfl, hrest⟩
    exact .cons hgap hrest

/-- There may be more blanks before the tokens. -/
lemma Spaced.blank_append (h : Spaced tokens s) (hgap : Blank gap) : Spaced tokens (gap ++ s) := by
  cases h with
  | nil h => exact .nil (hgap.append h)
  | cons h hrest =>
      rw [← List.append_assoc]
      exact .cons (hgap.append h) hrest

/-- Tokens stand behind tokens. -/
lemma Spaced.append (h : Spaced tokens s) (h' : Spaced tokens' s') :
    Spaced (tokens ++ tokens') (s ++ s') := by
  induction h with
  | nil hgap => exact h'.blank_append hgap
  | cons hgap _ ih =>
      rw [List.append_assoc, List.append_assoc]
      exact .cons hgap ih

/-- A text of tokens can be cut between any two of them. -/
lemma spaced_append : Spaced (tokens ++ tokens') x ↔
    ∃ s s', x = s ++ s' ∧ Spaced tokens s ∧ Spaced tokens' s' := by
  constructor
  · intro h
    induction tokens generalizing x with
    | nil => exact ⟨[], x, rfl, .nil .nil, h⟩
    | cons token rest ih =>
        cases h with
        | @cons gap _ y _ hgap hrest =>
            obtain ⟨s, s', rfl, hs, hs'⟩ := ih hrest
            exact ⟨gap ++ (token ++ s), s', by simp, .cons hgap hs, hs'⟩
  · rintro ⟨s, s', rfl, hs, hs'⟩
    exact hs.append hs'

/-- Blanks around a text do not change its tokens. -/
lemma Spaced.of_trim (h : Spaced tokens (trim s)) : Spaced tokens s := by
  obtain ⟨gap, gap', hgap, hgap', hs⟩ := exists_trim s
  have hback := (h.blank_append hgap).append (.nil hgap')
  rw [List.append_nil, List.append_assoc, ← hs] at hback
  exact hback

end ColumnWire.Text
