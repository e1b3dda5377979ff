import Mathlib.Tactic.Common
import ColumnWire.Cell.Descriptor
import ColumnWire.Text.Split

/-!
# Parentheses and arguments

Texts are read with the number of parentheses that are open. `Balanced` texts open and close as many and
never close one that was not opened.

* The text up to the parenthesis that closes an open one is the balanced text before it
  (`untilClosed_of_balanced`, `untilClosed_eq_some`).
* A text is cut at the commas outside parentheses exactly when it is balanced (`exists_segments_iff`),
  and the segments are the text with commas between them (`joinWith_of_segments`). Arguments with commas
  between them are cut apart again (`segments_joinWith`).
-/

namespace ColumnWire.Cell

open ColumnWire.Text

/-! ## Depth -/

/-- As many parentheses are closed as were opened, and each of them after it was. -/
def Balanced (s : List Char) : Prop :=
  s.foldlM nest 0 = some 0

/-- The text has neither parentheses nor commas. -/
def Plain (s : List Char) : Prop :=
  ∀ c ∈ s, c ≠ '(' ∧ c ≠ ')' ∧ c ≠ ','

variable {c : Char} {d e : Nat} {s x y p inside rest : List Char} {ps parts : List (List Char)}

/-- A plain text behind another one is plain. -/
lemma Plain.append (hx : Plain x) (hy : Plain y) : Plain (x ++ y) := by
  intro c hc
  rcases List.mem_append.1 hc with hc | hc
  · exact hx c hc
  · exact hy c hc

/-- A character that is no parenthesis leaves the depth alone. -/
lemma nest_of_ne (h : c ≠ '(') (h' : c ≠ ')') : nest d c = some d := by
  rw [nest, if_neg h, if_neg h']

/-- More open parentheses around do not matter. -/
lemma nest_add (h : nest d c = some e) (k : Nat) : nest (d + k) c = some (e + k) := by
  unfold nest at h ⊢
  split_ifs at h ⊢ <;> cases h <;> first | rfl | omega | (congr 1; omega)

/-- Only a closing parenthesis closes the last open one. -/
lemma nest_succ_eq_zero (h : nest (d + 1) c = some 0) : c = ')' ∧ d = 0 := by
  unfold nest at h
  split_ifs at h with hopen hclose
  · cases h
  · exact ⟨hclose, by simpa using h⟩
  · cases h

/-- As long as the outermost parenthesis stays open, it does not matter. -/
lemma nest_succ_eq_succ (h : nest (d + 1) c = some (e + 1)) : nest d c = some e := by
  unfold nest at h ⊢
  split_ifs at h ⊢ <;> cases h <;> first | rfl | omega

/-! ## The closing parenthesis -/

/-- Behind each character the depth is another one. -/
lemma untilClosed_cons (c : Char) (x : List Char) :
    untilClosed d (c :: x) =
      match nest d c with
      | none => none
      | some 0 => some ([], x)
      | some e => (untilClosed e x).map fun q => (c :: q.1, q.2) := rfl

/-- What a text leaves open is closed behind it. -/
lemma untilClosed_append (h : s.foldlM nest d = some e) (x : List Char) :
    untilClosed (d + 1) (s ++ x) = (untilClosed (e + 1) x).map fun q => (s ++ q.1, q.2) := by
  induction s generalizing d with
  | nil =>
      cases h
      simp
  | cons c rest ih =>
      rw [List.foldlM_cons] at h
      obtain ⟨d', hc, hrest⟩ := Option.bind_eq_some_iff.1 h
      rw [List.cons_append, untilClosed_cons, nest_add hc 1]
      change (untilClosed (d' + 1) (rest ++ x)).map _ = _
      rw [ih hrest, Option.map_map]
      rfl

/-- Behind a balanced text stands the parenthesis that closes the one before it. -/
lemma untilClosed_of_balanced (h : Balanced s) (rest : List Char) :
    untilClosed 1 (s ++ ')' :: rest) = some (s, rest) := by
  rw [untilClosed_append h]
  simp [untilClosed, nest]

/-- Before the closing parenthesis stands a text that closes all the others. -/
lemma untilClosed_eq_some (h : untilClosed (d + 1) x = some (inside, rest)) :
    x = inside ++ ')' :: rest ∧ inside.foldlM nest d = some 0 := by
  induction x generalizing d inside with
  | nil => cases h
  | cons c tail ih =>
      rw [untilClosed_cons] at h
      cases hc : nest (d + 1) c with
      | none => simp [hc] at h
      | some n =>
          rw [hc] at h
          cases n with
          | zero =>
              obtain ⟨rfl, rfl⟩ := nest_succ_eq_zero hc
              cases h
              exact ⟨rfl, rfl⟩
          | succ e =>
              obtain ⟨⟨inside', rest'⟩, hrest, hq⟩ := Option.map_eq_some_iff.1 h
              cases hq
              obtain ⟨rfl, hinside⟩ := ih hrest
              refine ⟨rfl, ?_⟩
              rw [List.foldlM_cons, nest_succ_eq_succ hc]
              exact hinside

/-! ## Segments -/

/-- The end of a text is the end of a segment, if all that is open was closed. -/
lemma segments_nil : segments d [] = if d = 0 then some [[]] else none := rfl

/-- Each character begins a segment or belongs to the first one. -/
lemma segments_eq (c : Char) (s : List Char) :
    segments d (c :: s) =
      if c = ',' ∧ d = 0 then (segments 0 s).map ([] :: ·)
      else
        match nest d c with
        | none => none
        | some e => (segments e s).map (consFirst c) := rfl

/-- A comma outside parentheses begins a segment. -/
lemma segments_comma (s : List Char) : segments 0 (',' :: s) = (segments 0 s).map ([] :: ·) := by
  rw [segments_eq, if_pos ⟨rfl, rfl⟩]

/-- Any other character belongs to the first segment. -/
lemma segments_cons (hc : ¬(c = ',' ∧ d = 0)) (h : nest d c = some e) (s : List Char) :
    segments d (c :: s) = (segments e s).map (consFirst c) := by
  rw [segments_eq, if_neg hc, h]

/-- What stands behind a character that begins no segment. -/
lemma segments_cons_eq_some (hc : ¬(c = ',' ∧ d = 0)) (h : segments d (c :: s) = some parts) :
    ∃ e ps, nest d c = some e ∧ segments e s = some ps ∧ parts = consFirst c ps := by
  rw [segments_eq, if_neg hc] at h
  cases hn : nest d c with
  | none => simp [hn] at h
  | some e =>
      rw [hn] at h
      obtain ⟨ps, hps, rfl⟩ := Option.map_eq_some_iff.1 h
      exact ⟨e, ps, rfl, hps, rfl⟩

/-- Cutting a text gives a segment at least. -/
lemma segments_ne_nil (h : segments d s = some parts) : parts ≠ [] := by
  cases s with
  | nil =>
      rw [segments_nil] at h
      split at h <;> cases h
      simp
  | cons c rest =>
      by_cases hc : c = ',' ∧ d = 0
      · obtain ⟨rfl, rfl⟩ := hc
        rw [segments_comma] at h
        obtain ⟨_, _, rfl⟩ := Option.map_eq_some_iff.1 h
        simp
      · obtain ⟨_, ps, _, _, rfl⟩ := segments_cons_eq_some hc h
        cases ps <;> simp [consFirst]

/-- What a character does to the segments of the text behind it: a comma outside parentheses begins
one, and any other character belongs to the first. -/
lemma segments_cons_cases (h : segments d (c :: s) = some parts) :
    (c = ',' ∧ d = 0 ∧ ∃ q more, segments 0 s = some (q :: more) ∧ parts = [] :: q :: more) ∨
      ¬(c = ',' ∧ d = 0) ∧ ∃ e q more, nest d c = some e ∧ segments e s = some (q :: more) ∧
        parts = (c :: q) :: more := by
  by_cases hc : c = ',' ∧ d = 0
  · obtain ⟨rfl, rfl⟩ := hc
    rw [segments_comma] at h
    obtain ⟨ps, hps, rfl⟩ := Option.map_eq_some_iff.1 h
    obtain ⟨q, more, rfl⟩ := List.exists_cons_of_ne_nil (segments_ne_nil hps)
    exact .inl ⟨rfl, rfl, q, more, hps, rfl⟩
  · obtain ⟨e, ps, hn, hps, rfl⟩ := segments_cons_eq_some hc h
    obtain ⟨q, more, rfl⟩ := List.exists_cons_of_ne_nil (segments_ne_nil hps)
    exact .inr ⟨hc, e, q, more, hn, hps, rfl⟩

/-- A text can be cut exactly when it closes all that is open and nothing else. -/
lemma exists_segments_iff : (∃ parts, segments d s = some parts) ↔ s.foldlM nest d = some 0 := by
  induction s generalizing d with
  | nil =>
      rw [segments_nil]
      by_cases hd : d = 0 <;> simp [hd]
  | cons c rest ih =>
      rw [List.foldlM_cons]
      by_cases hc : c = ',' ∧ d = 0
      · obtain ⟨rfl, rfl⟩ := hc
        rw [segments_comma, nest_of_ne (by decide) (by decide)]
        simp only [Option.map_eq_some_iff]
        constructor
        · rintro ⟨_, ps, hps, _⟩
          exact ih.1 ⟨ps, hps⟩
        · intro h
          obtain ⟨ps, hps⟩ := ih.2 h
          exact ⟨_, ps, hps, rfl⟩
      · constructor
        · rintro ⟨parts, h⟩
          obtain ⟨e, ps, hn, hps, _⟩ := segments_cons_eq_some hc h
          rw [hn]
          exact ih.1 ⟨ps, hps⟩
        · intro h
          obtain ⟨e, hn, hrest⟩ := Option.bind_eq_some_iff.1 h
          obtain ⟨ps, hps⟩ := ih.2 hrest
          exact ⟨_, by rw [segments_cons hc hn, hps]; rfl⟩

/-- A character before the first of some texts stands before all of them. -/
lemma joinWith_consFirst (c : Char) (h : ps ≠ []) :
    joinWith [','] (consFirst c ps) = c :: joinWith [','] ps := by
  cases ps with
  | nil => exact absurd rfl h
  | cons p more => cases more <;> rfl

/-- The segments of a text are the text with commas between them. -/
lemma joinWith_of_segments (h : segments d s = some parts) : joinWith [','] parts = s := by
  induction s generalizing d parts with
  | nil =>
      rw [segments_nil] at h
      split at h <;> cases h
      rfl
  | cons c rest ih =>
      rcases segments_cons_cases h with ⟨rfl, rfl, q, more, hrest, rfl⟩ | ⟨_, e, q, more, _, hrest, rfl⟩
      · rw [← ih hrest]
        rfl
      · rw [← ih hrest]
        exact joinWith_consFirst c (List.cons_ne_nil q more)

/-! ## Arguments -/

/-- A balanced text without a comma outside parentheses. -/
def IsArgument (p : List Char) : Prop :=
  segments 0 p = some [p]

/-- An argument is balanced. -/
lemma IsArgument.balanced (h : IsArgument p) : Balanced p :=
  exists_segments_iff.1 ⟨_, h⟩

/-- A text that is one segment is cut off at a comma behind it. -/
lemma segments_append_comma (h : segments d x = some [x]) (y : List Char) :
    segments d (x ++ ',' :: y) = (segments 0 y).map (x :: ·) := by
  induction x generalizing d with
  | nil =>
      rw [segments_nil] at h
      split at h
      · next hd =>
          subst hd
          exact segments_comma y
      · cases h
  | cons c rest ih =>
      rcases segments_cons_cases h with ⟨_, _, _, _, _, hparts⟩ | ⟨hc, e, q, more, hn, hrest, hparts⟩
      · cases hparts
      · cases hparts
        rw [List.cons_append, segments_cons hc hn, ih hrest, Option.map_map]
        rfl

/-- Arguments with commas between them are cut apart again. -/
lemma segments_joinWith (hne : parts ≠ []) (h : ∀ p ∈ parts, IsArgument p) :
    segments 0 (joinWith [','] parts) = some parts := by
  induction parts with
  | nil => exact absurd rfl hne
  | cons p rest ih =>
      have hp := h p List.mem_cons_self
      cases rest with
      | nil => exact hp
      | cons q more =>
          have hrest := ih (by simp) fun r hr => h r (List.mem_cons_of_mem p hr)
          have hjoin : joinWith [','] (p :: q :: more) = p ++ ',' :: joinWith [','] (q :: more) := by
            simp [joinWith]
          rw [hjoin, segments_append_comma hp, hrest]
          rfl

/-- A plain text belongs to the first segment of what follows it. -/
lemma segments_plain_append (hx : Plain x) (hy : segments d y = some (p :: ps)) :
    segments d (x ++ y) = some ((x ++ p) :: ps) := by
  induction x with
  | nil => exact hy
  | cons c rest ih =>
      obtain ⟨hopen, hclose, hcomma⟩ := hx c List.mem_cons_self
      have hrest := ih fun b hb => hx b (List.mem_cons_of_mem c hb)
      rw [List.cons_append, segments_cons (fun hc => hcomma hc.1) (nest_of_ne hopen hclose), hrest]
      rfl

/-- Within parentheses, a text belongs to the first segment of what follows it. -/
lemma segments_append_within (hx : x.foldlM nest d = some e)
    (hy : segments (e + 1) y = some (p :: ps)) :
    segments (d + 1) (x ++ y) = some ((x ++ p) :: ps) := by
  induction x generalizing d with
  | nil =>
      cases hx
      exact hy
  | cons c rest ih =>
      rw [List.foldlM_cons] at hx
      obtain ⟨d', hc, hrest⟩ := Option.bind_eq_some_iff.1 hx
      have hdeep : ¬(c = ',' ∧ d + 1 = 0) := fun h => Nat.succ_ne_zero d h.2
      rw [List.cons_append, segments_cons hdeep (nest_add hc 1), ih hrest]
      rfl

/-- A plain text is an argument. -/
lemma Plain.isArgument (h : Plain x) : IsArgument x := by
  have hnil : segments 0 [] = some [[]] := rfl
  have hx := segments_plain_append h hnil
  rwa [List.append_nil] at hx

/-- A balanced text in parentheses, with plain texts around them, is an argument. -/
lemma isArgument_enclosed (hx : Plain x) (hinside : Balanced inside) (hy : Plain y) :
    IsArgument (x ++ '(' :: (inside ++ ')' :: y)) := by
  have hclosed : segments 1 (')' :: y) = some [')' :: y] := by
    rw [segments_cons (e := 0) (by simp) rfl, hy.isArgument]
    rfl
  have hopened : segments 0 ('(' :: (inside ++ ')' :: y)) = some ['(' :: (inside ++ ')' :: y)] := by
    rw [segments_cons (e := 1) (by simp) rfl, segments_append_within hinside hclosed]
    rfl
  exact segments_plain_append hx hopened

/-- Arguments with commas between them are balanced. -/
lemma balanced_joinWith (hne : parts ≠ []) (h : ∀ p ∈ parts, IsArgument p) :
    Balanced (joinWith [','] parts) :=
  exists_segments_iff.1 ⟨parts, segments_joinWith hne h⟩

/-! ## Lists of arguments -/

/-- The arguments of a list are its segments, without the blanks around them. -/
lemma splitArguments_eq_ok (h : splitArguments s = .ok parts) :
    ∃ cut, segments 0 s = some cut ∧ parts = cut.map trim := by
  unfold splitArguments at h
  split at h
  · next cut hcut =>
      cases h
      exact ⟨cut, hcut, rfl⟩
  · cases h

/-- Arguments with commas between them are a list of them. -/
lemma splitArguments_joinWith (hne : parts ≠ []) (h : ∀ p ∈ parts, IsArgument p) :
    splitArguments (joinWith [','] parts) = .ok (parts.map trim) := by
  rw [splitArguments, segments_joinWith hne h]

end ColumnWire.Cell
