import Mathlib.Data.List.Forall2
import Mathlib.Tactic.Common
import ColumnWire.Proofs.Cell.Arguments
import ColumnWire.Proofs.Text.Blank
import ColumnWire.Proofs.Wire.Action

/-!
# Where a list of arguments is cut

A text is cut with the number of open parentheses as the state. That number is the difference of two
counts: a text leads from `d` open parentheses to `e` exactly when no beginning of it closes more than
there are, and the whole leaves `e` (`foldlM_nest_eq_some_iff`). So whether a text is balanced, and
whether a comma in it stands outside parentheses, can be said by counting alone (`Matched`,
`isArgument_iff`), without a word about how the text is read.

A cut of a text (`IsCut`) is made of matched texts without such commas, and gives the text back when
it is joined with commas. A matched text has one cut and any other text has none (`exists_isCut_iff`,
`IsCut.unique`); the segments are that cut (`segments_eq_some_iff`).

Main statement: `splitArguments_cut_iff`.
-/

namespace ColumnWire.Cell

open ColumnWire.Wire ColumnWire.Text

variable {c : Char} {d e : Nat} {s p : List Char} {cut cut' ps : List (List Char)}

/-! ## Counting parentheses -/

/-- Every parenthesis has its counterpart: no beginning of the text closes more than it opens, and the
whole opens as many as it closes. -/
structure Matched (s : List Char) : Prop where
  /-- No beginning closes more than it opens. -/
  within : ∀ p, p <+: s → p.count ')' ≤ p.count '('
  /-- As many are opened as are closed. -/
  whole : s.count '(' = s.count ')'

/-- A text is not matched if a beginning closes too many, or if the numbers differ. -/
lemma not_matched_iff : ¬Matched s ↔
    (∃ p, p <+: s ∧ p.count '(' < p.count ')') ∨ s.count '(' ≠ s.count ')' := by
  constructor
  · intro h
    by_contra hnone
    obtain ⟨hwithin, hwhole⟩ := not_or.1 hnone
    apply h
    refine ⟨?_, not_not.1 hwhole⟩
    intro p hp
    exact Nat.not_lt.1 fun hlt => hwithin ⟨p, hp, hlt⟩
  · rintro (⟨p, hp, hlt⟩ | hne) h
    · exact absurd (h.within p hp) (Nat.not_le.2 hlt)
    · exact hne h.whole

/-- The first character is counted on its own. -/
lemma count_cons_eq (a c : Char) (s : List Char) : (c :: s).count a = [c].count a + s.count a := by
  rw [← List.count_append, List.singleton_append]

/-- A character changes the depth by what it opens and closes. -/
lemma nest_eq_some_iff : nest d c = some e ↔ e + [c].count ')' = d + [c].count '(' := by
  unfold nest
  by_cases hopen : c = '('
  · subst hopen
    simp [eq_comm]
  by_cases hclose : c = ')'
  · subst hclose
    by_cases hd : d = 0
    · simp [hd]
    · simp [hd]
      omega
  · simp [hopen, hclose, eq_comm]

/-- A text can be read from a depth if no beginning of it closes more than are open there, and it
changes the depth by what it opens and closes. -/
lemma foldlM_nest_eq_some_iff : s.foldlM nest d = some e ↔
    (∀ p, p <+: s → p.count ')' ≤ d + p.count '(') ∧ e + s.count ')' = d + s.count '(' := by
  induction s generalizing d with
  | nil => simp [eq_comm]
  | cons c rest ih =>
      rw [List.foldlM_cons, Option.bind_eq_bind, Option.bind_eq_some_iff]
      constructor
      · rintro ⟨d', hc, hrest⟩
        obtain ⟨hwithin, hwhole⟩ := ih.1 hrest
        have hstep := nest_eq_some_iff.1 hc
        constructor
        · intro p hp
          rcases List.prefix_cons_iff.1 hp with rfl | ⟨p', rfl, hp'⟩
          · simp
          · have hbound := hwithin p' hp'
            rw [count_cons_eq, count_cons_eq '(']
            omega
        · rw [count_cons_eq, count_cons_eq '(']
          omega
      · rintro ⟨hwithin, hwhole⟩
        -- The first character alone is a beginning, so it can be read.
        have hfirst : [c].count ')' ≤ d + [c].count '(' := by
          apply hwithin
          exact ⟨rest, rfl⟩
        refine ⟨d + [c].count '(' - [c].count ')', nest_eq_some_iff.2 (by omega), ih.2 ⟨?_, ?_⟩⟩
        · intro p hp
          have hbound := hwithin (c :: p) (List.cons_prefix_cons.2 ⟨rfl, hp⟩)
          rw [count_cons_eq, count_cons_eq '('] at hbound
          omega
        · rw [count_cons_eq, count_cons_eq '('] at hwhole
          omega

/-- To be balanced is to be matched. -/
lemma balanced_iff_matched : Balanced s ↔ Matched s := by
  rw [Balanced, foldlM_nest_eq_some_iff]
  constructor
  · rintro ⟨hwithin, hwhole⟩
    exact ⟨by simpa using hwithin, by omega⟩
  · rintro ⟨hwithin, hwhole⟩
    exact ⟨by simpa using hwithin, by omega⟩

/-! ## One segment -/

/-- The commas of a text are those behind its first character and that character itself. -/
lemma commas_cons_iff :
    (∀ x y, c :: s = x ++ ',' :: y → x.count ')' < d + x.count '(') ↔
      (c = ',' → 0 < d) ∧
        ∀ x y, s = x ++ ',' :: y → [c].count ')' + x.count ')' < d + [c].count '(' + x.count '(' := by
  constructor
  · intro h
    refine ⟨?_, ?_⟩
    · rintro rfl
      simpa using h [] s rfl
    · rintro x y rfl
      have hx := h (c :: x) y rfl
      rw [count_cons_eq, count_cons_eq '('] at hx
      omega
  · rintro ⟨hfirst, hrest⟩ x y hxy
    rcases List.cons_eq_append_iff.1 hxy with ⟨rfl, hcomma⟩ | ⟨x', rfl, hs⟩
    · cases hcomma
      simpa using hfirst rfl
    · have hx := hrest x' y hs
      rw [count_cons_eq, count_cons_eq '(']
      omega

/-- A text is a single segment if it closes all that is open and more are opened than closed before
each comma. -/
lemma segments_eq_singleton_iff : segments d s = some [s] ↔
    s.foldlM nest d = some 0 ∧ ∀ x y, s = x ++ ',' :: y → x.count ')' < d + x.count '(' := by
  induction s generalizing d with
  | nil =>
      rw [segments_nil]
      simp
  | cons c rest ih =>
      rw [commas_cons_iff, List.foldlM_cons, Option.bind_eq_bind, Option.bind_eq_some_iff]
      constructor
      · intro h
        rcases segments_cons_cases h with ⟨_, _, _, _, _, hparts⟩ | ⟨hc, e, q, more, hn, hseg, hparts⟩
        · cases hparts
        · cases hparts
          obtain ⟨hrest, hcomma⟩ := ih.1 hseg
          have hstep := nest_eq_some_iff.1 hn
          refine ⟨⟨e, hn, hrest⟩, fun h => Nat.pos_of_ne_zero fun hd => hc ⟨h, hd⟩, ?_⟩
          intro x y hxy
          have hx := hcomma x y hxy
          omega
      · rintro ⟨⟨e, hn, hrest⟩, hfirst, hcomma⟩
        have hstep := nest_eq_some_iff.1 hn
        have hseg : segments e rest = some [rest] := by
          refine ih.2 ⟨hrest, ?_⟩
          intro x y hxy
          have hx := hcomma x y hxy
          omega
        have hc : ¬(c = ',' ∧ d = 0) := by
          rintro ⟨h, rfl⟩
          exact Nat.lt_irrefl 0 (hfirst h)
        rw [segments_cons hc hn, hseg]
        rfl

/-- An argument is a matched text in which more parentheses are opened than closed before each comma. -/
lemma isArgument_iff :
    IsArgument p ↔ Matched p ∧ ∀ x y, p = x ++ ',' :: y → x.count ')' < x.count '(' := by
  rw [IsArgument, segments_eq_singleton_iff, ← balanced_iff_matched, Balanced]
  simp

/-! ## Cuts -/

/-- The first segment closes all that is open, and the others are arguments. -/
lemma segments_cons_isArgument (h : segments d s = some (p :: ps)) :
    segments d p = some [p] ∧ ∀ q ∈ ps, IsArgument q := by
  induction s generalizing d p ps with
  | nil =>
      rw [segments_nil] at h
      split at h
      · next hd =>
          cases h
          exact ⟨by rw [segments_nil, if_pos hd], by simp⟩
      · cases h
  | cons c rest ih =>
      rcases segments_cons_cases h with ⟨rfl, rfl, q, more, hrest, hparts⟩ |
        ⟨hc, e, q, more, hn, hrest, hparts⟩
      · cases hparts
        obtain ⟨hq, hmore⟩ := ih hrest
        refine ⟨rfl, ?_⟩
        intro r hr
        rcases List.mem_cons.1 hr with rfl | hr
        · exact hq
        · exact hmore r hr
      · cases hparts
        obtain ⟨hq, hmore⟩ := ih hrest
        refine ⟨?_, hmore⟩
        rw [segments_cons hc hn, hq]
        rfl

/-- Each segment of a text is an argument. -/
lemma isArgument_of_mem_segments (h : segments 0 s = some cut) (hp : p ∈ cut) : IsArgument p := by
  obtain ⟨q, more, rfl⟩ := List.exists_cons_of_ne_nil (segments_ne_nil h)
  obtain ⟨hq, hmore⟩ := segments_cons_isArgument h
  rcases List.mem_cons.1 hp with rfl | hp
  · exact hq
  · exact hmore p hp

/-- A way to write a text as matched segments with commas between them, none of which has a comma
outside parentheses. -/
structure IsCut (s : List Char) (cut : List (List Char)) : Prop where
  /-- There is a segment. -/
  nonempty : cut ≠ []
  /-- The segments are the text, with commas between them. -/
  joined : joinWith [','] cut = s
  /-- Each segment is matched. -/
  matched : ∀ p ∈ cut, Matched p
  /-- Each comma of a segment is in parentheses: more are opened than closed before it. -/
  inner : ∀ p ∈ cut, ∀ x y, p = x ++ ',' :: y → x.count ')' < x.count '('

/-- The segments of a text are its cut. -/
lemma segments_eq_some_iff : segments 0 s = some cut ↔ IsCut s cut := by
  constructor
  · intro h
    have hargs : ∀ p ∈ cut, Matched p ∧ ∀ x y, p = x ++ ',' :: y → x.count ')' < x.count '(' :=
      fun p hp => isArgument_iff.1 (isArgument_of_mem_segments h hp)
    exact ⟨segments_ne_nil h, joinWith_of_segments h, fun p hp => (hargs p hp).1,
      fun p hp => (hargs p hp).2⟩
  · rintro ⟨hne, rfl, hmatched, hinner⟩
    apply segments_joinWith hne
    intro p hp
    exact isArgument_iff.2 ⟨hmatched p hp, hinner p hp⟩

/-- A text has no other cut. -/
lemma IsCut.unique (h : IsCut s cut) (h' : IsCut s cut') : cut = cut' := by
  have hsame := (segments_eq_some_iff.2 h).symm.trans (segments_eq_some_iff.2 h')
  exact Option.some.inj hsame

/-- The texts that can be cut are the matched ones. -/
lemma exists_isCut_iff : (∃ cut, IsCut s cut) ↔ Matched s := by
  rw [← balanced_iff_matched, Balanced, ← exists_segments_iff]
  simp only [segments_eq_some_iff]

/-! ## Lists of arguments -/

/-- The arguments of a list are what is left of its segments. -/
lemma splitArguments_eq_ok_iff : splitArguments s = .ok ps ↔
    ∃ cut, IsCut s cut ∧ List.Forall₂ TrimsTo cut ps := by
  simp only [← segments_eq_some_iff, forall₂_trimsTo_iff]
  constructor
  · exact splitArguments_eq_ok
  · rintro ⟨cut, hcut, rfl⟩
    rw [splitArguments, hcut]

/-- A list is refused, as a whole, if it is not matched. -/
lemma splitArguments_eq_error_iff {e : TypeError} : splitArguments s = .error e ↔
    ¬Matched s ∧ e = .malformedDescriptor (String.ofList s) := by
  rw [← exists_isCut_iff]
  simp only [← segments_eq_some_iff]
  rw [splitArguments]
  cases hcut : segments 0 s with
  | none => simp [eq_comm]
  | some cut => simp

/-- Two arguments are taken as they are. -/
lemma splitMapArguments_eq_ok_iff {k v : List Char} :
    splitMapArguments s = .ok (k, v) ↔ splitArguments s = .ok [k, v] := by
  rw [splitMapArguments, except_bind_eq_ok]
  constructor
  · rintro ⟨parts, hparts, h⟩
    split at h
    · cases h
      exact hparts
    · cases h
  · intro h
    exact ⟨[k, v], h, rfl⟩

/-- Two arguments are refused if they cannot be told apart or are more or fewer. -/
lemma splitMapArguments_eq_error_iff {e : TypeError} : splitMapArguments s = .error e ↔
    splitArguments s = .error e ∨
      ∃ parts, splitArguments s = .ok parts ∧ parts.length ≠ 2 ∧ e = .mapArguments parts.length := by
  rw [splitMapArguments, except_bind_eq_error]
  refine or_congr_right (exists_congr fun parts => and_congr_right fun _ => ?_)
  split
  · constructor
    · intro h
      cases h
    · rintro ⟨hlength, _⟩
      exact absurd rfl hlength
  · next hpair =>
      have hlength : parts.length ≠ 2 := by
        intro hlength
        obtain ⟨k, v, rfl⟩ := List.length_eq_two.1 hlength
        exact hpair k v rfl
      constructor
      · intro h
        cases h
        exact ⟨hlength, rfl⟩
      · rintro ⟨_, rfl⟩
        rfl

/-- A list of arguments is refused, as malformed, exactly when its parentheses do not balance. Any
other has one cut, and its arguments are the segments of the cut, in order and without the blanks
around them. It is a list of two exactly when the cut has two segments. -/
theorem splitArguments_cut_iff (a : List Char) :
    (splitArguments a = .error (.malformedDescriptor (String.ofList a)) ↔
      (∃ p, p <+: a ∧ p.count '(' < p.count ')') ∨ a.count '(' ≠ a.count ')') ∧
    (∀ e, splitArguments a = .error e → e = .malformedDescriptor (String.ofList a)) ∧
    (∀ parts, splitArguments a = .ok parts ↔
      ∃ cut, IsCut a cut ∧ List.Forall₂ TrimsTo cut parts) ∧
    (∀ cut cut', IsCut a cut → IsCut a cut' → cut = cut') ∧
    ((∃ pair, splitMapArguments a = .ok pair) ↔ ∃ cut, IsCut a cut ∧ cut.length = 2) ∧
    (∀ k v, splitMapArguments a = .ok (k, v) ↔ splitArguments a = .ok [k, v]) ∧
    ∀ e, splitMapArguments a = .error e ↔ splitArguments a = .error e ∨
      ∃ parts, splitArguments a = .ok parts ∧ parts.length ≠ 2 ∧ e = .mapArguments parts.length := by
  refine ⟨?_, ?_, fun parts => splitArguments_eq_ok_iff, fun cut cut' h h' => h.unique h', ?_,
    fun k v => splitMapArguments_eq_ok_iff, fun e => splitMapArguments_eq_error_iff⟩
  · rw [splitArguments_eq_error_iff, not_matched_iff]
    exact and_iff_left rfl
  · intro e he
    exact (splitArguments_eq_error_iff.1 he).2
  · constructor
    · rintro ⟨⟨k, v⟩, hpair⟩
      obtain ⟨cut, hcut, htrims⟩ := splitArguments_eq_ok_iff.1 (splitMapArguments_eq_ok_iff.1 hpair)
      exact ⟨cut, hcut, htrims.length_eq⟩
    · rintro ⟨cut, hcut, hlength⟩
      obtain ⟨x, y, rfl⟩ := List.length_eq_two.1 hlength
      have hparts : splitArguments a = .ok [trim x, trim y] :=
        splitArguments_eq_ok_iff.2 ⟨[x, y], hcut, forall₂_trimsTo_iff.2 rfl⟩
      exact ⟨(trim x, trim y), splitMapArguments_eq_ok_iff.2 hparts⟩

example : splitArguments "UInt8 , Tuple(Int8, Int16)".toList =
    .ok ["UInt8".toList, "Tuple(Int8, Int16)".toList] := by
  decide

example : splitArguments "a)(b".toList = .error (.malformedDescriptor "a)(b") := by
  decide

end ColumnWire.Cell
