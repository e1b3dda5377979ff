import Mathlib.Data.List.Forall2
import Mathlib.Logic.Function.Iterate
import Mathlib.Tactic.Common
import ColumnWire.Proofs.Cell.Solid

/-!
# The language of descriptors

A text is read as a type exactly when it is made of the tokens of the type's descriptor, with blanks
anywhere but within a name, the type has no tuple without elements, and at most `maxNesting` composites
stand within each other.

`lex` finds the tokens of any text. Those of a composite's descriptor are its keyword, parentheses, and
between them the tokens of its parts with commas between these (`lex_composite`). In one direction a
text of tokens is taken apart at the first level (`spaced_composite`, `spaced_arguments`) and read part
by part, which ends well unless the type is nested too deeply (`parseWithin_of_spaced`). In the other
one, what was read is put together again (`spaced_of_parseWithin`).

Main statement: `ColumnType.parse_accepts`.
-/

namespace ColumnWire.Cell.ColumnType

open ColumnWire.Wire ColumnWire.Text

variable {d : Nat} {s x inside name rest : List Char} {b : Char} {t : ColumnType} {c : Composite}
  {ts : List ColumnType} {args : List (List (List Char))}

/-! ## Tokens of a text -/

/-- The tokens of a text: parentheses and commas, each on its own, and names. A name ends before the
first blank, parenthesis or comma. -/
def lex : List Char → List (List Char)
  | [] => []
  | b :: rest =>
    if isBlank b then lex rest
    else if isNameChar b && rest.head?.any isNameChar then consFirst b (lex rest)
    else [b] :: lex rest

/-- Blanks are no part of a token. -/
lemma lex_blank (h : isBlank b = true) (rest : List Char) : lex (b :: rest) = lex rest := by
  rw [lex, if_pos h]

/-- A parenthesis or comma is a token. -/
lemma lex_mark (h : isBlank b = false) (h' : isNameChar b = false) (rest : List Char) :
    lex (b :: rest) = [b] :: lex rest := by
  rw [lex, if_neg (by simp [h]), if_neg (by simp [h'])]

/-- A character of a name begins a token. -/
lemma lex_ne_nil (h : isNameChar b = true) (rest : List Char) : lex (b :: rest) ≠ [] := by
  rw [lex, if_neg (by simp [(isNameChar_iff.1 h).1])]
  split
  · cases lex rest <;> simp [consFirst]
  · simp

/-- A name is a token. -/
lemma lex_name (hne : name ≠ []) (hname : name.all isNameChar = true) : lex name = [name] := by
  induction name with
  | nil => exact absurd rfl hne
  | cons b more ih =>
      rw [List.all_cons, Bool.and_eq_true] at hname
      rw [lex, if_neg (by simp [(isNameChar_iff.1 hname.1).1])]
      cases more with
      | nil => simp [lex]
      | cons b' more =>
          have hb' : isNameChar b' = true := List.all_eq_true.1 hname.2 b' List.mem_cons_self
          rw [if_pos (by simp [hname.1, hb']), ih (by simp) hname.2]
          rfl

/-- Before a blank, parenthesis or comma, a token ends. -/
lemma lex_append (h : isNameChar b = false) (s rest : List Char) :
    lex (s ++ b :: rest) = lex s ++ lex (b :: rest) := by
  induction s with
  | nil => rfl
  | cons a more ih =>
      have hnext : (more ++ b :: rest).head?.any isNameChar = more.head?.any isNameChar := by
        cases more <;> simp [h]
      rw [List.cons_append, lex, lex, hnext, ih]
      split_ifs with hblank hname
      · rfl
      · -- The name goes on, so there is a token for the character to belong to.
        cases more with
        | nil => simp at hname
        | cons b' more =>
            have hb' : isNameChar b' = true := by simp_all
            obtain ⟨token, tokens, htokens⟩ := List.exists_cons_of_ne_nil (lex_ne_nil hb' more)
            rw [htokens]
            rfl
      · rfl

/-- A text is made of its tokens. -/
lemma spaced_lex (s : List Char) : Spaced (lex s) s := by
  induction s with
  | nil => exact .nil .nil
  | cons b rest ih =>
      rw [lex]
      split_ifs with hblank hname
      · have hgap : Blank [b] := by simpa [Blank] using hblank
        exact ih.blank_append hgap
      · -- The first token of the rest stands right behind the character.
        cases rest with
        | nil => simp at hname
        | cons b' more =>
            have hb' : isNameChar b' = true := by simp_all
            obtain ⟨token, tokens, htokens⟩ := List.exists_cons_of_ne_nil (lex_ne_nil hb' more)
            rw [htokens] at ih ⊢
            obtain ⟨gap, tail, hgap, hsplit, htail⟩ := spaced_cons.1 ih
            cases gap with
            | nil =>
                rw [hsplit]
                exact spaced_cons.2 ⟨[], tail, .nil, rfl, htail⟩
            | cons b'' gap =>
                cases hsplit
                have hblank' := hgap b' List.mem_cons_self
                rw [(isNameChar_iff.1 hb').1] at hblank'
                cases hblank'
      · exact .cons .nil ih

/-! ## Tokens of a descriptor -/

/-- The descriptors of further types stand behind commas. -/
lemma listChars_eq (ts : List ColumnType) : listChars ts = joinWith [',', ' '] (ts.map chars) := by
  cases ts with
  | nil => rfl
  | cons t ts =>
      induction ts generalizing t with
      | nil => simp [listChars, moreChars, joinWith]
      | cons u us ih =>
          have hmore : moreChars (u :: us) = [',', ' '] ++ listChars (u :: us) := by
            simp [moreChars, listChars]
          rw [listChars, hmore, ih]
          simp [joinWith]

/-- The descriptor of a composite is its keyword and, in parentheses, the descriptors of its parts. -/
lemma chars_of_composition (h : t.composition? = some (c, ts)) :
    t.chars = c.keyword ++ '(' :: (joinWith [',', ' '] (ts.map chars) ++ [')']) := by
  cases t <;> cases h
  case array t =>
    change "Array(".toList ++ t.chars ++ [')'] =
      "Array".toList ++ '(' :: (joinWith [',', ' '] [t.chars] ++ [')'])
    simp [joinWith]
  case nullable t =>
    change "Nullable(".toList ++ t.chars ++ [')'] =
      "Nullable".toList ++ '(' :: (joinWith [',', ' '] [t.chars] ++ [')'])
    simp [joinWith]
  case lowCardinality t =>
    change "LowCardinality(".toList ++ t.chars ++ [')'] =
      "LowCardinality".toList ++ '(' :: (joinWith [',', ' '] [t.chars] ++ [')'])
    simp [joinWith]
  case tuple =>
    change "Tuple(".toList ++ listChars ts ++ [')'] =
      "Tuple".toList ++ '(' :: (joinWith [',', ' '] (ts.map chars) ++ [')'])
    simp [listChars_eq]
  case map k v =>
    change "Map(".toList ++ k.chars ++ [',', ' '] ++ v.chars ++ [')'] =
      "Map".toList ++ '(' :: (joinWith [',', ' '] [k.chars, v.chars] ++ [')'])
    simp [joinWith]

/-- The tokens of arguments: those of each, and commas between them. -/
def argumentTokens (args : List (List (List Char))) : List (List Char) :=
  [[',']].intercalate args

/-- The tokens of an argument are those of the list. -/
lemma argumentTokens_singleton (arg : List (List Char)) : argumentTokens [arg] = arg := by
  simp [argumentTokens]

/-- Behind the first argument stands a comma. -/
lemma argumentTokens_cons (arg : List (List Char)) (hne : args ≠ []) :
    argumentTokens (arg :: args) = arg ++ [','] :: argumentTokens args := by
  obtain ⟨arg', more, rfl⟩ := List.exists_cons_of_ne_nil hne
  simp [argumentTokens, List.intercalate]

/-- The tokens of texts with commas between them. -/
lemma lex_joinWith (ps : List (List Char)) :
    lex (joinWith [',', ' '] ps) = argumentTokens (ps.map lex) := by
  induction ps with
  | nil => rfl
  | cons p rest ih =>
      cases rest with
      | nil => exact (argumentTokens_singleton _).symm
      | cons q more =>
          have hjoin : joinWith [',', ' '] (p :: q :: more) =
              p ++ ',' :: ' ' :: joinWith [',', ' '] (q :: more) := by simp [joinWith]
          rw [hjoin, lex_append (by decide), lex_mark (by decide) (by decide), lex_blank (by decide), ih,
            List.map_cons (l := q :: more), argumentTokens_cons _ (by simp)]

/-- The token of a scalar type's descriptor is its name. -/
lemma lex_scalar (h : t ∈ scalars) : lex t.chars = [t.chars] :=
  lex_name (chars_of_mem_scalars h).1 (chars_of_mem_scalars h).2

/-- The tokens of a composite's descriptor are its keyword and, in parentheses, those of its parts. -/
lemma lex_composite (h : t.composition? = some (c, ts)) :
    lex t.chars =
      c.keyword :: ['('] :: (argumentTokens (ts.map fun u => lex u.chars) ++ [[')']]) := by
  obtain ⟨hne, hname⟩ := c.keyword_isName
  have hparts : (ts.map chars).map lex = ts.map fun u => lex u.chars := by simp
  rw [chars_of_composition h, lex_append (by decide), lex_name hne hname,
    lex_mark (by decide) (by decide), lex_append (by decide), lex_mark (by decide) (by decide),
    lex_joinWith, hparts]
  rfl

/-! ## Texts of tokens -/

/-- A text of the tokens of arguments is a text for each with commas between them. -/
lemma spaced_arguments (hne : args ≠ []) : Spaced (argumentTokens args) s ↔
    ∃ ps, s = joinWith [','] ps ∧ List.Forall₂ Spaced args ps := by
  induction args generalizing s with
  | nil => exact absurd rfl hne
  | cons arg more ih =>
      cases more with
      | nil =>
          rw [argumentTokens_singleton]
          constructor
          · intro h
            exact ⟨[s], rfl, .cons h .nil⟩
          · rintro ⟨ps, rfl, _ | ⟨h, _ | _⟩⟩
            exact h
      | cons arg' more =>
          rw [argumentTokens_cons arg (by simp), spaced_append]
          constructor
          · rintro ⟨p, y, rfl, hp, hy⟩
            obtain ⟨gap, rest, hgap, rfl, hrest⟩ := spaced_cons.1 hy
            obtain ⟨ps, rfl, hps⟩ := (ih (by simp)).1 hrest
            refine ⟨(p ++ gap) :: ps, ?_, .cons (by simpa using hp.append (.nil hgap)) hps⟩
            cases hps
            simp [joinWith]
          · rintro ⟨_, rfl, hall⟩
            obtain ⟨p, ps, hp, hps, rfl⟩ := List.forall₂_cons_left_iff.1 hall
            refine ⟨p, ',' :: joinWith [','] ps, ?_, hp, .cons .nil ((ih (by simp)).2 ⟨ps, rfl, hps⟩)⟩
            cases hps
            simp [joinWith]

/-- A text of the tokens of a composite has a text of the tokens of its parts in parentheses. -/
lemma spaced_composite {tokens : List (List Char)} :
    Spaced (name :: ['('] :: (tokens ++ [[')']])) s ↔
      ∃ inside before between behind, Spaced tokens inside ∧ Blank before ∧ Blank between ∧
        Blank behind ∧ s = before ++ (name ++ (between ++ '(' :: (inside ++ ')' :: behind))) := by
  constructor
  · intro h
    obtain ⟨before, rest, hbefore, rfl, hrest⟩ := spaced_cons.1 h
    obtain ⟨between, rest', hbetween, rfl, hrest'⟩ := spaced_cons.1 hrest
    obtain ⟨inside, back, rfl, hinside, hback⟩ := spaced_append.1 hrest'
    obtain ⟨gap, behind, hgap, rfl, hbehind⟩ := spaced_cons.1 hback
    refine ⟨inside ++ gap, before, between, behind, ?_, hbefore, hbetween, spaced_nil.1 hbehind, ?_⟩
    · simpa using hinside.append (.nil hgap)
    · simp
  · rintro ⟨inside, before, between, behind, hinside, hbefore, hbetween, hbehind, rfl⟩
    have hback : Spaced [[')']] (')' :: behind) := .cons .nil (.nil hbehind)
    exact .cons hbefore (.cons hbetween (hinside.append hback))

/-- A text of the tokens of a composite has its keyword and, in parentheses, texts of the tokens of its
parts with commas between them. -/
lemma spaced_lex_composite (h : t.composition? = some (c, ts)) (hne : ts ≠ []) :
    Spaced (lex t.chars) s ↔ ∃ ps before between behind,
      List.Forall₂ (fun u p => Spaced (lex u.chars) p) ts ps ∧ Blank before ∧ Blank between ∧
        Blank behind ∧
          s = before ++ (c.keyword ++ (between ++ '(' :: (joinWith [','] ps ++ ')' :: behind))) := by
  rw [lex_composite h, spaced_composite]
  simp only [spaced_arguments (show ts.map (fun u => lex u.chars) ≠ [] by simpa using hne),
    List.forall₂_map_left_iff]
  constructor
  · rintro ⟨_, before, between, behind, ⟨ps, rfl, hps⟩, h⟩
    exact ⟨ps, before, between, behind, hps, h⟩
  · rintro ⟨ps, before, between, behind, hps, h⟩
    exact ⟨_, before, between, behind, ⟨ps, rfl, hps⟩, h⟩

/-! ## Reading -/

/-- A text of the tokens of a composite encloses an argument for each part, if texts of the tokens of
its parts are arguments. -/
lemma exists_isEnclosed (h : t.composition? = some (c, ts)) (hne : ts ≠ [])
    (hargs : ∀ u ∈ ts, ∀ p, Spaced (lex u.chars) p → IsArgument p) (hs : Spaced (lex t.chars) s) :
    ∃ ps, IsEnclosed c (joinWith [','] ps) s ∧ (∀ p ∈ ps, IsArgument p) ∧
      List.Forall₂ (fun u p => Spaced (lex u.chars) p) ts ps := by
  obtain ⟨ps, before, between, behind, hps, hblanks⟩ := (spaced_lex_composite h hne).1 hs
  have hall : ∀ p ∈ ps, IsArgument p := by
    intro p hp
    obtain ⟨u, hu, hspaced⟩ := exists_of_mem_forall₂ hps hp
    exact hargs u hu p hspaced
  have hps' : ps ≠ [] := by
    rintro rfl
    cases hps
    exact hne rfl
  exact ⟨ps, ⟨balanced_joinWith hps' hall, before, between, behind, hblanks⟩, hall, hps⟩

/-- A text of the tokens of a solid type is an argument. -/
lemma isArgument_of_spaced (ht : t.Solid) (h : Spaced (lex t.chars) s) : IsArgument s := by
  induction t using induction_parts generalizing s with
  | scalar t hscalar =>
      rw [lex_scalar hscalar] at h
      obtain ⟨gap, behind, hgap, rfl, hbehind⟩ := spaced_cons.1 h
      have hname := plain_of_isName (chars_of_mem_scalars hscalar).2
      have hbehind' := plain_of_blank (spaced_nil.1 hbehind)
      exact ((plain_of_blank hgap).append (hname.append hbehind')).isArgument
  | composite t c ts hparts ih =>
      obtain ⟨hne, hsolid⟩ := (solid_iff hparts).1 ht
      obtain ⟨ps, henclosed, -⟩ :=
        exists_isEnclosed hparts hne (fun u hu p hp => ih u hu (hsolid u hu) hp) h
      exact henclosed.isArgument

mutual

/-- The greatest number of composites that stand within each other. -/
def nesting : ColumnType → Nat
  | .array t => t.nesting + 1
  | .nullable t => t.nesting + 1
  | .lowCardinality t => t.nesting + 1
  | .tuple ts => listNesting ts + 1
  | .map k v => max k.nesting v.nesting + 1
  | _ => 0

/-- The greatest number of composites that stand within each other in a type of a list. -/
def listNesting : List ColumnType → Nat
  | [] => 0
  | t :: ts => max t.nesting (listNesting ts)

end

/-- The nesting of a list is that of its deepest type. -/
lemma listNesting_le_iff : listNesting ts ≤ d ↔ ∀ u ∈ ts, u.nesting ≤ d := by
  induction ts with
  | nil => simp [listNesting]
  | cons t ts ih => rw [listNesting, Nat.max_le, ih, List.forall_mem_cons]

/-- Scalar types are not nested. -/
lemma nesting_of_mem_scalars (h : t ∈ scalars) : t.nesting = 0 := by
  have hall : ∀ u ∈ scalars, u.nesting = 0 := by simp [scalars, nesting]
  exact hall t h

/-- A composite is one level above the deepest of its parts. -/
lemma nesting_of_composition (h : t.composition? = some (c, ts)) :
    t.nesting = listNesting ts + 1 := by
  cases t <;> cases h <;> simp [nesting, listNesting]

/-- A composite is within a level more than its parts. -/
lemma nesting_le_succ_iff (h : t.composition? = some (c, ts)) :
    t.nesting ≤ d + 1 ↔ ∀ u ∈ ts, u.nesting ≤ d := by
  rw [nesting_of_composition h, Nat.add_le_add_iff_right, listNesting_le_iff]

/-- A text of the tokens of a solid type is read as the type, unless that is nested too deeply. -/
lemma parseWithin_of_spaced (ht : t.Solid) (hs : Spaced (lex t.chars) s) (d : Nat) :
    parseWithin d s = if t.nesting ≤ d then .ok t else .error .nestedTooDeeply := by
  induction t using induction_parts generalizing s d with
  | scalar t hscalar =>
      rw [lex_scalar hscalar] at hs
      obtain ⟨gap, behind, hgap, rfl, hbehind⟩ := spaced_cons.1 hs
      have hname := trim_of_isName (chars_of_mem_scalars hscalar).2
      rw [if_pos (by simp [nesting_of_mem_scalars hscalar])]
      refine parseWithin_of_scalar (scalar?_eq_some.2 ⟨hscalar, ?_⟩) d
      rw [trim_append_blanks hgap (spaced_nil.1 hbehind), hname]
  | composite t c ts hparts ih =>
      obtain ⟨hne, hsolid⟩ := (solid_iff hparts).1 ht
      obtain ⟨ps, henclosed, hargs, hps⟩ := exists_isEnclosed hparts hne
        (fun u hu p hp => isArgument_of_spaced (hsolid u hu) hp) hs
      cases d with
      | zero => rw [parseWithin_zero henclosed, nesting_of_composition hparts, if_neg (by omega)]
      | succ d =>
          have hpart : ∀ u ∈ ts, ∀ p, Spaced (lex u.chars) p →
              parseWithin d p = if u.nesting ≤ d then .ok u else .error .nestedTooDeeply :=
            fun u hu p hp => ih u hu (hsolid u hu) hp d
          have hread : List.Forall₂ (fun p u =>
              parseWithin d p = if u.nesting ≤ d then .ok u else .error .nestedTooDeeply) ps ts :=
            ((List.forall₂_and_left _ _).2 ⟨hpart, hps⟩).flip.imp fun p u h => h.1 p h.2
          rw [parseWithin_succ henclosed,
            Composite.read_joinWith (parseWithin_trim d) hargs hne hread hparts]
          simp only [nesting_le_succ_iff hparts]

/-- What is read is a text of the tokens of a type that is not nested too deeply. -/
lemma spaced_of_parseWithin (h : parseWithin d s = .ok t) :
    t.nesting ≤ d ∧ Spaced (lex t.chars) s := by
  induction d using Nat.strong_induction_on generalizing s t with
  | _ d ih =>
    rcases parseWithin_eq_ok h with hname | ⟨e, c, inside, rfl, henclosed, hread⟩
    · obtain ⟨hscalar, hchars⟩ := scalar?_eq_some.1 hname
      refine ⟨by simp [nesting_of_mem_scalars hscalar], ?_⟩
      have hspaced := spaced_lex t.chars
      rw [hchars] at hspaced
      rw [hchars]
      exact hspaced.of_trim
    · obtain ⟨ts, ps, hparts, hne, rfl, hps⟩ := Composite.read_eq_ok (parseWithin_trim e) hread
      have hall := hps.imp fun p u hp => ih e (Nat.lt_succ_self e) hp
      obtain ⟨before, between, behind, hblanks⟩ := henclosed.parts
      refine ⟨(nesting_le_succ_iff hparts).2 fun u hu => ?_, (spaced_lex_composite hparts hne).2
        ⟨ps, before, between, behind, (hall.imp fun p u hp => hp.2).flip, hblanks⟩⟩
      obtain ⟨p, _, hp⟩ := exists_of_mem_forall₂ hall hu
      exact hp.1

/-! ## Descriptors -/

/-- A text is read as a type when the type has no tuple without elements, at most 128 composites stand
within each other, and the text is made of the tokens of the type's descriptor with blanks before,
between and behind them. So a type's own descriptor is read back, unless the type is nested too deeply:
then it is malformed. -/
theorem parse_accepts (t : ColumnType) :
    (∀ s, parse s = .ok t ↔
      t.Solid ∧ t.nesting ≤ 128 ∧ Spaced (lex t.descriptor.toList) s.toList) ∧
    (t.Solid → t.nesting ≤ 128 → parse t.descriptor = .ok t) ∧
    (t.Solid → 128 < t.nesting →
      parse t.descriptor = .error (.malformedDescriptor "nesting deeper than 128 levels")) := by
  have hdescriptor : t.descriptor.toList = t.chars := String.toList_ofList
  have hread (ht : t.Solid) : parse t.descriptor =
      if t.nesting ≤ 128 then .ok t else .error .nestedTooDeeply := by
    rw [parse, hdescriptor]
    exact parseWithin_of_spaced ht (spaced_lex t.chars) maxNesting
  refine ⟨fun s => ⟨fun h => ?_, ?_⟩, fun ht hnesting => ?_, fun ht hnesting => ?_⟩
  · obtain ⟨hnesting, hspaced⟩ := spaced_of_parseWithin h
    rw [hdescriptor]
    exact ⟨parse_solid h, hnesting, hspaced⟩
  · rintro ⟨ht, hnesting, hspaced⟩
    rw [hdescriptor] at hspaced
    have hall := parseWithin_of_spaced ht hspaced maxNesting
    exact hall.trans (if_pos hnesting)
  · rw [hread ht, if_pos hnesting]
  · rw [hread ht, if_neg (Nat.not_le.2 hnesting)]
    rfl

/-- Arrays of arrays are solid, and nested as often as that. -/
lemma solid_nesting_arrays (n : Nat) :
    (array^[n] .text).Solid ∧ (array^[n] .text).nesting = n := by
  induction n with
  | zero => exact ⟨trivial, rfl⟩
  | succ n ih =>
      rw [Function.iterate_succ_apply']
      exact ⟨ih.1, congrArg (· + 1) ih.2⟩

/-- A descriptor with blanks in all places, and two of arrays within each other. -/
theorem parse_accepts_map_arrays :
    parse " Map( String ,Array (Nullable( UInt8\t) ) )\n" =
      .ok (.map .text (.array (.nullable (.integer .uint8)))) ∧
    parse (array^[128] .text).descriptor = .ok (array^[128] .text) ∧
    parse (array^[129] .text).descriptor =
      .error (.malformedDescriptor "nesting deeper than 128 levels") := by
  have hlex : lex " Map( String ,Array (Nullable( UInt8\t) ) )\n".toList =
      lex (map .text (.array (.nullable (.integer .uint8)))).descriptor.toList := by decide
  have hspaced := spaced_lex " Map( String ,Array (Nullable( UInt8\t) ) )\n".toList
  rw [hlex] at hspaced
  obtain ⟨hsolid, hnesting⟩ := solid_nesting_arrays 128
  obtain ⟨hsolid', hnesting'⟩ := solid_nesting_arrays 129
  exact ⟨((parse_accepts _).1 _).2 ⟨⟨trivial, trivial⟩, by decide, hspaced⟩,
    (parse_accepts _).2.1 hsolid (by omega), (parse_accepts _).2.2 hsolid' (by omega)⟩

end ColumnWire.Cell.ColumnType
