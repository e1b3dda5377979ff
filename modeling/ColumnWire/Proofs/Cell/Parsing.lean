import Mathlib.Data.List.Forall2
import Mathlib.Data.List.TakeWhile
import Mathlib.Tactic.Common
import ColumnWire.Proofs.Cell.Arguments
import ColumnWire.Proofs.Cell.Normal
import ColumnWire.Proofs.Text.Blank
import ColumnWire.Proofs.Wire.Action

/-!
# One step of reading a descriptor

A type is scalar, or it is made of other types in one of five ways (`composition?`). So is a descriptor:
it is the name of a scalar type with blanks around it, or the keyword of a composite with arguments in
parentheses (`IsEnclosed`). In the second case the arguments are read one level deeper
(`parseWithin_succ`), unless there is no level left (`parseWithin_zero`). Nothing else is read
(`parseWithin_eq_ok`), and what is read of arguments is made of what is read of each
(`Composite.read_joinWith`, `Composite.read_eq_ok`). A descriptor that is none is refused for what it is
(`isStream_of_parseWithin`).
-/

namespace ColumnWire.Cell.ColumnType

open ColumnWire.Wire ColumnWire.Text

variable {d : Nat} {s name inside : List Char} {t : ColumnType} {c : Composite}

/-! ## Parts of types -/

/-- How a type is made of other types, and of which; nothing for a scalar type. -/
def composition? : ColumnType → Option (Composite × List ColumnType)
  | .array t => some (.array, [t])
  | .nullable t => some (.nullable, [t])
  | .lowCardinality t => some (.lowCardinality, [t])
  | .tuple ts => some (.tuple, ts)
  | .map k v => some (.map, [k, v])
  | _ => none

/-- What holds of the scalar types, and of a composite if it does of its parts, holds of all types. -/
theorem induction_parts {motive : ColumnType → Prop} (scalar : ∀ t ∈ scalars, motive t)
    (composite : ∀ t c ts, t.composition? = some (c, ts) → (∀ u ∈ ts, motive u) → motive t)
    (t : ColumnType) : motive t := by
  induction t with
  | text => exact scalar _ (by simp [scalars])
  | integer k => exact scalar _ (by cases k <;> simp [scalars])
  | float32 => exact scalar _ (by simp [scalars])
  | float64 => exact scalar _ (by simp [scalars])
  | date => exact scalar _ (by simp [scalars])
  | dateTime => exact scalar _ (by simp [scalars])
  | array t ih => exact composite _ _ _ rfl (by simpa using ih)
  | nullable t ih => exact composite _ _ _ rfl (by simpa using ih)
  | lowCardinality t ih => exact composite _ _ _ rfl (by simpa using ih)
  | tuple ts ih => exact composite _ _ _ rfl ih
  | map k v ihk ihv => exact composite _ _ _ rfl (by simpa using ⟨ihk, ihv⟩)

/-! ## Names -/

/-- A character of a name: neither a blank nor a parenthesis nor a comma. -/
def isNameChar (b : Char) : Bool :=
  !isBlank b && b != '(' && b != ')' && b != ','

/-- What a character of a name is not. -/
lemma isNameChar_iff {b : Char} :
    isNameChar b = true ↔ isBlank b = false ∧ b ≠ '(' ∧ b ≠ ')' ∧ b ≠ ',' := by
  simp [isNameChar, and_assoc]

/-- A scalar type has its own name. -/
lemma scalar?_eq_some : scalar? name = some t ↔ t ∈ scalars ∧ t.chars = name := by
  constructor
  · intro h
    exact ⟨List.mem_of_find?_eq_some h, by simpa using List.find?_some h⟩
  · rintro ⟨ht, rfl⟩
    simp only [scalars, List.mem_cons, List.not_mem_nil, or_false] at ht
    rcases ht with rfl | rfl | rfl | rfl | rfl | rfl | rfl | rfl | rfl | rfl | rfl | rfl | rfl <;> rfl

/-- The name of a scalar type is a name. -/
lemma chars_of_mem_scalars (h : t ∈ scalars) : t.chars ≠ [] ∧ t.chars.all isNameChar = true := by
  have hall : ∀ u ∈ scalars, u.chars ≠ [] ∧ u.chars.all isNameChar = true := by decide
  exact hall t h

/-- The word before the arguments of a composite. -/
def Composite.keyword : Composite → List Char
  | .array => "Array".toList
  | .nullable => "Nullable".toList
  | .lowCardinality => "LowCardinality".toList
  | .tuple => "Tuple".toList
  | .map => "Map".toList

/-- A composite has its own keyword. -/
lemma composite?_eq_some : composite? name = some c ↔ name = c.keyword := by
  constructor
  · intro h
    unfold composite? at h
    split_ifs at h <;> cases h <;> assumption
  · rintro rfl
    cases c <;> rfl

/-- A keyword is a name. -/
lemma Composite.keyword_isName (c : Composite) :
    c.keyword ≠ [] ∧ c.keyword.all isNameChar = true := by
  cases c <;> decide

/-- A name has no blanks around it. -/
lemma trim_of_isName (h : name.all isNameChar = true) : trim name = name :=
  trim_of_no_blank fun b hb => (isNameChar_iff.1 (List.all_eq_true.1 h b hb)).1

/-! ## Steps -/

/-- The text is the keyword of a composite and a balanced text in parentheses behind it, with any number
of blanks around each of them. -/
structure IsEnclosed (c : Composite) (inside s : List Char) : Prop where
  /-- The text in parentheses is balanced. -/
  balanced : Balanced inside
  /-- The parts of the text. -/
  parts : ∃ before between behind, Blank before ∧ Blank between ∧ Blank behind ∧
    s = before ++ (c.keyword ++ (between ++ '(' :: (inside ++ ')' :: behind)))

/-- A blank is no parenthesis. -/
lemma ne_of_isBlank {b : Char} (h : isBlank b = true) : b ≠ '(' ∧ b ≠ ')' ∧ b ≠ ',' := by
  refine ⟨?_, ?_, ?_⟩ <;> rintro rfl <;> revert h <;> decide

/-- Blanks are plain. -/
lemma plain_of_blank (h : Blank s) : Plain s :=
  fun b hb => ne_of_isBlank (h b hb)

/-- A name is plain. -/
lemma plain_of_isName (h : name.all isNameChar = true) : Plain name :=
  fun b hb => (isNameChar_iff.1 (List.all_eq_true.1 h b hb)).2

/-- An enclosed text is an argument. -/
lemma IsEnclosed.isArgument (h : IsEnclosed c inside s) : IsArgument s := by
  obtain ⟨before, between, behind, hbefore, hbetween, hbehind, rfl⟩ := h.parts
  have hfront : Plain (before ++ (c.keyword ++ between)) :=
    (plain_of_blank hbefore).append
      ((plain_of_isName c.keyword_isName.2).append (plain_of_blank hbetween))
  have harg := isArgument_enclosed hfront h.balanced (plain_of_blank hbehind)
  simpa using harg

/-- What is left of an enclosed text without the blanks around it. -/
lemma IsEnclosed.trim_eq (h : IsEnclosed c inside s) :
    ∃ between, Blank between ∧ trim s = c.keyword ++ (between ++ '(' :: (inside ++ [')'])) := by
  obtain ⟨before, between, behind, hbefore, hbetween, hbehind, rfl⟩ := h.parts
  obtain ⟨hne, hname⟩ := c.keyword_isName
  obtain ⟨b, rest, hkeyword⟩ := List.exists_cons_of_ne_nil hne
  have hb : isBlank b = false :=
    (isNameChar_iff.1 (List.all_eq_true.1 hname b (by simp [hkeyword]))).1
  have hends := trim_of_ends hb (by decide : isBlank ')' = false) (rest ++ (between ++ '(' :: inside))
  have hsplit : c.keyword ++ (between ++ '(' :: (inside ++ ')' :: behind)) =
      (c.keyword ++ (between ++ '(' :: (inside ++ [')']))) ++ behind := by simp
  refine ⟨between, hbetween, ?_⟩
  rw [hsplit, trim_append_blanks hbefore hbehind, hkeyword]
  simpa using hends

/-- What stands before the first parenthesis of an enclosed text, and what from it on. -/
lemma IsEnclosed.takeWhile_dropWhile (h : IsEnclosed c inside s) :
    trim ((trim s).takeWhile (· != '(')) = c.keyword ∧
      (trim s).dropWhile (· != '(') = '(' :: (inside ++ [')']) := by
  obtain ⟨between, hbetween, hs⟩ := h.trim_eq
  have hname := c.keyword_isName.2
  have hopen : ∀ b ∈ c.keyword ++ between, (b != '(') = true := by
    intro b hb
    rcases List.mem_append.1 hb with hb | hb
    · simpa using (plain_of_isName hname b hb).1
    · simpa using (ne_of_isBlank (hbetween b hb)).1
  rw [hs, ← List.append_assoc]
  constructor
  · have hfront := (trim_append_blanks (s := c.keyword) .nil hbetween).trans (trim_of_isName hname)
    rw [List.takeWhile_append_of_pos hopen]
    simpa using hfront
  · rw [List.dropWhile_append_of_pos hopen]
    simp

/-- An enclosed text is no name. -/
lemma IsEnclosed.scalar?_eq_none (h : IsEnclosed c inside s) : scalar? (trim s) = none := by
  obtain ⟨between, -, hs⟩ := h.trim_eq
  cases hscalar : scalar? (trim s) with
  | none => rfl
  | some t =>
      obtain ⟨ht, hchars⟩ := scalar?_eq_some.1 hscalar
      have hopen : '(' ∈ t.chars := by
        rw [hchars, hs]
        simp
      have hname := List.all_eq_true.1 (chars_of_mem_scalars ht).2 '(' hopen
      exact absurd hname (by decide)

/-- The name of a scalar type is read at any depth. -/
lemma parseWithin_of_scalar (h : scalar? (trim s) = some t) (d : Nat) : parseWithin d s = .ok t := by
  rw [parseWithin.eq_def]
  dsimp only
  rw [h]

/-- Without a level left, no composite is read. -/
lemma parseWithin_zero (h : IsEnclosed c inside s) : parseWithin 0 s = .error .nestedTooDeeply := by
  obtain ⟨hfront, hbehind⟩ := h.takeWhile_dropWhile
  rw [parseWithin.eq_def]
  dsimp only
  rw [h.scalar?_eq_none, hbehind, composite?_eq_some.2 hfront]

/-- With a level left, the arguments of a composite are read. -/
lemma parseWithin_succ (h : IsEnclosed c inside s) (d : Nat) :
    parseWithin (d + 1) s = c.read (parseWithin d) inside := by
  obtain ⟨hfront, hbehind⟩ := h.takeWhile_dropWhile
  rw [parseWithin.eq_def]
  dsimp only
  rw [h.scalar?_eq_none, hbehind, composite?_eq_some.2 hfront]
  dsimp only
  rw [untilClosed_of_balanced h.balanced]

/-- A text is enclosed if its front is a keyword and it ends with the parenthesis that closes the first
one. -/
lemma isEnclosed_of_untilClosed {after : List Char} {b : Char}
    (hkeyword : trim ((trim s).takeWhile (· != '(')) = c.keyword)
    (hafter : (trim s).dropWhile (· != '(') = b :: after)
    (hinside : untilClosed 1 after = some (inside, [])) : IsEnclosed c inside s := by
  obtain ⟨rfl, hbalanced⟩ := untilClosed_eq_some hinside
  have hopen : b = '(' := by
    have hhead := List.head?_dropWhile_not (· != '(') (trim s)
    simpa [hafter] using hhead
  obtain ⟨gap, gap', hgap, hgap', hs⟩ := exists_trim s
  obtain ⟨gap₁, between, hgap₁, hbetween, hfront⟩ := exists_trim ((trim s).takeWhile (· != '('))
  refine ⟨hbalanced, gap ++ gap₁, between, gap', hgap.append hgap₁, hbetween, hgap', ?_⟩
  have hcut := List.takeWhile_append_dropWhile (p := (· != '(')) (l := trim s)
  rw [hafter, hfront, hkeyword, hopen] at hcut
  rw [← hcut] at hs
  simpa using hs

/-- Only the name of a scalar type is read, or the arguments of a composite one level deeper. -/
lemma parseWithin_eq_ok (h : parseWithin d s = .ok t) :
    scalar? (trim s) = some t ∨
      ∃ e c inside, d = e + 1 ∧ IsEnclosed c inside s ∧ c.read (parseWithin e) inside = .ok t := by
  rw [parseWithin.eq_def] at h
  dsimp only at h
  split at h
  · next u hu =>
      cases h
      exact .inl hu
  split at h
  · cases h
  · next b after hafter =>
      split at h
      · cases h
      · next c hc =>
          split at h
          · cases h
          · next e =>
              split at h
              · next inside hinside =>
                  have hkeyword := composite?_eq_some.1 hc
                  exact .inr ⟨e, c, inside, rfl,
                    isEnclosed_of_untilClosed hkeyword hafter hinside, h⟩
              · cases h

/-- Blanks around a descriptor do not matter. -/
lemma parseWithin_trim (d : Nat) (s : List Char) : parseWithin d (trim s) = parseWithin d s := by
  rw [parseWithin.eq_def, parseWithin.eq_def d s]
  dsimp only
  rw [trim_trim]

/-! ## Arguments -/

variable {read : List Char → Except TypeError ColumnType} {ps : List (List Char)}
  {ts : List ColumnType}

/-- What follows a result under a condition is under that condition. -/
lemma ite_ok_bind {ε α β : Type} {q : Prop} [Decidable q] (a : α) (e : ε) (f : α → Except ε β) :
    ((if q then .ok a else .error e : Except ε α) >>= f) = if q then f a else .error e := by
  split_ifs <;> rfl

/-- Arguments are read one by one, and the first error ends it. -/
lemma mapM_trim {P : ColumnType → Prop} [DecidablePred P] {e : TypeError}
    (htrim : ∀ p, read (trim p) = read p)
    (h : List.Forall₂ (fun p u => read p = if P u then .ok u else .error e) ps ts) :
    (ps.map trim).mapM read = if ∀ u ∈ ts, P u then .ok ts else .error e := by
  induction h with
  | nil => rfl
  | cons hp _ ih =>
      rw [List.map_cons, List.mapM_cons, htrim, hp, ih]
      simp only [ite_ok_bind, List.forall_mem_cons, ite_and]
      rfl

/-- When each argument is read as a type or fails alike, so are the arguments of a composite. -/
lemma Composite.read_joinWith {P : ColumnType → Prop} [DecidablePred P] {e : TypeError}
    (htrim : ∀ p, read (trim p) = read p) (hargs : ∀ p ∈ ps, IsArgument p) (hne : ts ≠ [])
    (h : List.Forall₂ (fun p u => read p = if P u then .ok u else .error e) ps ts)
    (ht : t.composition? = some (c, ts)) :
    c.read read (joinWith [','] ps) = if ∀ u ∈ ts, P u then .ok t else .error e := by
  have hps : ps ≠ [] := by
    rintro rfl
    cases h
    exact hne rfl
  have hsplit := splitArguments_joinWith hps hargs
  cases t <;> cases ht
  case tuple =>
    rw [Composite.read, hsplit]
    change (ps.map trim).mapM read >>= _ = _
    rw [mapM_trim htrim h, ite_ok_bind]
    rfl
  case map k v =>
    cases h with
    | @cons pk _ _ _ hk hrest =>
        cases hrest with
        | @cons pv _ _ _ hv hnil =>
            cases hnil
            rw [Composite.read, splitMapArguments, hsplit]
            change (read (trim pk) >>= fun key => read (trim pv) >>= fun value => _) = _
            rw [htrim, htrim, hk, hv]
            simp only [ite_ok_bind, List.forall_mem_cons, ite_and]
            rfl
  all_goals
    cases h with
    | cons hp hnil =>
        cases hnil
        rw [Composite.read, joinWith, hp, ite_ok_bind]
        simp only [List.forall_mem_singleton]
        rfl

/-- What is read of the arguments of a composite is made of what is read of each. -/
lemma Composite.read_eq_ok (htrim : ∀ p, read (trim p) = read p)
    (h : c.read read inside = .ok t) :
    ∃ ts ps, t.composition? = some (c, ts) ∧ ts ≠ [] ∧ inside = joinWith [','] ps ∧
      List.Forall₂ (fun p u => read p = .ok u) ps ts := by
  cases c with
  | tuple =>
      obtain ⟨parts, hparts, h⟩ := except_bind_eq_ok.1 h
      obtain ⟨ts, hts, h⟩ := except_bind_eq_ok.1 h
      cases h
      obtain ⟨ps, hps, rfl⟩ := splitArguments_eq_ok hparts
      have hall := mapM_eq_ok.1 hts
      rw [List.forall₂_map_left_iff] at hall
      simp only [htrim] at hall
      refine ⟨ts, ps, rfl, ?_, (joinWith_of_segments hps).symm, hall⟩
      rintro rfl
      cases hall
      exact segments_ne_nil hps rfl
  | map =>
      obtain ⟨⟨k, v⟩, hsplit, h⟩ := except_bind_eq_ok.1 h
      obtain ⟨tk, hk, h⟩ := except_bind_eq_ok.1 h
      obtain ⟨tv, hv, h⟩ := except_bind_eq_ok.1 h
      cases h
      obtain ⟨parts, hparts, hpair⟩ := except_bind_eq_ok.1 hsplit
      obtain ⟨ps, hps, rfl⟩ := splitArguments_eq_ok hparts
      -- Of other numbers of arguments no pair is made.
      match ps with
      | [pk, pv] =>
          cases hpair
          rw [htrim] at hk hv
          exact ⟨[tk, tv], [pk, pv], rfl, by simp, (joinWith_of_segments hps).symm,
            .cons hk (.cons hv .nil)⟩
      | [] => cases hpair
      | [_] => cases hpair
      | _ :: _ :: _ :: _ => cases hpair
  | _ =>
      obtain ⟨u, hu, h⟩ := except_bind_eq_ok.1 h
      cases h
      exact ⟨[u], [inside], rfl, by simp, rfl, .cons hu .nil⟩

/-! ## Refusals -/

/-- A list of arguments is refused for what it is. -/
lemma isStream_of_splitArguments {e : TypeError} (h : splitArguments s = .error e) :
    e.isStream = false := by
  unfold splitArguments at h
  split at h <;> cases h
  rfl

/-- So is a list of two. -/
lemma isStream_of_splitMapArguments {e : TypeError} (h : splitMapArguments s = .error e) :
    e.isStream = false := by
  rcases except_bind_eq_error.1 h with h | ⟨parts, _, h⟩
  · exact isStream_of_splitArguments h
  · split at h <;> cases h
    rfl

/-- So are the arguments of a composite, if each of them is. -/
lemma Composite.isStream_of_read {e : TypeError}
    (hread : ∀ s e, read s = .error e → e.isStream = false) (h : c.read read inside = .error e) :
    e.isStream = false := by
  cases c with
  | tuple =>
      rcases except_bind_eq_error.1 h with h | ⟨parts, _, h⟩
      · exact isStream_of_splitArguments h
      rcases except_bind_eq_error.1 h with h | ⟨_, _, h⟩
      · obtain ⟨part, _, h⟩ := mapM_eq_error h
        exact hread part e h
      · cases h
  | map =>
      rcases except_bind_eq_error.1 h with h | ⟨⟨k, v⟩, _, h⟩
      · exact isStream_of_splitMapArguments h
      rcases except_bind_eq_error.1 h with h | ⟨_, _, h⟩
      · exact hread k e h
      rcases except_bind_eq_error.1 h with h | ⟨_, _, h⟩
      · exact hread v e h
      · cases h
  | _ =>
      rcases except_bind_eq_error.1 h with h | ⟨_, _, h⟩
      · exact hread inside e h
      · cases h

/-- A descriptor that is refused is none for itself, or its arguments are refused. -/
lemma parseWithin_eq_error {e : TypeError} (h : parseWithin d s = .error e) :
    e.isStream = false ∨
      ∃ d' c inside, d = d' + 1 ∧ Composite.read (parseWithin d') inside c = .error e := by
  rw [parseWithin.eq_def] at h
  dsimp only at h
  split at h
  · cases h
  split at h
  · cases h
    exact .inl rfl
  split at h
  · cases h
    exact .inl rfl
  split at h
  · cases h
    exact .inl rfl
  split at h
  · exact .inr ⟨_, _, _, rfl, h⟩
  · cases h
    exact .inl rfl

/-- A descriptor is refused for what it is. -/
lemma isStream_of_parseWithin {e : TypeError} (h : parseWithin d s = .error e) :
    e.isStream = false := by
  induction d generalizing s e with
  | zero =>
      rcases parseWithin_eq_error h with h | ⟨d', c, inside, hd, _⟩
      · exact h
      · cases hd
  | succ d ih =>
      rcases parseWithin_eq_error h with h | ⟨d', c, inside, hd, h⟩
      · exact h
      · cases hd
        exact Composite.isStream_of_read (fun _ _ => ih) h

end ColumnWire.Cell.ColumnType
