import Mathlib.Data.List.Basic
import Mathlib.Data.List.Induction
import Mathlib.Tactic.Common
import ColumnWire.Proofs.Session.Grammar

/-!
# Rows of one shape

A row looks up a name in one list and takes the position that it finds for one in another list.
`Unchecked` has the accesses as they would be without any check of a position: they give nothing at all
where a position is not there. On the columns and the values of a row this never happens, since there
are as many of the one as of the other, and what they give is what the accesses to the row give
(`Row.unchecked_get`, `Row.unchecked_getAs`, `Row.unchecked_getAsAt`, `Row.unchecked_isNull`).

The way through a row comes by all its pairs of a name and a value and then ends
(`Row.Cursor.yields_iff`), and of the pairs with a name the first one counts
(`Row.get?_eq_some_iff`). All this together is `Row.IsShaped`, and it holds of every row
(`Row.isShaped`).

A block changes when a row is pushed that has one value for each of its columns, and then by that row
alone (`Block.finalState_pushRow`). So after any pushes it holds the rows of that width in their order
(`Block.rows_after`). A push adds the row that is made of its values (`Block.pushRow_eq_new`), and a
block that is made of rows at once is the same as one they are pushed onto
(`Block.ofRows_eq_foldlM_push`).

Main statement: `Block.after_isShaped`.
-/

namespace ColumnWire.Session

open ColumnWire.Wire ColumnWire.Packet ColumnWire.Cell

/-! ## Accesses without checks

An access is none if it goes to a position that is not there. -/

namespace Unchecked

variable (columns : List Column) (values : List Value)

/-- The value of the first column of a name. -/
def get (name : String) : Option (Option Value) :=
  match columns.findIdx? (·.name == name) with
  | some i => do
    let v ← values[i]?
    pure (some v)
  | none => some none

/-- The value at a position as one of a target type. -/
def convert (t : Target) (i : Nat) : Option (Except ClientError t.Carrier) := do
  let c ← columns[i]?
  let v ← values[i]?
  pure ((t.ofValue v).mapError (.column c.name c.typeName))

/-- The value of the first column of a name as one of a target type. -/
def getAs (t : Target) (name : String) : Option (Except ClientError t.Carrier) :=
  match columns.findIdx? (·.name == name) with
  | some i => convert columns values t i
  | none => some (.error (.columnNotFound name))

/-- The value at a position as one of a target type; the position is compared with the number of
values alone. -/
def getAsAt (t : Target) (i : Nat) : Option (Except ClientError t.Carrier) :=
  if values.length ≤ i then some (.error (.columnNotFound ("#" ++ toString i)))
  else convert columns values t i

/-- Whether the column of a name holds no value. -/
def isNull (name : String) : Option Bool := do
  let v ← get columns values name
  pure (v.any Value.isNull)

end Unchecked

namespace Row

variable {r : Row} {name : String} {v : Value} {i : Nat} {t : Target}
  {columns : List Column} {values : List Value}

/-- A column that is found by its name has a value. -/
lemma lt_of_indexOf? (h : r.indexOf? name = some i) : i < r.values.length := by
  obtain ⟨hi, _, _⟩ := List.findIdx?_eq_some_iff_getElem.1 h
  rw [r.width]
  exact hi

/-- A value at a position has a column. -/
lemma unchecked_convert (hi : i < r.values.length) :
    Unchecked.convert r.columns r.values t i = some (r.getAsAt t i) := by
  have hc : i < r.columns.length := r.width ▸ hi
  unfold Unchecked.convert getAsAt
  rw [List.getElem?_eq_getElem hi, List.getElem?_eq_getElem hc]
  simp only [Option.bind_eq_bind, Option.bind_some]
  cases t.ofValue r.values[i] <;> rfl

/-- Behind the last value no column is found. -/
lemma getAsAt_of_le (hi : r.values.length ≤ i) :
    r.getAsAt t i = .error (.columnNotFound ("#" ++ toString i)) := by
  have hc : r.columns.length ≤ i := r.width ▸ hi
  unfold getAsAt
  rw [List.getElem?_eq_none hi, List.getElem?_eq_none hc]

/-- A value is taken by name without a check. -/
lemma unchecked_get (r : Row) (name : String) :
    Unchecked.get r.columns r.values name = some (r.get? name) := by
  unfold Unchecked.get get? indexOf?
  cases h : r.columns.findIdx? (·.name == name) with
  | none => rfl
  | some i =>
      have hi : i < r.values.length := lt_of_indexOf? h
      simp [getAt?, hi]

-- With fewer values than columns there is a name whose position is not there.
example : Unchecked.get [⟨"n", "UInt8"⟩, ⟨"s", "String"⟩] [.null] "s" = none := rfl

/-- A value is converted by name without a check. -/
lemma unchecked_getAs (r : Row) (t : Target) (name : String) :
    Unchecked.getAs r.columns r.values t name = some (r.getAs t name) := by
  unfold Unchecked.getAs getAs indexOf?
  cases h : r.columns.findIdx? (·.name == name) with
  | none => rfl
  | some i => exact unchecked_convert (lt_of_indexOf? h)

/-- A value is converted by position with one check. -/
lemma unchecked_getAsAt (r : Row) (t : Target) (i : Nat) :
    Unchecked.getAsAt r.columns r.values t i = some (r.getAsAt t i) := by
  unfold Unchecked.getAsAt
  by_cases hi : r.values.length ≤ i
  · rw [if_pos hi, getAsAt_of_le hi]
  · rw [if_neg hi, unchecked_convert (Nat.not_le.1 hi)]

/-- A value is asked for by name without a check. -/
lemma unchecked_isNull (r : Row) (name : String) :
    Unchecked.isNull r.columns r.values name = some (r.isNull name) := by
  rw [Unchecked.isNull, unchecked_get]
  rfl

/-! ## Pairs -/

/-- The pairs have the names of the columns. -/
lemma pairs_names (r : Row) : r.pairs.map (·.1) = r.columns.map (·.name) := by
  have hlength : (r.columns.map (·.name)).length = r.values.length := by
    rw [List.length_map, r.width]
  exact List.map_fst_zip (Nat.le_of_eq hlength)

/-- The pairs have the values. -/
lemma pairs_values (r : Row) : r.pairs.map (·.2) = r.values := by
  have hlength : r.values.length = (r.columns.map (·.name)).length := by
    rw [List.length_map, r.width]
  exact List.map_snd_zip (Nat.le_of_eq hlength)

/-- There is a pair for each value. -/
lemma length_pairs (r : Row) : r.pairs.length = r.values.length := by
  rw [← r.pairs_values, List.length_map]

/-- To find a position in one list and look there in the other is to find a pair. -/
lemma findIdx?_bind_getElem? (h : values.length = columns.length) (name : String) :
    (columns.findIdx? (·.name == name)).bind (values[·]?) =
      (((columns.map (·.name)).zip values).find? (·.1 == name)).map (·.2) := by
  induction columns generalizing values with
  | nil => rfl
  | cons c rest ih =>
      obtain ⟨v, more, rfl⟩ := List.exists_cons_of_length_eq_add_one h
      have hmore := ih (Nat.succ.inj h)
      rw [List.findIdx?_cons, List.map_cons, List.zip_cons_cons, List.find?_cons]
      by_cases hname : (c.name == name) = true
      · simp [hname]
      · rw [if_neg hname, Option.bind_map]
        simp only [hname]
        exact hmore

/-- The value of a name is that of the first pair with the name. -/
lemma get?_eq_find? (r : Row) (name : String) :
    r.get? name = (r.pairs.find? (·.1 == name)).map (·.2) :=
  findIdx?_bind_getElem? r.width name

/-- A name has a value exactly if a pair has both, and none before it has the name. -/
lemma get?_eq_some_iff : r.get? name = some v ↔
    ∃ front behind, r.pairs = front ++ (name, v) :: behind ∧ ∀ p ∈ front, p.1 ≠ name := by
  rw [get?_eq_find?, Option.map_eq_some_iff]
  constructor
  · rintro ⟨p, hp, rfl⟩
    obtain ⟨hname, front, behind, hpairs, hfront⟩ := List.find?_eq_some_iff_append.1 hp
    have hname : p.1 = name := by simpa using hname
    refine ⟨front, behind, ?_, ?_⟩
    · rw [hpairs, ← hname]
    · intro q hq
      simpa using hfront q hq
  · rintro ⟨front, behind, hpairs, hfront⟩
    refine ⟨(name, v), List.find?_eq_some_iff_append.2 ⟨by simp, front, behind, hpairs, ?_⟩, rfl⟩
    intro q hq
    simpa using hfront q hq

/-- A name has no value exactly if no column has it. -/
lemma get?_eq_none_iff : r.get? name = none ↔ ∀ c ∈ r.columns, c.name ≠ name := by
  have hnames : (∀ p ∈ r.pairs, p.1 ≠ name) ↔ ∀ c ∈ r.columns, c.name ≠ name := by
    rw [← List.forall_mem_map (f := Prod.fst) (P := (· ≠ name)), pairs_names, List.forall_mem_map]
  rw [get?_eq_find?, Option.map_eq_none_iff, List.find?_eq_none, ← hnames]
  simp

/-! ## The way through a row -/

/-- The pairs that a way comes by, up to its end. -/
inductive Cursor.Yields : Cursor → List (String × Value) → Prop where
  /-- The way is at its end. -/
  | done {c : Cursor} (h : c.next? = none) : Yields c []
  /-- It comes by a pair and goes on. -/
  | more {c d : Cursor} {p : String × Value} {ps : List (String × Value)}
      (h : c.next? = some (p, d)) (hrest : Yields d ps) : Yields c (p :: ps)

variable {c : Cursor} {ps : List (String × Value)}

/-- Before the end stands a pair. -/
lemma Cursor.next?_of_lt (h : c.position < c.row.pairs.length) :
    c.next? = some (c.row.pairs[c.position], ⟨c.row, c.position + 1⟩) := by
  have hv : c.position < c.row.values.length := c.row.length_pairs ▸ h
  have hc : c.position < c.row.columns.length := c.row.width ▸ hv
  unfold next?
  simp only [List.getElem?_eq_getElem hv, List.getElem?_eq_getElem hc]
  simp [pairs]

/-- At the end there is none. -/
lemma Cursor.next?_of_le (h : c.row.pairs.length ≤ c.position) : c.next? = none := by
  have hc : c.row.columns.length ≤ c.position := by
    rw [← c.row.width, ← c.row.length_pairs]
    exact h
  unfold next?
  rw [List.getElem?_eq_none hc]
  rfl

/-- A way comes by the pairs from its position on. -/
lemma Cursor.yields_drop (c : Cursor) : c.Yields (c.row.pairs.drop c.position) := by
  -- The induction is on the number of pairs to come.
  obtain ⟨n, hn⟩ : ∃ n, n = c.row.pairs.length - c.position := ⟨_, rfl⟩
  induction n generalizing c with
  | zero =>
      have hle : c.row.pairs.length ≤ c.position := by omega
      rw [List.drop_eq_nil_of_le hle]
      exact .done (next?_of_le hle)
  | succ n ih =>
      have hlt : c.position < c.row.pairs.length := by omega
      rw [List.drop_eq_getElem_cons hlt]
      apply Yields.more (next?_of_lt hlt)
      apply ih ⟨c.row, c.position + 1⟩
      dsimp only
      omega

/-- A way comes by no other pairs. -/
lemma Cursor.Yields.unique {qs : List (String × Value)} (h : c.Yields ps) (h' : c.Yields qs) :
    ps = qs := by
  induction h generalizing qs with
  | done h =>
      cases h' with
      | done _ => rfl
      | more h' _ => simp [h] at h'
  | more h _ ih =>
      cases h' with
      | done h' => simp [h] at h'
      | more h' hrest =>
          rw [h] at h'
          cases h'
          rw [ih hrest]

/-- A way comes by the pairs from its position on, and by no others. -/
lemma Cursor.yields_iff : c.Yields ps ↔ ps = c.row.pairs.drop c.position := by
  constructor
  · intro h
    exact h.unique c.yields_drop
  · rintro rfl
    exact c.yields_drop

/-! ## Rows -/

/-- No access to the row goes to a position that is not there, and the first column of a name on the
way through the row is the one that counts. -/
structure IsShaped (r : Row) : Prop where
  /-- There is one pair for each column, in order. -/
  names : r.pairs.map (·.1) = r.columns.map (·.name)
  /-- There is one pair for each value, in order. -/
  values : r.pairs.map (·.2) = r.values
  /-- The way through the row comes by the pairs. -/
  iter : ∀ ps, r.iter.Yields ps ↔ ps = r.pairs
  /-- A value is found by name. -/
  get : ∀ name, Unchecked.get r.columns r.values name = some (r.get? name)
  /-- A value is converted by name. -/
  getAs : ∀ t name, Unchecked.getAs r.columns r.values t name = some (r.getAs t name)
  /-- A value is converted by position. -/
  getAsAt : ∀ t i, Unchecked.getAsAt r.columns r.values t i = some (r.getAsAt t i)
  /-- A value is asked for by name. -/
  isNull : ∀ name, Unchecked.isNull r.columns r.values name = some (r.isNull name)
  /-- The first of the pairs with a name counts. -/
  first : ∀ name v, r.get? name = some v ↔
    ∃ front behind, r.pairs = front ++ (name, v) :: behind ∧ ∀ p ∈ front, p.1 ≠ name
  /-- Exactly the names without a column have no value. -/
  absent : ∀ name, r.get? name = none ↔ ∀ c ∈ r.columns, c.name ≠ name

/-- Every row is shaped like that. -/
lemma isShaped (r : Row) : r.IsShaped where
  names := r.pairs_names
  values := r.pairs_values
  iter _ := Cursor.yields_iff
  get := r.unchecked_get
  getAs := r.unchecked_getAs
  getAsAt := r.unchecked_getAsAt
  isNull := r.unchecked_isNull
  first _ _ := get?_eq_some_iff
  absent _ := get?_eq_none_iff

end Row

/-! ## Blocks -/

namespace Block

variable {b c : Block} {columns : List Column} {info : BlockInfo} {values : List Value}
  {rows : List (List Value)}

/-- A row of the right width is added behind the others. -/
lemma push_of_eq (h : values.length = b.columns.length) :
    ∃ c, b.push values = .ok c ∧ c.columns = b.columns ∧ c.info = b.info ∧
      c.rows = b.rows ++ [values] := by
  rw [push, dif_pos h]
  exact ⟨_, rfl, rfl, rfl, rfl⟩

/-- A row of another width is refused. -/
lemma push_of_ne (h : values.length ≠ b.columns.length) :
    b.push values = .error (.rowWidth b.columns.length values.length) := by
  rw [push, dif_neg h]

/-- A push in place succeeds with the block that has the row, or fails with the block as it is. -/
lemma pushRow_eq (values : List Value) (b : Block) :
    pushRow values b = match b.push values with
      | .ok c => .ok () c
      | .error e => .error e b := by
  unfold pushRow
  rw [bind_ok (m := get) rfl]
  cases b.push values <;> rfl

/-- The block after rows were pushed onto one without any; each of them may have been refused. -/
def after (columns : List Column) (info : BlockInfo) (pushed : List (List Value)) : Block :=
  pushed.foldl (fun b values => finalState (pushRow values b)) (new columns info)

/-- One push more is a push onto the block so far. -/
lemma after_concat (columns : List Column) (info : BlockInfo) (pushed : List (List Value))
    (values : List Value) :
    after columns info (pushed ++ [values]) =
      finalState (pushRow values (after columns info pushed)) := by
  simp [after]

/-- One push keeps the columns, and adds the row if it has their width. -/
lemma finalState_pushRow (values : List Value) (b : Block) :
    (finalState (pushRow values b)).columns = b.columns ∧
      (finalState (pushRow values b)).info = b.info ∧
      (finalState (pushRow values b)).rows =
        b.rows ++ [values].filter fun l => l.length = b.columns.length := by
  rw [pushRow_eq]
  by_cases h : values.length = b.columns.length
  · obtain ⟨c, hc, hcolumns, hinfo, hrows⟩ := push_of_eq h
    rw [hc]
    refine ⟨hcolumns, hinfo, ?_⟩
    rw [List.filter_cons_of_pos (by simpa using h)]
    exact hrows
  · rw [push_of_ne h]
    refine ⟨rfl, rfl, ?_⟩
    rw [List.filter_cons_of_neg (by simpa using h)]
    exact (List.append_nil b.rows).symm

/-- After any pushes, a block has its columns and the rows of their width, in order. -/
lemma rows_after (columns : List Column) (info : BlockInfo) (pushed : List (List Value)) :
    (after columns info pushed).columns = columns ∧ (after columns info pushed).info = info ∧
      (after columns info pushed).rows = pushed.filter fun l => l.length = columns.length := by
  induction pushed using List.reverseRecOn with
  | nil => exact ⟨rfl, rfl, rfl⟩
  | append_singleton before values ih =>
      obtain ⟨hcolumns, hinfo, hrows⟩ := ih
      have hpush := finalState_pushRow values (after columns info before)
      rw [hcolumns, hinfo, hrows] at hpush
      rw [after_concat, List.filter_append]
      exact hpush

/-! ## Blocks of rows -/

/-- Rows of the right width are all added, one after another. -/
lemma foldlM_push_of_forall (h : ∀ l ∈ rows, l.length = b.columns.length) :
    ∃ c, rows.foldlM push b = .ok c ∧ c.columns = b.columns ∧ c.info = b.info ∧
      c.rows = b.rows ++ rows := by
  induction rows generalizing b with
  | nil => exact ⟨b, rfl, rfl, rfl, (List.append_nil b.rows).symm⟩
  | cons values rest ih =>
      obtain ⟨c, hc, hcolumns, hinfo, hrows⟩ := push_of_eq (h values List.mem_cons_self)
      have hrest : ∀ l ∈ rest, l.length = c.columns.length := by
        intro l hl
        rw [hcolumns]
        exact h l (List.mem_cons_of_mem values hl)
      obtain ⟨d, hd, hcolumns', hinfo', hrows'⟩ := ih hrest
      refine ⟨d, ?_, hcolumns'.trans hcolumns, hinfo'.trans hinfo, ?_⟩
      · rw [List.foldlM_cons, hc]
        exact hd
      · rw [hrows', hrows, List.append_assoc]
        rfl

/-- The first row of another width is the one that is refused. -/
lemma foldlM_push_of_find? (h : rows.find? (fun l => l.length != b.columns.length) = some values) :
    rows.foldlM push b = .error (.rowWidth b.columns.length values.length) := by
  induction rows generalizing b with
  | nil => cases h
  | cons first rest ih =>
      rw [List.foldlM_cons]
      by_cases hfirst : first.length = b.columns.length
      · obtain ⟨c, hc, hcolumns, _⟩ := push_of_eq hfirst
        rw [List.find?_cons_of_neg (by simpa using hfirst), ← hcolumns] at h
        rw [hc, ← hcolumns]
        exact ih h
      · rw [List.find?_cons_of_pos (by simpa using hfirst)] at h
        cases h
        rw [push_of_ne hfirst]
        rfl

/-- To make a block of rows is to push them, one after another, until one is refused. -/
theorem ofRows_eq_foldlM_push (columns : List Column) (info : BlockInfo) (rows : List (List Value)) :
    ofRows columns info rows = rows.foldlM push (new columns info) := by
  cases h : rows.find? fun l => l.length != columns.length with
  | none =>
      have hall : ∀ l ∈ rows, l.length = columns.length := by
        intro l hl
        simpa using List.find?_eq_none.1 h l hl
      obtain ⟨c, hc, hcolumns, hinfo, hrows⟩ := foldlM_push_of_forall (b := new columns info) hall
      rw [hc]
      exact ofRows_eq_ok.2 ⟨hcolumns, hinfo, hrows⟩
  | some values =>
      have hwidth : ¬∀ l ∈ rows, l.length = columns.length := by
        intro hall
        have hne := List.find?_some h
        rw [hall values (List.mem_of_find?_eq_some h)] at hne
        simp at hne
      rw [foldlM_push_of_find? (b := new columns info) h, ofRows, dif_neg hwidth, h]
      rfl

/-! ## The shape of blocks -/

/-- The rows of a block are told by its columns and its values. -/
lemma map_toRows (b : Block) :
    b.toRows.map (fun r => (r.columns, r.values)) = b.rows.map fun l => (b.columns, l) := by
  rw [toRows, List.map_map]
  exact List.attach_map_val (f := fun l => (b.columns, l))

/-- To push values is to make a row of them and add it, or not, for the same reason. -/
theorem pushRow_eq_new (values : List Value) (b : Block) :
    match Row.new b.columns values with
    | .ok r => ∃ c, pushRow values b = .ok () c ∧ c.toRows = b.toRows ++ [r]
    | .error e => pushRow values b = .error e b := by
  rw [pushRow_eq]
  by_cases h : values.length = b.columns.length
  · obtain ⟨c, hc, hcolumns, _, hrows⟩ := push_of_eq h
    rw [Row.new, dif_pos h, hc]
    refine ⟨c, rfl, ?_⟩
    -- A row is its columns and its values.
    have hinjective : Function.Injective fun r : Row => (r.columns, r.values) := by
      rintro ⟨columns, values, _⟩ ⟨columns', values', _⟩ hsame
      cases hsame
      rfl
    apply List.map_injective_iff.2 hinjective
    rw [List.map_append, map_toRows, map_toRows, hcolumns, hrows, List.map_append]
    rfl
  · rw [Row.new, dif_neg h, push_of_ne h]

/-- The rows of a block have its values. -/
lemma values_toRows (b : Block) : b.toRows.map (·.values) = b.rows := by
  rw [toRows, List.map_map]
  exact List.attach_map_subtype_val b.rows

/-- The rows of a block have its columns, and one value for each. -/
lemma shape_of_mem_toRows {r : Row} (h : r ∈ b.toRows) :
    r.columns = b.columns ∧ r.values.length = b.columns.length := by
  obtain ⟨⟨l, hl⟩, _, rfl⟩ := List.mem_map.1 h
  exact ⟨rfl, b.width l hl⟩

/-- Whatever rows are pushed onto a block without any, it keeps its columns and holds those with one
value for each column, in the order they were pushed. The next row is added behind them if it has
that width; otherwise it is refused, and the block stays as it is. Each row of the block has its
columns and one value for each. No access to such a row goes to a position that is not there, and of
its columns with a name the first one counts. -/
theorem after_isShaped (columns : List Column) (info : BlockInfo) (pushed : List (List Value)) :
    (after columns info pushed).columns = columns ∧ (after columns info pushed).info = info ∧
    (after columns info pushed).rows = pushed.filter (fun l => l.length = columns.length) ∧
    (∀ values : List Value, values.length = columns.length →
      ∃ c, pushRow values (after columns info pushed) = .ok () c ∧ c.columns = columns ∧
        c.info = info ∧ c.rows = (after columns info pushed).rows ++ [values]) ∧
    (∀ values : List Value, values.length ≠ columns.length →
      pushRow values (after columns info pushed) =
        .error (.rowWidth columns.length values.length) (after columns info pushed)) ∧
    (after columns info pushed).toRows.map (·.values) = (after columns info pushed).rows ∧
    ∀ r ∈ (after columns info pushed).toRows,
      r.columns = columns ∧ r.values.length = columns.length ∧ r.IsShaped := by
  obtain ⟨hcolumns, hinfo, hrows⟩ := rows_after columns info pushed
  refine ⟨hcolumns, hinfo, hrows, ?_, ?_, values_toRows _, ?_⟩
  · intro values h
    have hfits : values.length = (after columns info pushed).columns.length := by
      rw [hcolumns]
      exact h
    obtain ⟨c, hc, hshape⟩ := push_of_eq hfits
    rw [hcolumns, hinfo] at hshape
    exact ⟨c, by rw [pushRow_eq, hc], hshape⟩
  · intro values h
    have hne : values.length ≠ (after columns info pushed).columns.length := by
      rw [hcolumns]
      exact h
    rw [pushRow_eq, push_of_ne hne, hcolumns]
  · intro r hr
    have hshape := shape_of_mem_toRows hr
    rw [hcolumns] at hshape
    exact ⟨hshape.1, hshape.2, r.isShaped⟩

example : (after [⟨"n", "UInt8"⟩, ⟨"n", "String"⟩] {} [[.null], [.text "a", .null], []]).toRows.map
    (fun r => (r.values, r.get? "n")) = [([.text "a", .null], some (.text "a"))] := rfl

end Block

end ColumnWire.Session
