import Mathlib.Tactic.Common
import ColumnWire.Proofs.Cell.Inhabited
import ColumnWire.Proofs.Cell.RoundTrip
import ColumnWire.Proofs.Wire.Shortest

/-!
# Values that were read can be written back

Whatever bytes a value was read from in a column of a type, it can be written in that column, in no more
bytes, and what is written is read as the same value (`ColumnType.write_read`). The reader accepts more
than the writer produces: numbers and flags with groups that add nothing, any flag but zero for a missing
value, dictionaries of any size with any index. So the bytes may differ, and only the value is the same.

Over the type, reading takes bytes that are in the relation `WritesBack` to its value
(`ColumnType.read_writesBack`): the value is written within them, its lengths are words, since they were
read as words, and it is its own normal form. Written values are read back as their normal forms, which
closes the circle.
-/

namespace ColumnWire.Time

/-- A day that a number of days stands for is that number of days after the first. -/
lemma Date.day_of_ofDay? {n : Int} {d : Date} (h : Date.ofDay? n = some d) : d.day = n := by
  unfold Date.ofDay? at h
  split at h <;> cases h
  rfl

/-- A moment that a number of seconds stands for is at that second. -/
lemma Moment.fields_of_ofSeconds? {n : Int} {k : Nat} {t : Moment}
    (h : Moment.ofSeconds? n k = some t) : t.seconds = n ∧ t.nanos = k := by
  unfold Moment.ofSeconds? at h
  split at h <;> cases h
  exact ⟨rfl, rfl⟩

end ColumnWire.Time

namespace ColumnWire.Cell

open ColumnWire.Wire ColumnWire.Number ColumnWire.Time ColumnWire.Stream Tape

/-! ## Writing within given bytes -/

/-- The part is written without an error, in no more bytes than given. -/
def Written.Within (a : Written) (b : Bytes) : Prop :=
  ∃ w, a = ⟨w, none⟩ ∧ w.length ≤ b.length

/-- Parts that are written within given bytes are written one behind the other within all of them. -/
lemma Written.Within.andThen {a a' : Written} {b b' : Bytes} (h : a.Within b) (h' : a'.Within b') :
    (a.andThen a').Within (b ++ b') := by
  obtain ⟨w, rfl, hw⟩ := h
  obtain ⟨w', rfl, hw'⟩ := h'
  refine ⟨w ++ w', rfl, ?_⟩
  rw [List.length_append, List.length_append]
  omega

/-- A part may be given more bytes. -/
lemma Written.Within.mono {a : Written} {b b' : Bytes} (h : a.Within b) (hle : b.length ≤ b'.length) :
    a.Within b' := by
  obtain ⟨w, rfl, hw⟩ := h
  exact ⟨w, rfl, Nat.le_trans hw hle⟩

/-- A number is written within any bytes that spell one of the same written length or more. -/
lemma within_of_spells {n m : UInt64} {b : Bytes} (h : Varint.decoder.Spells b m)
    (hle : (Varint.encode n).length ≤ (Varint.encode m).length) :
    (⟨Varint.encode n, none⟩ : Written).Within b :=
  ⟨_, rfl, Nat.le_trans hle (Varint.encode_length_le h)⟩

/-- The number of parts is written within any bytes that spell it. -/
lemma countOf_within {α : Type} {parts : List α} {n : UInt64} {b : Bytes}
    (h : Varint.decoder.Spells b n) (hlength : parts.length = n.toNat) : (countOf parts).Within b := by
  rw [countOf, hlength, UInt64.ofNat_toNat]
  exact within_of_spells h (Nat.le_refl _)

/-- The value is written in a column of the type within the bytes, its lengths are words, and it is what
is read back. -/
structure WritesBack (t : ColumnType) (b : Bytes) (v : Value) : Prop where
  /-- It is written in no more bytes. -/
  written : (t.write v).Within b
  /-- Its lengths fit into the words that they are counted in. -/
  sized : v.Sized
  /-- It is its own normal form. -/
  normal : t.normal v = v

/-! ## Scalars -/

/-- A plain read takes what spells its value. -/
lemma plain_takes {α : Type} {r : Reader α} {d : Decoder α} (h : Input.Refines r d)
    (hd : d.PrefixStable) : Takes (plain r) d.Spells := by
  intro s v t hs hr
  unfold plain at hr
  cases hread : r s with
  | error e t' => simp [hread] at hr
  | ok a t' =>
      rw [hread] at hr
      cases hr
      exact h.takes hd s v t hs hread

/-- A plain read of a number takes what spells it. -/
lemma plain_varint_takes : Takes (plain Input.readVarint) Varint.decoder.Spells :=
  plain_takes Input.readVarint_refines Varint.decoder_prefixStable

/-- A number is refused, or its value belongs to the bytes of the number. -/
lemma takes_of_number {k : UInt64 → ValueReader Value} {G : Bytes → Value → Prop}
    (h : ∀ n w, Varint.decoder.Spells w n → (∃ e, k n = throw e) ∨ ∃ v, k n = pure v ∧ G w v) :
    Takes (plain Input.readVarint >>= k) G := by
  intro s v t hs hv
  obtain ⟨n, t', hn, hv⟩ := bind_eq_ok.1 hv
  obtain ⟨w, hw, hmoves, hspells⟩ := plain_varint_takes s n t' hs hn
  rcases h n w hspells with ⟨e, hk⟩ | ⟨v', hk, hv'⟩
  · rw [hk] at hv
    cases hv
  · rw [hk] at hv
    cases hv
    exact ⟨w, hw, hmoves, hv'⟩

/-- The number that an integer of a type was read from is its pattern. -/
lemma IntegerType.pattern_of_ofPattern {k : IntegerType} {raw : UInt64} {n : SizedInt}
    (h : k.ofPattern raw = some n) : k.pattern n.val = raw := by
  have hpos : 0 < k.bits := by cases k <;> decide
  have hbits : k.bits ≤ 64 := by cases k <;> decide
  unfold ofPattern at h
  unfold pattern
  by_cases hsigned : k.isSigned = true
  · rw [if_pos hsigned, Option.bind_eq_some_iff] at h
    obtain ⟨i, hi, hn⟩ := h
    obtain ⟨_, hval⟩ := SizedInt.of?_eq_some_iff.1 hn
    rw [if_pos hsigned, hval, Int64.ofInt_toInt]
    exact unwrapSigned_wrapSigned hpos hbits hi
  · rw [if_neg hsigned] at h
    obtain ⟨_, hval⟩ := SizedInt.of?_eq_some_iff.1 h
    rw [if_neg hsigned, hval, Int.toNat_natCast, UInt64.ofNat_toNat]

/-- An integer that was read is written back. -/
lemma readInteger_writesBack (k : IntegerType) :
    Takes (readInteger k) (WritesBack (.integer k)) := by
  refine takes_of_number fun raw w hspells => ?_
  cases hn : k.ofPattern raw with
  | none => exact .inl ⟨_, rfl⟩
  | some n =>
      obtain rfl := IntegerType.type_of_ofPattern hn
      have hwrite : (ColumnType.integer n.type).write (.integer n) = ⟨Varint.encode raw, none⟩ :=
        ColumnType.write_integer_eq_ok.2
          ⟨n.val, rfl, n.inRange, by rw [IntegerType.pattern_of_ofPattern hn]⟩
      exact .inr ⟨.integer n, rfl, hwrite ▸ within_of_spells hspells (Nat.le_refl _), trivial,
        ColumnType.normal_integer n.inRange⟩

/-- A day that was read is written back. -/
lemma readDate_writesBack : Takes readDate (WritesBack .date) := by
  refine takes_of_number fun days w hspells => ?_
  cases hd : Date.ofDay? days.toNat with
  | none => exact .inl ⟨_, rfl⟩
  | some d =>
      have hday := Date.day_of_ofDay? hd
      have hwrite : ColumnType.date.write (.date d) = ⟨Varint.encode days, none⟩ :=
        ColumnType.write_date_eq_ok.2 ⟨d, rfl, by rw [hday]; exact Int.natCast_nonneg _, by
          rw [hday, Int.toNat_natCast, UInt64.ofNat_toNat]⟩
      refine .inr ⟨.date d, rfl, hwrite ▸ within_of_spells hspells (Nat.le_refl _), trivial, ?_⟩
      simp [ColumnType.normal]

/-- A moment that was read is written back. -/
lemma readDateTime_writesBack : Takes readDateTime (WritesBack .dateTime) := by
  refine takes_of_number fun seconds w hspells => ?_
  cases ht : Moment.ofSeconds? seconds.toNat 0 with
  | none => exact .inl ⟨_, rfl⟩
  | some t =>
      obtain ⟨hseconds, hwhole⟩ := Moment.fields_of_ofSeconds? ht
      have hwrite : ColumnType.dateTime.write (.dateTime t) = ⟨Varint.encode seconds, none⟩ :=
        ColumnType.write_dateTime_eq_ok.2 ⟨t, rfl, by rw [hseconds]; exact Int.natCast_nonneg _, by
          rw [hseconds, Int.toNat_natCast, UInt64.ofNat_toNat]⟩
      refine .inr ⟨.dateTime t, rfl, hwrite ▸ within_of_spells hspells (Nat.le_refl _), trivial, ?_⟩
      rw [ColumnType.normal, Moment.truncate_eq_self hwhole]

/-- A text that was read is written back. -/
lemma readText_writesBack : Takes ColumnType.text.read (WritesBack .text) := by
  refine (plain_takes Input.readText_refines TextField.decoder_prefixStable).bind_pure
    fun w s hspells => ?_
  obtain ⟨hlength, hsized⟩ := TextField.encode_length_le hspells
  exact ⟨⟨_, ColumnType.write_text_eq_ok.2 ⟨s, rfl, rfl⟩, hlength⟩, hsized, by
    simp [ColumnType.normal]⟩

/-- A single-precision number that was read is written back. -/
lemma readFloat32_writesBack : Takes ColumnType.float32.read (WritesBack .float32) := by
  refine (plain_takes Input.readBinary32_refines ReadOp.binary32.decoder_prefixStable).bind_pure
    fun w x hspells => ?_
  refine ⟨⟨_, ColumnType.write_float32_eq_ok.2 ⟨x, .inl rfl, rfl⟩, ?_⟩, trivial, by
    simp [ColumnType.normal]⟩
  simp [binary32_length hspells, encodeBinary32]

/-- A double-precision number that was read is written back. -/
lemma readFloat64_writesBack : Takes ColumnType.float64.read (WritesBack .float64) := by
  refine (plain_takes Input.readBinary64_refines ReadOp.binary64.decoder_prefixStable).bind_pure
    fun w x hspells => ?_
  refine ⟨⟨_, ColumnType.write_float64_eq_ok.2 ⟨x, rfl, rfl⟩, ?_⟩, trivial, by
    simp [ColumnType.normal, Value.asBinary64?]⟩
  simp [binary64_length hspells, encodeBinary64]

/-! ## Composites -/

variable {t tk tv : ColumnType} {ts : List ColumnType}

/-- Runs of an action take a piece for each. -/
lemma takes_repeated {α : Type} {m : ValueReader α} {G : Bytes → α → Prop} (h : Takes m G) (n : Nat) :
    Takes (repeated n m) (Chain (fun _ => G) (List.replicate n ())) := by
  rw [repeated_eq_forEach (fun _ : Unit => m) n ()]
  exact Takes.forEach (fun _ => h) _

/-- Items that are written back are written one behind the other. -/
lemma writeItems_within {l : List Unit} {b : Bytes} {items : List Value}
    (h : Chain (fun _ => WritesBack t) l b items) :
    (writeItems t.write items).Within b ∧ Value.ItemsSized items ∧ items.map t.normal = items := by
  induction h with
  | nil => exact ⟨⟨[], rfl, Nat.le_refl _⟩, trivial, rfl⟩
  | cons hv _ ih =>
      obtain ⟨hwritten, hsized, hnormal⟩ := ih
      refine ⟨hv.written.andThen hwritten, ⟨hv.sized, hsized⟩, ?_⟩
      rw [List.map_cons, hv.normal, hnormal]

/-- A sequence that was read is written back if its items are. -/
lemma readArray_writesBack (ht : Takes t.read (WritesBack t)) :
    Takes (ColumnType.array t).read (WritesBack (.array t)) := by
  have hitems (count : UInt64) :
      Takes (repeated count.toNat t.read >>= fun items => pure (Value.array items)) fun w v =>
        ∃ items, v = Value.array items ∧
          Chain (fun _ => WritesBack t) (List.replicate count.toNat ()) w items :=
    (takes_repeated ht count.toNat).bind_pure fun w items hitems => ⟨items, rfl, hitems⟩
  refine plain_varint_takes.bind hitems ?_
  rintro w w' count _ hcount ⟨items, rfl, hitems⟩
  obtain ⟨hwritten, hsized, hnormal⟩ := writeItems_within hitems
  have hlength : items.length = count.toNat := by rw [hitems.length_eq, List.length_replicate]
  refine ⟨?_, ⟨hlength ▸ count.toNat_lt, hsized⟩, ?_⟩
  · rw [ColumnType.write]
    exact (countOf_within hcount hlength).andThen hwritten
  · rw [ColumnType.normal, hnormal]

/-- A value or none that was read is written back if the values are. A value of the type within may be
missing itself; it is then written as a missing value of the outer type. -/
lemma readNullable_writesBack (ht : Takes t.read (WritesBack t)) :
    Takes (ColumnType.nullable t).read (WritesBack (.nullable t)) := by
  have hone : (Varint.encode 1).length = 1 := rfl
  have hzero : (Varint.encode 0).length = 1 := rfl
  have hvalue (isNull : UInt64) : Takes (if isNull ≠ 0 then pure .null else t.read) fun w v =>
      v = .null ∧ w = [] ∨ WritesBack t w v := by
    split
    · exact Takes.pure (.inl ⟨rfl, rfl⟩)
    · exact ht.mono fun w v hv => .inr hv
  refine plain_varint_takes.bind hvalue ?_
  intro w w' isNull v hflag hv
  have hpos := Varint.length_pos_of_spells hflag
  by_cases hnull : v = .null
  · subst hnull
    refine ⟨⟨_, ColumnType.write_nullable_eq_ok.2 (.inl ⟨rfl, rfl⟩), ?_⟩, trivial,
      ColumnType.normal_null _⟩
    rw [hone, List.length_append]
    omega
  · rcases hv with ⟨rfl, _⟩ | ⟨⟨u, hu, hlength⟩, hsized, hnormal⟩
    · exact absurd rfl hnull
    refine ⟨⟨_, ColumnType.write_nullable_eq_ok.2 (.inr ⟨hnull, u, hu, rfl⟩), ?_⟩, hsized, ?_⟩
    · rw [List.length_append, List.length_append, hzero]
      omega
    · rw [ColumnType.normal_nullable hnull, hnormal]

/-- Of pieces that belong to values, each is no longer than all. -/
lemma writesBack_of_mem {l : List Unit} {b : Bytes} {items : List Value} {v : Value}
    (h : Chain (fun _ => WritesBack t) l b items) (hv : v ∈ items) : WritesBack t b v := by
  induction h with
  | nil => cases hv
  | cons hfirst hrest ih =>
      rcases List.mem_cons.1 hv with rfl | hv
      · exact ⟨hfirst.written.mono (by simp), hfirst.sized, hfirst.normal⟩
      · obtain ⟨hwritten, hsized, hnormal⟩ := ih hv
        exact ⟨hwritten.mono (by simp), hsized, hnormal⟩

/-- A number picks one of the entries, or it is refused. -/
lemma takes_pick {pick : UInt64 → ValueReader Value} {entries : List Value}
    (h : ∀ n, (∃ e, pick n = throw e) ∨ ∃ v ∈ entries, pick n = pure v) :
    Takes (plain Input.readVarint >>= pick) fun w v => 1 ≤ w.length ∧ v ∈ entries := by
  refine takes_of_number fun n w hspells => (h n).imp_right ?_
  rintro ⟨v, hv, hpick⟩
  exact ⟨v, hpick, Varint.length_pos_of_spells hspells, hv⟩

/-- A value that was read from a dictionary is written back if the entries are: as one entry instead of
all, which has a size of one and an index of zero. -/
lemma readLowCardinality_writesBack (ht : Takes t.read (WritesBack t)) :
    Takes (ColumnType.lowCardinality t).read (WritesBack (.lowCardinality t)) := by
  have hone : (Varint.encode 1).length = 1 := rfl
  have hzero : (Varint.encode 0).length = 1 := rfl
  have hvalue (size : UInt64) {pick : List Value → UInt64 → ValueReader Value}
      (hpick : ∀ entries n,
        (∃ e, pick entries n = throw e) ∨ ∃ v ∈ entries, pick entries n = pure v) :
      Takes (repeated size.toNat t.read >>= fun entries => plain Input.readVarint >>= pick entries)
        fun w v => ∃ u u', w = u ++ u' ∧ WritesBack t u v ∧ 1 ≤ u'.length :=
    (takes_repeated ht size.toNat).bind (fun entries => takes_pick (hpick entries))
      fun u u' entries v hentries hv => ⟨u, u', rfl, writesBack_of_mem hentries hv.2, hv.1⟩
  refine plain_varint_takes.bind (fun size => hvalue size fun entries n => ?_) ?_
  · cases hv : entries[n.toNat]? with
    | none => exact .inl ⟨_, rfl⟩
    | some v => exact .inr ⟨v, List.mem_of_getElem? hv, rfl⟩
  rintro w _ size v hsize ⟨u, u', rfl, ⟨⟨x, hx, hlength⟩, hsized, hnormal⟩, hu'⟩
  have hpos := Varint.length_pos_of_spells hsize
  refine ⟨⟨_, ColumnType.write_lowCardinality_eq_ok.2 ⟨x, hx, rfl⟩, ?_⟩, hsized, by
    rw [ColumnType.normal, hnormal]⟩
  simp only [List.length_append, hone, hzero]
  omega

/-- The elements of a tuple that were read are written back, each in its type. -/
lemma readTuple_within (hts : ∀ t ∈ ts, Takes t.read (WritesBack t)) :
    Takes (ColumnType.readTuple ts) fun b items => items.length = ts.length ∧
      (ColumnType.writeTuple ts items).Within b ∧ Value.ItemsSized items ∧
        ColumnType.normalTuple ts items = items := by
  induction ts with
  | nil => exact Takes.pure ⟨rfl, ⟨[], rfl, Nat.le_refl _⟩, trivial, rfl⟩
  | cons t ts ih =>
      have hrest (v : Value) :
          Takes (ColumnType.readTuple ts >>= fun vs => pure (v :: vs)) fun w l =>
            ∃ vs, l = v :: vs ∧ vs.length = ts.length ∧ (ColumnType.writeTuple ts vs).Within w ∧
              Value.ItemsSized vs ∧ ColumnType.normalTuple ts vs = vs :=
        (ih fun u hu => hts u (List.mem_cons_of_mem t hu)).bind_pure fun w vs hvs => ⟨vs, rfl, hvs⟩
      refine (hts t List.mem_cons_self).bind hrest ?_
      rintro w w' v _ hv ⟨vs, rfl, hlength, hwritten, hsized, hnormal⟩
      refine ⟨congrArg Nat.succ hlength, hv.written.andThen hwritten, ⟨hv.sized, hsized⟩, ?_⟩
      rw [ColumnType.normalTuple, hv.normal, hnormal]

/-- A tuple that was read is written back if its elements are. -/
lemma read_tuple_writesBack (hts : ∀ t ∈ ts, Takes t.read (WritesBack t)) :
    Takes (ColumnType.tuple ts).read (WritesBack (.tuple ts)) := by
  refine (readTuple_within hts).bind_pure ?_
  rintro b items ⟨hlength, ⟨w, hw, hle⟩, hsized, hnormal⟩
  exact ⟨⟨w, ColumnType.write_tuple_eq_ok.2 ⟨items, rfl, hlength, hw⟩, hle⟩, hsized, by
    rw [ColumnType.normal, hnormal]⟩

/-- A key and a value that were read take pieces that each is written back within. -/
lemma readEntry_takes (hk : Takes tk.read (WritesBack tk)) (hv : Takes tv.read (WritesBack tv)) :
    Takes (readEntry tk.read tv.read) fun b e => ∃ u u', b = u ++ u' ∧ WritesBack tk u e.1 ∧
      WritesBack tv u' e.2 := by
  have hvalue (k : Value) : Takes (tv.read >>= fun v => pure (k, v)) fun w e =>
      e.1 = k ∧ WritesBack tv w e.2 := hv.bind_pure fun _ _ hv => ⟨rfl, hv⟩
  exact hk.bind hvalue fun u u' _ _ hk hv => ⟨u, u', rfl, hv.1 ▸ hk, hv.2⟩

/-- Pairs that are written back are written one behind the other. -/
lemma writeEntries_within {l : List Unit} {b : Bytes} {entries : List (Value × Value)}
    (h : Chain (fun _ b e => ∃ u u', b = u ++ u' ∧ WritesBack tk u e.1 ∧ WritesBack tv u' e.2) l b
      entries) :
    (writeEntries tk.write tv.write entries).Within b ∧ Value.EntriesSized entries ∧
      entries.map (Prod.map tk.normal tv.normal) = entries := by
  induction h with
  | nil => exact ⟨⟨[], rfl, Nat.le_refl _⟩, trivial, rfl⟩
  | @cons _ _ _ _ e _ he _ ih =>
      obtain ⟨u, u', rfl, hk, hv⟩ := he
      obtain ⟨hwritten, hsized, hnormal⟩ := ih
      obtain ⟨key, value⟩ := e
      refine ⟨?_, ⟨hk.sized, hv.sized, hsized⟩, ?_⟩
      · rw [List.append_assoc]
        exact hk.written.andThen (hv.written.andThen hwritten)
      · rw [List.map_cons, Prod.map_apply, hk.normal, hv.normal, hnormal]

/-- A map that was read is written back if its keys and values are. -/
lemma readMap_writesBack (hk : Takes tk.read (WritesBack tk)) (hv : Takes tv.read (WritesBack tv)) :
    Takes (ColumnType.map tk tv).read (WritesBack (.map tk tv)) := by
  have hentries (count : UInt64) : Takes (repeated count.toNat (readEntry tk.read tv.read) >>=
      fun entries => pure (Value.map entries)) fun w v => ∃ entries, v = Value.map entries ∧
        entries.length = count.toNat ∧ (writeEntries tk.write tv.write entries).Within w ∧
          Value.EntriesSized entries ∧ entries.map (Prod.map tk.normal tv.normal) = entries := by
    refine (takes_repeated (readEntry_takes hk hv) count.toNat).bind_pure fun w entries h => ?_
    exact ⟨entries, rfl, by rw [h.length_eq, List.length_replicate], writeEntries_within h⟩
  refine plain_varint_takes.bind hentries ?_
  rintro w w' count _ hcount ⟨entries, rfl, hlength, hwritten, hsized, hnormal⟩
  refine ⟨?_, ⟨hlength ▸ count.toNat_lt, hsized⟩, ?_⟩
  · rw [ColumnType.write]
    exact (countOf_within hcount hlength).andThen hwritten
  · rw [ColumnType.normal, hnormal]

/-! ## All types -/

/-- Reading in a column of any type takes bytes within which the value is written back. -/
lemma ColumnType.read_writesBack (t : ColumnType) : Takes t.read (WritesBack t) := by
  induction t with
  | text => exact readText_writesBack
  | integer k => exact readInteger_writesBack k
  | float32 => exact readFloat32_writesBack
  | float64 => exact readFloat64_writesBack
  | date => exact readDate_writesBack
  | dateTime => exact readDateTime_writesBack
  | array t ih => exact readArray_writesBack ih
  | nullable t ih => exact readNullable_writesBack ih
  | lowCardinality t ih => exact readLowCardinality_writesBack ih
  | tuple ts ih => exact read_tuple_writesBack ih
  | map tk tv ihk ihv => exact readMap_writesBack ihk ihv

/-- A value that was read from some bytes in a column of a type, with anything behind them, is written in
that column without an error and in no more bytes. Wherever those lie ahead of an input, and whatever
lies behind them, the same value is read, and just what lies behind is left. -/
theorem ColumnType.write_read (t : ColumnType) {b rest : Bytes} {v : Value} {s s' : Input}
    (hread : t.read s = .ok v s') (hs : s.unread = b ++ rest) (hs' : s'.unread = rest) :
    ∃ w, t.write v = ⟨w, none⟩ ∧ w.length ≤ b.length ∧
      ∀ (i : Input) (behind : Bytes), i.unread = w ++ behind →
        ∃ i', t.read i = .ok v i' ∧ i'.unread = behind := by
  obtain ⟨b', hb', _, ⟨w, hw, hle⟩, hsized, hnormal⟩ := read_writesBack t s v s' trivial hread
  obtain rfl : b = b' := by
    have hahead : b ++ rest = b' ++ rest := hs.symm.trans (hs' ▸ hb')
    exact List.append_cancel_right hahead
  refine ⟨w, hw, hle, fun i behind hi => ?_⟩
  obtain ⟨i', hi', hbehind, _⟩ := write_reads t v w hw hsized i behind trivial hi
  exact ⟨i', hnormal ▸ hi', hbehind⟩

/-- The bytes of a value of `mixedType`, spelled in more bytes than the writer spends: numbers with
a group that adds nothing, other flags than one for a missing value, and a dictionary of two entries. -/
def paddedBytes : Bytes :=
  [130, 0, 2, 0, 255, 255, 3, 7, 128, 0, 1, 130, 0, 0, 130, 128, 0]

/-- What is read from `paddedBytes`. -/
def paddedValue : Value :=
  .tuple [.array [.integer ⟨.int16, -1, by decide⟩, .null], .dateTime ⟨2, 0, by decide⟩]

set_option maxRecDepth 20000 in
/-- The value that is read from 17 bytes is written in no more, and these are read as the same value. -/
theorem write_read_padded :
    ∃ s', mixedType.read (Input.holding (paddedBytes ++ [9])) = .ok paddedValue s' ∧
      s'.unread = [9] ∧ ∃ w, mixedType.write paddedValue = ⟨w, none⟩ ∧ w.length ≤ 17 ∧
        ∃ i', mixedType.read (Input.holding w) = .ok paddedValue i' ∧ i'.unread = [] := by
  obtain ⟨s', hread, hleft⟩ : ∃ s', mixedType.read (Input.holding (paddedBytes ++ [9])) =
      .ok paddedValue s' ∧ s'.unread = [9] := ⟨_, rfl, rfl⟩
  obtain ⟨w, hwrite, hlength, hback⟩ :=
    ColumnType.write_read mixedType hread (Input.unread_holding (paddedBytes ++ [9])) hleft
  obtain ⟨i', hagain, hnone⟩ := hback (Input.holding w) []
    ((Input.unread_holding w).trans (List.append_nil w).symm)
  exact ⟨s', hread, hleft, w, hwrite, hlength, i', hagain, hnone⟩

end ColumnWire.Cell
