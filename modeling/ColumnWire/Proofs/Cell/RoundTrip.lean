import Mathlib.Tactic.Common
import ColumnWire.Proofs.Cell.Reading
import ColumnWire.Proofs.Cell.Written
import ColumnWire.Proofs.Stream.Tape
import ColumnWire.Proofs.Wire.RoundTrip

/-!
# Written values are read back

What is written in a column of a type is read back from it as its normal form, and nothing behind it
is touched (`ColumnType.read_write`). The proof goes over the type (`ColumnType.write_reads`): a scalar
is taken by its read, and a composite part by part, since parts that are written one behind the other
are taken one after the other. Reading is also local, whatever the bytes are (`ColumnType.read_local`).
-/

namespace ColumnWire.Cell

open ColumnWire.Wire ColumnWire.Number ColumnWire.Time ColumnWire.Stream Tape

/-! ## Plain reads -/

/-- A plain read takes what it takes on its own. -/
lemma plain_reads {α : Type} {r : Reader α} {w : Bytes} {v : α} (h : Reads r w v) :
    Reads (plain r) w v := by
  intro s rest hs hahead
  obtain ⟨t, ht, ht', hmoves⟩ := h s rest hs hahead
  exact ⟨t, by rw [plain, ht], ht', hmoves⟩

/-- A plain read of a field takes what spells the field. -/
lemma plain_spells {α : Type} {r : Reader α} {d : Decoder α} (h : Input.Refines r d) {w : Bytes}
    {v : α} (hw : d.Spells w v) : Reads (plain r) w v :=
  plain_reads (h.reads hw)

/-- A plain read of a field is local. -/
lemma plain_local {α : Type} {r : Reader α} {d : Decoder α} (h : Input.Refines r d)
    (hd : d.PrefixStable) : Local (plain r) := by
  intro s v t hs hr
  unfold plain at hr
  cases ht : r s with
  | error e t' => simp [ht] at hr
  | ok a t' =>
      rw [ht] at hr
      cases hr
      obtain ⟨w, hw, hmoves, hreads⟩ := h.local hd s v t hs ht
      exact ⟨w, hw, hmoves, plain_reads hreads⟩

/-- A written number is read among values. -/
lemma plain_varint_encode (n : UInt64) : Reads (plain Input.readVarint) (Varint.encode n) n :=
  plain_spells Input.readVarint_refines (Varint.encode_spells n)

/-- What is written in a column of the type is read back from it as its normal form. -/
def ReadsBack (t : ColumnType) : Prop :=
  ∀ v w, t.write v = ⟨w, none⟩ → v.Sized → Reads t.read w (t.normal v)

/-! ## Scalars -/

/-- A written text is read back. -/
lemma text_readsBack : ReadsBack .text := by
  intro v w h hsized
  obtain ⟨s, rfl, rfl⟩ := ColumnType.write_text_eq_ok.1 h
  have htext := TextField.encode_spells hsized
  exact (plain_spells Input.readText_refines htext).bind_nil (Reads.pure _)

/-- An integer that fits into a type is the one of its pattern. -/
lemma IntegerType.ofPattern_pattern {k : IntegerType} {i : Int} (h : k.Holds i) :
    k.ofPattern (k.pattern i) = SizedInt.of? k i := by
  obtain ⟨hlower, hupper⟩ := h
  have hpos : 0 < k.bits := by cases k <;> decide
  have hbits : k.bits ≤ 64 := by cases k <;> decide
  unfold ofPattern pattern
  unfold lower at hlower
  unfold upper at hupper
  by_cases hsigned : k.isSigned = true
  · rw [if_pos hsigned] at hlower hupper ⊢
    have hhalf : Nat.pow 2 (k.bits - 1) ≤ Nat.pow 2 63 := Nat.pow_le_pow_right (by omega) (by omega)
    have h63 : Nat.pow 2 63 = 9223372036854775808 := rfl
    have htoInt : (Int64.ofInt i).toInt = i := Int64.toInt_ofInt_of_le (by omega) (by omega)
    rw [if_pos hsigned, wrapSigned_unwrapSigned hpos hbits hlower (by omega), Option.bind_some,
      htoInt]
  · rw [if_neg hsigned] at hlower hupper ⊢
    have hall : Nat.pow 2 k.bits ≤ Nat.pow 2 64 := Nat.pow_le_pow_right (by omega) hbits
    have hsize : UInt64.size = Nat.pow 2 64 := rfl
    have hnat : (UInt64.ofNat i.toNat).toNat = i.toNat := UInt64.toNat_ofNat_of_lt' (by omega)
    rw [if_neg hsigned, hnat, Int.toNat_of_nonneg hlower]

/-- A written integer is read back in the type of the column. -/
lemma integer_readsBack (k : IntegerType) : ReadsBack (.integer k) := by
  intro v w h _
  obtain ⟨i, hint, hholds, rfl⟩ := ColumnType.write_integer_eq_ok.1 h
  have hnormal : (ColumnType.integer k).normal v = .integer ⟨k, i, hholds⟩ := by
    simp [ColumnType.normal, Value.asSized?, hint, SizedInt.of?, hholds]
  rw [hnormal]
  apply (plain_varint_encode _).bind_nil
  rw [IntegerType.ofPattern_pattern hholds, SizedInt.of?, dif_pos hholds]
  exact Reads.pure _

/-- A written number is read back in the smaller precision. -/
lemma float32_readsBack : ReadsBack .float32 := by
  intro v w h _
  obtain ⟨x, hx, rfl⟩ := ColumnType.write_float32_eq_ok.1 h
  have hnormal : ColumnType.float32.normal v = .float32 x := by
    rcases hx with rfl | ⟨y, rfl, rfl⟩ <;> simp [ColumnType.normal]
  rw [hnormal]
  exact (plain_spells Input.readBinary32_refines (encodeBinary32_spells x)).bind_nil (Reads.pure _)

/-- A written number is read back in the greater precision. -/
lemma float64_readsBack : ReadsBack .float64 := by
  intro v w h _
  obtain ⟨x, hx, rfl⟩ := ColumnType.write_float64_eq_ok.1 h
  have hnormal : ColumnType.float64.normal v = .float64 x := by
    simp [ColumnType.normal, hx]
  rw [hnormal]
  exact (plain_spells Input.readBinary64_refines (encodeBinary64_spells x)).bind_nil (Reads.pure _)

/-- A written day is read back. -/
lemma date_readsBack : ReadsBack .date := by
  intro v w h _
  obtain ⟨d, rfl, hfirst, rfl⟩ := ColumnType.write_date_eq_ok.1 h
  obtain ⟨_, hlast⟩ := d.inRange
  have hlastDay : lastDay = 95026236 := rfl
  have hsize : UInt64.size = 18446744073709551616 := rfl
  have hday : ((UInt64.ofNat d.day.toNat).toNat : Int) = d.day := by
    rw [UInt64.toNat_ofNat_of_lt' (by omega), Int.toNat_of_nonneg hfirst]
  have hnormal : ColumnType.date.normal (.date d) = .date d := by simp [ColumnType.normal]
  rw [hnormal]
  apply (plain_varint_encode _).bind_nil
  rw [hday, Date.ofDay?, dif_pos d.inRange]
  exact Reads.pure _

/-- A written moment is read back without what is below a second. -/
lemma dateTime_readsBack : ReadsBack .dateTime := by
  intro v w h _
  obtain ⟨t, rfl, hfirst, rfl⟩ := ColumnType.write_dateTime_eq_ok.1 h
  obtain ⟨_, hlast⟩ := t.inRange
  have hlastDay : lastDay = 95026236 := rfl
  have hsize : UInt64.size = 18446744073709551616 := rfl
  have hseconds : ((UInt64.ofNat t.seconds.toNat).toNat : Int) = t.seconds := by
    rw [UInt64.toNat_ofNat_of_lt' (by omega), Int.toNat_of_nonneg hfirst]
  apply (plain_varint_encode _).bind_nil
  rw [hseconds, Moment.ofSeconds?, dif_pos t.inRange, ColumnType.normal]
  exact Reads.pure _

/-! ## Composites -/

variable {t tk tv : ColumnType} {ts : List ColumnType} {w : Bytes}

/-- Written items are read back one after the other. -/
lemma writeItems_reads (ht : ReadsBack t) {items : List Value}
    (h : writeItems t.write items = ⟨w, none⟩) (hsized : Value.ItemsSized items) :
    Reads (repeated items.length t.read) w (items.map t.normal) := by
  induction items generalizing w with
  | nil =>
      cases h
      exact Reads.repeated_zero _
  | cons v vs ih =>
      obtain ⟨hv, hvs⟩ := hsized
      obtain ⟨u, u', hu, hu', rfl⟩ := Written.andThen_eq_ok.1 h
      exact (ht v u hu hv).repeated_succ (ih hu' hvs)

/-- A written sequence is read back if its items are. -/
lemma array_readsBack (ht : ReadsBack t) : ReadsBack (.array t) := by
  intro v w h hsized
  obtain ⟨items, u, rfl, hu, rfl⟩ := ColumnType.write_array_eq_ok.1 h
  obtain ⟨hlength, hitems⟩ := hsized
  have hrest := writeItems_reads ht hu hitems
  refine (plain_varint_encode _).bind (Reads.bind_nil ?_ (Reads.pure _))
  rwa [UInt64.toNat_ofNat_of_lt' hlength]

/-- A written value or none is read back if the values are. -/
lemma nullable_readsBack (ht : ReadsBack t) : ReadsBack (.nullable t) := by
  intro v w h hsized
  rcases ColumnType.write_nullable_eq_ok.1 h with ⟨rfl, rfl⟩ | ⟨hv, u, hu, rfl⟩
  · exact (plain_varint_encode 1).bind_nil (Reads.pure _)
  · rw [ColumnType.normal_nullable hv]
    exact (plain_varint_encode 0).bind (ht v u hu hsized)

/-- A value that is written in a dictionary is read back if the values are. -/
lemma lowCardinality_readsBack (ht : ReadsBack t) : ReadsBack (.lowCardinality t) := by
  intro v w h hsized
  obtain ⟨u, hu, rfl⟩ := ColumnType.write_lowCardinality_eq_ok.1 h
  -- The dictionary has one entry, and the index is that of the entry.
  have hentry := (ht v u hu hsized).repeated_succ (Reads.repeated_zero t.read)
  rw [List.append_nil] at hentry
  exact (plain_varint_encode 1).bind
    (hentry.bind ((plain_varint_encode 0).bind_nil (Reads.pure _)))

/-- The written elements of a tuple are read back, each in its type. -/
lemma writeTuple_reads (hts : ∀ t ∈ ts, ReadsBack t) {items : List Value}
    (hlength : items.length = ts.length) (h : ColumnType.writeTuple ts items = ⟨w, none⟩)
    (hsized : Value.ItemsSized items) :
    Reads (ColumnType.readTuple ts) w (ColumnType.normalTuple ts items) := by
  induction ts generalizing items w with
  | nil =>
      obtain rfl : items = [] := List.length_eq_zero_iff.1 hlength
      cases h
      exact Reads.pure _
  | cons t ts ih =>
      cases items with
      | nil => cases hlength
      | cons v vs =>
          obtain ⟨hv, hvs⟩ := hsized
          obtain ⟨u, u', hu, hu', rfl⟩ := Written.andThen_eq_ok.1 h
          have hrest := ih (fun t' ht' => hts t' (List.mem_cons_of_mem t ht'))
            (Nat.succ.inj hlength) hu' hvs
          exact (hts t List.mem_cons_self v u hu hv).bind (hrest.bind_nil (Reads.pure _))

/-- A written tuple is read back if its elements are. -/
lemma tuple_readsBack (hts : ∀ t ∈ ts, ReadsBack t) : ReadsBack (.tuple ts) := by
  intro v w h hsized
  obtain ⟨items, rfl, hlength, hitems⟩ := ColumnType.write_tuple_eq_ok.1 h
  exact (writeTuple_reads hts hlength hitems hsized).bind_nil (Reads.pure _)

/-- Written pairs are read back one after the other. -/
lemma writeEntries_reads (hk : ReadsBack tk) (hv : ReadsBack tv) {entries : List (Value × Value)}
    (h : writeEntries tk.write tv.write entries = ⟨w, none⟩) (hsized : Value.EntriesSized entries) :
    Reads (repeated entries.length (readEntry tk.read tv.read)) w
      (entries.map (Prod.map tk.normal tv.normal)) := by
  induction entries generalizing w with
  | nil =>
      cases h
      exact Reads.repeated_zero _
  | cons entry rest ih =>
      obtain ⟨key, value⟩ := entry
      obtain ⟨hkey, hvalue, hrest⟩ := hsized
      obtain ⟨u, u', hu, hu', rfl⟩ := Written.andThen_eq_ok.1 h
      obtain ⟨x, x', hx, hx', rfl⟩ := Written.andThen_eq_ok.1 hu'
      have hentry : Reads (readEntry tk.read tv.read) (u ++ x) (tk.normal key, tv.normal value) :=
        (hk key u hu hkey).bind ((hv value x hx hvalue).bind_nil (Reads.pure _))
      rw [← List.append_assoc]
      exact hentry.repeated_succ (ih hx' hrest)

/-- A written map is read back if its keys and values are. -/
lemma map_readsBack (hk : ReadsBack tk) (hv : ReadsBack tv) : ReadsBack (.map tk tv) := by
  intro v w h hsized
  obtain ⟨entries, u, rfl, hu, rfl⟩ := ColumnType.write_map_eq_ok.1 h
  obtain ⟨hlength, hentries⟩ := hsized
  have hrest := writeEntries_reads hk hv hu hentries
  refine (plain_varint_encode _).bind (Reads.bind_nil ?_ (Reads.pure _))
  rwa [UInt64.toNat_ofNat_of_lt' hlength]

/-- What is written in a column of any type is read back from it. -/
lemma ColumnType.write_reads (t : ColumnType) : ReadsBack t := by
  induction t with
  | text => exact text_readsBack
  | integer k => exact integer_readsBack k
  | float32 => exact float32_readsBack
  | float64 => exact float64_readsBack
  | date => exact date_readsBack
  | dateTime => exact dateTime_readsBack
  | array t ih => exact array_readsBack ih
  | nullable t ih => exact nullable_readsBack ih
  | lowCardinality t ih => exact lowCardinality_readsBack ih
  | tuple ts ih => exact tuple_readsBack ih
  | map tk tv ihk ihv => exact map_readsBack ihk ihv

/-- A number of another width, a missing value in a dictionary and a moment within a second. -/
def mixedType : ColumnType :=
  .tuple [.array (.lowCardinality (.nullable (.integer .int16))), .dateTime]

/-- Reading in a column of any type is local. -/
lemma ColumnType.read_local (t : ColumnType) : Local t.read :=
  read_of_steps Local.composes (fun op => plain_local op.refines op.decoder_prefixStable)
    (fun e _ => Local.throw e) t

end ColumnWire.Cell
