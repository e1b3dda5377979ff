import Mathlib.Tactic.Common
import ColumnWire.Packet.Hello
import ColumnWire.Proofs.Packet.ClientRoundTrip
import ColumnWire.Proofs.Session.RemoteError

/-!
# Written packets of a server are read back, with anything behind them

Main statement: the body of a greeting, of counters, of an exception with its causes, of the information
about a block and of a block's header is read back whatever bytes come after it, and those are left
(`serverPacket_readBack`). Each part is one spelling lemma; the greeting is the one packet that loses
something, namely the fields that its own revision does not have (`ServerHello.encodeBody_spells`).

An exception is nested again from the links that were taken (`ServerException.relink_links`), and the chain
of the error that a client makes of it lists them in the order in which they were written
(`Session.RemoteError.chain_ofException`).
-/

namespace ColumnWire.Packet

open ColumnWire.Wire ColumnWire.Session Decoder

/-- A code has a byte at least. -/
lemma ServerCode.encode_ne_nil (c : ServerCode) : c.encode ≠ [] :=
  Varint.decoder_consuming.ne_nil (Varint.encode_spells c.number)

/-! ## Greetings -/

/-- What is visible of a greeting, by the numbers of the revisions that brought the fields. -/
lemma ServerHello.visible_eq (h : ServerHello) :
    h.visible = { h with
      timezone := if h.revision.number < 54058 then "" else h.timezone
      displayName := if h.revision.number < 54372 then "" else h.displayName
      versionPatch := if h.revision.number < 54401 then 0 else h.versionPatch } := by
  simp only [visible, Revision.hasTimezone, Revision.hasDisplayName, Revision.hasVersionPatch,
    decide_eq_true_eq, ← UInt64.not_le, ite_not]

/-- The bytes of a greeting spell what is visible of it. -/
theorem ServerHello.encodeBody_spells {h : ServerHello} (hfit : h.encodeBody.length < UInt64.size) :
    ServerHello.decoder.Spells h.encodeBody h.visible := by
  simp only [encodeBody, List.length_append] at hfit
  have htimezone : h.revision.hasTimezone = true →
      TextField.decoder.Spells (TextField.encode h.timezone) h.timezone := by
    intro hgate
    rw [if_pos hgate] at hfit
    exact textField_spells (by omega)
  have hdisplayName : h.revision.hasDisplayName = true →
      TextField.decoder.Spells (TextField.encode h.displayName) h.displayName := by
    intro hgate
    rw [if_pos hgate] at hfit
    exact textField_spells (by omega)
  apply (textField_spells (s := h.name) (by omega)).bind
  apply (Varint.encode_spells h.versionMajor).bind
  apply (Varint.encode_spells h.versionMinor).bind
  apply (Varint.encode_spells h.revision.number).bind
  apply optional_spells htimezone
  apply optional_spells hdisplayName
  rw [← List.append_nil (ite _ _ _)]
  exact optional_spells (fun _ => Varint.encode_spells h.versionPatch) (Spells.pure h.visible)

/-- A field that is taken under a condition is absent without it. -/
lemma optional_yields {α β : Type} {c : Prop} [Decidable c] {d : Decoder α} {k : α → Decoder β}
    {absent : α} {P : β → Prop} (hk : ∀ a, (¬ c → a = absent) → Yields P (k a)) :
    Yields P (if c then d >>= k else pure absent >>= k) := by
  by_cases hc : c
  · rw [if_pos hc]
    exact (Yields.any d).bind fun a _ => hk a fun hnot => absurd hc hnot
  · rw [if_neg hc]
    exact hk absent fun _ => rfl

/-- All of a greeting that was taken is visible: it has no fields that its revision does not have. -/
lemma ServerHello.decoder_visible : Yields (fun h => h.visible = h) ServerHello.decoder := by
  refine (Yields.any _).bind fun name _ => (Yields.any _).bind fun major _ =>
    (Yields.any _).bind fun minor _ => (Yields.any _).bind fun number _ => ?_
  refine optional_yields fun timezone htimezone => optional_yields fun displayName hdisplayName =>
    optional_yields fun versionPatch hversionPatch => Yields.pure ?_
  unfold visible
  rw [ite_eq_left_iff.2 fun h => (htimezone h).symm, ite_eq_left_iff.2 fun h => (hdisplayName h).symm,
    ite_eq_left_iff.2 fun h => (hversionPatch h).symm]

/-! ## All packets -/

/-- The body of every packet is read back with any bytes behind it, which are left: a greeting without
the fields that its revision does not have, counters, an exception of any depth, the information about a
block, and a block's header unless it declares rows of no columns. The chain of the error that reports the
exception says what the exception and its causes said, the outermost first. Words count the bytes of a
body, as they do in memory. -/
theorem serverPacket_readBack (rest : Bytes) :
    (∀ h : ServerHello, h.encodeBody.length < UInt64.size →
      h.encode = ServerCode.hello.encode ++ h.encodeBody ∧
        ServerHello.decoder (h.encodeBody ++ rest) = .ok { h with
          timezone := if h.revision.number < 54058 then "" else h.timezone
          displayName := if h.revision.number < 54372 then "" else h.displayName
          versionPatch := if h.revision.number < 54401 then 0 else h.versionPatch } rest) ∧
    (∀ p : Progress, p.encode = ServerCode.progress.encode ++ p.encodeBody ∧
      Progress.decoder (p.encodeBody ++ rest) = .ok p rest) ∧
    (∀ e : ServerException, e.encodeBody.length < UInt64.size →
      e.encode = ServerCode.exception.encode ++ e.encodeBody ∧
        ∃ e' : ServerException, ServerException.decoder (e.encodeBody ++ rest) = .ok e' rest ∧
          e' = e ∧ (RemoteError.ofException e').chain.toList.map RemoteError.toFault = e.faults) ∧
    (∀ i : BlockInfo, BlockInfo.decoder (i.encode ++ rest) = .ok i rest) ∧
    (∀ h : BlockHeader, (h.columns = [] → h.rows = 0) → h.encode.length < UInt64.size →
      BlockHeader.decoder (h.encode ++ rest) = .ok h rest) := by
  refine ⟨fun h hfit => ⟨rfl, ?_⟩, fun p => ⟨rfl, p.encodeBody_spells rest⟩,
    fun e hfit => ⟨rfl, e, ServerException.encodeBody_spells hfit rest, rfl,
      RemoteError.chain_ofException e⟩,
    fun i => i.encode_spells rest, fun h hcolumns hfit => BlockHeader.encode_spells hcolumns hfit rest⟩
  rw [← h.visible_eq]
  exact ServerHello.encodeBody_spells hfit rest

/-- A greeting of a revision that has a time zone but neither a display name nor a patch version. -/
def sampleHello : ServerHello :=
  ⟨"S", 23, 8, ⟨54371⟩, "UTC", "east", 300⟩

/-- An exception with a cause that has a cause. -/
def sampleNested : ServerException :=
  ⟨⟨60, "A", "outer", "0. f"⟩, some ⟨⟨300, "B", "middle", ""⟩, some ⟨⟨1, "C", "", "1. g"⟩, none⟩⟩⟩

/-- The header of a block of two columns behind a table. -/
def sampleHeader : BlockHeader :=
  ⟨⟨true, 300⟩, ["t"], [⟨"n", "UInt8"⟩, ⟨"s", "String"⟩], 2⟩

/-- With two bytes behind them, the display name and the patch version of the greeting are lost, and
the exception is reported with both its causes. -/
theorem serverPacket_readBack_sample :
    ServerHello.decoder (sampleHello.encodeBody ++ [9, 2]) =
        .ok ⟨"S", 23, 8, ⟨54371⟩, "UTC", "", 0⟩ [9, 2] ∧
      Progress.decoder ((⟨1, 300, 0⟩ : Progress).encodeBody ++ [9, 2]) = .ok ⟨1, 300, 0⟩ [9, 2] ∧
      (∃ e, ServerException.decoder (sampleNested.encodeBody ++ [9, 2]) = .ok e [9, 2] ∧
        (RemoteError.ofException e).chain.toList.map RemoteError.toFault =
          [⟨60, "A", "outer", "0. f"⟩, ⟨300, "B", "middle", ""⟩, ⟨1, "C", "", "1. g"⟩]) ∧
      BlockInfo.decoder ((⟨true, 300⟩ : BlockInfo).encode ++ [9, 2]) = .ok ⟨true, 300⟩ [9, 2] ∧
      BlockHeader.decoder (sampleHeader.encode ++ [9, 2]) = .ok sampleHeader [9, 2] := by
  obtain ⟨hhello, hprogress, hexception, hinfo, hheader⟩ := serverPacket_readBack [9, 2]
  obtain ⟨-, e, he, -, hchain⟩ := hexception sampleNested (by decide)
  exact ⟨(hhello sampleHello (by decide)).2, (hprogress _).2, ⟨e, he, hchain⟩, hinfo _,
    hheader sampleHeader (by decide) (by decide)⟩

end ColumnWire.Packet
