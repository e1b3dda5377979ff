import Mathlib.Tactic.Common
import ColumnWire.Proofs.Packet.ClientRoundTrip

/-!
# A client's packets in a row

What a server takes from the bytes of a client, packet by packet, until there are none left
(`Decoder.Drains`). Each packet delimits itself: its bytes spell what is visible of it whatever follows,
and there is at least one of them. So the bytes of any packets in a row are taken apart into the same
packets (`ClientPacket.drains_flatMap_encode`).

The secret of a query is the only thing that is not always visible. Its revision decides whether it is
written.
-/

namespace ColumnWire.Wire.Decoder

variable {α β : Type}

/-- Taking one value after the other, until no bytes are left, gives these values. -/
inductive Drains (d : Decoder α) : Bytes → List α → Prop where
  /-- There are no bytes, and no values. -/
  | done : Drains d [] []
  /-- A value is taken from the bytes, and others from what it leaves. -/
  | more {p rest : Bytes} {v : α} {vs : List α} (hne : p ≠ []) (h : d p = .ok v rest)
      (hrest : Drains d rest vs) : Drains d p (v :: vs)

/-- Bytes are taken apart into one list of values only. -/
lemma Drains.unique {d : Decoder α} {p : Bytes} {vs vs' : List α} (h : d.Drains p vs)
    (h' : d.Drains p vs') : vs = vs' := by
  induction h generalizing vs' with
  | done =>
      cases h' with
      | done => rfl
      | more hne => exact absurd rfl hne
  | more hne h _ ih =>
      cases h' with
      | done => exact absurd rfl hne
      | more _ h' hrest' =>
          rw [h] at h'
          cases h'
          rw [ih hrest']

/-- Values in a row are taken apart if the bytes of each spell it and there is one at least. -/
lemma Spells.drains {d : Decoder α} {vs : List β} {write : β → Bytes} {seen : β → α}
    (h : ∀ v ∈ vs, d.Spells (write v) (seen v)) (hne : ∀ v ∈ vs, write v ≠ []) :
    d.Drains (vs.flatMap write) (vs.map seen) := by
  induction vs with
  | nil => exact .done
  | cons v vs ih =>
      have hrest := ih (fun u hu => h u (List.mem_cons_of_mem v hu))
        fun u hu => hne u (List.mem_cons_of_mem v hu)
      exact .more (by simp [hne v List.mem_cons_self]) (h v List.mem_cons_self _) hrest

end ColumnWire.Wire.Decoder

namespace ColumnWire.Packet.ClientPacket

open ColumnWire.Wire Decoder

/-- A packet has a byte at least. -/
lemma encode_ne_nil (p : ClientPacket) : p.encode ≠ [] := by
  intro hnil
  have hspells := encode_spells (p := p) (by rw [hnil]; decide) []
  rw [hnil] at hspells
  cases hspells

/-- The bytes of packets in a row are taken apart into as many packets and in no other way, with nothing
left. Each of them is the one that was written, but a query of a revision below 54441 comes without its
secret. Of the packets no more is asked than that words count their bytes, as they do in memory. -/
theorem drains_flatMap_encode {packets : List ClientPacket}
    (hfit : ∀ p ∈ packets, p.encode.length < UInt64.size) :
    (∀ seen, decoder.Drains (packets.flatMap encode) seen ↔ seen = packets.map visible) ∧
    repeated packets.length decoder (packets.flatMap encode) = .ok (packets.map visible) [] ∧
    (∀ q, (query q).visible =
      .query (if 54441 ≤ q.revision.number then q else { q with interserverSecret := "" })) ∧
    ∀ p : ClientPacket, (∀ q, p ≠ .query q) → p.visible = p := by
  have hdrains := Spells.drains (fun p hp => encode_spells (hfit p hp)) fun p _ => p.encode_ne_nil
  refine ⟨fun seen => ⟨fun h => h.unique hdrains, ?_⟩, ?_, fun q => ?_, fun p hp => ?_⟩
  · rintro rfl
    exact hdrains
  · have hspells := flatMap_encode_spells_visible hfit []
    rwa [List.append_nil] at hspells
  · rw [visible, Query.visible, Revision.hasInterserverSecret]
    by_cases h : 54441 ≤ q.revision.number <;> simp [h]
  · cases p <;> first | rfl | exact absurd rfl (hp _)

/-- A query with two settings, of which one has neither name nor value. -/
def secretQuery (revision : Revision) : Query :=
  { Query.new "SELECT 1" "default" revision with
    settings := [("max_threads", "4"), ("", "")], interserverSecret := "secret" }

/-- A greeting, queries of the last revision without secrets and the first with them, and the requests
without a body. -/
theorem drains_flatMap_encode_mixed :
    decoder.Drains
      ([.hello ⟨"client", 0, 1, ⟨54460⟩, "", "default", ""⟩, .query (secretQuery ⟨54440⟩), .cancel,
        .query (secretQuery ⟨54441⟩), .ping].flatMap encode)
      [.hello ⟨"client", 0, 1, ⟨54460⟩, "", "default", ""⟩,
        .query { secretQuery ⟨54440⟩ with interserverSecret := "" }, .cancel,
        .query (secretQuery ⟨54441⟩), .ping] :=
  ((drains_flatMap_encode (by decide)).1 _).2 rfl

end ColumnWire.Packet.ClientPacket
