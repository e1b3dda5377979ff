import Mathlib.Tactic.Common
import ColumnWire.Proofs.Session.Receiving
import ColumnWire.Proofs.Session.ResponseRoundTrip

/-!
# Responses that are cut short

A response of which only the beginning arrives before the stream ends is never received as another
response. What arrives lacks some bytes at its end (`CutInput`): every read then reads the same value and
leaves what lacks the same bytes, or it fails in the transport (`readOp_follows`), and so does receiving
what stands behind a code (`receiveBody_follows`). Only asking for the end and reading an exception
answer something else, which `receivePackets_cut_end` accounts for. By induction on the packets of the
whole response, what is received is the result of those that have wholly arrived
(`receivePackets_cut`).

Main statement: `receiveResult_truncated`.
-/

namespace ColumnWire.Stream

open ColumnWire.Wire ColumnWire.Cell

variable {x : Bytes}

/-! ## Reads -/

/-- Both streams end in good order, and the second one lacks the last bytes `x` of the first. -/
structure CutInput (x : Bytes) (s s' : Input) : Prop where
  /-- The first stream ends. -/
  stop : s.transport.stop = none
  /-- The second stream ends. -/
  stop' : s'.transport.stop = none
  /-- What the second stream lacks. -/
  unread : s.unread = s'.unread ++ x

/-- What a stream ends with does not change when it is read. -/
lemma stop_of_read {α : Type} {op : ReadOp α} {s t : Input} {v : α} (h : op.reader s = .ok v t) :
    t.transport.stop = s.transport.stop := by
  have hdrained := op.preserves_drained s rfl
  rw [h] at hdrained
  exact Transport.stop_of_drained hdrained

/-- On a stream that lacks its last bytes, a read reads the same or fails in the transport. -/
lemma readOp_follows {α : Type} (op : ReadOp α) :
    Follows (CutInput x) (fun e => e.isTransport = true) op.reader := by
  intro s s' hcut v t h
  have hd : op.decoder (s'.unread ++ x) = .ok v t.unread := by
    rw [← hcut.unread]
    exact op.refines.ok_iff.1 ⟨t, h, rfl⟩
  obtain ⟨v', rest, t', hd', hr', hsettled⟩ | ⟨k, left, t', _, hr'⟩ | ⟨e, left, t', he, hd', _⟩ :=
    op.refines.outcome s'
  · obtain ⟨w, hw, hspells⟩ := op.decoder_prefixStable.taken hd'
    rw [hw, List.append_assoc, hspells] at hd
    obtain ⟨rfl, hrest⟩ := EStateM.Result.ok.inj hd
    have hunread : t'.unread = rest := by
      rw [← Input.settled_unread t', hsettled, Input.unread_with_buffer]
    refine .inr ⟨t', hr', (stop_of_read h).trans hcut.stop, (stop_of_read hr').trans hcut.stop', ?_⟩
    rw [hunread, hrest]
  · rw [hcut.stop'] at hr'
    exact .inl ⟨_, t', hr', rfl⟩
  · obtain ⟨left', hrefused⟩ := op.decoder_prefixStable.refused hd' he x
    rw [hrefused] at hd
    cases hd

/-- So does reading a value of any type. -/
lemma readValue_follows (t : ColumnType) :
    Follows (CutInput x) (fun e => ∃ f, e = .stream f ∧ f.isTransport = true) t.read := by
  apply ColumnType.read_of_steps Follows.composes
  · intro α op s s' hcut v u h
    have hr : op.reader s = .ok v u := by
      unfold plain at h
      split at h <;> cases h
      assumption
    rcases (readOp_follows op) s s' hcut v u hr with ⟨f, t', hf, htransport⟩ | ⟨t', ht', hcut'⟩
    · exact .inl ⟨.stream f, t', by rw [plain, hf], f, rfl, htransport⟩
    · exact .inr ⟨t', by rw [plain, ht'], hcut'⟩
  · intro e _
    exact Follows.throw e

end ColumnWire.Stream

namespace ColumnWire.Session

open ColumnWire.Wire ColumnWire.Packet ColumnWire.Cell ColumnWire.Stream ColumnWire.Server Tape

variable {x : Bytes}

/-! ## Steps of receiving -/

/-- What the receivers read is cut short, and their types are those that descriptors name. -/
structure CutReceiver (x : Bytes) (s s' : Receiver) : Prop where
  /-- What they read. -/
  input : CutInput x s.input s'.input
  /-- The types of the first. -/
  sound : s.types.Sound
  /-- The types of the second. -/
  sound' : s'.types.Sound

variable {s s' : Receiver}

/-- What the second receiver lacks. -/
lemma CutReceiver.ahead_eq (h : CutReceiver x s s') : ahead s = ahead s' ++ x :=
  h.input.unread

/-- The second receiver may move, as long as it takes nothing. -/
lemma CutReceiver.of_moves {t' : Receiver} (h : CutReceiver x s s') (hmoves : Moves s' t')
    (hahead : ahead t' = ahead s') : CutReceiver x s t' where
  input := ⟨h.input.stop, (stop_of_moves hmoves).trans h.input.stop', by
    rw [show t'.input.unread = s'.input.unread from hahead]
    exact h.input.unread⟩
  sound := h.sound
  sound' := valid hmoves

/-- Reading follows while receiving. -/
lemma reading_follows {α : Type} {r : Reader α}
    (h : Follows (CutInput x) (fun e => e.isTransport = true) r) :
    Follows (CutReceiver x) (fun e => e.isTransient = true) (reading r) := by
  intro s s' hcut v t hv
  obtain ⟨i, hi, rfl⟩ := reading_eq_ok hv
  rcases h s.input s'.input hcut.input v i hi with ⟨f, i', hf, htransport⟩ | ⟨i', hi', hcut'⟩
  · exact .inl ⟨.stream f, { s' with input := i' }, by rw [reading, hf], htransport⟩
  · exact .inr ⟨{ s' with input := i' }, by rw [reading, hi'], hcut', hcut.sound, hcut.sound'⟩

/-- So does reading a cell. -/
lemma readingCell_follows (c : Column) (t : ColumnType) :
    Follows (CutReceiver x) (fun e => e.isTransient = true) (readingCell c t) := by
  intro s s' hcut v u hv
  unfold readingCell at hv
  split at hv
  · next hr =>
      cases hv
      rcases readValue_follows t s.input s'.input hcut.input v _ hr with
        ⟨e, i', he, f, rfl, htransport⟩ | ⟨i', hi', hcut'⟩
      · exact .inl ⟨.column c.name c.typeName (.stream f), { s' with input := i' },
          by rw [readingCell, he], htransport⟩
      · exact .inr ⟨{ s' with input := i' }, by rw [readingCell, hi'], hcut', hcut.sound, hcut.sound'⟩
  · cases hv

/-- Looking a type up does not depend on what can be read. -/
lemma resolve_follows (c : Column) :
    Follows (CutReceiver x) (fun e => e.isTransient = true) (resolve c) := by
  intro s s' hcut p t hp
  obtain ⟨w, hw, hmoves, rfl, rfl, hparse⟩ := resolve_takes c s p t hcut.sound hp
  obtain ⟨t', ht', hahead', hmoves'⟩ :=
    resolve_reads hparse s' (ahead s') hcut.sound' (List.nil_append _).symm
  refine .inr ⟨t', ht', ⟨?_, ?_, ?_⟩, valid hmoves, valid hmoves'⟩
  · exact (stop_of_moves hmoves).trans hcut.input.stop
  · exact (stop_of_moves hmoves').trans hcut.input.stop'
  · show ahead t = ahead t' ++ x
    rw [hahead', ← hcut.ahead_eq, hw, List.nil_append]

/-- Receiving what stands behind a code receives the same or fails in the transport. -/
lemma receiveBody_follows (code : UInt64) :
    Follows (CutReceiver x) (fun e => e.isTransient = true) (receiveBody code) := by
  have hsteps : OfSteps fun (α : Type) (m : Receive α) =>
      Follows (CutReceiver x) (fun e => e.isTransient = true) m :=
    { toComposes := Follows.composes
      read := fun op => reading_follows (readOp_follows op)
      resolve := resolve_follows
      cell := readingCell_follows
      width := fun _ _ => Follows.throw _ }
  exact hsteps.receiveBody code

/-! ## Rounds -/

/-- The action fails with an error that lies in the transport. -/
def FailsInTransport {α : Type} (m : Receive α) (s : Receiver) : Prop :=
  ∃ e t, m s = .error e t ∧ e.isTransient = true

variable {fuel : Nat} {r : QueryResult} {u w rest left : Bytes}

/-- A round on what is cut short takes the code that the whole bytes begin with, or fails in the
transport. -/
lemma receivePackets_cut_code {n : UInt64} (hcode : Varint.decoder.Spells u n)
    (hcut : CutReceiver x s s') (hahead : ahead s = u ++ rest) (hne : ahead s' ≠ []) (fuel : Nat)
    (r : QueryResult) :
    FailsInTransport (receivePackets (fuel + 1) r) s' ∨
      ∃ t t', receivePackets (fuel + 1) r s' = onCode fuel r n t' ∧ ahead t = rest ∧
        CutReceiver x t t' := by
  obtain ⟨s₀, hround, hsame, hmoves⟩ := receivePackets_ahead hcut.sound' hne fuel r
  obtain ⟨t, ht, hrest, _⟩ := reading_spells Input.readVarint_refines hcode s rest hcut.sound hahead
  have hfollows : Follows (CutReceiver x) (fun e => e.isTransient = true)
      (reading Input.readVarint) := reading_follows (readOp_follows .varint)
  rcases hfollows s s₀ (hcut.of_moves hmoves hsame) n t ht with
    ⟨e, t', he, htransient⟩ | ⟨t', ht', hcut'⟩
  · exact .inl ⟨e, t', by rw [hround, bind_error he], htransient⟩
  · exact .inr ⟨t, t', by rw [hround, bind_ok ht'], hrest, hcut'⟩

/-- A round on what is cut short takes the packet that the whole bytes begin with, or fails in the
transport. -/
lemma receivePackets_cut_part {p : Part} (hp : PartSpells w p) (hcut : CutReceiver x s s')
    (hahead : ahead s = w ++ rest) (hne : ahead s' ≠ []) (fuel : Nat) (r : QueryResult) :
    FailsInTransport (receivePackets (fuel + 1) r) s' ∨
      ∃ t t', receivePackets (fuel + 1) r s' = receivePackets fuel (r.add p) t' ∧ ahead t = rest ∧
        CutReceiver x t t' := by
  obtain ⟨n, u, v, rfl, hcode, hn, hbody⟩ := hp.code_body
  rw [List.append_assoc] at hahead
  rcases receivePackets_cut_code hcode hcut hahead hne fuel r with h | ⟨t, t', hround, hv, hcut'⟩
  · exact .inl h
  obtain ⟨t₁, ht₁, hrest, _⟩ := hbody t rest hcut'.sound hv
  rw [onCode_of_continues hn] at hround
  rcases receiveBody_follows n t t' hcut' p t₁ ht₁ with ⟨e, t₁', he, htransient⟩ | ⟨t₁', ht₁', hcut₁⟩
  · exact .inl ⟨e, t₁', by rw [hround, bind_error he], htransient⟩
  · exact .inr ⟨t₁, t₁', by rw [hround, bind_ok ht₁'], hrest, hcut₁⟩

/-- Cut short, an exception ends a response as it does in whole, or as one that is cut short. -/
lemma onException_cut {e : End} (hcut : CutReceiver x s s')
    (h : (∃ e₀ left', ServerException.decoder (ahead s) = .ok e₀ left' ∧ e = .exception e₀) ∨
      ∃ k left', ServerException.decoder (ahead s) = .error (.incomplete k) left')
    (fuel : Nat) (r : QueryResult) :
    ∃ e' t', onCode fuel r ServerCode.exception.number s' = .ok (r.finish e') t' ∧
      (e' = .cut ∨ e' = e) := by
  have hround {e' : RemoteError} {i : Input} (hi : readException s'.input = .ok e' i) :
      onCode fuel r ServerCode.exception.number s' =
        .ok { r with exception := some e' } { s' with input := i } :=
    bind_ok (by rw [reading, hi])
  have hstable := ServerException.decoder_prefixStable
  rw [hcut.ahead_eq] at h
  obtain ⟨e₁, left₁, i, hd, hi, _⟩ | ⟨k, left₁, _, hd, _⟩ | ⟨e₁, left₁, _, he, hd, _⟩ :=
    (Input.readFrame_refines hstable).outcome s'.input
  · obtain ⟨w, hw, hspells⟩ := hstable.taken hd
    have hlong : ServerException.decoder (ahead s' ++ x) = .ok e₁ (left₁ ++ x) := by
      rw [show ahead s' = w ++ left₁ from hw, List.append_assoc]
      exact hspells _
    rw [hlong] at h
    rcases h with ⟨e₀, left', h, rfl⟩ | ⟨k, left', h⟩
    · obtain ⟨rfl, _⟩ := EStateM.Result.ok.inj h
      exact ⟨.exception _, _, hround (by rw [readException, hi]), .inr rfl⟩
    · cases h
  · obtain ⟨i, hi, _⟩ := readException_of_cut hcut.input.stop' hd
    exact ⟨.cut, _, hround hi, .inl rfl⟩
  · obtain ⟨left₂, hrefused⟩ := hstable.refused hd he x
    rw [show ServerException.decoder (ahead s' ++ x) = _ from hrefused] at h
    rcases h with ⟨e₀, left', h, _⟩ | ⟨k, left', h⟩
    · cases h
    · cases h
      simp [WireError.isIncomplete] at he

/-- Cut short, the end of a response is that end, the end of the stream or an exception that is cut
short, unless receiving fails in the transport. -/
lemma receivePackets_cut_end {e : End} (hend : EndSpells none u left e) (hcut : CutReceiver x s s')
    (hahead : ahead s = u ++ left) (hfuel : (ahead s').length ≤ fuel) (r : QueryResult) :
    FailsInTransport (receivePackets fuel r) s' ∨
      ∃ e' t', receivePackets fuel r s' = .ok (r.finish e') t' ∧
        (e' = .closed ∨ e' = .cut ∨ e' = e) := by
  by_cases hnil : ahead s' = []
  · obtain ⟨t', ht', _⟩ := receivePackets_closed hcut.input.stop' hcut.sound' hnil fuel r
    exact .inr ⟨.closed, t', ht', .inl rfl⟩
  have hpos := List.length_pos_iff.2 hnil
  obtain ⟨fuel, rfl⟩ : ∃ fuel', fuel = fuel' + 1 := ⟨fuel - 1, by omega⟩
  cases hend with
  | closed _ =>
      rw [hcut.ahead_eq] at hahead
      exact absurd (List.append_eq_nil_iff.1 hahead).1 hnil
  | endOfStream hcode =>
      rcases receivePackets_cut_code hcode hcut hahead hnil fuel r with h | ⟨t, t', hround, _, _⟩
      · exact .inl h
      · exact .inr ⟨.endOfStream, t', hround, .inr (.inr rfl)⟩
  | @exception u w _ e₀ hcode hspells =>
      rw [List.append_assoc] at hahead
      rcases receivePackets_cut_code hcode hcut hahead hnil fuel r with h | ⟨t, t', hround, hv, hcut'⟩
      · exact .inl h
      · have hwhole : ServerException.decoder (ahead t) = .ok e₀ left := by
          rw [hv]
          exact hspells left
        obtain ⟨e', t₁, ht₁, he'⟩ := onException_cut hcut' (.inl ⟨e₀, left, hwhole, rfl⟩) fuel r
        exact .inr ⟨e', t₁, hround.trans ht₁, .inr he'⟩
  | cut _ hcode hshort =>
      rcases receivePackets_cut_code hcode hcut hahead hnil fuel r with h | ⟨t, t', hround, hv, hcut'⟩
      · exact .inl h
      · rw [← hv] at hshort
        obtain ⟨e', t₁, ht₁, he'⟩ := onException_cut (e := .cut) hcut' (.inr ⟨_, _, hshort⟩) fuel r
        exact .inr ⟨e', t₁, hround.trans ht₁, .inr he'⟩

/-! ## Whole responses -/

/-- Of packets with their bytes, those that lie wholly within the first `n` bytes. -/
def wholeWithin : (n : Nat) → List (Bytes × Part) → List (Bytes × Part)
  | _, [] => []
  | n, y :: rest => if y.1.length ≤ n then y :: wholeWithin (n - y.1.length) rest else []

/-- These are the first packets. -/
lemma wholeWithin_prefix (n : Nat) (packets : List (Bytes × Part)) :
    wholeWithin n packets <+: packets := by
  induction packets generalizing n with
  | nil => exact List.prefix_refl _
  | cons y rest ih =>
      rw [wholeWithin]
      split
      · exact List.cons_prefix_cons.2 ⟨rfl, ih _⟩
      · exact List.nil_prefix

/-- The result that begins as `r` after packets. -/
def QueryResult.addAll (r : QueryResult) (packets : List (Bytes × Part)) : QueryResult :=
  (packets.map (·.2)).foldl add r

/-- What is cut short is received as the result of the packets that have wholly arrived, unless receiving
fails in the transport. -/
lemma receivePackets_cut {packets : List (Bytes × Part)} {e : End}
    (hpackets : ∀ y ∈ packets, PartSpells y.1 y.2) (hend : EndSpells none u left e)
    (hcut : CutReceiver x s s') (hahead : ahead s = packets.flatMap (·.1) ++ (u ++ left))
    (hfuel : (ahead s').length ≤ fuel) (r : QueryResult) :
    FailsInTransport (receivePackets fuel r) s' ∨
      ∃ e' t', receivePackets fuel r s' =
          .ok ((r.addAll (wholeWithin (ahead s').length packets)).finish e') t' ∧
        (e' = .closed ∨ e' = .cut ∨ e' = e) := by
  induction packets generalizing s s' fuel r with
  | nil => exact receivePackets_cut_end hend hcut hahead hfuel r
  | cons y rest ih =>
      have hy := hpackets y List.mem_cons_self
      rw [List.flatMap_cons, List.append_assoc] at hahead
      by_cases hnil : ahead s' = []
      · have hnone : wholeWithin (ahead s').length (y :: rest) = [] := by
          have hpos := List.length_pos_iff.2 hy.ne_nil
          rw [wholeWithin, if_neg (by rw [hnil, List.length_nil]; omega)]
        obtain ⟨t', ht', _⟩ := receivePackets_closed hcut.input.stop' hcut.sound' hnil fuel r
        refine .inr ⟨.closed, t', ?_, .inl rfl⟩
        rw [hnone]
        exact ht'
      have hpos := List.length_pos_iff.2 hnil
      obtain ⟨fuel, rfl⟩ : ∃ fuel', fuel = fuel' + 1 := ⟨fuel - 1, by omega⟩
      rcases receivePackets_cut_part hy hcut hahead hnil fuel r with h | ⟨t, t', hround, hrest, hcut'⟩
      · exact .inl h
      -- The packet has wholly arrived, since as many bytes are lacking behind it as before it.
      have hsplit : ahead s' = y.1 ++ ahead t' := by
        rw [hcut.ahead_eq, ← hrest, hcut'.ahead_eq, ← List.append_assoc] at hahead
        exact List.append_cancel_right hahead
      have hypos := List.length_pos_iff.2 hy.ne_nil
      have hlength : (ahead s').length = y.1.length + (ahead t').length := by
        rw [hsplit, List.length_append]
      have hwhole : wholeWithin (ahead s').length (y :: rest) =
          y :: wholeWithin (ahead t').length rest := by
        rw [wholeWithin, if_pos (by omega), hlength, Nat.add_sub_cancel_left]
      rw [FailsInTransport, hround, hwhole]
      exact ih (fun z hz => hpackets z (List.mem_cons_of_mem y hz)) hcut' hrest (by omega) _

/-- Packets keep the blocks so far and may add others behind them. -/
lemma QueryResult.blocks_prefix_addAll (r : QueryResult) (packets : List (Bytes × Part)) :
    r.blocks <+: (r.addAll packets).blocks := by
  induction packets generalizing r with
  | nil => exact List.prefix_refl _
  | cons y rest ih =>
      refine List.IsPrefix.trans ?_ (ih (r.add y.2))
      cases y.2 with
      | block kind b => cases kind <;> simp [add]
      | _ => exact List.prefix_refl _

/-- Packets raise no exception. -/
lemma QueryResult.exception_addAll (r : QueryResult) (packets : List (Bytes × Part)) :
    (r.addAll packets).exception = r.exception :=
  foldl_add_exception _ r

/-- The end of a response decides on the exception alone. -/
lemma QueryResult.finish_eq (r : QueryResult) (e : End) :
    r.finish e = { r with exception := (r.finish e).exception } := by
  cases e <;> rfl

/-- The end of a response adds no block. -/
lemma QueryResult.blocks_finish (r : QueryResult) (e : End) : (r.finish e).blocks = r.blocks := by
  cases e <;> rfl

/-- The same end raises the same exception. -/
lemma QueryResult.exception_finish {r r' : QueryResult} (h : r.exception = r'.exception) (e : End) :
    (r.finish e).exception = (r'.finish e).exception := by
  cases e with
  | endOfStream => exact h
  | closed => exact h
  | exception e₀ => rfl
  | cut => rfl

/-- Bytes of packets are the bytes of each of them. -/
lemma PartsSpell.packets {parts : List Part} (h : PartsSpell w parts) :
    ∃ packets : List (Bytes × Part), (∀ y ∈ packets, PartSpells y.1 y.2) ∧
      w = packets.flatMap (·.1) ∧ parts = packets.map (·.2) := by
  induction h with
  | nil => exact ⟨[], by simp, rfl, rfl⟩
  | @cons u _ p _ hp _ ih =>
      obtain ⟨packets, hpackets, rfl, rfl⟩ := ih
      refine ⟨(u, p) :: packets, ?_, rfl, rfl⟩
      intro y hy
      rcases List.mem_cons.1 hy with rfl | hy
      · exact hp
      · exact hpackets y hy

/-- A response of which only the beginning arrives before the stream ends, in any pieces, is received as
the result of the packets that have wholly arrived, or receiving fails in the transport. An exception of
that result is the one of the whole response or stands for one that was cut short. -/
theorem receiveResult_truncated {s t : Receiver} {R : QueryResult} (hs : s.types.Reachable)
    (hclosed : s.input.transport.stop = none) (h : receiveResult s = .ok R t) :
    ∃ packets e u left, (∀ y ∈ packets, PartSpells y.1 y.2) ∧ EndSpells none u left e ∧
      s.input.unread = packets.flatMap (·.1) ++ (u ++ left) ∧
      R = (({} : QueryResult).addAll packets).finish e ∧
      ∀ s' : Receiver, s'.types.Reachable → s'.input.transport.stop = none →
        s'.input.unread <+: s.input.unread →
        (∃ f t', receiveResult s' = .error f t' ∧ f.isTransient = true) ∨
        ∃ R' t', receiveResult s' = .ok R' t' ∧ R'.blocks <+: R.blocks ∧
          R' = { ({} : QueryResult).addAll (wholeWithin s'.input.unread.length packets) with
            exception := R'.exception } ∧
          (R'.exception = none ∨ R'.exception = R.exception ∨
            R'.exception = some RemoteError.unknown) := by
  obtain ⟨_, hw, _, hanswer⟩ := receiveResult_takes hs.sound h
  obtain @⟨w, u, left, parts, e, hparts, hend⟩ := hanswer
  obtain ⟨packets, hpackets, rfl, rfl⟩ := hparts.packets
  rw [hclosed] at hend
  rw [List.append_assoc] at hw
  refine ⟨packets, e, u, _, hpackets, hend, hw, rfl, fun s' hs' hclosed' hprefix => ?_⟩
  obtain ⟨x, hx⟩ := hprefix
  have hcut : CutReceiver x s s' := ⟨⟨hclosed, hclosed', hx.symm⟩, hs.sound, hs'.sound⟩
  have hfuel : (ahead s').length ≤ s'.input.unreadCount := by
    rw [Input.unreadCount_eq]
    exact Nat.le_refl _
  rcases receivePackets_cut hpackets hend hcut hw hfuel {} with hfails | ⟨e', t', ht', he'⟩
  · exact .inl hfails
  refine .inr ⟨_, t', ht', ?_, QueryResult.finish_eq _ e', ?_⟩
  · obtain ⟨more, hmore⟩ := wholeWithin_prefix s'.input.unread.length packets
    have hadd : ({} : QueryResult).addAll packets =
        (({} : QueryResult).addAll (wholeWithin s'.input.unread.length packets)).addAll more := by
      rw [QueryResult.addAll, QueryResult.addAll, QueryResult.addAll, ← List.foldl_append,
        ← List.map_append, hmore]
    rw [QueryResult.blocks_finish, QueryResult.blocks_finish]
    change QueryResult.blocks _ <+: (({} : QueryResult).addAll packets).blocks
    rw [hadd]
    exact QueryResult.blocks_prefix_addAll _ more
  · rcases he' with rfl | rfl | rfl
    · exact .inl (QueryResult.exception_addAll {} _)
    · exact .inr (.inr rfl)
    · refine .inr (.inl (QueryResult.exception_finish ?_ e'))
      exact (QueryResult.exception_addAll {} _).trans (QueryResult.exception_addAll {} packets).symm

/-- A receiver of counters and an exception, in three pieces. -/
def wholeReceiver : Receiver where
  input :=
    { transport := Transport.attached { incoming := [[1, 2], [3, 2, 60, 1, 65, 1, 98, 0, 0]] } {}
      buffer := [3] }
  types := TypeCache.new 1

/-- A receiver of the same counters and the first bytes of the exception, in one piece. -/
def shortReceiver : Receiver where
  input := { transport := Transport.attached { incoming := [[3, 1, 2, 3, 2, 60, 1]] } {} }
  types := TypeCache.new 2

/-- The counters are received, and the exception as it is or as an unknown one, unless receiving fails
in the transport. -/
theorem receiveResult_truncated_exception :
    ∃ R t, receiveResult wholeReceiver = .ok R t ∧ R.progress = ⟨1, 2, 3⟩ ∧
      R.exception = some (RemoteError.new 60 "A" "b") ∧
      ((∃ f t', receiveResult shortReceiver = .error f t' ∧ f.isTransient = true) ∨
        ∃ R' t', receiveResult shortReceiver = .ok R' t' ∧ R'.blocks <+: R.blocks ∧
          (R'.exception = none ∨ R'.exception = R.exception ∨
            R'.exception = some RemoteError.unknown)) := by
  have hwhole : receiveResult wholeReceiver =
      .ok { progress := ⟨1, 2, 3⟩, exception := some (RemoteError.new 60 "A" "b") }
        (finalState (receiveResult wholeReceiver)) := by
    rfl
  obtain ⟨_, _, _, _, _, _, _, _, hall⟩ := receiveResult_truncated (.new 1) rfl hwhole
  refine ⟨_, _, hwhole, rfl, rfl, ?_⟩
  rcases hall shortReceiver (.new 2) rfl ⟨[65, 1, 98, 0, 0], rfl⟩ with
    hfails | ⟨R', t', ht', hblocks, _, hexception⟩
  · exact .inl hfails
  · exact .inr ⟨R', t', ht', hblocks, hexception⟩

end ColumnWire.Session
