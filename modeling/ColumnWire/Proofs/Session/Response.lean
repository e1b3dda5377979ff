import Mathlib.Tactic.Common
import ColumnWire.Proofs.Session.Grammar
import ColumnWire.Proofs.Stream.Ending

/-!
# Receiving a response

Receiving succeeds on exactly the bytes that spell a response: packets one behind the other and an end
(`Answer`). `receiveResult_reads` says that such bytes are received and nothing behind them is touched;
`receiveResult_takes` says that nothing else is. Both follow from what one round of the loop does with
a packet (`receivePackets_part`) and what a round can do at all (`onCode_eq_ok`).
-/

namespace ColumnWire.Session

open ColumnWire.Wire ColumnWire.Packet ColumnWire.Cell ColumnWire.Stream ColumnWire.Server Tape

/-- The bytes of a response, what is left behind them, and the result that begins as `r₀`. -/
inductive Answer (stop : Option StreamError) (r₀ : QueryResult) : Bytes → Bytes → QueryResult → Prop
    where
  /-- Packets and an end. -/
  | packets {w u left : Bytes} {parts : List Part} {e : End} (hparts : PartsSpell w parts)
      (hend : EndSpells stop u left e) :
      Answer stop r₀ (w ++ u) left ((parts.foldl QueryResult.add r₀).finish e)

/-! ## Exceptions -/

/-- A whole exception is read. -/
lemma readException_reads {w : Bytes} {e : ServerException}
    (h : ServerException.decoder.Spells w e) : Reads readException w (.ofException e) := by
  intro s rest hs hahead
  obtain ⟨t, ht, hrest, hmoves⟩ :=
    (Input.readFrame_refines ServerException.decoder_prefixStable).reads h s rest hs hahead
  exact ⟨t, by rw [readException, ht], hrest, hmoves⟩

/-- An exception that the end of the stream cuts short is an unknown one, and stays unread. -/
lemma readException_of_cut {s : Input} {k : Nat} {left : Bytes} (hstop : s.transport.stop = none)
    (h : ServerException.decoder s.unread = .error (.incomplete k) left) :
    ∃ t, readException s = .ok .unknown t ∧ t.settled = s.settled := by
  obtain ⟨t, ht⟩ := (Input.readFrame_refines ServerException.decoder_prefixStable).of_short h
  rw [hstop, Option.getD_none] at ht
  have hsettled := Input.settled_of_readFrame_error ServerException.decoder_prefixStable ht
  exact ⟨t, by rw [readException, ht]; rfl, hsettled⟩

/-- An exception that is read is whole, or was cut short by the end of the stream. -/
lemma readException_eq_ok {s t : Input} {e : RemoteError} (h : readException s = .ok e t) :
    (∃ w e', s.unread = w ++ t.unread ∧ t.transport.drained = s.transport.drained ∧
      ServerException.decoder.Spells w e' ∧ e = .ofException e') ∨
    (s.transport.stop = none ∧ e = .unknown ∧ t.settled = s.settled ∧
      ∃ k left, ServerException.decoder s.unread = .error (.incomplete k) left) := by
  have hrefines := Input.readFrame_refines ServerException.decoder_prefixStable
  unfold readException at h
  cases hread : Input.readFrame ServerException.decoder s with
  | ok e' t' =>
      rw [hread] at h
      cases h
      obtain ⟨w, hw, hdrained, hspells⟩ :=
        hrefines.takes ServerException.decoder_prefixStable s e' t trivial hread
      exact .inl ⟨w, e', hw, hdrained, hspells, rfl⟩
  | error f t' =>
      simp only [hread] at h
      by_cases hend : f.isEnd = true
      · rw [if_pos hend] at h
        cases h
        have hsettled := Input.settled_of_readFrame_error ServerException.decoder_prefixStable hread
        obtain ⟨_, _, _, _, hr, _⟩ | ⟨k, left, _, hd, hr⟩ | ⟨_, _, _, _, _, hr⟩ := hrefines.outcome s
        · rw [hread] at hr
          cases hr
        · rw [hread] at hr
          cases hstop : s.transport.stop with
          | none => exact .inr ⟨rfl, rfl, hsettled, k, left, hd⟩
          | some g =>
              rw [hstop] at hr
              cases hr
              rw [Option.getD_some, Transport.isEnd_of_stop hstop] at hend
              cases hend
        · rw [hread] at hr
          cases hr
          cases hend
      · rw [if_neg hend] at h
        cases h

/-! ## One round -/

/-- What a round does with a code. -/
def onCode (fuel : Nat) (r : QueryResult) (raw : UInt64) : Receive QueryResult :=
  match ServerCode.ofNumber? raw with
  | .ok .data => do
    let b ← receiveBlock
    receivePackets fuel (r.add (.block .data b))
  | .ok .totals => do
    let b ← receiveBlock
    receivePackets fuel (r.add (.block .totals b))
  | .ok .extremes => do
    let b ← receiveBlock
    receivePackets fuel (r.add (.block .extremes b))
  | .ok .progress => do
    let p ← reading (Input.readFrame Progress.decoder)
    receivePackets fuel (r.add (.progress p))
  | .ok .profileInfo => do
    let p ← reading (Input.readFrame ProfileInfo.decoder)
    receivePackets fuel (r.add (.profile p))
  | .ok .exception => do
    let e ← reading readException
    pure { r with exception := some e }
  | .ok .endOfStream => pure r
  | _ => receivePackets fuel r

/-- A round asks for the end of the stream and else for a code. -/
lemma receivePackets_succ (fuel : Nat) (r : QueryResult) :
    receivePackets (fuel + 1) r =
      reading Input.atEnd >>= fun ended =>
        if ended then pure r else reading Input.readVarint >>= onCode fuel r := rfl

/-- Behind a code after which a response goes on, a round receives a packet and adds what it says. -/
lemma onCode_of_continues {n : UInt64} (h : Continues n) (fuel : Nat) (r : QueryResult) :
    onCode fuel r n = receiveBody n >>= fun p => receivePackets fuel (r.add p) := by
  unfold onCode receiveBody
  cases hn : ServerCode.ofNumber? n with
  | error e => rfl
  | ok c =>
      have hnumber := ServerCode.number_of_ofNumber? hn
      cases c with
      | endOfStream => exact absurd hnumber h.1
      | exception => exact absurd hnumber h.2
      | data | totals | extremes | progress | profileInfo =>
          simp only [bind_assoc, pure_bind]
      | _ => rfl

variable {s : Receiver} {fuel : Nat} {r : QueryResult} {u w rest : Bytes}

/-- What comes behind the last byte does not change while receiving. -/
lemma stop_of_moves {t : Receiver} (h : Moves s t) :
    t.input.transport.stop = s.input.transport.stop :=
  Transport.stop_of_drained h.1

/-- With bytes ahead the stream has not ended. -/
lemma reading_atEnd_of_ahead (hs : Valid s) (hne : ahead s ≠ []) :
    ∃ t, reading Input.atEnd s = .ok false t ∧ ahead t = ahead s ∧ Moves s t := by
  obtain ⟨i, hi, hsettled⟩ := Input.atEnd_of_ahead hne
  exact ⟨{ s with input := i }, by rw [reading, hi], Input.unread_of_settled hsettled,
    Input.drained_of_settled hsettled, hs⟩

/-- A round with bytes ahead reads a code and goes on with it. -/
lemma receivePackets_ahead (hs : Valid s) (hne : ahead s ≠ []) (fuel : Nat) (r : QueryResult) :
    ∃ t, receivePackets (fuel + 1) r s = (reading Input.readVarint >>= onCode fuel r) t ∧
      ahead t = ahead s ∧ Moves s t := by
  obtain ⟨t, hatEnd, hsame, hmoves⟩ := reading_atEnd_of_ahead hs hne
  refine ⟨t, ?_, hsame, hmoves⟩
  rw [receivePackets_succ, bind_ok hatEnd]
  rfl

/-- A round takes the code that lies ahead. -/
lemma receivePackets_code {n : UInt64} (hcode : Varint.decoder.Spells u n) (hs : Valid s)
    (hahead : ahead s = u ++ rest) (fuel : Nat) (r : QueryResult) :
    ∃ t, receivePackets (fuel + 1) r s = onCode fuel r n t ∧ ahead t = rest ∧ Moves s t := by
  have hne : ahead s ≠ [] := by
    rw [hahead]
    simp [Varint.decoder_consuming.ne_nil hcode]
  obtain ⟨s', hround, hsame, hmoves⟩ := receivePackets_ahead hs hne fuel r
  obtain ⟨t, ht, hrest, hmoves'⟩ :=
    reading_spells Input.readVarint_refines hcode s' rest (valid hmoves) (hsame.trans hahead)
  exact ⟨t, by rw [hround, bind_ok ht], hrest, trans hmoves hmoves'⟩

/-- A round takes a whole packet and adds what it says. -/
lemma receivePackets_part {p : Part} (hp : PartSpells w p) (hs : Valid s)
    (hahead : ahead s = w ++ rest) (fuel : Nat) (r : QueryResult) :
    ∃ t, receivePackets (fuel + 1) r s = receivePackets fuel (r.add p) t ∧ ahead t = rest ∧
      Moves s t := by
  obtain ⟨n, u, v, rfl, hcode, hn, hbody⟩ := hp.code_body
  rw [List.append_assoc] at hahead
  obtain ⟨t, ht, hrest, hmoves⟩ := receivePackets_code hcode hs hahead fuel r
  obtain ⟨t', ht', hrest', hmoves'⟩ := hbody t rest (valid hmoves) hrest
  exact ⟨t', by rw [ht, onCode_of_continues hn, bind_ok ht'], hrest', trans hmoves hmoves'⟩

/-- The loop ends when the stream has ended. -/
lemma receivePackets_of_ended {t : Receiver} (h : reading Input.atEnd s = .ok true t) (fuel : Nat)
    (r : QueryResult) : receivePackets fuel r s = .ok r t := by
  cases fuel with
  | zero =>
      rw [receivePackets, bind_ok h]
      rfl
  | succ fuel =>
      rw [receivePackets_succ, bind_ok h]
      rfl

/-- The loop fails when it cannot be known whether the stream has ended. -/
lemma receivePackets_of_atEnd_error {t : Receiver} {e : ClientError}
    (h : reading Input.atEnd s = .error e t) (fuel : Nat) (r : QueryResult) :
    receivePackets fuel r s = .error e t := by
  cases fuel with
  | zero => rw [receivePackets, bind_error h]
  | succ fuel => rw [receivePackets_succ, bind_error h]

/-- Without a byte ahead the loop ends when the peer closes. -/
lemma receivePackets_closed (hstop : s.input.transport.stop = none) (hs : Valid s)
    (hahead : ahead s = []) (fuel : Nat) (r : QueryResult) :
    ∃ t, receivePackets fuel r s = .ok r t ∧ ahead t = [] ∧ Moves s t := by
  obtain ⟨i, hi, hsettled⟩ := Input.atEnd_of_closed hahead hstop
  have hatEnd : reading Input.atEnd s = .ok true { s with input := i } := by rw [reading, hi]
  exact ⟨{ s with input := i }, receivePackets_of_ended hatEnd fuel r,
    (Input.unread_of_settled hsettled).trans hahead, Input.drained_of_settled hsettled, hs⟩

/-- A round ends with what a response can end with. -/
lemma receivePackets_end {left : Bytes} {e : End} (he : EndSpells s.input.transport.stop u left e)
    (hs : Valid s) (hahead : ahead s = u ++ left) (hfuel : u.length ≤ fuel) (r : QueryResult) :
    ∃ t, receivePackets fuel r s = .ok (r.finish e) t ∧ ahead t = left ∧ Moves s t := by
  cases he with
  | closed hstop => exact receivePackets_closed hstop hs hahead fuel r
  | endOfStream hcode =>
      have hpos := List.length_pos_iff.2 (Varint.decoder_consuming.ne_nil hcode)
      obtain ⟨fuel, rfl⟩ : ∃ fuel', fuel = fuel' + 1 := ⟨fuel - 1, by omega⟩
      obtain ⟨t, ht, hrest, hmoves⟩ := receivePackets_code hcode hs hahead fuel r
      exact ⟨t, ht, hrest, hmoves⟩
  | @exception u w _ e hcode h =>
      have hpos := List.length_pos_iff.2 (Varint.decoder_consuming.ne_nil hcode)
      rw [List.length_append] at hfuel
      obtain ⟨fuel, rfl⟩ : ∃ fuel', fuel = fuel' + 1 := ⟨fuel - 1, by omega⟩
      rw [List.append_assoc] at hahead
      obtain ⟨t, ht, hrest, hmoves⟩ := receivePackets_code hcode hs hahead fuel r
      obtain ⟨t', ht', hrest', hmoves'⟩ :=
        reading_reads (readException_reads h) t left (valid hmoves) hrest
      exact ⟨t', by rw [ht]; exact bind_ok ht', hrest', trans hmoves hmoves'⟩
  | cut hstop hcode h =>
      have hpos := List.length_pos_iff.2 (Varint.decoder_consuming.ne_nil hcode)
      obtain ⟨fuel, rfl⟩ : ∃ fuel', fuel = fuel' + 1 := ⟨fuel - 1, by omega⟩
      obtain ⟨t, ht, hrest, hmoves⟩ := receivePackets_code hcode hs hahead fuel r
      have hstop' : t.input.transport.stop = none := (stop_of_moves hmoves).trans hstop
      have hcut : ServerException.decoder t.input.unread = _ := (congrArg _ hrest).trans h
      obtain ⟨i, hi, hsettled⟩ := readException_of_cut hstop' hcut
      have hread : reading readException t = .ok .unknown { t with input := i } := by
        rw [reading, hi]
      have hmoves' : Moves t { t with input := i } :=
        ⟨Input.drained_of_settled hsettled, valid hmoves⟩
      refine ⟨{ t with input := i }, ?_, (Input.unread_of_settled hsettled).trans hrest,
        trans hmoves hmoves'⟩
      rw [ht]
      exact bind_ok hread

/-- The bytes of a response are received from the result so far. -/
lemma receivePackets_reads {left : Bytes} {r' : QueryResult}
    (h : Answer s.input.transport.stop r w left r') (hs : Valid s) (hahead : ahead s = w ++ left)
    (hfuel : w.length ≤ fuel) :
    ∃ t, receivePackets fuel r s = .ok r' t ∧ ahead t = left ∧ Moves s t := by
  obtain @⟨w, u, left, parts, e, hparts, hend⟩ := h
  induction hparts generalizing s fuel r with
  | nil => exact receivePackets_end hend hs hahead hfuel r
  | @cons w w' p ps hp _ ih =>
      rw [List.append_assoc, List.append_assoc] at hahead
      have hpos := List.length_pos_iff.2 hp.ne_nil
      rw [List.length_append, List.length_append] at hfuel
      obtain ⟨fuel, rfl⟩ : ∃ fuel', fuel = fuel' + 1 := ⟨fuel - 1, by omega⟩
      have hfuel' : (w' ++ u).length ≤ fuel := by
        rw [List.length_append]
        omega
      obtain ⟨t, ht, hrest, hmoves⟩ := receivePackets_part hp hs hahead fuel r
      rw [← stop_of_moves hmoves] at hend
      obtain ⟨t', ht', hleft, hmoves'⟩ :=
        ih (valid hmoves) (by rw [hrest, List.append_assoc]) hfuel' hend
      exact ⟨t', by rw [ht, ht', List.foldl_cons], hleft, trans hmoves hmoves'⟩

/-! ## What a round can do -/

/-- A round that succeeds took a whole packet and went on, or ended with what a response can end
with. -/
lemma onCode_eq_ok {n : UInt64} {t : Receiver} {r' : QueryResult} (hs : Valid s)
    (h : onCode fuel r n s = .ok r' t) (hcode : Varint.decoder.Spells u n) :
    (∃ w p s', PartSpells (u ++ w) p ∧ ahead s = w ++ ahead s' ∧ Moves s s' ∧
      receivePackets fuel (r.add p) s' = .ok r' t) ∨
    ∃ w e, EndSpells s.input.transport.stop (u ++ w) (ahead t) e ∧ ahead s = w ++ ahead t ∧
      Moves s t ∧ r' = r.finish e := by
  by_cases hend : n = ServerCode.endOfStream.number
  · subst hend
    cases h
    refine .inr ⟨[], .endOfStream, ?_, rfl, refl hs, rfl⟩
    rw [List.append_nil]
    exact .endOfStream hcode
  by_cases hexception : n = ServerCode.exception.number
  · subst hexception
    obtain ⟨e, s', he, h⟩ := bind_eq_ok.1 h
    cases h
    obtain ⟨i, hi, rfl⟩ := reading_eq_ok he
    obtain ⟨w, e, hw, hmoves, hspells, rfl⟩ | ⟨hstop, rfl, hsettled, k, left, hcut⟩ :=
      readException_eq_ok hi
    · exact .inr ⟨w, .exception e, .exception hcode hspells, hw, ⟨hmoves, hs⟩, rfl⟩
    · have hunread := Input.unread_of_settled hsettled
      refine .inr ⟨[], .cut, ?_, hunread.symm, ⟨Input.drained_of_settled hsettled, hs⟩, rfl⟩
      rw [List.append_nil]
      exact .cut hstop hcode (by rw [show ahead _ = _ from hunread]; exact hcut)
  have hcontinues : Continues n := ⟨hend, hexception⟩
  rw [onCode_of_continues hcontinues] at h
  obtain ⟨p, s', hp, h⟩ := bind_eq_ok.1 h
  obtain ⟨w, hw, hmoves, hspells⟩ := receiveBody_takes hcode hcontinues s p s' hs hp
  exact .inl ⟨w, p, s', hspells, hw, hmoves, h⟩

/-- Without a byte ahead the loop fails when the peer does not close. -/
lemma receivePackets_trouble {e : StreamError} (hstop : s.input.transport.stop = some e)
    (hahead : ahead s = []) (fuel : Nat) (r : QueryResult) :
    ∃ t, receivePackets fuel r s = .error (.stream e) t := by
  obtain ⟨i, hi, _⟩ := Input.atEnd_of_trouble hahead hstop
  have hatEnd : reading Input.atEnd s = .error (.stream e) { s with input := i } := by
    rw [reading, hi]
  exact ⟨{ s with input := i }, receivePackets_of_atEnd_error hatEnd fuel r⟩

/-- Without a byte ahead, what is received is what the peer's closing ends. -/
lemma receivePackets_takes_none {t : Receiver} {r' : QueryResult} (hs : Valid s)
    (hahead : ahead s = []) (h : receivePackets fuel r s = .ok r' t) :
    ∃ w, ahead s = w ++ ahead t ∧ Moves s t ∧
      Answer s.input.transport.stop r w (ahead t) r' := by
  cases hstop : s.input.transport.stop with
  | some e =>
      obtain ⟨t', ht'⟩ := receivePackets_trouble hstop hahead fuel r
      rw [h] at ht'
      cases ht'
  | none =>
      obtain ⟨t', ht', hleft, hmoves⟩ := receivePackets_closed hstop hs hahead fuel r
      rw [h] at ht'
      cases ht'
      refine ⟨[], by rw [hahead, hleft]; rfl, hmoves, ?_⟩
      rw [hleft]
      exact .packets (w := []) (u := []) (e := .closed) .nil (.closed rfl)

/-- What is received from a result so far is spelled by the bytes that were taken. -/
lemma receivePackets_takes {t : Receiver} {r' : QueryResult} (hs : Valid s)
    (hfuel : (ahead s).length ≤ fuel) (h : receivePackets fuel r s = .ok r' t) :
    ∃ w, ahead s = w ++ ahead t ∧ Moves s t ∧
      Answer s.input.transport.stop r w (ahead t) r' := by
  induction fuel generalizing s r with
  | zero => exact receivePackets_takes_none hs (List.length_eq_zero_iff.1 (by omega)) h
  | succ fuel ih =>
      by_cases hahead : ahead s = []
      · exact receivePackets_takes_none hs hahead h
      obtain ⟨s₀, hround, hahead₀, hmoves₀⟩ := receivePackets_ahead hs hahead fuel r
      rw [hround] at h
      obtain ⟨n, s₁, hn, h⟩ := bind_eq_ok.1 h
      obtain ⟨u, hu, hmoves₁, hcode⟩ := reading_takes
        (Input.readVarint_refines.takes Varint.decoder_prefixStable) _ n s₁ (valid hmoves₀) hn
      have hmoves := trans hmoves₀ hmoves₁
      rw [hahead₀] at hu
      obtain ⟨w, p, s₂, hp, hw, hmoves₂, h⟩ | ⟨w, e, he, hw, hmoves₂, rfl⟩ :=
        onCode_eq_ok (valid hmoves) h hcode
      · have hpos := List.length_pos_iff.2 hp.ne_nil
        have hlength : (ahead s₂).length ≤ fuel := by
          rw [hu, hw, ← List.append_assoc, List.length_append] at hfuel
          omega
        obtain ⟨w', hw', hmoves₃, hanswer⟩ := ih (valid hmoves₂) hlength h
        rw [stop_of_moves hmoves₂, stop_of_moves hmoves] at hanswer
        obtain @⟨v, v', left, parts, e, hparts, hend⟩ := hanswer
        refine ⟨u ++ w ++ v ++ v', ?_, trans hmoves (trans hmoves₂ hmoves₃),
          .packets (.cons hp hparts) hend⟩
        rw [hu, hw, hw']
        simp
      · rw [stop_of_moves hmoves] at he
        exact ⟨u ++ w, by rw [hu, hw, List.append_assoc], trans hmoves hmoves₂,
          .packets (w := []) .nil he⟩

/-! ## Whole responses -/

/-- The bytes of a response are received, and what lies behind them is left. -/
theorem receiveResult_reads {left : Bytes} {r' : QueryResult}
    (h : Answer s.input.transport.stop {} w left r') (hs : Valid s) (hahead : ahead s = w ++ left) :
    ∃ t, receiveResult s = .ok r' t ∧ ahead t = left ∧ Moves s t := by
  apply receivePackets_reads h hs hahead
  rw [Input.unreadCount_eq, show s.input.unread = w ++ left from hahead, List.length_append]
  omega

/-- A response that is received is spelled by the bytes that were taken. -/
theorem receiveResult_takes {t : Receiver} {r' : QueryResult} (hs : Valid s)
    (h : receiveResult s = .ok r' t) :
    ∃ w, ahead s = w ++ ahead t ∧ Moves s t ∧
      Answer s.input.transport.stop {} w (ahead t) r' := by
  refine receivePackets_takes hs ?_ h
  rw [Input.unreadCount_eq]
  exact Nat.le_refl _

end ColumnWire.Session
