import Mathlib.Tactic.Common
import ColumnWire.Proofs.Session.Reachable

/-!
# Packet boundaries

A query that leaves the connection ready has taken complete packets up to the end of a response
(`AtBoundary`), except when the end of the stream cuts an exception short (`CutShort`): then the code
was taken, the connection is ready, and what there is of the exception is still unread.

* `AtBoundary.not_cutShort`: bytes are not both, since packets can be told apart (`PartSpells.unique`,
  `PartSpells.ne_end`).
* `Connection.query_eq_ready`: what a query did that left the connection ready.
* `Connection.query_atBoundary_iff`: it stopped at a boundary exactly when nothing was cut short.
-/

namespace ColumnWire.Session

open ColumnWire.Wire ColumnWire.Packet ColumnWire.Cell ColumnWire.Stream ColumnWire.Server Tape

/-- The bytes that were taken are complete packets, and the last one ends a response or the peer closed
behind it with nothing left. -/
inductive AtBoundary (stop : Option StreamError) : Bytes → Bytes → Prop where
  /-- Packets and an end that is not cut short. -/
  | packets {w u left : Bytes} {parts : List Part} {e : End} (hparts : PartsSpell w parts)
      (hend : EndSpells stop u left e) (hwhole : e ≠ .cut) : AtBoundary stop (w ++ u) left

/-- The bytes ahead are complete packets and, up to the end of the stream, the beginning of an
exception. -/
inductive CutShort (stop : Option StreamError) : Bytes → Prop where
  /-- Packets and an exception that is cut short. -/
  | packets {w u left : Bytes} {parts : List Part} (hparts : PartsSpell w parts)
      (hend : EndSpells stop u left .cut) : CutShort stop (w ++ (u ++ left))

/-! ## Telling packets and ends apart -/

variable {stop : Option StreamError} {w w' u u' left left' x : Bytes}

/-- A packet after which a response goes on does not begin with a code that ends it. -/
lemma PartSpells.ne_code {p : Part} (h : PartSpells w p) {n : UInt64}
    (hn : n = ServerCode.endOfStream.number ∨ n = ServerCode.exception.number)
    (hcode : Varint.decoder.Spells u n) : w ++ x ≠ u ++ left := by
  obtain ⟨n', v, v', rfl, hcode', hcontinues, _⟩ := h.code_body
  intro heq
  rw [List.append_assoc] at heq
  obtain ⟨rfl, _⟩ := hcode'.unique hcode heq
  exact hn.elim hcontinues.1 hcontinues.2

/-- What lies ahead does not begin with a packet after which a response goes on and with an end. -/
lemma PartSpells.ne_end {p : Part} {e : End} (h : PartSpells w p) (he : EndSpells stop u left e) :
    w ++ x ≠ u ++ left := by
  cases he with
  | endOfStream hcode => exact h.ne_code (.inl rfl) hcode
  | exception hcode _ =>
      rw [List.append_assoc]
      exact h.ne_code (.inr rfl) hcode
  | closed _ => simp [h.ne_nil]
  | cut _ hcode _ => exact h.ne_code (.inr rfl) hcode

/-- What lies ahead is not both an exception that is cut short and another end. -/
lemma EndSpells.eq_cut {e : End} (h : EndSpells stop u left e) (h' : EndSpells stop u' left' .cut)
    (heq : u ++ left = u' ++ left') : e = .cut := by
  obtain _ | _ | _ | ⟨_, hcode', hshort⟩ := h'
  cases h with
  | endOfStream hcode => cases (hcode.unique hcode' heq).1
  | exception hcode hwhole =>
      rw [List.append_assoc] at heq
      obtain ⟨_, _, rfl⟩ := hcode.unique hcode' heq
      rw [hwhole left] at hshort
      cases hshort
  | closed _ =>
      have hnil : u' = [] := (List.append_eq_nil_iff.1 heq.symm).1
      exact absurd hnil (Varint.decoder_consuming.ne_nil hcode')
  | cut _ _ _ => rfl

/-- Packets and an exception that is cut short are not packets and another end. -/
lemma PartsSpell.eq_cut {parts parts' : List Part} {e : End} (h : PartsSpell w parts)
    (h' : PartsSpell w' parts') (he : EndSpells stop u left e)
    (he' : EndSpells stop u' left' .cut) (heq : w ++ (u ++ left) = w' ++ (u' ++ left')) :
    e = .cut := by
  induction h generalizing w' parts' with
  | nil =>
      cases h' with
      | nil => exact he.eq_cut he' heq
      | cons hp _ =>
          rw [List.append_assoc, List.nil_append] at heq
          exact absurd heq.symm (hp.ne_end he)
  | cons hp _ ih =>
      rw [List.append_assoc] at heq
      cases h' with
      | nil =>
          rw [List.nil_append] at heq
          exact absurd heq (hp.ne_end he')
      | cons hp' hrest' =>
          rw [List.append_assoc] at heq
          exact ih hrest' (hp.unique hp' heq).2

/-- Bytes that were taken up to a boundary were not cut short. -/
lemma AtBoundary.not_cutShort {taken ahead : Bytes} (h : AtBoundary stop taken left)
    (heq : ahead = taken ++ left) : ¬ CutShort stop ahead := by
  obtain ⟨hparts, hend, hwhole⟩ := h
  intro hcut
  obtain ⟨hparts', hend'⟩ := hcut
  rw [List.append_assoc] at heq
  exact hwhole (hparts.eq_cut hparts' hend hend' heq.symm)

/-- A response that was received ended at a boundary, or an exception was cut short and its beginning
is left. -/
lemma Answer.boundary_or_cut {r r' : QueryResult} {taken : Bytes} (h : Answer stop r taken left r') :
    AtBoundary stop taken left ∨ CutShort stop (taken ++ left) ∧
      ∃ k rest, ServerException.decoder left = .error (.incomplete k) rest := by
  obtain @⟨w, u, left, parts, e, hparts, hend⟩ := h
  by_cases hwhole : e = .cut
  · subst hwhole
    refine .inr ⟨?_, ?_⟩
    · rw [List.append_assoc]
      exact .packets hparts hend
    · obtain _ | _ | _ | ⟨_, _, hshort⟩ := hend
      exact ⟨_, _, hshort⟩
  · exact .inl (.packets hparts hend hwhole)

/-! ## Queries -/

namespace Connection

/-- Sends a query and the empty block behind it; what the server answers lies ahead then. -/
def ask (text : String) (settings : List (String × String)) : Exchange Unit := fun c =>
  transmit ((c.queryPacket text settings).encode ++ encodeEmptyBlock) { c with state := .executing }

/-- Sending leaves what is unread, and the server may answer behind it. -/
lemma transmit_unread {data : Bytes} {c d : Connection} (h : transmit data c = .ok () d) :
    ∃ answer, d.input.unread = c.input.unread ++ answer := by
  unfold transmit Output.flush at h
  split at h
  · next t hflush =>
      cases h
      obtain ⟨answer, hanswer⟩ : ∃ answer, t.outstanding = c.transport.outstanding ++ answer := by
        split at hflush
        · cases hflush
          exact ⟨[], (List.append_nil _).symm⟩
        · exact Transport.outstanding_send hflush
      refine ⟨answer, ?_⟩
      rw [Input.unread_eq, Input.unread_eq, List.append_assoc]
      exact congrArg (c.input.buffer ++ ·) hanswer
  · cases h

/-- What is received from the server moves the input and the types alone. -/
lemma fromServer_eq_ok {α : Type} {m : Receive α} {a : α} {c d : Connection}
    (h : fromServer m c = .ok a d) :
    ∃ t, m ⟨c.input, c.types⟩ = .ok a t ∧ d = { c with input := t.input, types := t.types } := by
  unfold fromServer at h
  cases hm : m ⟨c.input, c.types⟩ with
  | error e t =>
      rw [hm] at h
      cases h
  | ok b t =>
      rw [hm] at h
      cases h
      exact ⟨t, rfl, rfl⟩

/-- An exchange for a query that succeeds was sent, and a response was received. -/
lemma exchangeQuery_eq_ok {c d : Connection} {text : String} {settings : List (String × String)}
    {r : QueryResult} (h : exchangeQuery text settings { c with state := .executing } = .ok r d) :
    ∃ s t, ask text settings c = .ok () s ∧ receiveResult ⟨s.input, s.types⟩ = .ok r t ∧
      d.input = t.input := by
  obtain ⟨_, _, hget, h⟩ := bind_eq_ok.1 h
  cases hget
  obtain ⟨_, s, hask, h⟩ := bind_eq_ok.1 h
  obtain ⟨t, hresult, rfl⟩ := fromServer_eq_ok h
  exact ⟨s, t, hask, hresult, rfl⟩

/-- A query that leaves the connection ready was sent, and a response was received. -/
lemma query_eq_ready {c c' : Connection} {text : String} {settings : List (String × String)}
    (hquery : finalState (query text settings c) = c') (hready : c'.state = .ready) :
    ∃ s r t, ask text settings c = .ok () s ∧ receiveResult ⟨s.input, s.types⟩ = .ok r t ∧
      c'.input = t.input := by
  unfold query at hquery
  cases hstate : notReady c.state .query with
  | some e =>
      rw [hstate] at hquery
      subst hquery
      rw [show c.state = .ready from hready] at hstate
      cases hstate
  | none =>
      simp only [hstate] at hquery
      cases hexchange : exchangeQuery text settings { c with state := .executing } with
      | error e d =>
          rw [hexchange] at hquery
          subst hquery
          cases hready
      | ok r d =>
          obtain ⟨s, t, hask, hresult, hinput⟩ := exchangeQuery_eq_ok hexchange
          refine ⟨s, r, t, hask, hresult, ?_⟩
          rw [← hquery, hexchange, ← hinput]
          dsimp only
          cases r.toExcept <;> rfl

/-- A query that leaves a reachable connection ready took the bytes up to a packet boundary exactly when
the response was not an exception that the end of the stream cuts short. If it was, the beginning of the
exception is left unread. Whatever is sent next, what is left comes before the answer to it. -/
theorem query_atBoundary_iff {c c' : Connection} {text : String}
    {settings : List (String × String)} (hc : c.Reachable)
    (hquery : finalState (query text settings c) = c') (hready : c'.state = .ready) :
    ∃ s taken, ask text settings c = .ok () s ∧ s.input.unread = taken ++ c'.input.unread ∧
      (AtBoundary s.input.transport.stop taken c'.input.unread ↔
        ¬ CutShort s.input.transport.stop s.input.unread) ∧
      (CutShort s.input.transport.stop s.input.unread →
        ∃ k rest, ServerException.decoder c'.input.unread = .error (.incomplete k) rest) ∧
      ∀ data d, transmit data c' = .ok () d → ∃ answer, d.input.unread = c'.input.unread ++ answer := by
  obtain ⟨s, r, t, hask, hresult, hinput⟩ := query_eq_ready hquery hready
  have hsound : s.types.Sound := by
    have hsent := transmit_preserves ((c.queryPacket text settings).encode ++ encodeEmptyBlock)
      { c with state := .executing } hc.types_sound
    rw [show transmit _ _ = _ from hask] at hsent
    exact hsent
  obtain ⟨taken, htaken, _, hanswer⟩ := receiveResult_takes (s := ⟨s.input, s.types⟩) hsound hresult
  have hleft : c'.input.unread = ahead t := by rw [hinput]; rfl
  rw [← hleft] at htaken hanswer
  have hahead : s.input.unread = taken ++ c'.input.unread := htaken
  refine ⟨s, taken, hask, hahead, ⟨fun h => h.not_cutShort hahead, fun h => ?_⟩, fun h => ?_,
    fun data d => transmit_unread⟩
  · rcases hanswer.boundary_or_cut with hboundary | ⟨hcut, _⟩
    · exact hboundary
    · rw [← hahead] at hcut
      exact absurd hcut h
  · rcases hanswer.boundary_or_cut with hboundary | ⟨_, hshort⟩
    · exact absurd h (hboundary.not_cutShort hahead)
    · exact hshort

/-- A connection to a peer that greets, says that a response ends, and sends one more byte. -/
def wholeConnection : Connection :=
  finalState (openWith {} { incoming := [[0, 0, 0, 0, 0], [3, 1, 2], [3, 5, 4]] })

/-- The query takes the counters and the end, and leaves the byte behind them. -/
theorem query_atBoundary_whole :
    ∃ s taken, ask "SELECT 1" [] wholeConnection = .ok () s ∧ s.input.unread = taken ++ [4] ∧
      (AtBoundary s.input.transport.stop taken [4] ↔
        ¬ CutShort s.input.transport.stop s.input.unread) := by
  have hreachable : wholeConnection.Reachable := .openWith {} _
  have hready : (finalState (query "SELECT 1" [] wholeConnection)).state = .ready := by
    decide +kernel
  have hleft : (finalState (query "SELECT 1" [] wholeConnection)).input.unread = [4] := by
    decide +kernel
  obtain ⟨s, taken, hask, hahead, hiff, _⟩ :=
    query_atBoundary_iff hreachable rfl hready
  rw [hleft] at hahead hiff
  exact ⟨s, taken, hask, hahead, hiff⟩

/-- A connection to a peer that greets, and then sends the code of an exception and one more byte. -/
def cutConnection : Connection :=
  finalState (openWith {} { incoming := [[0, 0, 0, 0, 0], [2, 4]] })

/-- The query leaves the connection ready within an exception, and a ping takes the byte that is left
for its answer. -/
theorem query_cut_ready :
    cutConnection.Reachable ∧
      (finalState (query "SELECT 1" [] cutConnection)).state = .ready ∧
      (¬ ∃ s taken, ask "SELECT 1" [] cutConnection = .ok () s ∧
        s.input.unread =
          taken ++ (finalState (query "SELECT 1" [] cutConnection)).input.unread ∧
        AtBoundary s.input.transport.stop taken
          (finalState (query "SELECT 1" [] cutConnection)).input.unread) ∧
      (ping (finalState (query "SELECT 1" [] cutConnection))).1 = true := by
  refine ⟨.openWith {} _, by decide +kernel, ?_, by decide +kernel⟩
  rintro ⟨s, taken, hask, hahead, hboundary⟩
  have hs : finalState (ask "SELECT 1" [] cutConnection) = s := by
    rw [hask]
    rfl
  have hunread : s.input.unread = [2, 4] := by
    rw [← hs]
    decide +kernel
  have hstop : s.input.transport.stop = none := by
    rw [← hs]
    decide +kernel
  have hend : EndSpells none [2] [4] .cut := .cut rfl (Varint.encode_spells 2) rfl
  have hcut : CutShort none [2, 4] := .packets .nil hend
  rw [← hstop, ← hunread] at hcut
  exact hboundary.not_cutShort hahead hcut

end Connection

end ColumnWire.Session
