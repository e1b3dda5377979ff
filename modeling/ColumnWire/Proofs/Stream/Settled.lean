import Mathlib.Tactic.Common
import ColumnWire.Proofs.Wire.Action
import ColumnWire.Proofs.Wire.Varint
import ColumnWire.Stream.Input

/-!
# Settled inputs

An input is settled when every byte that waited at the peer has been received. What a read answers
depends on the bytes alone and not on where they are: reading from an input and reading from the
settled input give the same (`Input.await_commutes`), since a look that tells something is not changed
by the bytes behind (`Steady`).

* `Transport.stop` is what a receiver meets behind the last byte.
* `Input.fill_of_outstanding` and `Input.fill_of_exhausted` say all that one receive can do.
* `Input.awaitWithin_related` carries a relation from single receives to waiting, over any two sources.
-/

namespace ColumnWire.Stream

open ColumnWire.Wire

/-! ## Peers and transports -/

/-- The number of bytes that wait is their number. -/
lemma Peer.outstandingCount_eq (p : Peer) : p.outstandingCount = p.outstanding.length := by
  have hcount : ∀ (pieces : List Bytes) (n : Nat),
      pieces.foldl (fun n piece => n + piece.length) n = n + pieces.flatten.length := by
    intro pieces
    induction pieces with
    | nil => simp
    | cons piece rest ih =>
        intro n
        rw [List.foldl_cons, ih, List.flatten_cons, List.length_append]
        omega
  rw [outstandingCount, hcount, Nat.zero_add, outstanding]

/-- Empty pieces do not count. -/
lemma flatten_dropWhile_isEmpty (pieces : List Bytes) :
    (pieces.dropWhile (·.isEmpty)).flatten = pieces.flatten := by
  induction pieces with
  | nil => rfl
  | cons piece rest ih =>
      cases piece with
      | nil => simpa using ih
      | cons b bs => rfl

/-- A peer hands out a front of the bytes that wait, and none only when none waits. -/
lemma Peer.deliver_spec {limit : Nat} (hlimit : 0 < limit) (p : Peer) :
    ∃ piece incoming, p.deliver limit = (piece, { p with incoming }) ∧
      piece ++ incoming.flatten = p.outstanding ∧
      (piece = [] → incoming = [] ∧ p.outstanding = []) := by
  have hflatten := flatten_dropWhile_isEmpty p.incoming
  rw [deliver, if_neg (by omega)]
  cases hpieces : p.incoming.dropWhile (·.isEmpty) with
  | nil =>
      rw [hpieces] at hflatten
      exact ⟨[], [], rfl, by simpa [outstanding] using hflatten,
        fun _ => ⟨rfl, by simpa [outstanding] using hflatten.symm⟩⟩
  | cons piece rest =>
      rw [hpieces, List.flatten_cons] at hflatten
      have hpiece : piece ≠ [] := by
        have hhead := List.head?_dropWhile_not (fun piece : Bytes => piece.isEmpty) p.incoming
        rw [hpieces] at hhead
        intro h
        simp [h] at hhead
      refine ⟨_, _, rfl, ?_, fun h => ?_⟩
      · rw [outstanding, ← hflatten]
        by_cases hleft : (piece.drop limit).isEmpty
        · have htake := List.take_append_drop limit piece
          rw [List.isEmpty_iff.1 hleft, List.append_nil] at htake
          rw [if_pos hleft, htake]
        · rw [if_neg hleft, List.flatten_cons, ← List.append_assoc, List.take_append_drop]
      · rcases List.take_eq_nil_iff.1 h with h | h
        · omega
        · exact absurd h hpiece

/-- What a peer answers to bytes waits behind what it sent before. -/
lemma Peer.outstanding_accept (p : Peer) (data : Bytes) :
    ∃ answer, (p.accept data).2.outstanding = p.outstanding ++ answer :=
  ⟨_, List.flatten_append⟩

namespace Transport

/-- The bytes that wait at the peer. -/
def outstanding (t : Transport) : Bytes :=
  (t.peer.map Peer.outstanding).getD []

/-- The transport once every waiting byte has been handed out. -/
def drained (t : Transport) : Transport :=
  { t with peer := t.peer.map fun p => { p with incoming := [] } }

/-- What a receiver meets behind the last byte: an error, or the end of the stream. -/
def stop (t : Transport) : Option StreamError :=
  match t.peer with
  | none => some .notConnected
  | some p =>
    match p.ending with
    | .closed => none
    | .trouble trouble => some (t.troubled .receive trouble)

/-- The number of bytes that wait is their number. -/
lemma outstandingCount_eq (t : Transport) : t.outstandingCount = t.outstanding.length := by
  cases h : t.peer <;> simp [outstandingCount, outstanding, h, Peer.outstandingCount_eq]

/-- Nothing waits at a drained transport. -/
@[simp] lemma drained_outstanding (t : Transport) : t.drained.outstanding = [] := by
  cases h : t.peer <;> simp [drained, outstanding, h, Peer.outstanding]

/-- A transport is drained once. -/
@[simp] lemma drained_drained (t : Transport) : t.drained.drained = t.drained := by
  cases h : t.peer <;> simp [drained, h]

/-- What comes behind the last byte stays. -/
@[simp] lemma drained_stop (t : Transport) : t.drained.stop = t.stop := by
  cases h : t.peer with
  | none => simp [drained, stop, h]
  | some p => cases he : p.ending <;> simp [drained, stop, h, he, troubled]

/-- A transport does not refuse bytes. -/
lemma stop_ne_wire (t : Transport) (e : WireError) : t.stop ≠ some (.wire e) := by
  unfold stop
  split
  · simp
  · split
    · simp
    · rename_i trouble _
      cases trouble <;> simp [troubled]

/-- While bytes wait, some of them are received. -/
lemma receive_of_outstanding {limit : Nat} (hlimit : 0 < limit) {t : Transport}
    (h : t.outstanding ≠ []) :
    ∃ piece t', receive limit t = .ok piece t' ∧ piece ≠ [] ∧
      piece ++ t'.outstanding = t.outstanding ∧ t'.drained = t.drained := by
  cases hpeer : t.peer with
  | none => simp [outstanding, hpeer] at h
  | some p =>
      have hlimit' : 0 < min limit maxReceive := by
        have hmax : 0 < maxReceive := by decide
        omega
      obtain ⟨piece, incoming, hdeliver, hflatten, hempty⟩ := p.deliver_spec hlimit'
      have hpiece : piece ≠ [] := fun hp => h (by simp [outstanding, hpeer, (hempty hp).2])
      refine ⟨piece, { t with peer := some { p with incoming } }, ?_, hpiece, ?_, ?_⟩
      · simp [receive, hpeer, hdeliver, hpiece]
      · simpa [outstanding, hpeer, Peer.outstanding] using hflatten
      · simp [drained, hpeer]

/-- When no byte waits, the receiver meets what comes behind the last one. -/
lemma receive_of_exhausted {limit : Nat} (hlimit : 0 < limit) {t : Transport}
    (h : t.outstanding = []) :
    receive limit t =
      match t.stop with
      | none => .ok [] t.drained
      | some e => .error e t.drained := by
  cases hpeer : t.peer with
  | none =>
      obtain ⟨peer, timeouts, parted⟩ := t
      obtain rfl : peer = none := hpeer
      rfl
  | some p =>
      have hlimit' : 0 < min limit maxReceive := by
        have hmax : 0 < maxReceive := by decide
        omega
      obtain ⟨piece, incoming, hdeliver, hflatten, hempty⟩ := p.deliver_spec hlimit'
      have houtstanding : p.outstanding = [] := by simpa [outstanding, hpeer] using h
      obtain rfl : piece = [] := (List.append_eq_nil_iff.1 (hflatten.trans houtstanding)).1
      obtain rfl : incoming = [] := (hempty rfl).1
      cases hending : p.ending <;>
        simp [receive, hpeer, hdeliver, Nat.ne_of_gt hlimit, hending, stop, drained, troubled]

/-- Sending leaves the bytes that wait, and others may come behind them. -/
lemma outstanding_send {data : Bytes} {t t' : Transport} (h : send data t = .ok () t') :
    ∃ answer, t'.outstanding = t.outstanding ++ answer := by
  unfold send at h
  cases hpeer : t.peer with
  | none => simp [hpeer] at h
  | some p =>
      obtain ⟨answer, hanswer⟩ := p.outstanding_accept data
      simp only [hpeer] at h
      split at h
      · next p' hp' =>
          cases h
          rw [hp'] at hanswer
          exact ⟨answer, by simpa [outstanding, hpeer] using hanswer⟩
      · cases h

end Transport

namespace Input

/-- The input once every waiting byte has been received. -/
def settled (s : Input) : Input :=
  { transport := s.transport.drained, buffer := s.unread }

/-- The unread bytes are those in the buffer and those that wait. -/
lemma unread_eq (s : Input) : s.unread = s.buffer ++ s.transport.outstanding := rfl

/-- Receiving loses no byte. -/
@[simp] lemma settled_unread (s : Input) : s.settled.unread = s.unread := by
  rw [unread_eq s.settled, settled, Transport.drained_outstanding, List.append_nil]

/-- An input is settled once. -/
@[simp] lemma settled_settled (s : Input) : s.settled.settled = s.settled := by
  rw [settled, settled_unread, settled, Transport.drained_drained]

/-- The number of unread bytes is their number. -/
lemma unreadCount_eq (s : Input) : s.unreadCount = s.unread.length := by
  rw [unreadCount, Transport.outstandingCount_eq, unread_eq, List.length_append]

/-! ## Receiving -/

/-- Bytes are asked for. -/
lemma request_pos (missing : Nat) : 0 < request missing := by
  have hmin : minRequest = 4096 := rfl
  have hmax : maxReceive = 65536 := rfl
  unfold request
  omega

/-- An input is its own. -/
@[simp] lemma source_input (s : Input) : Source.input s = s := rfl

/-- The buffer of an input is replaced. -/
@[simp] lemma source_withBuffer (buffer : Bytes) (s : Input) :
    Source.withBuffer buffer s = { s with buffer } := rfl

/-- What is received comes behind the buffered bytes. -/
lemma fill_of_ok {missing : Nat} {s : Input} {piece : Bytes} {t : Transport}
    (h : Transport.receive (request missing) s.transport = .ok piece t) :
    fill missing s = .ok piece.length ⟨t, s.buffer ++ piece⟩ := by
  simp [fill, Source.receive, onTransport, h]

/-- A receive that fails leaves the buffer. -/
lemma fill_of_error {missing : Nat} {s : Input} {e : StreamError} {t : Transport}
    (h : Transport.receive (request missing) s.transport = .error e t) :
    fill missing s = .error e { s with transport := t } := by
  simp [fill, Source.receive, onTransport, h]

/-- A receive into the buffer that succeeds is one of the transport. -/
lemma receive_of_fill {missing n : Nat} {s u : Input} (h : fill missing s = .ok n u) :
    ∃ piece t, Transport.receive (request missing) s.transport = .ok piece t ∧ n = piece.length ∧
      u = ⟨t, s.buffer ++ piece⟩ := by
  cases hreceive : Transport.receive (request missing) s.transport with
  | ok piece t =>
      rw [fill_of_ok hreceive] at h
      cases h
      exact ⟨piece, t, rfl, rfl, rfl⟩
  | error e t =>
      rw [fill_of_error hreceive] at h
      cases h

/-- While bytes wait, some of them come into the buffer. -/
lemma fill_of_outstanding (missing : Nat) {s : Input} (h : s.transport.outstanding ≠ []) :
    ∃ n s', fill missing s = .ok n s' ∧ 0 < n ∧ s'.settled = s.settled ∧
      s'.transport.outstanding.length + n = s.transport.outstanding.length := by
  obtain ⟨piece, t, hreceive, hpiece, hflatten, hdrained⟩ :=
    Transport.receive_of_outstanding (request_pos missing) h
  refine ⟨piece.length, ⟨t, s.buffer ++ piece⟩, fill_of_ok hreceive, List.length_pos_iff.2 hpiece,
    ?_, ?_⟩
  · simp only [settled, hdrained, unread_eq, List.append_assoc, hflatten]
  · rw [← hflatten, List.length_append, Nat.add_comm]

/-- When no byte waits, the receiver meets what comes behind the last one. -/
lemma fill_of_exhausted (missing : Nat) {s : Input} (h : s.transport.outstanding = []) :
    fill missing s =
      match s.transport.stop with
      | none => .ok 0 s.settled
      | some e => .error e s.settled := by
  have hbuffer : s.unread = s.buffer := by rw [unread_eq, h, List.append_nil]
  have hreceive := Transport.receive_of_exhausted (request_pos missing) h
  cases hstop : s.transport.stop with
  | none =>
      rw [hstop] at hreceive
      rw [fill_of_ok hreceive, settled, hbuffer, List.append_nil]
      rfl
  | some e =>
      rw [hstop] at hreceive
      rw [fill_of_error hreceive, settled, hbuffer]

/-! ## Waiting for a sight -/

/-- What a look tells of some bytes it tells of more bytes. -/
structure Steady {α : Type} (look : Bytes → Sight α) : Prop where
  /-- A value stays, and the bytes behind it grow. -/
  found : ∀ {p v r}, look p = .found v r → ∀ q, look (p ++ q) = .found v (r ++ q)
  /-- A refusal stays. -/
  refused : ∀ {p e}, look p = .refused e → ∀ q, look (p ++ q) = .refused e

/-- What waiting gives on an input of which all bytes are in the buffer. -/
def settledAwait {α : Type} (look : Bytes → Sight α) (ended : Nat → Reader α) : Reader α := fun s =>
  match look s.buffer with
  | .found v rest => .ok v { s with buffer := rest }
  | .refused e => .error (.wire e) s
  | .short missing =>
    match s.transport.stop with
    | some e => .error e s
    | none => ended missing s

section Rounds

variable {σ α : Type} [Source σ] {look : Bytes → Sight α} {ended : Nat → EStateM StreamError σ α}

/-- A value in sight is taken. -/
lemma awaitWithin_found {fuel : Nat} {s : σ} {v : α} {rest : Bytes}
    (h : look (Source.input s).buffer = .found v rest) :
    awaitWithin look ended fuel s = .ok v (Source.withBuffer rest s) := by
  rw [awaitWithin.eq_def]
  simp only [h]

/-- A refusal in sight is an error. -/
lemma awaitWithin_refused {fuel : Nat} {s : σ} {e : WireError}
    (h : look (Source.input s).buffer = .refused e) :
    awaitWithin look ended fuel s = .error (.wire e) s := by
  rw [awaitWithin.eq_def]
  simp only [h]

/-- How waiting for `missing` bytes goes on when `n` have been received. -/
def resume (look : Bytes → Sight α) (ended : Nat → EStateM StreamError σ α) (missing : Nat) :
    Nat → Nat → EStateM StreamError σ α
  | 0, _ => ended missing
  | fuel + 1, n => if n = 0 then ended missing else awaitWithin look ended fuel

/-- While bytes are missing, some are received and waiting goes on. -/
lemma awaitWithin_short {fuel : Nat} {s : σ} {missing : Nat}
    (h : look (Source.input s).buffer = .short missing) :
    awaitWithin look ended fuel s = (fill missing >>= resume look ended missing fuel) s := by
  rw [awaitWithin.eq_def]
  simp only [h, bind, EStateM.bind]
  cases fill missing s with
  | error e t => rfl
  | ok n t =>
      cases fuel with
      | zero => rfl
      | succ fuel =>
          dsimp only [resume]
          split <;> rfl

/-- Waiting over two sources with the same buffers: what relates the answers with a value in sight, after a
refusal and at the end of the stream, and goes on to relate them when a receive comes first, relates the
answers of waiting. The induction is on the fuel. -/
lemma awaitWithin_related {τ : Type} [Source τ] {f : σ → τ} {ended' : Nat → EStateM StreamError τ α}
    {P : σ → EStateM.Result StreamError σ α → EStateM.Result StreamError τ α → Prop}
    (hbuffer : ∀ s, (Source.input (f s)).buffer = (Source.input s).buffer)
    (hfound : ∀ s v rest, P s (.ok v (Source.withBuffer rest s)) (.ok v (Source.withBuffer rest (f s))))
    (hrefused : ∀ s e, P s (.error (.wire e) s) (.error (.wire e) (f s)))
    (hfill : ∀ {missing fuel}, (∀ n s, P s (resume look ended missing fuel n s)
        (resume look ended' missing fuel n (f s))) →
      ∀ s, P s ((fill missing >>= resume look ended missing fuel) s)
        ((fill missing >>= resume look ended' missing fuel) (f s)))
    (hended : ∀ missing s, P s (ended missing s) (ended' missing (f s))) (fuel : Nat) :
    ∀ s, P s (awaitWithin look ended fuel s) (awaitWithin look ended' fuel (f s)) := by
  have hround {fuel : Nat} (hnext : ∀ missing n s, P s (resume look ended missing fuel n s)
      (resume look ended' missing fuel n (f s))) (s : σ) :
      P s (awaitWithin look ended fuel s) (awaitWithin look ended' fuel (f s)) := by
    cases hsight : look (Source.input s).buffer with
    | found v rest =>
        rw [awaitWithin_found hsight, awaitWithin_found (by rw [hbuffer, hsight])]
        exact hfound s v rest
    | refused e =>
        rw [awaitWithin_refused hsight, awaitWithin_refused (by rw [hbuffer, hsight])]
        exact hrefused s e
    | short missing =>
        rw [awaitWithin_short hsight, awaitWithin_short (by rw [hbuffer, hsight])]
        exact hfill (hnext missing) s
  induction fuel with
  | zero => exact hround fun missing _ => hended missing
  | succ fuel ih =>
      refine hround fun missing n s => ?_
      rw [resume, resume]
      split
      · exact hended missing s
      · exact ih s

end Rounds

variable {α : Type} {look : Bytes → Sight α} {ended : Nat → Reader α}

/-- Waiting has a round for every byte that waits. -/
lemma await_eq_within (look : Bytes → Sight α) (ended : Nat → Reader α) (s : Input) :
    await look ended s = awaitWithin look ended s.transport.outstanding.length s := by
  rw [await_eq, source_input, Transport.outstandingCount_eq]

/-- What has been told stays told when the waiting bytes come in. -/
lemma awaitWithin_of_told (hlook : Steady look) (fuel : Nat) {s : Input}
    (h : ∀ missing, look s.buffer ≠ .short missing) :
    mapState settled (awaitWithin look ended fuel s) = settledAwait look ended s.settled := by
  cases hsight : look s.buffer with
  | found v rest =>
      have hfound : look s.settled.buffer = _ := hlook.found hsight s.transport.outstanding
      rw [awaitWithin_found (s := s) hsight, settledAwait, hfound]
      rfl
  | refused e =>
      have hrefused : look s.settled.buffer = _ := hlook.refused hsight s.transport.outstanding
      rw [awaitWithin_refused (s := s) hsight, settledAwait, hrefused]
      rfl
  | short missing => exact absurd hsight (h missing)

/-- When no byte waits, an input waits as the settled one does. -/
lemma awaitWithin_of_exhausted (hended : ∀ k, Commutes settled (ended k)) (fuel : Nat) {s : Input}
    {missing : Nat} (hshort : look s.buffer = .short missing) (h : s.transport.outstanding = []) :
    mapState settled (awaitWithin look ended fuel s) = settledAwait look ended s.settled := by
  have hbuffer : s.settled.buffer = s.buffer := by
    rw [settled, unread_eq, h, List.append_nil]
  have hstop : s.settled.transport.stop = s.transport.stop := Transport.drained_stop _
  have hsettled := hended missing s.settled
  rw [settled_settled] at hsettled
  have hfill := fill_of_exhausted missing h
  rw [awaitWithin_short (s := s) hshort, settledAwait]
  simp only [hshort, hbuffer, hstop]
  cases hending : s.transport.stop with
  | some e =>
      rw [hending] at hfill
      rw [bind_error hfill, mapState_error, settled_settled]
  | none =>
      rw [hending] at hfill
      rw [bind_ok hfill]
      cases fuel <;> exact hsettled.symm

/-- Waiting for a sight gives, up to settling, what it gives when all bytes are in the buffer. -/
lemma awaitWithin_settled (hlook : Steady look) (hended : ∀ k, Commutes settled (ended k))
    {fuel : Nat} {s : Input} (hfuel : s.transport.outstanding.length ≤ fuel) :
    mapState settled (awaitWithin look ended fuel s) = settledAwait look ended s.settled := by
  induction fuel generalizing s with
  | zero =>
      have h : s.transport.outstanding = [] := List.length_eq_zero_iff.1 (by omega)
      cases hsight : look s.buffer with
      | short missing => exact awaitWithin_of_exhausted hended 0 hsight h
      | _ => exact awaitWithin_of_told hlook 0 (by simp [hsight])
  | succ fuel ih =>
      cases hsight : look s.buffer with
      | short missing =>
          by_cases h : s.transport.outstanding = []
          · exact awaitWithin_of_exhausted hended (fuel + 1) hsight h
          · obtain ⟨n, s', hfill, hn, hsettled, hlength⟩ := fill_of_outstanding missing h
            rw [← hsettled, ← ih (s := s') (by omega), awaitWithin_short (s := s) hsight,
              bind_ok hfill, resume, if_neg (Nat.ne_of_gt hn)]
      | _ => exact awaitWithin_of_told hlook (fuel + 1) (by simp [hsight])

/-- An input that waits behaves, up to settling, as one of which all bytes are in the buffer. -/
lemma await_settled (hlook : Steady look) (hended : ∀ k, Commutes settled (ended k)) (s : Input) :
    mapState settled (await look ended s) = settledAwait look ended s.settled := by
  rw [await_eq_within]
  exact awaitWithin_settled hlook hended (Nat.le_refl _)

/-- A settled input waits for nothing. -/
lemma await_of_settled (look : Bytes → Sight α) (ended : Nat → Reader α) (s : Input) :
    await look ended s.settled = settledAwait look ended s.settled := by
  have hempty : s.settled.transport.outstanding = [] := Transport.drained_outstanding _
  rw [await_eq_within, hempty, List.length_nil, settledAwait]
  cases hsight : look s.settled.buffer with
  | found v rest => exact awaitWithin_found hsight
  | refused e => exact awaitWithin_refused hsight
  | short missing =>
      have hfill := fill_of_exhausted missing hempty
      rw [awaitWithin_short (s := s.settled) hsight]
      cases hstop : s.settled.transport.stop with
      | none =>
          rw [hstop, settled_settled] at hfill
          rw [bind_ok hfill]
          rfl
      | some e =>
          rw [hstop, settled_settled] at hfill
          rw [bind_error hfill]

/-- Waiting for a sight does not depend on where the bytes are. -/
theorem await_commutes (hlook : Steady look) (hended : ∀ k, Commutes settled (ended k)) :
    Commutes settled (await look ended) := by
  intro s
  rw [await_of_settled, await_settled hlook hended]

end Input

end ColumnWire.Stream
