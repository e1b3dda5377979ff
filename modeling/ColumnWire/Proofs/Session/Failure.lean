import Mathlib.Tactic.Common
import ColumnWire.Proofs.Session.Boundary
import ColumnWire.Proofs.Session.Call
import ColumnWire.Proofs.Session.Truncation

/-!
# Why queries fail

A query fails because the stream stops before the response is complete, or because the bytes that came
are no response. The two are told apart by what more bytes would do: a step of receiving that fails has
met the end of the bytes, or it fails in the same way whatever comes behind them (`readOp_persists`,
`readValue_persists`, `receiveBody_persists`). By induction on the rounds this holds of a whole response
(`receivePackets_failsFor`).

Main statement: `Connection.query_error_classes`. An error is transient exactly in the first case. In the
second one it is an error of packets or values. In the first one it is both when it is reported for the
column whose value was cut short (`Connection.query_error_both`), and else transient alone.
-/

namespace ColumnWire.Stream

open ColumnWire.Wire ColumnWire.Cell

/-- The failure is what a receiver meets behind the last byte: what the stream stops with, or its end
while bytes are missing. -/
def StopsWith (stop : Option StreamError) (f : StreamError) : Prop :=
  ∃ missing, f = stop.getD (.unexpectedEnd missing)

/-- Only bytes that are refused are no failure of the transport. -/
lemma StreamError.isTransport_eq_false {f : StreamError} :
    f.isTransport = false ↔ ∃ e, f = .wire e := by
  cases f <;> simp [isTransport]

/-- What a stream stops with is a failure of the transport. -/
lemma StopsWith.isTransport {t : Transport} {f : StreamError} (h : StopsWith t.stop f) :
    f.isTransport = true := by
  obtain ⟨missing, rfl⟩ := h
  cases hstop : t.stop with
  | none => rfl
  | some f =>
      by_contra hf
      obtain ⟨e, rfl⟩ := StreamError.isTransport_eq_false.1 (by simpa using hf)
      exact t.stop_ne_wire e hstop

/-- The first stream stops in a certain way, and the second one has more bytes. -/
structure MoreInput (stop : Option StreamError) (x : Bytes) (s s' : Input) : Prop where
  /-- What the first stream stops with. -/
  stop : s.transport.stop = stop
  /-- What the second stream has more. -/
  unread : s'.unread = s.unread ++ x

variable {stop : Option StreamError} {x : Bytes}

/-- A read does the same on more bytes, or it met the end of those it had. -/
lemma readOp_persists {α : Type} (op : ReadOp α) :
    Persists (MoreInput stop x) (StopsWith stop) (fun f => f.isTransport = false) op.reader := by
  intro s s' hmore
  obtain ⟨v, rest, t, hd, hr, _⟩ | ⟨k, left, t, _, hr⟩ | ⟨e, left, t, he, hd, hr⟩ :=
    op.refines.outcome s
  · obtain ⟨t₁, ht₁, hrest⟩ := op.refines.ok_iff.2 hd
    obtain ⟨w, hw, hspells⟩ := op.decoder_prefixStable.taken hd
    have hd' : op.decoder s'.unread = .ok v (rest ++ x) := by
      rw [hmore.unread, hw, List.append_assoc]
      exact hspells _
    obtain ⟨t', ht', hrest'⟩ := op.refines.ok_iff.2 hd'
    exact .inl ⟨v, t₁, t', ht₁, ht', (stop_of_read ht₁).trans hmore.stop, by rw [hrest', hrest]⟩
  · exact .inr (.inr ⟨_, t, hr, k, by rw [hmore.stop]⟩)
  · obtain ⟨left', hrefused⟩ := op.decoder_prefixStable.refused hd he x
    rw [← hmore.unread] at hrefused
    obtain ⟨t', ht'⟩ := op.refines.of_refused he hrefused
    exact .inr (.inl ⟨.wire e, t, t', hr, ht', rfl⟩)

/-- So does reading a value of any type. -/
lemma readValue_persists (t : ColumnType) :
    Persists (MoreInput stop x) (fun e => ∃ f, e = .stream f ∧ StopsWith stop f)
      (fun e => ∀ f, e = .stream f → f.isTransport = false) t.read := by
  apply ColumnType.read_of_steps Persists.composes
  · intro α op s s' hmore
    unfold plain
    rcases readOp_persists op s s' hmore with
      ⟨v, u, u', hu, hu', hmore'⟩ | ⟨f, u, u', hu, hu', hf⟩ | ⟨f, u, hu, hf⟩
    · exact .inl ⟨v, u, u', by rw [hu], by rw [hu'], hmore'⟩
    · refine .inr (.inl ⟨.stream f, u, u', by rw [hu], by rw [hu'], fun g hg => ?_⟩)
      cases hg
      exact hf
    · exact .inr (.inr ⟨.stream f, u, by rw [hu], f, rfl, hf⟩)
  · intro e he
    refine Persists.throw fun f hf => ?_
    subst hf
    cases he

end ColumnWire.Stream

namespace ColumnWire.Session

open ColumnWire.Wire ColumnWire.Packet ColumnWire.Cell ColumnWire.Stream ColumnWire.Server Tape

/-! ## Errors -/

/-- The failure of the stream that an error reports, as it is or as the error of a column. -/
def ClientError.failure? : ClientError → Option StreamError
  | .stream f => some f
  | .column _ _ (.stream f) => some f
  | _ => none

/-- A value was being read for a column when the transport failed. -/
def ClientError.IsCutColumn (e : ClientError) : Prop :=
  ∃ name typeName f, e = .column name typeName (.stream f) ∧ f.isTransport = true

/-- The response cannot be told from the beginning of another one: the stream failed. -/
def Unfinished (stop : Option StreamError) (e : ClientError) : Prop :=
  ∃ f, e.failure? = some f ∧ StopsWith stop f

/-- The error lies in packets or values, and not in the transport. -/
def Malformed (e : ClientError) : Prop :=
  e.isTransient = false ∧ e.isProtocolError = true

/-- An error that reports a failure of the transport is transient. -/
lemma ClientError.isTransient_of_failure? {e : ClientError} {f : StreamError}
    (h : e.failure? = some f) (hf : f.isTransport = true) : e.isTransient = true := by
  unfold failure? at h
  split at h
  · cases h
    exact hf
  · cases h
    exact hf
  · cases h

/-- It is an error of packets or values as well exactly when it is reported for a column. -/
lemma ClientError.isProtocolError_of_failure? {e : ClientError} {f : StreamError}
    (h : e.failure? = some f) (hf : f.isTransport = true) :
    e.isProtocolError = true ↔ e.IsCutColumn := by
  unfold failure? at h
  split at h
  · cases h
    have hstream : isProtocolError (.stream f) = false := by
      cases f with
      | wire e => cases hf
      | _ => rfl
    simp [hstream, IsCutColumn]
  · next name typeName g =>
      cases h
      exact iff_of_true rfl ⟨name, typeName, f, rfl, hf⟩
  · cases h

/-- Bytes that are refused lie in packets. -/
lemma malformed_of_stream {f : StreamError} (h : f.isTransport = false) : Malformed (.stream f) := by
  obtain ⟨e, rfl⟩ := StreamError.isTransport_eq_false.1 h
  exact ⟨rfl, rfl⟩

/-- A value that cannot be read lies in the values, if no failure of the transport is the reason. -/
lemma malformed_of_column {name typeName : String} {e : TypeError}
    (h : ∀ f, e = .stream f → f.isTransport = false) : Malformed (.column name typeName e) := by
  refine ⟨?_, rfl⟩
  cases e with
  | stream f => exact h f rfl
  | _ => rfl

/-! ## Receiving -/

/-- The first receiver's stream stops in a certain way, and the second one has more bytes and the same
types. -/
structure MoreReceiver (stop : Option StreamError) (x : Bytes) (s s' : Receiver) : Prop where
  /-- What they read. -/
  input : MoreInput stop x s.input s'.input
  /-- The types that are known. -/
  types : s'.types = s.types

variable {stop : Option StreamError} {x : Bytes} {s s' : Receiver}

/-- Reading persists while receiving. -/
lemma reading_persists {α : Type} {r : Reader α}
    (h : Persists (MoreInput stop x) (StopsWith stop) (fun f => f.isTransport = false) r) :
    Persists (MoreReceiver stop x) (Unfinished stop) Malformed (reading r) := by
  intro s s' hmore
  unfold reading
  rcases h s.input s'.input hmore.input with
    ⟨v, i, i', hi, hi', hmore'⟩ | ⟨f, i, i', hi, hi', hf⟩ | ⟨f, i, hi, hf⟩
  · exact .inl ⟨v, { s with input := i }, { s' with input := i' }, by rw [hi], by rw [hi'], hmore',
      hmore.types⟩
  · exact .inr (.inl ⟨_, _, _, by rw [hi], by rw [hi'], malformed_of_stream hf⟩)
  · exact .inr (.inr ⟨_, _, by rw [hi], f, rfl, hf⟩)

/-- So does reading a cell. -/
lemma readingCell_persists (c : Column) (t : ColumnType) :
    Persists (MoreReceiver stop x) (Unfinished stop) Malformed (readingCell c t) := by
  intro s s' hmore
  unfold readingCell
  rcases readValue_persists t s.input s'.input hmore.input with
    ⟨v, i, i', hi, hi', hmore'⟩ | ⟨e, i, i', hi, hi', he⟩ | ⟨_, i, hi, f, rfl, hf⟩
  · exact .inl ⟨v, { s with input := i }, { s' with input := i' }, by rw [hi], by rw [hi'], hmore',
      hmore.types⟩
  · exact .inr (.inl ⟨_, _, _, by rw [hi], by rw [hi'], malformed_of_column he⟩)
  · exact .inr (.inr ⟨_, _, by rw [hi], f, rfl, hf⟩)

/-- A descriptor that the cache refuses is refused for what it is. -/
lemma isStream_of_get {types types' : TypeCache} {descriptor : String} {e : TypeError}
    (h : types.get descriptor = (.error e, types')) : e.isStream = false := by
  unfold TypeCache.get at h
  split at h
  · cases h
  split at h
  · next hparse =>
      cases h
      exact ColumnType.isStream_of_parseWithin hparse
  · cases h

/-- Looking a type up does not depend on what can be read. -/
lemma resolve_persists (c : Column) :
    Persists (MoreReceiver stop x) (Unfinished stop) Malformed (resolve c) := by
  intro s s' hmore
  unfold resolve
  rw [hmore.types]
  cases hget : s.types.get c.typeName with
  | mk found types =>
      cases found with
      | ok t => exact .inl ⟨_, _, _, rfl, rfl, hmore.input, rfl⟩
      | error e =>
          refine .inr (.inl ⟨_, _, _, rfl, rfl, malformed_of_column fun f hf => ?_⟩)
          subst hf
          cases isStream_of_get hget

/-- So does receiving what stands behind a code. -/
lemma receiveBody_persists (code : UInt64) :
    Persists (MoreReceiver stop x) (Unfinished stop) Malformed (receiveBody code) := by
  have hsteps : OfSteps fun (α : Type) (m : Receive α) =>
      Persists (MoreReceiver stop x) (Unfinished stop) Malformed m :=
    { toComposes := Persists.composes
      read := fun op => reading_persists (readOp_persists op)
      resolve := resolve_persists
      cell := readingCell_persists
      width := fun _ _ => Persists.throw ⟨rfl, rfl⟩ }
  exact hsteps.receiveBody code

/-! ## Rounds -/

/-- The error says that the stream stopped, or it lies in packets or values and the second receiver fails
with it as well. -/
def FailsFor {α : Type} (stop : Option StreamError) (e : ClientError) (m : Receive α) (s : Receiver) :
    Prop :=
  Unfinished stop e ∨ Malformed e ∧ ∃ t, m s = .error e t

/-- An exception is not read when its frame is not, except at the end of the stream. -/
lemma readException_eq_error {i j : Input} {f : StreamError} (h : readException i = .error f j) :
    Input.readFrame ServerException.decoder i = .error f j ∧ f.isEnd = false := by
  unfold readException at h
  split at h
  · cases h
  split at h
  · cases h
  · next hframe hend =>
      cases h
      exact ⟨hframe, by simpa using hend⟩

/-- A frame that is refused is no exception. -/
lemma readException_of_error {i j : Input} {f : StreamError}
    (h : Input.readFrame ServerException.decoder i = .error f j) (hend : f.isEnd = false) :
    readException i = .error f j := by
  simp [readException, h, hend]

/-- An exception that cannot be read is not there yet, or it is none. -/
lemma readException_failsFor (hmore : MoreReceiver stop x s s') {e : ClientError} {t : Receiver}
    (h : reading readException s = .error e t) : FailsFor stop e (reading readException) s' := by
  unfold reading at h
  split at h
  · cases h
  next f i hread =>
  cases h
  obtain ⟨hframe, hend⟩ := readException_eq_error hread
  have hpersists : Persists (MoreInput stop x) (StopsWith stop) (fun f => f.isTransport = false)
      (Input.readFrame ServerException.decoder) := readOp_persists (.frame .exception)
  rcases hpersists s.input s'.input hmore.input with
    ⟨v, u, _, hu, _, _⟩ | ⟨g, u, u', hu, hu', hg⟩ | ⟨g, u, hu, hg⟩
  all_goals
    rw [hframe] at hu
    cases hu
  · exact .inr ⟨malformed_of_stream hg, { s' with input := u' },
      by rw [reading, readException_of_error hu' hend]⟩
  · exact .inl ⟨f, rfl, hg⟩

variable {fuel fuel' : Nat} {r : QueryResult} {e : ClientError} {t : Receiver}

/-- A round that fails behind a code has met the end of the stream, or it fails on more bytes as well, if
the rounds behind it do. -/
lemma onCode_failsFor
    (hrest : ∀ r s s', MoreReceiver stop x s s' → ∀ t, receivePackets fuel r s = .error e t →
      FailsFor stop e (receivePackets fuel' r) s')
    (hmore : MoreReceiver stop x s s') {n : UInt64} (h : onCode fuel r n s = .error e t) :
    FailsFor stop e (onCode fuel' r n) s' := by
  by_cases hend : n = ServerCode.endOfStream.number
  · subst hend
    cases h
  by_cases hexception : n = ServerCode.exception.number
  · subst hexception
    rcases bind_eq_error.1 h with h | ⟨_, _, _, h⟩
    · rcases readException_failsFor hmore h with hunfinished | ⟨hmalformed, t', ht'⟩
      · exact .inl hunfinished
      · exact .inr ⟨hmalformed, t', bind_error ht'⟩
    · cases h
  rw [onCode_of_continues ⟨hend, hexception⟩] at h ⊢
  rcases receiveBody_persists n s s' hmore with
    ⟨p, u, u', hu, hu', hmore'⟩ | ⟨f, u, u', hu, hu', hf⟩ | ⟨f, u, hu, hf⟩
  · rw [bind_ok hu] at h
    rcases hrest _ _ _ hmore' _ h with hunfinished | ⟨hmalformed, t', ht'⟩
    · exact .inl hunfinished
    · exact .inr ⟨hmalformed, t', by rw [bind_ok hu', ht']⟩
  · rw [bind_error hu] at h
    cases h
    exact .inr ⟨hf, u', bind_error hu'⟩
  · rw [bind_error hu] at h
    cases h
    exact .inl hf

/-- Without a byte ahead the loop fails only with what the stream stops with. -/
lemma receivePackets_of_nil (hahead : s.input.unread = [])
    (h : receivePackets fuel r s = .error e t) : Unfinished s.input.transport.stop e := by
  cases hstop : s.input.transport.stop with
  | none =>
      obtain ⟨i, hi, _⟩ := Input.atEnd_of_closed hahead hstop
      have hended : reading Input.atEnd s = .ok true { s with input := i } := by rw [reading, hi]
      rw [receivePackets_of_ended hended] at h
      cases h
  | some f =>
      obtain ⟨t', ht'⟩ := receivePackets_trouble hstop hahead fuel r
      rw [ht'] at h
      cases h
      exact ⟨f, rfl, 0, rfl⟩

/-- Asking for the end with bytes ahead keeps the relation. -/
lemma MoreReceiver.atEnd (hmore : MoreReceiver stop x s s') (hahead : s.input.unread ≠ []) :
    ∃ t t', reading Input.atEnd s = .ok false t ∧ reading Input.atEnd s' = .ok false t' ∧
      MoreReceiver stop x t t' := by
  have hahead' : s'.input.unread ≠ [] := by
    rw [hmore.input.unread]
    simp [hahead]
  obtain ⟨i, hi, hsettled⟩ := Input.atEnd_of_ahead hahead
  obtain ⟨i', hi', hsettled'⟩ := Input.atEnd_of_ahead hahead'
  refine ⟨{ s with input := i }, { s' with input := i' }, by rw [reading, hi], by rw [reading, hi'],
    ⟨?_, ?_⟩, hmore.types⟩
  · exact (Transport.stop_of_drained (Input.drained_of_settled hsettled)).trans hmore.input.stop
  · rw [Input.unread_of_settled hsettled, Input.unread_of_settled hsettled', hmore.input.unread]

/-- A response that fails has met the end of the stream, or it fails in the same way whatever comes behind
the bytes. -/
lemma receivePackets_failsFor (hfuel : fuel ≤ fuel') (hmore : MoreReceiver stop x s s')
    (h : receivePackets fuel r s = .error e t) : FailsFor stop e (receivePackets fuel' r) s' := by
  induction fuel generalizing fuel' r s s' t with
  | zero =>
      by_cases hahead : s.input.unread = []
      · rw [← hmore.input.stop]
        exact .inl (receivePackets_of_nil hahead h)
      · obtain ⟨u, _, hu, _, _⟩ := hmore.atEnd hahead
        rw [receivePackets, bind_ok hu] at h
        cases h
  | succ fuel ih =>
      by_cases hahead : s.input.unread = []
      · rw [← hmore.input.stop]
        exact .inl (receivePackets_of_nil hahead h)
      obtain ⟨fuel', rfl⟩ : ∃ k, fuel' = k + 1 := ⟨fuel' - 1, by omega⟩
      obtain ⟨u, u', hu, hu', hmore'⟩ := hmore.atEnd hahead
      have hcode : Persists (MoreReceiver stop x) (Unfinished stop) Malformed
          (reading Input.readVarint) := reading_persists (readOp_persists .varint)
      rw [receivePackets_succ, bind_ok hu, if_neg (by simp)] at h
      rw [receivePackets_succ, FailsFor, bind_ok hu', if_neg (by simp)]
      rcases hcode u u' hmore' with
        ⟨n, v, v', hv, hv', hmore''⟩ | ⟨f, v, v', hv, hv', hf⟩ | ⟨f, v, hv, hf⟩
      · rw [bind_ok hv] at h
        rw [bind_ok hv']
        exact onCode_failsFor (fun r s s' hmore t h => ih (by omega) hmore h) hmore'' h
      · rw [bind_error hv] at h
        cases h
        exact .inr ⟨hf, v', bind_error hv'⟩
      · rw [bind_error hv] at h
        cases h
        exact .inl hf

/-- The same of receiving a whole response. -/
lemma receiveResult_failsFor (hmore : MoreReceiver stop x s s')
    (h : receiveResult s = .error e t) : FailsFor stop e receiveResult s' := by
  refine receivePackets_failsFor ?_ hmore h
  rw [Input.unreadCount_eq, Input.unreadCount_eq, hmore.input.unread, List.length_append]
  exact Nat.le_add_right _ _

/-! ## Queries -/

namespace Connection

variable {c c' : Connection} {text : String} {settings : List (String × String)}

/-- The query fails with the stream: it cannot be sent, or the response is not complete when the stream
stops, and that is what is reported. -/
inductive StreamFailed (text : String) (settings : List (String × String)) (c : Connection) :
    ClientError → Prop where
  /-- The query cannot be sent. -/
  | sending {f : StreamError} {s : Connection} (h : ask text settings c = .error (.stream f) s) :
      StreamFailed text settings c (.stream f)
  /-- The response ends early. -/
  | receiving {e : ClientError} {s : Connection} (h : ask text settings c = .ok () s)
      (hstop : Unfinished s.input.transport.stop e) : StreamFailed text settings c e

/-- The query fails with the bytes: whatever comes behind those that lie ahead when it was sent, and
however the stream ends then, receiving a response fails in the same way. -/
def FormatBroken (text : String) (settings : List (String × String)) (c : Connection)
    (e : ClientError) : Prop :=
  ∃ s, ask text settings c = .ok () s ∧
    ∀ s' : Receiver, s'.types = s.types → s.input.unread <+: s'.input.unread →
      ∃ t, receiveResult s' = .error e t

/-- Sending fails in the transport. -/
lemma ask_eq_error {e : ClientError} {s : Connection} (h : ask text settings c = .error e s) :
    ∃ f, e = .stream f ∧ f.isTransport = true := by
  unfold ask transmit at h
  split at h
  · cases h
  · next f t hflush =>
      cases h
      refine ⟨f, rfl, ?_⟩
      unfold Output.flush at hflush
      split at hflush
      · cases hflush
      unfold Transport.send at hflush
      split at hflush
      · cases hflush
        rfl
      split at hflush
      · cases hflush
      · next p _ _ _ _ =>
          cases hflush
          cases p.refusal <;> rfl

/-- A query that fails without an exception of the server could not be sent, or no response was
received. -/
lemma query_eq_error {e : ClientError} (hready : c.state = .ready)
    (h : query text settings c = .error e c') (hremote : e.isRemote = false) :
    (∃ s, ask text settings c = .error e s) ∨
      ∃ s t, ask text settings c = .ok () s ∧ receiveResult ⟨s.input, s.types⟩ = .error e t := by
  rw [query_of_ready text settings hready] at h
  cases hexchange : exchangeQuery text settings { c with state := .executing } with
  | error e' d =>
      rw [hexchange] at h
      cases h
      rcases bind_eq_error.1 hexchange with hget | ⟨_, _, hget, hsent⟩
      · cases hget
      cases hget
      rcases bind_eq_error.1 hsent with hask | ⟨_, s, hask, hreceive⟩
      · exact .inl ⟨d, hask⟩
      · unfold fromServer at hreceive
        split at hreceive
        · cases hreceive
        · next hresult =>
            cases hreceive
            exact .inr ⟨s, _, hask, hresult⟩
  | ok r d =>
      simp only [hexchange] at h
      unfold QueryResult.toExcept at h
      cases hexception : r.exception with
      | none =>
          simp only [hexception] at h
          cases h
      | some x =>
          simp only [hexception] at h
          cases h
          cases hremote

/-- A failure of the stream is transient. -/
lemma StreamFailed.isTransient {e : ClientError} (h : StreamFailed text settings c e) :
    e.isTransient = true := by
  rcases h with ⟨h⟩ | ⟨_, f, hf, hstop⟩
  · obtain ⟨f, hf, htransport⟩ := ask_eq_error h
    cases hf
    exact htransport
  · exact ClientError.isTransient_of_failure? hf hstop.isTransport

/-- It is an error of packets or values as well exactly when it is reported for a column. -/
lemma StreamFailed.isProtocolError_iff {e : ClientError} (h : StreamFailed text settings c e) :
    e.isProtocolError = true ↔ e.IsCutColumn := by
  rcases h with ⟨h⟩ | ⟨_, f, hf, hstop⟩
  · obtain ⟨f, hf, htransport⟩ := ask_eq_error h
    cases hf
    exact ClientError.isProtocolError_of_failure? rfl htransport
  · exact ClientError.isProtocolError_of_failure? hf hstop.isTransport

/-- What bytes are refused for lies in packets or values: a failure of the stream would be another one on
a stream that stops in another way. -/
lemma FormatBroken.malformed {e : ClientError} (h : FormatBroken text settings c e) : Malformed e := by
  obtain ⟨s, _, hall⟩ := h
  have hself (i : Input) (hi : i.unread = s.input.unread) :
      Unfinished i.transport.stop e ∨ Malformed e := by
    obtain ⟨t, ht⟩ := hall ⟨i, s.types⟩ rfl (hi ▸ List.prefix_refl _)
    have hmore : MoreReceiver i.transport.stop [] ⟨i, s.types⟩ ⟨i, s.types⟩ :=
      ⟨⟨rfl, (List.append_nil _).symm⟩, rfl⟩
    exact (receiveResult_failsFor hmore ht).imp_right And.left
  let closed : Input := { transport := .attached {} {}, buffer := s.input.unread }
  rcases hself (Input.holding s.input.unread) (List.append_nil _) with ⟨f, hf, _, hstop⟩ | hmalformed
  · rcases hself closed (List.append_nil _) with ⟨f', hf', missing, hstop'⟩ | hmalformed
    · rw [hf] at hf'
      cases hf'
      rw [show closed.transport.stop.getD _ = .unexpectedEnd missing from rfl] at hstop'
      rw [show (Input.holding s.input.unread).transport.stop.getD _ = .notConnected from rfl,
        hstop'] at hstop
      cases hstop
    · exact hmalformed
  · exact hmalformed

/-- A query that fails without an exception of the server fails with the stream or with the bytes. -/
lemma streamFailed_or_formatBroken {e : ClientError} (hready : c.state = .ready)
    (h : query text settings c = .error e c') (hremote : e.isRemote = false) :
    StreamFailed text settings c e ∨ FormatBroken text settings c e := by
  rcases query_eq_error hready h hremote with ⟨s, hask⟩ | ⟨s, t, hask, hresult⟩
  · obtain ⟨f, rfl, _⟩ := ask_eq_error hask
    exact .inl (.sending hask)
  · by_cases hstop : Unfinished s.input.transport.stop e
    · exact .inl (.receiving hask hstop)
    refine .inr ⟨s, hask, fun s' htypes hprefix => ?_⟩
    obtain ⟨x, hx⟩ := hprefix
    have hmore : MoreReceiver s.input.transport.stop x ⟨s.input, s.types⟩ s' :=
      ⟨⟨rfl, hx.symm⟩, htypes⟩
    rcases receiveResult_failsFor hmore hresult with hunfinished | ⟨_, hfails⟩
    · exact absurd hunfinished hstop
    · exact hfails

/-- Where a query on a ready connection fails without an exception of the server, the error is transient
exactly when the stream failed, and else whatever bytes might follow would be refused in the same way.
Then it is an error of packets or values. Else it is one as well exactly when it is reported for a column
whose value was being read. So there alone it is not exactly one of the two. -/
theorem query_error_classes {e : ClientError} (hready : c.state = .ready)
    (h : query text settings c = .error e c') (hremote : e.isRemote = false) :
    (e.isTransient = true ↔ StreamFailed text settings c e) ∧
      (e.isTransient = false ↔ FormatBroken text settings c e) ∧
      (e.isProtocolError = true ↔ FormatBroken text settings c e ∨ e.IsCutColumn) ∧
      (e.isTransient ≠ e.isProtocolError ↔ ¬ e.IsCutColumn) := by
  rcases streamFailed_or_formatBroken hready h hremote with hstream | hformat
  · have htransient := hstream.isTransient
    have hnot : ¬ FormatBroken text settings c e := fun hformat => by
      rw [hformat.malformed.1] at htransient
      cases htransient
    have hcolumn := hstream.isProtocolError_iff
    refine ⟨by simp [htransient, hstream], by simp [htransient, hnot], by simp [hnot, hcolumn], ?_⟩
    rw [htransient, ← hcolumn]
    cases e.isProtocolError <;> simp
  · obtain ⟨htransient, hprotocol⟩ := hformat.malformed
    have hnot : ¬ StreamFailed text settings c e := fun hstream => by
      rw [hstream.isTransient] at htransient
      cases htransient
    have hcolumn : ¬ e.IsCutColumn := by
      rintro ⟨name, typeName, f, rfl, hf⟩
      rw [show ClientError.isTransient _ = f.isTransport from rfl, hf] at htransient
      cases htransient
    simp [htransient, hprotocol, hnot, hformat, hcolumn]

/-- A connection to a peer that greets, sends the beginning of a response and closes. -/
def begunConnection (response : Bytes) : Connection :=
  finalState (openWith {} { incoming := [[0, 0, 0, 0, 0], response] })

/-- A block with a field that there is not is refused; a block without an end is not complete. -/
theorem query_error_classes_block :
    FormatBroken "SELECT 1" [] (begunConnection [1, 0, 3]) (.stream (.wire (.unknownBlockField 3))) ∧
      StreamFailed "SELECT 1" [] (begunConnection [1, 0, 1]) (.stream (.unexpectedEnd 1)) := by
  have hfield : error? (query "SELECT 1" [] (begunConnection [1, 0, 3])) =
      some (.stream (.wire (.unknownBlockField 3))) := by decide +kernel
  have hpart : error? (query "SELECT 1" [] (begunConnection [1, 0, 1])) =
      some (.stream (.unexpectedEnd 1)) := by decide +kernel
  obtain ⟨_, hformat, _⟩ :=
    query_error_classes (by decide +kernel) (eq_error_of_error? hfield) rfl
  obtain ⟨hstream, _⟩ := query_error_classes (by decide +kernel) (eq_error_of_error? hpart) rfl
  exact ⟨hformat.1 rfl, hstream.1 rfl⟩

/-- A block that ends before the only value of its column: the error is transient, and at once one of
packets or values. -/
theorem query_error_both :
    (begunConnection [1, 0, 0, 0, 1, 1, 1, 110, 5, 85, 73, 110, 116, 56]).state = .ready ∧
      ∃ e c', query "SELECT 1" []
          (begunConnection [1, 0, 0, 0, 1, 1, 1, 110, 5, 85, 73, 110, 116, 56]) = .error e c' ∧
        e = .column "n" "UInt8" (.stream (.unexpectedEnd 1)) ∧ e.isRemote = false ∧
        e.isTransient = true ∧ e.isProtocolError = true := by
  have hfails : error? (query "SELECT 1" []
      (begunConnection [1, 0, 0, 0, 1, 1, 1, 110, 5, 85, 73, 110, 116, 56])) =
        some (.column "n" "UInt8" (.stream (.unexpectedEnd 1))) := by decide +kernel
  exact ⟨by decide +kernel, _, _, eq_error_of_error? hfails, rfl, rfl, rfl, rfl⟩

end Connection

end ColumnWire.Session
