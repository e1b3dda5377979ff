import Mathlib.Tactic.Common
import ColumnWire.Proofs.Stream.Unnoticed

/-!
# Reading ahead

How much a read asks of the transport, and how much it leaves in the buffer.

Requests leave no trace in an input, so the reads are run over an input that notes for how many bytes its
transport is asked (`Watched`); they are the reads of any input, only `Source.receive` is another. `Watches`
says that such a read does what it does over the input alone, that each request is for 4096 to 65536 bytes,
and that the requests in their order are all that happens to the transport. It is kept by sequencing and by
waiting.

What is left in the buffer follows from what a look tells (`Input.Sparing`): a value takes at least the bytes
that were missing before, so the rest of what came for them is less than what the least request brings.
Reads that leave no more than that, or no more than there was before, are `Input.Tidy`.

Main statement: `BufferedRead.bounded`.
-/

namespace ColumnWire.Stream

open ColumnWire.Wire ColumnWire.Number

/-! ## Noting requests -/

/-- An input, and for how many bytes each request was that it has made of its transport. -/
structure Watched where
  /-- The input. -/
  input : Input
  /-- The requests, the earliest first. -/
  requests : List Nat := []

/-- An action that reads and notes its requests. -/
abbrev Watching := EStateM StreamError Watched

namespace Watched

/-- The watched input with another transport, and one more request. -/
def note (w : Watched) (limit : Nat) (t : Transport) : Watched :=
  { input := { w.input with transport := t }, requests := w.requests ++ [limit] }

/-- A watched input asks its transport and notes for how many bytes. -/
instance : Source Watched where
  input := Watched.input
  withBuffer buffer w := { w with input := { w.input with buffer } }
  receive limit w :=
    match Transport.receive limit w.input.transport with
    | .ok piece t => .ok piece (w.note limit t)
    | .error e t => .error e (w.note limit t)

end Watched

/-! ## Watched reads -/

/-- The transport after receives for so many bytes each. -/
def Transport.afterReceives (t : Transport) (requests : List Nat) : Transport :=
  requests.foldl (fun t n => finalState (receive n t)) t

/-- Receives may follow others. -/
lemma Transport.afterReceives_append (t : Transport) (l l' : List Nat) :
    t.afterReceives (l ++ l') = (t.afterReceives l).afterReceives l' :=
  List.foldl_append

/-- An answer with noted requests is the other answer, and the new requests are within bounds and lead
from the old transport to the new one. -/
structure Tells {α : Type} (w : Watched) (noted : EStateM.Result StreamError Watched α)
    (plain : EStateM.Result StreamError Input α) : Prop where
  /-- But for the requests the answers are the same. -/
  same : mapState Watched.input noted = plain
  /-- The new requests stand behind those that were there. -/
  requests : ∃ new, (finalState noted).requests = w.requests ++ new ∧
    (∀ n ∈ new, minRequest ≤ n ∧ n ≤ maxReceive) ∧
    (finalState noted).input.transport = w.input.transport.afterReceives new

/-- An answer for which nothing is received tells the other one. -/
lemma Tells.of_unchanged {α : Type} {w : Watched} {noted : EStateM.Result StreamError Watched α}
    {plain : EStateM.Result StreamError Input α} (hsame : mapState Watched.input noted = plain)
    (hrequests : (finalState noted).requests = w.requests)
    (htransport : (finalState noted).input.transport = w.input.transport) : Tells w noted plain where
  same := hsame
  requests := ⟨[], by rw [hrequests, List.append_nil], by simp, htransport⟩

/-- The action does what the read does, and notes its requests, which are within bounds. -/
def Watches {α : Type} (m : Watching α) (r : Reader α) : Prop :=
  ∀ w, Tells w (m w) (r w.input)

namespace Watches

variable {α β : Type} {m : Watching α} {r : Reader α}

/-- Answering at once asks for nothing. -/
lemma pure (a : α) : Watches (pure a) (pure a) := fun _ => .of_unchanged rfl rfl rfl

/-- Failing at once asks for nothing. -/
lemma throw (e : StreamError) : Watches (throw e : Watching α) (throw e) := fun _ =>
  .of_unchanged rfl rfl rfl

/-- Taking the buffer asks for nothing. -/
lemma drain : Watches Input.drain Input.drain := fun _ => .of_unchanged rfl rfl rfl

/-- Watching is kept by sequencing. -/
lemma bind {f : α → Watching β} {g : α → Reader β} (h : Watches m r) (hf : ∀ a, Watches (f a) (g a)) :
    Watches (m >>= f) (r >>= g) := by
  intro w
  obtain ⟨hsame, new, hnew, hbounds, htransport⟩ := h w
  cases hm : m w with
  | error e w' =>
      rw [hm] at hsame hnew htransport
      rw [bind_error hm, bind_error hsame.symm]
      exact ⟨rfl, new, hnew, hbounds, htransport⟩
  | ok a w' =>
      rw [hm] at hsame hnew htransport
      rw [bind_ok hm, bind_ok hsame.symm]
      obtain ⟨hsame', new', hnew', hbounds', htransport'⟩ := hf a w'
      refine ⟨hsame', new ++ new', ?_, ?_, ?_⟩
      · rw [hnew', show w'.requests = w.requests ++ new from hnew, List.append_assoc]
      · exact fun n hn => (List.mem_append.1 hn).elim (hbounds n) (hbounds' n)
      · rw [htransport', show w'.input.transport = w.input.transport.afterReceives new from htransport,
          Transport.afterReceives_append]

/-- A request is within bounds. -/
lemma request_bounds (missing : Nat) :
    minRequest ≤ Input.request missing ∧ Input.request missing ≤ maxReceive := by
  have hmin : minRequest ≤ maxReceive := by decide
  unfold Input.request
  omega

/-- One receive is one request. -/
lemma fill (missing : Nat) : Watches (Input.fill missing) (Input.fill missing) := by
  intro w
  have hbounds : ∀ n ∈ [Input.request missing], minRequest ≤ n ∧ n ≤ maxReceive :=
    List.forall_mem_singleton.2 (request_bounds missing)
  have hafter : w.input.transport.afterReceives [Input.request missing] =
      finalState (Transport.receive (Input.request missing) w.input.transport) := rfl
  cases h : Transport.receive (Input.request missing) w.input.transport with
  | ok piece t =>
      have hnoted : Input.fill missing w = .ok piece.length
          { w.note (Input.request missing) t with input := ⟨t, w.input.buffer ++ piece⟩ } := by
        simp [Input.fill, Source.receive, Source.input, Source.withBuffer, Watched.note, h]
      rw [h] at hafter
      rw [hnoted, Input.fill_of_ok h]
      exact ⟨rfl, _, rfl, hbounds, hafter.symm⟩
  | error e t =>
      have hnoted : Input.fill missing w = .error e (w.note (Input.request missing) t) := by
        simp [Input.fill, Source.receive, h]
      rw [h] at hafter
      rw [hnoted, Input.fill_of_error h]
      exact ⟨rfl, _, rfl, hbounds, hafter.symm⟩

variable {look : Bytes → Sight α} {ended : Nat → Watching α} {ended' : Nat → Reader α}

/-- Looking with as many bytes as it takes watches. -/
lemma await (hended : ∀ k, Watches (ended k) (ended' k)) :
    Watches (Input.await look ended) (Input.await look ended') := by
  intro w
  rw [Input.await_eq, Input.await_eq]
  refine Input.awaitWithin_related (f := Watched.input) (P := Tells) (fun _ => rfl)
    (fun _ _ _ => .of_unchanged rfl rfl rfl) (fun _ _ => .of_unchanged rfl rfl rfl) (fun hnext => ?_)
    hended _ w
  exact (fill _).bind hnext

/-- Reading exactly some bytes watches. -/
lemma readExactly (n : Nat) : Watches (Input.readExactly n) (Input.readExactly n) :=
  await fun _ => throw _

/-- Reading a byte string watches. -/
lemma readBinary : Watches Input.readBinary Input.readBinary :=
  (await fun _ => throw _).bind fun n => readExactly n.toNat

/-- Every read of a field or a frame watches. -/
lemma read {α : Type} (op : ReadOp α) : Watches op.reader op.reader := by
  cases op with
  | varint => exact await fun _ => throw _
  | binary => exact readBinary
  | text =>
      refine readBinary.bind fun raw => ?_
      cases ofUtf8? raw with
      | none => exact throw _
      | some s => exact pure s
  | binary32 => exact (readExactly 4).bind fun _ => pure _
  | binary64 => exact (readExactly 8).bind fun _ => pure _
  | frame f => exact await fun _ => throw _

end Watches

/-! ## What stays in the buffer -/

/-- No more bytes are handed out than asked for. -/
lemma Peer.deliver_length_le (limit : Nat) (p : Peer) : (p.deliver limit).1.length ≤ limit := by
  unfold deliver
  split
  · exact Nat.zero_le _
  · split
    · exact Nat.zero_le _
    · exact List.length_take_le _ _

/-- No more bytes are received than asked for. -/
lemma Transport.receive_length_le {limit : Nat} {t t' : Transport} {piece : Bytes}
    (h : receive limit t = .ok piece t') : piece.length ≤ limit := by
  unfold receive at h
  cases hpeer : t.peer with
  | none => simp [hpeer] at h
  | some p =>
      have hle := p.deliver_length_le (min limit maxReceive)
      simp only [hpeer] at h
      split at h
      · split at h <;> cases h
        exact Nat.zero_le _
      · cases h
        omega

namespace Input

variable {α : Type}

/-- What a receive adds to the buffer is no more than the request is for. -/
lemma buffer_of_fill {missing n : Nat} {s t : Input} (h : fill missing s = .ok n t) :
    ∃ piece : Bytes, t.buffer = s.buffer ++ piece ∧ piece.length ≤ request missing := by
  obtain ⟨piece, t, hreceive, rfl, rfl⟩ := receive_of_fill h
  exact ⟨piece, rfl, Transport.receive_length_le hreceive⟩

/-- A look takes the bytes that it has missed: of those that come then, no more are left than came beyond
the missing ones. A look at a byte that takes none leaves that one as well. -/
structure Sparing (look : Bytes → Sight α) : Prop where
  /-- What is left was there. -/
  found : ∀ {p v rest}, look p = .found v rest → rest.length ≤ p.length
  /-- What is missing is taken. -/
  short : ∀ {p missing}, look p = .short missing → 1 ≤ missing ∧
    ∀ {q v rest}, look (p ++ q) = .found v rest → rest.length + missing ≤ q.length + 1

/-- Bytes that a look for a frame misses are missing. -/
lemma incomplete_of_lookFrame {d : Decoder α} (hd : d.PrefixStable) {p : Bytes} {missing : Nat}
    (h : lookFrame d p = .short missing) : ∃ left, d p = .error (.incomplete missing) left := by
  unfold lookFrame at h
  split at h
  · cases h
  · rename_i needed left hd'
    cases h
    exact ⟨left, by rw [hd', Nat.max_eq_left (hd.short hd').1]⟩
  · cases h

/-- Looking for a frame is sparing. -/
lemma lookFrame_sparing {d : Decoder α} (hd : d.PrefixStable) : Sparing (lookFrame d) where
  found {p v rest} h := by
    obtain ⟨w, rfl, -⟩ := hd.taken (lookFrame_eq_found.1 h)
    rw [List.length_append]
    exact Nat.le_add_left _ _
  short {p missing} h := by
    obtain ⟨left, hleft⟩ := incomplete_of_lookFrame hd h
    obtain ⟨hpos, hneeded⟩ := hd.short hleft
    refine ⟨hpos, fun {q v rest} hfound => ?_⟩
    obtain ⟨w, hw, hspells⟩ := hd.taken (lookFrame_eq_found.1 hfound)
    have hcount := congrArg List.length hw
    rw [List.length_append, List.length_append] at hcount
    -- With fewer of the new bytes, the value would have been found in bytes that are too few.
    by_contra hmany
    obtain ⟨k, left', hshort⟩ := hneeded (q.take (missing - 1)) (by rw [List.length_take]; omega)
    have hwhole : w <+: p ++ q := hw ▸ List.prefix_append _ _
    have hpart : p ++ q.take (missing - 1) <+: p ++ q :=
      (List.prefix_append_right_inj p).2 (List.take_prefix _ _)
    have hfront : w <+: p ++ q.take (missing - 1) := by
      refine List.prefix_of_prefix_length_le hwhole hpart ?_
      rw [List.length_append, List.length_take]
      omega
    obtain ⟨behind, hbehind⟩ := hfront
    rw [← hbehind, hspells behind] at hshort
    cases hshort

/-- Looking for any byte is sparing. -/
lemma lookAny_sparing : Sparing lookAny where
  found {p v rest} h := by
    cases p <;> cases h
    exact Nat.le_refl _
  short {p missing} h := by
    cases p <;> cases h
    refine ⟨Nat.le_refl _, fun {q v rest} h => ?_⟩
    cases q <;> cases h
    exact Nat.le_refl _

/-- The buffer after a receive for what a look misses. -/
structure Refilled (look : Bytes → Sight α) (missing : Nat) (s t : Input) : Prop where
  /-- Bytes were missing. -/
  short : look s.buffer = .short missing
  /-- No more bytes came than were asked for. -/
  added : ∃ piece : Bytes, t.buffer = s.buffer ++ piece ∧ piece.length ≤ request missing

/-- What is in sight after such a receive leaves no more than the least request is for. -/
lemma Refilled.left_le {look : Bytes → Sight α} {missing : Nat} {s t : Input} {v : α} {rest : Bytes}
    (h : Refilled look missing s t) (hlook : Sparing look) (hfound : look t.buffer = .found v rest) :
    rest.length ≤ minRequest := by
  obtain ⟨piece, hbuffer, hpiece⟩ := h.added
  obtain ⟨hpos, hneeded⟩ := hlook.short h.short
  rw [hbuffer] at hfound
  have hleft := hneeded hfound
  have hmin : minRequest = 4096 := rfl
  have hmax : maxReceive = 65536 := rfl
  unfold request at hpiece
  omega

/-- A read that succeeds leaves no more in the buffer than was there or than the least request is for. -/
def Tidy (r : Reader α) : Prop :=
  ∀ s v t, r s = .ok v t → t.buffered ≤ max s.buffered minRequest

/-- Tidiness is kept by sequencing. -/
lemma Tidy.composes : Composes fun (α : Type) (r : Reader α) => Tidy r where
  pure a s v t h := by
    cases h
    exact Nat.le_max_left _ _
  bind {α β m f} hm hf s v u h := by
    obtain ⟨a, t, ha, hb⟩ := bind_eq_ok.1 h
    have hfirst := hm s a t ha
    have hthen := hf a t v u hb
    omega

/-- Refusing is tidy. -/
lemma Tidy.throw (e : StreamError) : Tidy (throw e : Reader α) := by
  intro s v t h
  cases h

variable {look : Bytes → Sight α} {ended : Nat → Reader α}

/-- A round of waiting leaves what it has in sight, or what comes after its receive leaves. -/
lemma buffered_of_round {fuel bound : Nat} {s t : Input} {v : α}
    (hnow : ∀ {v rest}, look s.buffer = .found v rest → rest.length ≤ bound)
    (hnext : ∀ {missing n u}, Refilled look missing s u →
      resume look ended missing fuel n u = .ok v t → t.buffered ≤ bound)
    (h : awaitWithin look ended fuel s = .ok v t) : t.buffered ≤ bound := by
  cases hsight : look s.buffer with
  | found v' rest =>
      rw [awaitWithin_found (s := s) hsight] at h
      cases h
      exact hnow hsight
  | refused e =>
      rw [awaitWithin_refused (s := s) hsight] at h
      cases h
  | short missing =>
      rw [awaitWithin_short (s := s) hsight] at h
      obtain ⟨n, u, hfill, hrest⟩ := bind_eq_ok.1 h
      exact hnext ⟨hsight, buffer_of_fill hfill⟩ hrest

/-- Waiting leaves no more in the buffer than a bound for what is left of what is in sight now, if the
bound is not below the least request. The induction is on the fuel; after a receive the bound holds again,
whatever was in the buffer before. -/
lemma buffered_of_awaitWithin (hlook : Sparing look)
    (hended : ∀ {missing s u v t}, Refilled look missing s u → ended missing u = .ok v t →
      t.buffered ≤ minRequest)
    {fuel bound : Nat} {s t : Input} {v : α} (hbound : minRequest ≤ bound)
    (hnow : ∀ {v rest}, look s.buffer = .found v rest → rest.length ≤ bound)
    (h : awaitWithin look ended fuel s = .ok v t) : t.buffered ≤ bound := by
  induction fuel generalizing s with
  | zero =>
      refine buffered_of_round hnow (fun hrefilled hend => ?_) h
      exact Nat.le_trans (hended hrefilled hend) hbound
  | succ fuel ih =>
      refine buffered_of_round hnow (fun hrefilled hrest => ?_) h
      rw [resume] at hrest
      split at hrest
      · exact Nat.le_trans (hended hrefilled hrest) hbound
      · exact ih (fun hfound => Nat.le_trans (hrefilled.left_le hlook hfound) hbound) hrest

/-- Waiting is tidy. -/
lemma await_tidy (hlook : Sparing look)
    (hended : ∀ {missing s u v t}, Refilled look missing s u → ended missing u = .ok v t →
      t.buffered ≤ minRequest) : Tidy (await look ended) := by
  intro s v t h
  rw [await_eq] at h
  exact buffered_of_awaitWithin hlook hended (Nat.le_max_right _ _)
    (fun hfound => Nat.le_trans (hlook.found hfound) (Nat.le_max_left _ _)) h

/-- Reading a frame is tidy. -/
lemma readFrame_tidy {d : Decoder α} (hd : d.PrefixStable) : Tidy (readFrame d) := by
  refine await_tidy (lookFrame_sparing hd) fun _ h => ?_
  cases h

/-- Reading up to a number of bytes is tidy: at the end of the stream it takes all of the buffer. -/
lemma read_tidy (n : Nat) : Tidy (read n) := by
  refine await_tidy (lookExactly_eq n ▸ lookFrame_sparing (Decoder.take_prefixStable n)) fun _ h => ?_
  cases h
  exact Nat.zero_le _

/-- Asking for the end is tidy: it waits only when the buffer is empty. -/
lemma atEnd_tidy : Tidy atEnd := by
  refine await_tidy lookAny_sparing fun {missing s u v t} hrefilled h => ?_
  cases h
  obtain ⟨hshort, piece, hbuffer, hpiece⟩ := hrefilled
  cases hempty : s.buffer with
  | cons b rest =>
      rw [hempty] at hshort
      cases hshort
  | nil =>
      rw [hempty] at hshort hbuffer
      cases hshort
      rw [buffered, hbuffer]
      exact hpiece

end Input

/-! ## All reads -/

/-- A read of an input, by the type of what is read. -/
inductive BufferedRead : Type → Type 1 where
  /-- So many bytes, or fewer if the stream ends before. -/
  | upTo (n : Nat) : BufferedRead Bytes
  /-- Exactly so many bytes. -/
  | exactly (n : Nat) : BufferedRead Bytes
  /-- Whether the stream has ended. -/
  | atEnd : BufferedRead Bool
  /-- A field or a frame. -/
  | whole {α : Type} (op : ReadOp α) : BufferedRead α

namespace BufferedRead

variable {α : Type}

/-- The read itself. -/
def reader {σ : Type} [Source σ] : BufferedRead α → EStateM StreamError σ α
  | .upTo n => Input.read n
  | .exactly n => Input.readExactly n
  | .atEnd => Input.atEnd
  | .whole op => op.reader

/-- The requests of the read, the earliest first. -/
def requests (op : BufferedRead α) (s : Input) : List Nat :=
  (finalState (op.reader ({ input := s } : Watched))).requests

/-- Every read is watched. -/
lemma watches (op : BufferedRead α) : Watches op.reader op.reader := by
  cases op with
  | upTo n => exact .await fun _ => .drain
  | exactly n => exact .readExactly n
  | atEnd => exact .await fun _ => .pure true
  | whole op => exact .read op

/-- Every read is tidy. -/
lemma tidy (op : BufferedRead α) : Input.Tidy op.reader := by
  cases op with
  | upTo n => exact Input.read_tidy n
  | exactly n =>
      rw [reader, Input.readExactly_eq]
      exact Input.readFrame_tidy (Decoder.take_prefixStable n)
  | atEnd => exact Input.atEnd_tidy
  | whole op => exact op.of_frames Input.Tidy.composes Input.readFrame_tidy Input.Tidy.throw

/-- Whatever is read, from whatever input and however the bytes are cut: over a watched input the read
answers what it does over the input alone, and its requests are all that happens to the transport; each of
them is for 4096 to 65536 bytes; and a read that succeeds leaves at most 4096 bytes in the buffer, if there
were no more before. -/
theorem bounded (op : BufferedRead α) (s : Input) :
    mapState Watched.input (op.reader ({ input := s } : Watched)) = op.reader s ∧
    (finalState (op.reader s)).transport = s.transport.afterReceives (op.requests s) ∧
    (∀ n ∈ op.requests s, 4096 ≤ n ∧ n ≤ 65536) ∧
    (s.buffered ≤ 4096 → ∀ v t, op.reader s = .ok v t → t.buffered ≤ 4096) := by
  obtain ⟨hsame, new, hnew, hbounds, htransport⟩ := op.watches { input := s }
  have hrequests : op.requests s = new := hnew
  refine ⟨hsame, ?_, ?_, fun hs v t h => ?_⟩
  · rw [hrequests, ← hsame, finalState_mapState]
    exact htransport
  · rw [hrequests]
    exact hbounds
  · exact Nat.le_trans (op.tidy s v t h) (Nat.max_le.2 ⟨hs, Nat.le_refl _⟩)

/-- A buffered length of three, and the three bytes in two pieces, the second of which goes on. -/
def cutBinary : Input :=
  { transport := Transport.attached { incoming := [[97], [98, 99, 7]] } {}, buffer := [3] }

/-- The byte string is read with two requests, and one byte is read ahead. -/
theorem bounded_cutBinary :
    requests (.whole .binary) cutBinary = [4096, 4096] ∧
    ∃ t, reader (.whole .binary) cutBinary = .ok [97, 98, 99] t ∧ t.buffer = [7] ∧ t.buffered ≤ 4096 :=
  ⟨rfl, _, rfl, rfl, (bounded (.whole .binary) cutBinary).2.2.2 (by decide) _ _ rfl⟩

/-- A length of 70000 bytes is asked for in requests of the greatest size. -/
example : requests (.whole .binary)
    { transport := Transport.attached { incoming := [[240, 162, 4], [1]] } {} } = [4096, 65536, 65536] := by
  rfl

end BufferedRead

end ColumnWire.Stream
