import Mathlib.Tactic.Common
import ColumnWire.Proofs.Stream.Refinement

/-!
# Tapes

A tape is a state with bytes ahead of it. Reading moves it forward and changes nothing else that a
later read could notice (`Tape.Moves`). Two things are said of an action on a tape:

* `Tape.Reads m w v`: wherever the bytes `w` lie ahead, `m` takes exactly them and answers `v`;
* `Tape.Takes m G`: every success of `m` takes bytes that are in the relation `G` to its value.

Both are kept by sequencing and repetition. An action is local (`Tape.Local`) when its successes depend
on nothing but the bytes that they take. Inputs are tapes, and every read that refines a stable decoder
takes what spells its value (`Input.Refines.takes`) and is local (`Input.Refines.local`).
-/

namespace ColumnWire.Stream

open ColumnWire.Wire

/-- States with bytes ahead of them. -/
class Tape (σ : Type) where
  /-- The bytes ahead. -/
  ahead : σ → Bytes
  /-- The state is one that actions keep to. -/
  Valid : σ → Prop
  /-- The second state is the first one after some bytes were taken. -/
  Moves : σ → σ → Prop
  /-- Taking nothing is a move. -/
  refl : ∀ {s}, Valid s → Moves s s
  /-- Moves follow each other. -/
  trans : ∀ {s t u}, Moves s t → Moves t u → Moves s u
  /-- Moves lead to valid states. -/
  valid : ∀ {s t}, Moves s t → Valid t

namespace Tape

variable {ε σ α β : Type} [Tape σ]

/-- The action takes exactly the bytes `w`, wherever they lie ahead, and answers `v`. -/
def Reads (m : EStateM ε σ α) (w : Bytes) (v : α) : Prop :=
  ∀ s rest, Valid s → ahead s = w ++ rest → ∃ t, m s = .ok v t ∧ ahead t = rest ∧ Moves s t

/-- Every success takes bytes that are in the relation to its value. -/
def Takes (m : EStateM ε σ α) (G : Bytes → α → Prop) : Prop :=
  ∀ s v t, Valid s → m s = .ok v t → ∃ w, ahead s = w ++ ahead t ∧ Moves s t ∧ G w v

/-- A success depends on nothing but the bytes that are taken. -/
def Local (m : EStateM ε σ α) : Prop :=
  Takes m (Reads m)

/-- Bytes in pieces, one for each member of a list, each in the relation to that member's value. -/
inductive Chain (G : α → Bytes → β → Prop) : List α → Bytes → List β → Prop where
  /-- No piece. -/
  | nil : Chain G [] [] []
  /-- A piece before others. -/
  | cons {a : α} {l : List α} {w w' : Bytes} {b : β} {bs : List β} (h : G a w b)
      (hrest : Chain G l w' bs) : Chain G (a :: l) (w ++ w') (b :: bs)

/-- There are as many values as members. -/
lemma Chain.length_eq {G : α → Bytes → β → Prop} {l : List α} {w : Bytes} {bs : List β}
    (h : Chain G l w bs) : bs.length = l.length := by
  induction h with
  | nil => rfl
  | cons _ _ ih => rw [List.length_cons, List.length_cons, ih]

/-- Each value is that of a member. -/
lemma Chain.exists_of_mem {G : α → Bytes → β → Prop} {l : List α} {w : Bytes} {bs : List β}
    (h : Chain G l w bs) {b : β} (hb : b ∈ bs) : ∃ a ∈ l, ∃ u, G a u b := by
  induction h with
  | nil => cases hb
  | cons ha _ ih =>
      rcases List.mem_cons.1 hb with rfl | hb
      · exact ⟨_, List.mem_cons_self, _, ha⟩
      · obtain ⟨a, hmem, u, hu⟩ := ih hb
        exact ⟨a, List.mem_cons_of_mem _ hmem, u, hu⟩

/-! ## Reading in sequence -/

namespace Reads

/-- Answering at once takes nothing. -/
lemma pure (v : α) : Reads (pure v : EStateM ε σ α) [] v :=
  fun s _ hs hahead => ⟨s, rfl, hahead, refl hs⟩

/-- What one action takes stands before what the next one takes. -/
lemma bind {m : EStateM ε σ α} {f : α → EStateM ε σ β} {w w' : Bytes} {a : α} {b : β}
    (h : Reads m w a) (h' : Reads (f a) w' b) : Reads (m >>= f) (w ++ w') b := by
  intro s rest hs hahead
  rw [List.append_assoc] at hahead
  obtain ⟨t, ht, ht', hmoves⟩ := h s _ hs hahead
  obtain ⟨u, hu, hu', hmoves'⟩ := h' t rest (valid hmoves) ht'
  exact ⟨u, by rw [bind_ok ht, hu], hu', trans hmoves hmoves'⟩

/-- An action may be followed by a decision that takes nothing. -/
lemma bind_nil {m : EStateM ε σ α} {f : α → EStateM ε σ β} {w : Bytes} {a : α} {b : β}
    (h : Reads m w a) (h' : Reads (f a) [] b) : Reads (m >>= f) w b := by
  simpa using h.bind h'

/-- No runs take nothing. -/
lemma repeated_zero (m : EStateM ε σ α) : Reads (repeated 0 m) [] [] :=
  Reads.pure []

/-- One run more takes its bytes before those of the others. -/
lemma repeated_succ {m : EStateM ε σ α} {n : Nat} {w w' : Bytes} {v : α} {vs : List α}
    (h : Reads m w v) (h' : Reads (repeated n m) w' vs) :
    Reads (repeated (n + 1) m) (w ++ w') (v :: vs) := by
  rw [Wire.repeated_succ]
  exact h.bind (h'.bind_nil (Reads.pure _))

/-- The first member of a list takes its bytes before those of the others. -/
lemma forEach_cons {m : α → EStateM ε σ β} {a : α} {l : List α} {w w' : Bytes} {b : β}
    {bs : List β} (h : Reads (m a) w b) (h' : Reads (forEach m l) w' bs) :
    Reads (forEach m (a :: l)) (w ++ w') (b :: bs) :=
  h.bind (h'.bind_nil (Reads.pure _))

/-- The pieces of a list are taken one after the other. -/
lemma forEach {G : α → Bytes → β → Prop} {m : α → EStateM ε σ β}
    (h : ∀ a w b, G a w b → Reads (m a) w b) {l : List α} {w : Bytes} {bs : List β}
    (hchain : Chain G l w bs) : Reads (forEach m l) w bs := by
  induction hchain with
  | nil => exact Reads.pure []
  | cons ha _ ih => exact forEach_cons (h _ _ _ ha) ih

/-- From one state, an action takes one front of the bytes ahead. -/
lemma unique {m : EStateM ε σ α} {w w' rest rest' : Bytes} {v v' : α} {s : σ} (h : Reads m w v)
    (h' : Reads m w' v') (hs : Valid s) (hw : ahead s = w ++ rest) (hw' : ahead s = w' ++ rest') :
    v = v' ∧ w = w' ∧ rest = rest' := by
  obtain ⟨t, ht, hrest, _⟩ := h s rest hs hw
  obtain ⟨t', ht', hrest', _⟩ := h' s rest' hs hw'
  rw [ht] at ht'
  cases ht'
  obtain rfl : rest = rest' := hrest.symm.trans hrest'
  exact ⟨rfl, List.append_cancel_right (hw.symm.trans hw'), rfl⟩

end Reads

/-! ## Taking in sequence -/

/-- What is known of the bytes that are taken may be used. -/
lemma Takes.mono {m : EStateM ε σ α} {G G' : Bytes → α → Prop} (h : Takes m G)
    (hG : ∀ w v, G w v → G' w v) : Takes m G' := by
  intro s v t hs hv
  obtain ⟨w, hw, hmoves, hfirst⟩ := h s v t hs hv
  exact ⟨w, hw, hmoves, hG w v hfirst⟩

/-- Actions in a row take what each takes. -/
lemma Takes.bind {m : EStateM ε σ α} {f : α → EStateM ε σ β} {G : Bytes → α → Prop}
    {G' : α → Bytes → β → Prop} {G'' : Bytes → β → Prop} (h : Takes m G)
    (h' : ∀ a, Takes (f a) (G' a)) (hG : ∀ w w' a b, G w a → G' a w' b → G'' (w ++ w') b) :
    Takes (m >>= f) G'' := by
  intro s b u hs hb
  obtain ⟨a, t, ha, hb⟩ := bind_eq_ok.1 hb
  obtain ⟨w, hw, hmoves, hfirst⟩ := h s a t hs ha
  obtain ⟨w', hw', hmoves', hsecond⟩ := h' a t b u (valid hmoves) hb
  exact ⟨w ++ w', by rw [hw, hw', List.append_assoc], trans hmoves hmoves',
    hG w w' a b hfirst hsecond⟩

/-- Answering at once takes nothing. -/
lemma Takes.pure {G : Bytes → α → Prop} {v : α} (h : G [] v) :
    Takes (pure v : EStateM ε σ α) G := by
  intro s v' t hs hv
  cases hv
  exact ⟨[], rfl, refl hs, h⟩

/-- What is made of a value belongs to the bytes of the value. -/
lemma Takes.bind_pure {m : EStateM ε σ α} {f : α → β} {G : Bytes → α → Prop}
    {G' : Bytes → β → Prop} (h : Takes m G) (hf : ∀ w v, G w v → G' w (f v)) :
    Takes (m >>= fun v => Pure.pure (f v)) G' := by
  have hpure (v : α) : Takes (Pure.pure (f v) : EStateM ε σ β) fun w b => w = [] ∧ b = f v :=
    Takes.pure ⟨rfl, rfl⟩
  refine h.bind hpure ?_
  rintro w _ v _ hw ⟨rfl, rfl⟩
  rw [List.append_nil]
  exact hf w v hw

/-- Members of a list take pieces one after the other. -/
lemma Takes.forEach {G : α → Bytes → β → Prop} {m : α → EStateM ε σ β} (h : ∀ a, Takes (m a) (G a))
    (l : List α) : Takes (forEach m l) (Chain G l) := by
  induction l with
  | nil => exact Takes.pure .nil
  | cons a rest ih =>
      have hrest (b : β) : Takes (Wire.forEach m rest >>= fun bs => Pure.pure (b :: bs))
          fun w l => ∃ bs, l = b :: bs ∧ Chain G rest w bs :=
        ih.bind_pure fun w bs hbs => ⟨bs, rfl, hbs⟩
      refine (h a).bind hrest ?_
      rintro w w' b _ hb ⟨bs, rfl, hbs⟩
      exact .cons hb hbs

/-! ## Locality -/

namespace Local

/-- Answering at once is local. -/
lemma pure (v : α) : Local (pure v : EStateM ε σ α) :=
  Takes.pure (Reads.pure v)

/-- Failing at once is local. -/
lemma throw (e : ε) : Local (throw e : EStateM ε σ α) := by
  intro s v t hs h
  cases h

/-- Local actions in a row are local. -/
lemma bind {m : EStateM ε σ α} {f : α → EStateM ε σ β} (h : Local m) (hf : ∀ a, Local (f a)) :
    Local (m >>= f) :=
  Takes.bind h hf fun _ _ _ _ hreads hreads' => hreads.bind hreads'

/-- What is composed of local steps is local. -/
lemma composes : Composes fun (α : Type) (m : EStateM ε σ α) => Local m where
  pure := Local.pure
  bind := Local.bind

end Local

end Tape

/-! ## Inputs -/

namespace Input

/-- An input moves when bytes are received and taken from its buffer. -/
instance : Tape Input where
  ahead := unread
  Valid _ := True
  Moves s t := t.transport.drained = s.transport.drained
  refl _ := rfl
  trans h h' := h'.trans h
  valid _ := trivial

/-- An input with some bytes ahead and nothing behind them. -/
def holding (w : Bytes) : Input :=
  { transport := Transport.detached {}, buffer := w }

/-- The bytes lie ahead. -/
lemma unread_holding (w : Bytes) : (holding w).unread = w :=
  List.append_nil w

/-- From the bytes that an action takes, it answers. -/
lemma eq_ok_of_reads {ε α : Type} {m : EStateM ε Input α} {w : Bytes} {v : α} (h : Tape.Reads m w v) :
    ∃ t, m (holding w) = .ok v t ∧ t.unread = [] := by
  have hahead : (holding w).unread = w ++ [] := (unread_holding w).trans (List.append_nil w).symm
  obtain ⟨t, ht, hrest, _⟩ := h (holding w) [] trivial hahead
  exact ⟨t, ht, hrest⟩

variable {α : Type} {r : Reader α} {d : Decoder α}

/-- A read takes what spells a value for the decoder that it refines. -/
lemma Refines.reads (h : Refines r d) {w : Bytes} {v : α} (hw : d.Spells w v) :
    Tape.Reads r w v := by
  intro s rest _ hs
  have hd : d s.unread = .ok v rest := by
    rw [show s.unread = w ++ rest from hs]
    exact hw rest
  obtain ⟨t, ht, hsettled⟩ := h.of_taken hd
  refine ⟨t, ht, ?_, congrArg Input.transport hsettled⟩
  exact congrArg Input.buffer hsettled

/-- A read that refines a stable decoder takes what spells its value. -/
lemma Refines.takes (h : Refines r d) (hd : d.PrefixStable) : Tape.Takes r d.Spells := by
  intro s v t _ hr
  obtain ⟨w, hw, hspells⟩ := hd.taken (h.ok_iff.1 ⟨t, hr, rfl⟩)
  obtain ⟨t', ht', _, hmoves⟩ := h.reads hspells s _ trivial hw
  rw [hr] at ht'
  cases ht'
  exact ⟨w, hw, hmoves, hspells⟩

/-- A read that refines a stable decoder is local. -/
lemma Refines.local (h : Refines r d) (hd : d.PrefixStable) : Tape.Local r := by
  intro s v t hs hr
  obtain ⟨w, hw, hmoves, hspells⟩ := h.takes hd s v t hs hr
  exact ⟨w, hw, hmoves, h.reads hspells⟩

end Input

end ColumnWire.Stream
