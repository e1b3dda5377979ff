import Mathlib.Tactic.Common
import ColumnWire.Proofs.Stream.Tape

/-!
# Actions that use up a tape

An action consumes (`Tape.Consumes`) when each of its successes takes a byte or more. It is enough that
one step of it does and the others take bytes or none (`Tape.Advances`). The bytes of a decoder are a
tape as well.

However often such an action is to be repeated, the bytes ahead bound how often it is run
(`Tape.Consumes.runs_le`): each run takes a byte but the last, which may fail. `Wire.runs` counts the runs
of a repetition in its state, and counting changes nothing else (`repeated_counted`).
-/

namespace ColumnWire.Wire

variable {ε σ α β : Type} {m : EStateM ε σ α} {a : α} {e : ε} {s t : σ}

/-! ## Counting runs -/

/-- The action, which also counts that it is run. -/
def counted (m : EStateM ε σ α) : EStateM ε (σ × Nat) α := fun s =>
  match m s.1 with
  | .ok a t => .ok a (t, s.2 + 1)
  | .error e t => .error e (t, s.2 + 1)

/-- How often an action is run when it is to be repeated `n` times. -/
def runs (m : EStateM ε σ α) (n : Nat) (s : σ) : Nat :=
  (finalState (repeated n (counted m) (s, 0))).2

/-- A success is counted. -/
lemma counted_of_ok (h : m s = .ok a t) (k : Nat) : counted m (s, k) = .ok a (t, k + 1) := by
  rw [counted, h]

/-- A failure is counted too. -/
lemma counted_of_error (h : m s = .error e t) (k : Nat) :
    counted m (s, k) = .error e (t, k + 1) := by
  rw [counted, h]

/-- Counting does not change what a repetition does. -/
lemma repeated_counted (m : EStateM ε σ α) (n : Nat) (s : σ) (k : Nat) :
    mapState Prod.fst (repeated n (counted m) (s, k)) = repeated n m s := by
  induction n generalizing s k with
  | zero => rfl
  | succ n ih =>
      rw [repeated_succ, repeated_succ]
      cases h : m s with
      | error e t =>
          rw [bind_error h, bind_error (counted_of_error h k)]
          rfl
      | ok a t =>
          have hrest := ih t (k + 1)
          rw [bind_ok h, bind_ok (counted_of_ok h k)]
          cases hmore : repeated n (counted m) (t, k + 1) with
          | error e u =>
              rw [hmore] at hrest
              rw [bind_error hmore, bind_error hrest.symm]
              rfl
          | ok l u =>
              rw [hmore] at hrest
              rw [bind_ok hmore, bind_ok hrest.symm]
              rfl

/-- What is made of an answer does not change the state. -/
lemma finalState_bind_pure (m : EStateM ε σ α) (f : α → β) (s : σ) :
    finalState ((m >>= fun a => pure (f a)) s) = finalState (m s) := by
  cases h : m s with
  | error e t => rw [bind_error h]; rfl
  | ok a t => rw [bind_ok h]; rfl

/-- After a success, a repetition goes on. -/
lemma finalState_repeated_of_ok (h : m s = .ok a t) (n : Nat) :
    finalState (repeated (n + 1) m s) = finalState (repeated n m t) := by
  rw [repeated_succ, bind_ok h]
  exact finalState_bind_pure _ _ _

/-- A failure ends a repetition. -/
lemma finalState_repeated_of_error (h : m s = .error e t) (n : Nat) :
    finalState (repeated (n + 1) m s) = t := by
  rw [repeated_succ, bind_error h]
  rfl

/-- The counter goes on from where it stands. -/
lemma finalState_counted (m : EStateM ε σ α) (n : Nat) (s : σ) (k : Nat) :
    (finalState (repeated n (counted m) (s, k))).2 = runs m n s + k := by
  induction n generalizing s k with
  | zero => exact (Nat.zero_add k).symm
  | succ n ih =>
      unfold runs
      cases h : m s with
      | error e t =>
          rw [finalState_repeated_of_error (counted_of_error h k),
            finalState_repeated_of_error (counted_of_error h 0)]
          omega
      | ok a t =>
          rw [finalState_repeated_of_ok (counted_of_ok h k),
            finalState_repeated_of_ok (counted_of_ok h 0), ih, ih]
          omega

/-- A success is one run, and others follow. -/
lemma runs_of_ok (h : m s = .ok a t) (n : Nat) : runs m (n + 1) s = runs m n t + 1 := by
  rw [runs, finalState_repeated_of_ok (counted_of_ok h 0), finalState_counted]

/-- A failure is the last run. -/
lemma runs_of_error (h : m s = .error e t) (n : Nat) : runs m (n + 1) s = 1 := by
  rw [runs, finalState_repeated_of_error (counted_of_error h 0)]

end ColumnWire.Wire

namespace ColumnWire.Stream

open ColumnWire.Wire

namespace Tape

variable {ε σ α β : Type} [Tape σ] {m : EStateM ε σ α} {f : α → EStateM ε σ β}

/-! ## Taking bytes -/

/-- Every success takes bytes, or none. -/
def Advances (m : EStateM ε σ α) : Prop :=
  Takes m fun _ _ => True

/-- Every success takes a byte or more. -/
def Consumes (m : EStateM ε σ α) : Prop :=
  Takes m fun w _ => w ≠ []

/-- What is taken is bytes. -/
lemma Takes.advances {G : Bytes → α → Prop} (h : Takes m G) : Advances m :=
  h.mono fun _ _ _ => trivial

/-- An action that always fails takes nothing. -/
lemma Advances.throw (e : ε) : Advances (throw e : EStateM ε σ α) := by
  intro s v t hs h
  cases h

/-- What is composed of steps that take bytes takes bytes. -/
lemma Advances.composes : Composes fun (α : Type) (m : EStateM ε σ α) => Advances m where
  pure _ := Takes.pure trivial
  bind h hf := Takes.bind h hf fun _ _ _ _ _ _ => trivial

/-- Whatever takes bytes may follow an action that consumes. -/
lemma Consumes.bind (h : Consumes m) (hf : ∀ a, Advances (f a)) : Consumes (m >>= f) :=
  Takes.bind h hf fun _ _ _ _ hne _ => List.append_ne_nil_of_left_ne_nil hne _

/-- On the members of a list, of which there is one, a consuming action consumes. -/
lemma Consumes.forEach {m : α → EStateM ε σ β} (hm : ∀ a, Advances (m a)) {l : List α}
    (h : ∀ a ∈ l, Consumes (m a)) (hl : l ≠ []) : Consumes (forEach m l) := by
  cases l with
  | nil => exact absurd rfl hl
  | cons a rest =>
      refine (h a List.mem_cons_self).bind fun b => ?_
      exact Advances.composes.bind (Advances.composes.forEach hm rest) fun bs =>
        Advances.composes.pure (b :: bs)

/-- However often a consuming action is to be repeated, it is run no more than once for each byte ahead,
and once more. -/
lemma Consumes.runs_le (h : Consumes m) {s : σ} (hs : Valid s) (n : Nat) :
    runs m n s ≤ (ahead s).length + 1 := by
  induction n generalizing s with
  | zero => exact Nat.zero_le _
  | succ n ih =>
      cases hm : m s with
      | error e t =>
          rw [runs_of_error hm]
          omega
      | ok a t =>
          obtain ⟨w, hw, hmoves, hne⟩ := h s a t hs hm
          have hpos := List.length_pos_iff.2 hne
          have hrest := ih (valid hmoves)
          rw [runs_of_ok hm, hw, List.length_append]
          omega

/-! ## Pieces -/

/-- When every piece has so many bytes, all of them have as many times that. -/
lemma Chain.length_mul_le {G : α → Bytes → β → Prop} {k : Nat} {l : List α} {w : Bytes} {bs : List β}
    (h : Chain G l w bs) (hk : ∀ a ∈ l, ∀ u b, G a u b → k ≤ u.length) : bs.length * k ≤ w.length := by
  induction h with
  | nil => simp
  | @cons a l u u' b bs ha _ ih =>
      have hfirst := hk a List.mem_cons_self u b ha
      have hrest := ih fun a' ha' => hk a' (List.mem_cons_of_mem a ha')
      rw [List.length_cons, Nat.succ_mul, List.length_append]
      omega

end Tape

/-! ## Decoders and reads -/

/-- Bytes are a tape of themselves. -/
instance : Tape Bytes where
  ahead p := p
  Valid _ := True
  Moves _ _ := True
  refl _ := trivial
  trans _ _ := trivial
  valid _ := trivial

variable {α : Type} {d : Decoder α}

/-- A stable decoder that takes a byte consumes. -/
lemma consumes_of_consuming (hd : d.PrefixStable) (h : d.Consuming) : Tape.Consumes d := by
  intro p v r _ hv
  obtain ⟨w, hw, hspells⟩ := hd.taken hv
  exact ⟨w, hw, trivial, h.ne_nil hspells⟩

/-- A read that refines such a decoder consumes. -/
lemma Input.Refines.consumes {r : Reader α} (h : Refines r d) (hd : d.PrefixStable)
    (hconsuming : d.Consuming) : Tape.Consumes r :=
  (h.takes hd).mono fun _ _ hspells => hconsuming.ne_nil hspells

end ColumnWire.Stream
