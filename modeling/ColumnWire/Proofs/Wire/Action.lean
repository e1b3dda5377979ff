import Mathlib.Tactic.Common
import ColumnWire.Wire.Decoder

/-!
# Actions on a state

Decoders, readers of a stream and receivers of a response are all actions that answer with a value or
an error and, in both cases, with a state. This file holds what is common to them:

* **Sequencing**: when two actions in a row succeed and when they fail (`bind_eq_ok`,
  `bind_eq_error`), and counted repetition as sequencing (`repeated_succ`).
* **Results**: lists of results succeed member by member (`mapM_eq_ok`) and fail at one of them
  (`mapM_eq_error`).
* **Properties kept by sequencing** (`Composes`): what holds of the steps of an action holds of the
  action, also of one that repeats steps or runs one on each member of a list.
* **Preserved properties** (`Preserves`): what holds of the state before an action and after it,
  whether it succeeds or fails.
* **Errors** (`Raises`): what holds of every error of an action.
* **Values** (`Yields`): what holds of every value that an action answers.
* **Commuting with a map of states** (`Commutes`): an action that cannot tell a state from its image
  under a map. It is kept by sequencing, so it is proved for the reads from a buffer and holds of
  everything that is built from them.
* **Respecting a map of states** (`Respects`): an action that answers alike from states with one image
  and leads to states with one image. It is weaker than commuting, and holds also of actions that add
  to what the map forgets.
* **Answering alike under a relation of states** (`Alike`): an action that answers the same from related
  states and leads to related states.
* **Following under a relation of states** (`Follows`): an action that from a related state either does
  the same or fails with an error of a certain kind.
* **Persisting under a relation of states** (`Persists`): an action that does the same from a related
  state, also where it fails, unless it fails with an error of a certain kind.
-/

namespace ColumnWire.Wire

variable {ε ε' σ α β : Type}

/-! ## Sequencing -/

/-- After a success the rest goes on from the new state. -/
lemma bind_ok {m : EStateM ε σ α} {f : α → EStateM ε σ β} {s s' : σ} {a : α}
    (h : m s = .ok a s') : (m >>= f) s = f a s' := by
  simp [bind, EStateM.bind, h]

/-- After an error the rest is not run. -/
lemma bind_error {m : EStateM ε σ α} {f : α → EStateM ε σ β} {s s' : σ} {e : ε}
    (h : m s = .error e s') : (m >>= f) s = .error e s' := by
  simp [bind, EStateM.bind, h]

/-- Two actions in a row succeed exactly when each of them does. -/
lemma bind_eq_ok {m : EStateM ε σ α} {f : α → EStateM ε σ β} {s s' : σ} {b : β} :
    (m >>= f) s = .ok b s' ↔ ∃ a t, m s = .ok a t ∧ f a t = .ok b s' := by
  cases h : m s with
  | ok a t => simp [bind_ok h]
  | error e t => simp [bind_error h]

/-- Two actions in a row fail exactly when the first one does, or the second one after it. -/
lemma bind_eq_error {m : EStateM ε σ α} {f : α → EStateM ε σ β} {s s' : σ} {e : ε} :
    (m >>= f) s = .error e s' ↔
      m s = .error e s' ∨ ∃ a t, m s = .ok a t ∧ f a t = .error e s' := by
  cases h : m s with
  | ok a t => simp [bind_ok h]
  | error e' t => simp [bind_error h]

@[simp] lemma pure_apply (a : α) (s : σ) : (pure a : EStateM ε σ α) s = .ok a s := rfl

@[simp] lemma throw_apply (e : ε) (s : σ) : (throw e : EStateM ε σ α) s = .error e s := rfl

/-! ## Repetition -/

/-- The values so far stand before those that are still to come. -/
lemma repeated_go_eq (m : EStateM ε σ α) (n : Nat) (acc : List α) (s : σ) :
    repeated.go m n acc s =
      match repeated.go m n [] s with
      | .ok rest t => .ok (acc.reverse ++ rest) t
      | .error e t => .error e t := by
  induction n generalizing acc s with
  | zero => simp [repeated.go]
  | succ n ih =>
      simp only [repeated.go]
      cases h : m s with
      | error e t => rfl
      | ok a t =>
          simp only []
          rw [ih (a :: acc) t, ih [a] t]
          cases repeated.go m n [] t <;> simp

/-- One run more is one run and then the others. -/
lemma repeated_succ (m : EStateM ε σ α) (n : Nat) :
    repeated (n + 1) m = m >>= fun a => repeated n m >>= fun rest => pure (a :: rest) := by
  funext s
  cases h : m s with
  | error e t => rw [bind_error h]; simp [repeated, repeated.go, h]
  | ok a t =>
      rw [bind_ok h]
      simp only [repeated, repeated.go, h, bind, EStateM.bind]
      rw [repeated_go_eq m n [a] t]
      cases repeated.go m n [] t <;> rfl

/-- Repetition runs an action on as many copies of a value. -/
lemma repeated_eq_forEach (m : α → EStateM ε σ β) (n : Nat) (a : α) :
    repeated n (m a) = forEach m (List.replicate n a) := by
  induction n with
  | zero => rfl
  | succ n ih => rw [repeated_succ, List.replicate_succ, forEach, ih]

/-! ## Results without a state -/

/-- Two results in a row succeed exactly when each of them does. -/
lemma except_bind_eq_ok {x : Except ε α} {f : α → Except ε β} {b : β} :
    (x >>= f) = .ok b ↔ ∃ a, x = .ok a ∧ f a = .ok b := by
  cases x <;> simp [bind, Except.bind]

/-- The results of a list succeed exactly when each of them does. -/
lemma mapM_eq_ok {f : α → Except ε β} {l : List α} {l' : List β} :
    l.mapM f = .ok l' ↔ List.Forall₂ (fun a b => f a = .ok b) l l' := by
  induction l generalizing l' with
  | nil =>
      constructor
      · intro h
        cases h
        exact .nil
      · rintro ⟨⟩
        rfl
  | cons a rest ih =>
      rw [List.mapM_cons]
      constructor
      · intro h
        obtain ⟨b, hb, h⟩ := except_bind_eq_ok.1 h
        obtain ⟨bs, hbs, h⟩ := except_bind_eq_ok.1 h
        cases h
        exact .cons hb (ih.1 hbs)
      · rintro (_ | ⟨hb, hbs⟩)
        exact except_bind_eq_ok.2 ⟨_, hb, except_bind_eq_ok.2 ⟨_, ih.2 hbs, rfl⟩⟩

/-- Two results in a row fail exactly when the first one does, or the second one after it. -/
lemma except_bind_eq_error {x : Except ε α} {f : α → Except ε β} {e : ε} :
    (x >>= f) = .error e ↔ x = .error e ∨ ∃ a, x = .ok a ∧ f a = .error e := by
  cases x <;> simp [bind, Except.bind]

/-- The results of a list fail only if one of them does. -/
lemma mapM_eq_error {f : α → Except ε β} {l : List α} {e : ε} (h : l.mapM f = .error e) :
    ∃ a ∈ l, f a = .error e := by
  induction l with
  | nil => cases h
  | cons a rest ih =>
      rw [List.mapM_cons] at h
      rcases except_bind_eq_error.1 h with h | ⟨b, _, h⟩
      · exact ⟨a, List.mem_cons_self, h⟩
      rcases except_bind_eq_error.1 h with h | ⟨bs, _, h⟩
      · obtain ⟨x, hx, hfx⟩ := ih h
        exact ⟨x, List.mem_cons_of_mem a hx, hfx⟩
      · cases h

/-- Each member of the second of two related lists is related to one of the first. -/
lemma exists_of_mem_forall₂ {R : α → β → Prop} {l : List α} {l' : List β} (h : List.Forall₂ R l l')
    {b : β} (hb : b ∈ l') : ∃ a ∈ l, R a b := by
  induction h with
  | nil => cases hb
  | cons ha _ ih =>
      rcases List.mem_cons.1 hb with rfl | hb
      · exact ⟨_, List.mem_cons_self, ha⟩
      · obtain ⟨a, hmem, ha⟩ := ih hb
        exact ⟨a, List.mem_cons_of_mem _ hmem, ha⟩

/-! ## Properties kept by sequencing -/

/-- A property of actions that holds of answering at once and is kept by sequencing. -/
structure Composes (Q : (α : Type) → EStateM ε σ α → Prop) : Prop where
  /-- It holds of answering at once. -/
  pure : ∀ {α : Type} (a : α), Q α (pure a)
  /-- It is kept by sequencing. -/
  bind : ∀ {α β : Type} {m : EStateM ε σ α} {f : α → EStateM ε σ β},
    Q α m → (∀ a, Q β (f a)) → Q β (m >>= f)

namespace Composes

variable {Q : (α : Type) → EStateM ε σ α → Prop}

/-- Such a property is kept by running an action on each member of a list. -/
lemma forEach (h : Composes Q) {m : α → EStateM ε σ β} (hm : ∀ a, Q β (m a)) (l : List α) :
    Q (List β) (forEach m l) := by
  induction l with
  | nil => exact h.pure []
  | cons a rest ih => exact h.bind (hm a) fun b => h.bind ih fun bs => h.pure (b :: bs)

/-- Such a property is kept by repetition. -/
lemma repeated (h : Composes Q) {m : EStateM ε σ α} (hm : Q α m) (n : Nat) :
    Q (List α) (repeated n m) := by
  induction n with
  | zero => exact h.pure []
  | succ n ih =>
      rw [repeated_succ]
      exact h.bind hm fun a => h.bind ih fun rest => h.pure (a :: rest)

end Composes

/-! ## Answers and states -/

/-- The state that an answer comes with. -/
def finalState : EStateM.Result ε σ α → σ
  | .ok _ s | .error _ s => s

/-- The answer without its state. -/
def outcome : EStateM.Result ε σ α → Except ε α
  | .ok a _ => .ok a
  | .error e _ => .error e

/-- An answer that is not an error is a value with its state. -/
lemma eq_ok_of_isOk {r : EStateM.Result ε σ α} (h : (outcome r).isOk = true) :
    ∃ a, r = .ok a (finalState r) := by
  cases r with
  | ok a s => exact ⟨a, rfl⟩
  | error e s => cases h

/-- An answer is its outcome with its state. -/
lemma eq_of_outcome {r : EStateM.Result ε σ α} {x : Except ε α} (h : outcome r = x) :
    r = match x with
      | .ok a => .ok a (finalState r)
      | .error e => .error e (finalState r) := by
  subst h
  cases r <;> rfl

/-- The error of an answer, if it is one. -/
def error? : EStateM.Result ε σ α → Option ε
  | .ok _ _ => none
  | .error e _ => some e

/-- An answer with an error is that error with its state. -/
lemma eq_error_of_error? {r : EStateM.Result ε σ α} {e : ε} (h : error? r = some e) :
    r = .error e (finalState r) := by
  cases r with
  | ok a s => cases h
  | error e' s =>
      cases h
      rfl

/-! ## Preserved properties -/

/-- The action keeps a property of states, whatever it answers. -/
def Preserves (P : σ → Prop) (m : EStateM ε σ α) : Prop :=
  ∀ s, P s → P (finalState (m s))

namespace Preserves

variable {P : σ → Prop}

/-- Answering at once keeps every property. -/
lemma pure (a : α) : Preserves P (pure a : EStateM ε σ α) := fun _ h => h

/-- Failing at once keeps every property. -/
lemma throw (e : ε) : Preserves P (throw e : EStateM ε σ α) := fun _ h => h

/-- Preserving is kept by sequencing. -/
lemma bind {m : EStateM ε σ α} {f : α → EStateM ε σ β} (hm : Preserves P m)
    (hf : ∀ a, Preserves P (f a)) : Preserves P (m >>= f) := by
  intro s hs
  have hm := hm s hs
  cases h : m s with
  | error e t =>
      rw [h] at hm
      rw [bind_error h]
      exact hm
  | ok a t =>
      rw [h] at hm
      rw [bind_ok h]
      exact hf a t hm

/-- Preserving is kept by whatever is composed of steps. -/
lemma composes : Composes fun (α : Type) (m : EStateM ε σ α) => Preserves P m where
  pure := Preserves.pure
  bind := Preserves.bind

end Preserves

/-! ## Errors -/

/-- The property holds of every error of the action. -/
def Raises (P : ε → Prop) (m : EStateM ε σ α) : Prop :=
  ∀ s e t, m s = .error e t → P e

namespace Raises

variable {P : ε → Prop}

/-- Answering at once does not fail. -/
lemma pure (a : α) : Raises P (pure a : EStateM ε σ α) := fun _ _ _ h => by cases h

/-- Failing at once fails with that error. -/
lemma throw {e : ε} (h : P e) : Raises P (throw e : EStateM ε σ α) := fun _ _ _ he => by
  cases he
  exact h

/-- The errors of actions in a row are those of each. -/
lemma bind {m : EStateM ε σ α} {f : α → EStateM ε σ β} (hm : Raises P m)
    (hf : ∀ a, Raises P (f a)) : Raises P (m >>= f) := by
  intro s e t h
  rcases bind_eq_error.1 h with he | ⟨a, u, _, he⟩
  · exact hm s e t he
  · exact hf a u e t he

/-- The errors of whatever is composed of steps are those of the steps. -/
lemma composes : Composes fun (α : Type) (m : EStateM ε σ α) => Raises P m where
  pure := Raises.pure
  bind := Raises.bind

end Raises

/-! ## Values -/

/-- The property holds of every value that the action answers. -/
def Yields (P : α → Prop) (m : EStateM ε σ α) : Prop :=
  ∀ s a t, m s = .ok a t → P a

namespace Yields

variable {P : α → Prop}

/-- Every value is a value. -/
lemma any (m : EStateM ε σ α) : Yields (fun _ => True) m := fun _ _ _ _ => trivial

/-- Answering at once gives that value. -/
lemma pure {a : α} (h : P a) : Yields P (pure a : EStateM ε σ α) := fun _ _ _ ha => by
  cases ha
  exact h

/-- An action that always fails gives no value. -/
lemma throw (e : ε) : Yields P (throw e : EStateM ε σ α) := fun _ _ _ ha => by cases ha

/-- What is known of a value may be used for what follows it. -/
lemma bind {Q : β → Prop} {m : EStateM ε σ α} {f : α → EStateM ε σ β} (hm : Yields P m)
    (hf : ∀ a, P a → Yields Q (f a)) : Yields Q (m >>= f) := by
  intro s b u h
  obtain ⟨a, t, ha, hb⟩ := bind_eq_ok.1 h
  exact hf a (hm s a t ha) t b u hb

/-- Repetition gives as many values. -/
lemma repeated {m : EStateM ε σ α} (hm : Yields P m) (n : Nat) :
    Yields (fun l => l.length = n ∧ ∀ a ∈ l, P a) (repeated n m) := by
  induction n with
  | zero => exact Yields.pure ⟨rfl, by simp⟩
  | succ n ih =>
      rw [repeated_succ]
      refine hm.bind fun a ha => ih.bind fun rest hrest => Yields.pure ⟨?_, ?_⟩
      · rw [List.length_cons, hrest.1]
      · exact List.forall_mem_cons.2 ⟨ha, hrest.2⟩

end Yields

/-! ## Commuting with a map of states -/

/-- The answer with its state mapped. -/
def mapState {τ : Type} (f : σ → τ) : EStateM.Result ε σ α → EStateM.Result ε τ α
  | .ok a s => .ok a (f s)
  | .error e s => .error e (f s)

@[simp] lemma mapState_ok {τ : Type} (f : σ → τ) (a : α) (s : σ) :
    mapState f (.ok a s : EStateM.Result ε σ α) = .ok a (f s) := rfl

@[simp] lemma mapState_error {τ : Type} (f : σ → τ) (e : ε) (s : σ) :
    mapState f (.error e s : EStateM.Result ε σ α) = .error e (f s) := rfl

/-- A mapped answer is a success exactly when the answer is. -/
lemma mapState_eq_ok {τ : Type} {f : σ → τ} {r : EStateM.Result ε σ α} {a : α} {t : τ} :
    mapState f r = .ok a t ↔ ∃ s, r = .ok a s ∧ f s = t := by
  cases r <;> simp

/-- A mapped answer is an error exactly when the answer is. -/
lemma mapState_eq_error {τ : Type} {f : σ → τ} {r : EStateM.Result ε σ α} {e : ε} {t : τ} :
    mapState f r = .error e t ↔ ∃ s, r = .error e s ∧ f s = t := by
  cases r <;> simp

/-- The state of a mapped answer is mapped. -/
@[simp] lemma finalState_mapState {τ : Type} (f : σ → τ) (r : EStateM.Result ε σ α) :
    finalState (mapState f r) = f (finalState r) := by
  cases r <;> rfl

/-- Mapped answers are the same exactly when the answers are and come with states of one image. -/
lemma mapState_eq_mapState {τ : Type} {f : σ → τ} {r r' : EStateM.Result ε σ α} :
    mapState f r = mapState f r' ↔
      outcome r = outcome r' ∧ f (finalState r) = f (finalState r') := by
  cases r <;> cases r' <;> simp [outcome, finalState]

/-- The action answers alike from a state and from its image. -/
def Commutes (f : σ → σ) (m : EStateM ε σ α) : Prop :=
  ∀ s, m (f s) = mapState f (m s)

namespace Commutes

variable {f : σ → σ}

/-- Answering at once commutes. -/
lemma pure (a : α) : Commutes f (pure a : EStateM ε σ α) := fun _ => rfl

/-- Failing at once commutes. -/
lemma throw (e : ε) : Commutes f (throw e : EStateM ε σ α) := fun _ => rfl

/-- Commuting is kept by sequencing. -/
lemma bind {m : EStateM ε σ α} {g : α → EStateM ε σ β} (hm : Commutes f m)
    (hg : ∀ a, Commutes f (g a)) : Commutes f (m >>= g) := by
  intro s
  cases h : m s with
  | error e t =>
      have hf := hm s
      rw [h] at hf
      rw [bind_error hf, bind_error h]
      rfl
  | ok a t =>
      have hf := hm s
      rw [h] at hf
      rw [bind_ok hf, bind_ok h]
      exact hg a t

/-- An action that commutes with two maps commutes with both in a row. -/
lemma comp {g : σ → σ} {m : EStateM ε σ α} (hf : Commutes f m) (hg : Commutes g m) :
    Commutes (f ∘ g) m := by
  intro s
  rw [Function.comp_apply, hf (g s), hg s]
  cases m s <;> rfl

/-- Commuting is kept by whatever is composed of steps. -/
lemma composes : Composes fun (α : Type) (m : EStateM ε σ α) => Commutes f m where
  pure := Commutes.pure
  bind := Commutes.bind

end Commutes

/-! ## Respecting a map of states -/

/-- From states with one image the action answers alike, and leads to states with one image. -/
def Respects {τ : Type} (f : σ → τ) (m : EStateM ε σ α) : Prop :=
  ∀ s t, f s = f t → mapState f (m s) = mapState f (m t)

/-- An action that commutes with a map respects it. -/
lemma Commutes.respects {f : σ → σ} {m : EStateM ε σ α} (h : Commutes f m) : Respects f m := by
  intro s t hst
  rw [← h s, hst, h t]

namespace Respects

/-- An action respects a map if it does not matter whether its state is mapped before. -/
lemma of_map {f : σ → σ} {m : EStateM ε σ α} (h : ∀ s, mapState f (m (f s)) = mapState f (m s)) :
    Respects f m := by
  intro s t hst
  rw [← h s, hst, h t]

variable {τ : Type} {f : σ → τ}

/-- Answering at once respects every map. -/
lemma pure (a : α) : Respects f (pure a : EStateM ε σ α) := fun _ _ h => by
  simp only [pure_apply, mapState_ok, h]

/-- Failing at once respects every map. -/
lemma throw (e : ε) : Respects f (throw e : EStateM ε σ α) := fun _ _ h => by
  simp only [throw_apply, mapState_error, h]

/-- Where the action succeeds, it does so from every state with the same image. -/
lemma eq_ok {m : EStateM ε σ α} (hm : Respects f m) {s t s' : σ} {a : α} (hst : f s = f t)
    (hs : m s = .ok a s') : ∃ t', m t = .ok a t' ∧ f t' = f s' := by
  have hsame := hm s t hst
  rw [hs, mapState_ok] at hsame
  exact mapState_eq_ok.1 hsame.symm

/-- Where the action fails, it does so from every state with the same image. -/
lemma eq_error {m : EStateM ε σ α} (hm : Respects f m) {s t s' : σ} {e : ε} (hst : f s = f t)
    (hs : m s = .error e s') : ∃ t', m t = .error e t' ∧ f t' = f s' := by
  have hsame := hm s t hst
  rw [hs, mapState_error] at hsame
  exact mapState_eq_error.1 hsame.symm

/-- Respecting a map is kept by sequencing. -/
lemma bind {m : EStateM ε σ α} {g : α → EStateM ε σ β} (hm : Respects f m)
    (hg : ∀ a, Respects f (g a)) : Respects f (m >>= g) := by
  intro s t hst
  cases hs : m s with
  | error e s' =>
      obtain ⟨t', ht, hsame⟩ := hm.eq_error hst hs
      rw [bind_error hs, bind_error ht, mapState_error, mapState_error, hsame]
  | ok a s' =>
      obtain ⟨t', ht, hsame⟩ := hm.eq_ok hst hs
      rw [bind_ok hs, bind_ok ht]
      exact hg a s' t' hsame.symm

/-- An action may look at the state, as long as it does the same for states with one image. -/
lemma get_bind {g : σ → EStateM ε σ β} (hsame : ∀ {s t}, f s = f t → g s = g t)
    (hg : ∀ s, Respects f (g s)) : Respects f (get >>= g) := by
  intro s t hst
  have hrun : ∀ u, (get >>= g) u = g u u := fun _ => rfl
  rw [hrun, hrun, hsame hst]
  exact hg t s t hst

end Respects

/-! ## Answering alike under a relation of states -/

/-- Answers are the same, and come with related states. -/
inductive Matches {τ : Type} (R : σ → τ → Prop) :
    EStateM.Result ε σ α → EStateM.Result ε τ α → Prop where
  /-- The same value. -/
  | ok (a : α) {s : σ} {t : τ} (h : R s t) : Matches R (.ok a s) (.ok a t)
  /-- The same error. -/
  | error (e : ε) {s : σ} {t : τ} (h : R s t) : Matches R (.error e s) (.error e t)

/-- Answers that match are the same but for their states. -/
lemma Matches.outcome_eq {τ : Type} {R : σ → τ → Prop} {r : EStateM.Result ε σ α}
    {r' : EStateM.Result ε τ α} (h : Matches R r r') : outcome r = outcome r' := by
  cases h <;> rfl

/-- The states of answers that match are related. -/
lemma Matches.finalState {τ : Type} {R : σ → τ → Prop} {r : EStateM.Result ε σ α}
    {r' : EStateM.Result ε τ α} (h : Matches R r r') : R (finalState r) (finalState r') := by
  cases h <;> assumption

/-- Either both answers are values or both are errors. -/
lemma Matches.cases {τ : Type} {R : σ → τ → Prop} {r : EStateM.Result ε σ α}
    {r' : EStateM.Result ε τ α} (h : Matches R r r') :
    (∃ a s t, r = .ok a s ∧ r' = .ok a t ∧ R s t) ∨
      ∃ e s t, r = .error e s ∧ r' = .error e t ∧ R s t := by
  cases h with
  | ok a h => exact .inl ⟨a, _, _, rfl, rfl, h⟩
  | error e h => exact .inr ⟨e, _, _, rfl, rfl, h⟩

/-- From related states the action answers alike, and leads to related states. -/
def Alike (R : σ → σ → Prop) (m : EStateM ε σ α) : Prop :=
  ∀ s t, R s t → Matches R (m s) (m t)

namespace Alike

variable {R : σ → σ → Prop}

/-- Answering at once is alike. -/
lemma pure (a : α) : Alike R (pure a : EStateM ε σ α) := fun _ _ h => .ok a h

/-- Failing at once is alike. -/
lemma throw (e : ε) : Alike R (throw e : EStateM ε σ α) := fun _ _ h => .error e h

/-- Answering alike is kept by sequencing. -/
lemma bind {m : EStateM ε σ α} {f : α → EStateM ε σ β} (hm : Alike R m)
    (hf : ∀ a, Alike R (f a)) : Alike R (m >>= f) := by
  intro s t hst
  rcases (hm s t hst).cases with ⟨a, s', t', hs, ht, h⟩ | ⟨e, s', t', hs, ht, h⟩
  · rw [bind_ok hs, bind_ok ht]
    exact hf a s' t' h
  · rw [bind_error hs, bind_error ht]
    exact .error e h

/-- What is composed of steps that answer alike does as well. -/
lemma composes : Composes fun (α : Type) (m : EStateM ε σ α) => Alike R m where
  pure := Alike.pure
  bind := Alike.bind

end Alike

/-! ## Following under a relation of states -/

/-- Where the action succeeds, from a related state it answers alike and leads to related states, or it
fails with an error that has the property. -/
def Follows (R : σ → σ → Prop) (P : ε → Prop) (m : EStateM ε σ α) : Prop :=
  ∀ s s', R s s' → ∀ a t, m s = .ok a t →
    (∃ e t', m s' = .error e t' ∧ P e) ∨ ∃ t', m s' = .ok a t' ∧ R t t'

namespace Follows

variable {R : σ → σ → Prop} {P : ε → Prop}

/-- Answering at once follows. -/
lemma pure (a : α) : Follows R P (pure a : EStateM ε σ α) := by
  intro s s' hs b t h
  cases h
  exact .inr ⟨s', rfl, hs⟩

/-- An action that always fails follows. -/
lemma throw (e : ε) : Follows R P (throw e : EStateM ε σ α) := by
  intro s s' _ a t h
  cases h

/-- Following is kept by sequencing. -/
lemma bind {m : EStateM ε σ α} {f : α → EStateM ε σ β} (hm : Follows R P m)
    (hf : ∀ a, Follows R P (f a)) : Follows R P (m >>= f) := by
  intro s s' hs b u h
  obtain ⟨a, t, ha, hb⟩ := bind_eq_ok.1 h
  rcases hm s s' hs a t ha with ⟨e, t', he, hP⟩ | ⟨t', ha', ht⟩
  · exact .inl ⟨e, t', bind_error he, hP⟩
  · rw [bind_ok ha']
    exact hf a t t' ht b u hb

/-- What is composed of steps that follow does as well. -/
lemma composes : Composes fun (α : Type) (m : EStateM ε σ α) => Follows R P m where
  pure := Follows.pure
  bind := Follows.bind

end Follows

/-! ## Persisting under a relation of states -/

/-- From a related state the action does the same, and an error of it has the property `Q`, unless it
fails with an error that has the property `P`. -/
def Persists (R : σ → σ → Prop) (P Q : ε → Prop) (m : EStateM ε σ α) : Prop :=
  ∀ s s', R s s' →
    (∃ a t t', m s = .ok a t ∧ m s' = .ok a t' ∧ R t t') ∨
    (∃ e t t', m s = .error e t ∧ m s' = .error e t' ∧ Q e) ∨ ∃ e t, m s = .error e t ∧ P e

namespace Persists

variable {R : σ → σ → Prop} {P Q : ε → Prop}

/-- Answering at once persists. -/
lemma pure (a : α) : Persists R P Q (pure a : EStateM ε σ α) := fun s s' h =>
  .inl ⟨a, s, s', rfl, rfl, h⟩

/-- Failing at once persists. -/
lemma throw {e : ε} (h : Q e) : Persists R P Q (throw e : EStateM ε σ α) := fun s s' _ =>
  .inr (.inl ⟨e, s, s', rfl, rfl, h⟩)

/-- Persisting is kept by sequencing. -/
lemma bind {m : EStateM ε σ α} {f : α → EStateM ε σ β} (hm : Persists R P Q m)
    (hf : ∀ a, Persists R P Q (f a)) : Persists R P Q (m >>= f) := by
  intro s s' hs
  rcases hm s s' hs with ⟨a, t, t', ha, ha', ht⟩ | ⟨e, t, t', he, he', hQ⟩ | ⟨e, t, he, hP⟩
  · rw [bind_ok ha, bind_ok ha']
    exact hf a t t' ht
  · exact .inr (.inl ⟨e, t, t', bind_error he, bind_error he', hQ⟩)
  · exact .inr (.inr ⟨e, t, bind_error he, hP⟩)

/-- What is composed of steps that persist does as well. -/
lemma composes : Composes fun (α : Type) (m : EStateM ε σ α) => Persists R P Q m where
  pure := Persists.pure
  bind := Persists.bind

end Persists

end ColumnWire.Wire
