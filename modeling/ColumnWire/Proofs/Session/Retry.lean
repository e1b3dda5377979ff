import Mathlib.Tactic.Common
import ColumnWire.Proofs.Session.Isolation
import ColumnWire.Session.Client

/-!
# Further attempts to connect

Connecting fails in three ways (`connect_eq_error`). After each of them the connection can connect again,
and what it does then is what a new one would do (`Idle.of_failed`, `Idle.connect_matches`). So the
attempts of a client have outcomes of their own (`Client.single`), one for each answer of the network,
whatever failed before; and none is refused for the state of the connection
(`Client.single_ne_invalidState`).

What the client makes of them is a `Course` of attempts. An attempt that is not followed by another one is
a course (`Course.of_settled`), and one before a course makes a longer one (`Course.of_transient`); the
induction is on the number of attempts that the policy still allows (`Client.attemptFrom_course`). Main
statement: `Client.connect_course`.
-/

namespace ColumnWire.Session

open ColumnWire.Wire ColumnWire.Stream

namespace Connection

variable {config : Config} {c d : Connection} {dial : HostAddress → Except StreamError Peer}
  {e : ClientError}

/-! ## Connections that can connect -/

/-- A reachable connection with this configuration that can connect. -/
structure Idle (config : Config) (c : Connection) : Prop where
  /-- It is reachable. -/
  reachable : c.Reachable
  /-- It has no session. -/
  free : c.state = .disconnected ∨ c.state = .closed
  /-- It has the configuration. -/
  config : c.config = config

/-- A new connection can connect. -/
lemma Idle.new (config : Config) : Idle config (new config) :=
  ⟨.new config, .inl rfl, rfl⟩

/-- Why connecting fails where it is permitted, and what is left then: there is no host, or the network
reaches no peer, or the greetings fail. -/
lemma connect_eq_error (hfree : c.state = .disconnected ∨ c.state = .closed)
    (h : connect dial c = .error e d) :
    (e = .config .noHost ∧ d = c) ∨
      (∃ f, e = .stream f ∧
        d = { c.connecting.withTransport c.transport.close with state := .disconnected }) ∨
      ∃ p d', handshake (c.reaching p) = .error e d' ∧
        d = { d'.withTransport d'.transport.close with state := .disconnected } := by
  rw [connect_of_permitted dial hfree] at h
  split at h
  · cases h
    exact .inl ⟨rfl, rfl⟩
  · split at h
    · next p _ =>
        unfold handshakeOr at h
        split at h
        · cases h
        · next d' hshake =>
            cases h
            exact .inr (.inr ⟨p, d', hshake, rfl⟩)
    · next f _ =>
        cases h
        exact .inr (.inl ⟨f, rfl, rfl⟩)

/-- Failing to connect leaves the configuration. -/
lemma config_of_failed (hfree : c.state = .disconnected ∨ c.state = .closed)
    (h : connect dial c = .error e d) : d.config = c.config := by
  rcases connect_eq_error hfree h with ⟨-, rfl⟩ | ⟨f, -, rfl⟩ | ⟨p, d', hshake, rfl⟩
  · rfl
  · rfl
  · have hsent := sentFrom_transmit (greeting c.config).encode (c.reaching p) .handshaking
    exact (hsent.of_frame (handshake_eq_error hshake)).config

/-- A connection that failed to connect can connect again. -/
lemma Idle.of_failed (h : Idle config c) (herror : connect dial c = .error e d) : Idle config d where
  reachable := by
    have hreachable := h.reachable.connect dial
    rw [herror] at hreachable
    exact hreachable
  free := by
    have hleads := (connect_atRest h.reachable.atRest dial h.free).2
    rw [herror] at hleads
    exact hleads
  config := (config_of_failed h.free herror).trans h.config

/-! ## What came before does not matter -/

/-- With a host to connect to, connecting goes as it does on a new connection. -/
lemma Idle.connect_matches (h : Idle config c) {host : HostAddress}
    (hhost : config.primaryHost = some host) (dial : HostAddress → Except StreamError Peer) :
    Matches (Resumes c.transport.peers) (connect dial c) (openTo config dial) := by
  obtain ⟨hreachable, hfree, rfl⟩ := h
  have hnew : (Connection.new c.config).state = .disconnected := rfl
  rw [openTo, connect_of_permitted dial hfree, connect_of_permitted dial (.inl hnew),
    show (Connection.new c.config).config = c.config from rfl, hhost]
  have hconnecting := hreachable.connecting_resumes hfree
  dsimp only
  cases dial host with
  | ok p => exact handshakeOr_alike .disconnected _ _ (hconnecting.reaching p)
  | error e => exact .error _ (hconnecting.part .disconnected)

/-- So the outcome is the same, also without a host. -/
lemma Idle.outcome_eq (h : Idle config c) (dial : HostAddress → Except StreamError Peer) :
    outcome (connect dial c) = outcome (openTo config dial) := by
  cases hhost : config.primaryHost with
  | some host => exact (h.connect_matches hhost dial).outcome_eq
  | none =>
      obtain ⟨-, hfree, rfl⟩ := h
      have hnew : (Connection.new c.config).state = .disconnected := rfl
      rw [openTo, connect_of_permitted dial hfree, connect_of_permitted dial (.inl hnew),
        show (Connection.new c.config).config = c.config from rfl, hhost]
      rfl

/-- If it succeeds, the connections compare. -/
lemma Idle.resumes_of_ok (h : Idle config c) (hok : connect dial c = .ok () d) :
    ∃ former d', openTo config dial = .ok () d' ∧ Resumes former d d' := by
  cases hhost : config.primaryHost with
  | some host =>
      have hmatches := h.connect_matches hhost dial
      rw [hok] at hmatches
      rcases hmatches.cases with ⟨_, _, d', hd, hd', hresumes⟩ | ⟨_, _, _, hd, _⟩
      · cases hd
        exact ⟨_, d', hd', hresumes⟩
      · cases hd
  | none =>
      rw [connect_of_permitted dial h.free, h.config, hhost] at hok
      cases hok

/-! ## Refusals -/

/-- No error of the greetings is a refusal for the state of the connection. -/
lemma handshake_raises : Raises (fun e => ∀ s o, e ≠ .invalidState s o) handshake := by
  have htransmit (data : Bytes) :
      Raises (fun e => ∀ s o, e ≠ .invalidState s o) (transmit data) := by
    intro c e d h
    unfold transmit at h
    split at h <;> cases h
    simp
  have hread {α : Type} (r : Reader α) :
      Raises (fun e => ∀ s o, e ≠ .invalidState s o) (fromInput r) := by
    intro c e d h
    unfold fromInput at h
    split at h <;> cases h
    simp
  have hgreeting : Raises (fun e => ∀ s o, e ≠ .invalidState s o) readGreeting := by
    refine (hread _).bind fun raw => ?_
    split
    · exact hread _
    · exact (hread _).bind fun _ => Raises.throw (by simp)
    · exact Raises.throw (by simp)
  intro c e d h
  rw [handshake_eq] at h
  refine (htransmit _).bind (fun _ => hgreeting.bind fun hello => ?_) _ _ _ h
  intro c e d h
  cases h

/-- Connecting is not refused where it is permitted. -/
lemma connect_ne_invalidState (hfree : c.state = .disconnected ∨ c.state = .closed)
    (h : connect dial c = .error e d) : ∀ s o, e ≠ .invalidState s o := by
  rcases connect_eq_error hfree h with ⟨rfl, -⟩ | ⟨f, rfl, -⟩ | ⟨p, d', hshake, -⟩
  · simp
  · simp
  · exact handshake_raises _ _ _ hshake

end Connection

namespace Client

open Connection

variable {config : Config} {dial : Nat → HostAddress → Except StreamError Peer} {c : Connection}
  {first last : Nat} {k : UInt32} {o : Opening}

/-! ## Single attempts -/

/-- The outcome of an attempt of its own, on a new connection. -/
def single (config : Config) (dial : Nat → HostAddress → Except StreamError Peer) (i : Nat) :
    Except ClientError Unit :=
  outcome (openTo config (dial i))

/-- No such attempt is refused for the state of the connection. -/
lemma single_ne_invalidState (i : Nat) (s : State) (o : Operation) :
    single config dial i ≠ .error (.invalidState s o) := by
  intro h
  unfold single openTo at h
  cases hopen : Connection.connect (dial i) (Connection.new config) with
  | ok a d =>
      rw [hopen] at h
      cases h
  | error e d =>
      rw [hopen] at h
      cases h
      exact connect_ne_invalidState (.inl rfl) hopen s o rfl

/-- A failure after which another attempt may succeed. -/
def Transient (r : Except ClientError Unit) : Prop :=
  ∃ e, r = .error e ∧ e.isTransient = true

/-! ## Courses of attempts -/

/-- An attempt that was followed by another one, and the pause between them. -/
def followed (config : Config) (dial : Nat → HostAddress → Except StreamError Peer) (i : Nat) :
    List Event :=
  [.attempt (.ofNat i) (single config dial i), .pause config.retry.pause]

/-- The attempts from number `first` to number `last`, which led to `o`. -/
structure Course (config : Config) (dial : Nat → HostAddress → Except StreamError Peer)
    (first last : Nat) (o : Opening) : Prop where
  /-- There is at least one. -/
  ordered : first ≤ last
  /-- There are no more than the policy allows. -/
  bounded : last ≤ config.retry.maxRetries.toNat
  /-- All but the last one may succeed when they are made again. -/
  again : ∀ i, first ≤ i → i < last → Transient (single config dial i)
  /-- The last one succeeds or fails for good, or the policy allows no other. -/
  settled : Transient (single config dial last) → last = config.retry.maxRetries.toNat
  /-- The outcome is that of the last one. -/
  outcome : o.outcome = single config dial last
  /-- There is one pause after each of them but the last one. -/
  log : o.log = (List.range' first (last - first)).flatMap (followed config dial) ++
    [.attempt (.ofNat last) (single config dial last)]
  /-- A connection that was opened is that of the last one, but for peers that it parted from before. -/
  connection : single config dial last = .ok () → ∃ former d,
    openTo config (dial last) = .ok () d ∧ Resumes former o.connection d

/-- The numbers of the attempts fit. -/
lemma Course.counted (h : Course config dial first last o) {i : Nat} (hi : i ≤ last) :
    (UInt32.ofNat i).toNat = i := by
  have hbounded := h.bounded
  have hmax := config.retry.maxRetries.toNat_lt
  exact UInt32.toNat_ofNat_of_lt' (by simp only [UInt32.size]; omega)

/-! ## The loop -/

/-- An attempt that is not followed by another one ends the loop. -/
lemma attemptFrom_of_settled {p : RetryPolicy}
    (h : Transient (outcome (c.connect (dial k.toNat))) → p.maxRetries.toNat ≤ k.toNat) :
    attemptFrom dial p k c =
      ⟨outcome (c.connect (dial k.toNat)), finalState (c.connect (dial k.toNat)),
        [.attempt k (outcome (c.connect (dial k.toNat)))]⟩ := by
  rw [attemptFrom]
  cases hc : c.connect (dial k.toNat) with
  | ok a d => rfl
  | error e d =>
      rw [hc] at h
      have hnot : (e.isTransient && p.allows k) = false := by
        rw [Bool.and_eq_false_imp]
        intro htransient
        have hle := h ⟨e, rfl, htransient⟩
        rw [← Bool.not_eq_true, RetryPolicy.allows_iff]
        omega
      simp only [hnot]
      rfl

/-- An attempt that is followed by another one makes the log longer. -/
lemma attemptFrom_of_transient {p : RetryPolicy}
    (h : Transient (outcome (c.connect (dial k.toNat)))) (hk : k.toNat < p.maxRetries.toNat) :
    attemptFrom dial p k c =
      let o := attemptFrom dial p (k + 1) (finalState (c.connect (dial k.toNat)))
      { o with log := .attempt k (outcome (c.connect (dial k.toNat))) :: .pause p.pause :: o.log } := by
  obtain ⟨e, herror, htransient⟩ := h
  cases hc : c.connect (dial k.toNat) with
  | ok a d =>
      rw [hc] at herror
      cases herror
  | error e' d =>
      rw [hc] at herror
      cases herror
      have hagain : (e.isTransient && p.allows k) = true := by
        rw [htransient, RetryPolicy.allows_iff.2 hk]
        rfl
      rw [attemptFrom, hc]
      simp only [hagain]
      rfl

/-- An attempt that is not followed by another one is a course. -/
lemma Course.of_settled (h : Idle config c) (hk : k.toNat ≤ config.retry.maxRetries.toNat)
    (hsettled : Transient (single config dial k.toNat) → config.retry.maxRetries.toNat ≤ k.toNat) :
    Course config dial k.toNat k.toNat (attemptFrom dial config.retry k c) := by
  have hsingle : Wire.outcome (c.connect (dial k.toNat)) = single config dial k.toNat :=
    h.outcome_eq (dial k.toNat)
  rw [attemptFrom_of_settled (hsingle ▸ hsettled), hsingle]
  exact {
    ordered := Nat.le_refl _
    bounded := hk
    again := fun i hfirst hlast => by omega
    settled := fun htransient => Nat.le_antisymm hk (hsettled htransient)
    outcome := rfl
    log := by simp
    connection := fun hok => h.resumes_of_ok (eq_of_outcome (hsingle.trans hok)) }

/-- An attempt before a course, and a pause, make a course. -/
lemma Course.of_transient (h : Course config dial (k.toNat + 1) last o)
    (htransient : Transient (single config dial k.toNat)) :
    Course config dial k.toNat last { o with
      log := .attempt k (single config dial k.toNat) :: .pause config.retry.pause :: o.log } where
  ordered := by
    have hordered := h.ordered
    omega
  bounded := h.bounded
  again i hfirst hlast := by
    rcases Nat.eq_or_lt_of_le hfirst with rfl | hlt
    · exact htransient
    · exact h.again i hlt hlast
  settled := h.settled
  outcome := h.outcome
  log := by
    have hordered := h.ordered
    have hlength : last - k.toNat = last - (k.toNat + 1) + 1 := by omega
    rw [hlength, List.range'_succ, List.flatMap_cons, h.log, followed, UInt32.ofNat_toNat]
    rfl
  connection := h.connection

/-- The loop runs a course of attempts. -/
lemma attemptFrom_course (dial : Nat → HostAddress → Except StreamError Peer) (h : Idle config c)
    (hk : k.toNat ≤ config.retry.maxRetries.toNat) :
    ∃ last, Course config dial k.toNat last (attemptFrom dial config.retry k c) := by
  induction hleft : config.retry.maxRetries.toNat - k.toNat generalizing k c with
  | zero => exact ⟨_, .of_settled h hk fun _ => by omega⟩
  | succ n ih =>
      by_cases htransient : Transient (single config dial k.toNat)
      · have hlt : k.toNat < config.retry.maxRetries.toNat := by omega
        have hsucc : (k + 1).toNat = k.toNat + 1 :=
          RetryPolicy.toNat_succ (RetryPolicy.allows_iff.2 hlt)
        have hsingle : outcome (c.connect (dial k.toNat)) = single config dial k.toNat :=
          h.outcome_eq (dial k.toNat)
        -- The connection that failed can connect again, so the next attempts are a course.
        have hfailed : Idle config (finalState (c.connect (dial k.toNat))) := by
          obtain ⟨e, herror, -⟩ := htransient
          exact h.of_failed (eq_of_outcome (hsingle.trans herror))
        obtain ⟨last, hlast⟩ := ih (k := k + 1) hfailed (by omega) (by omega)
        rw [attemptFrom_of_transient (hsingle ▸ htransient) hlt, hsingle]
        rw [hsucc] at hlast
        exact ⟨last, hlast.of_transient htransient⟩
      · exact ⟨_, .of_settled h hk fun hcontra => absurd hcontra htransient⟩

/-- A client makes attempts until one succeeds, one fails for good, or there was one more than the policy
has further ones; and it pauses once between two of them. Each has the outcome that it would have on a new
connection, which is never a refusal for the state that a former failure left, and the outcome of the last
one is that of the client. The numbers of the attempts fit. -/
theorem connect_course (config : Config) (dial : Nat → HostAddress → Except StreamError Peer) :
    ∃ last, Course config dial 0 last (connect config dial) ∧
      (∀ i ≤ last, (UInt32.ofNat i).toNat = i) ∧
      ∀ i s op, single config dial i ≠ .error (.invalidState s op) := by
  obtain ⟨last, hlast⟩ := attemptFrom_course dial (k := 0) (.new config) (Nat.zero_le _)
  exact ⟨last, hlast, fun i hi => hlast.counted hi, single_ne_invalidState⟩

end Client

end ColumnWire.Session
