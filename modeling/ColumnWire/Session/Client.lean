import ColumnWire.Session.Connection

/-!
# Clients

Opening a session with further attempts. Only failures of the transport are tried again, after a pause
each; queries never are.
-/

namespace ColumnWire.Session

open ColumnWire.Stream ColumnWire.Time

/-- What happens while a session is opened. -/
inductive Event where
  /-- An attempt to connect, after so many further ones, and how it went. -/
  | attempt (number : UInt32) (outcome : Except ClientError Unit)
  /-- A pause. -/
  | pause (span : Span)

/-- How opening a session went. -/
structure Opening where
  /-- The outcome of the last attempt. -/
  outcome : Except ClientError Unit
  /-- The connection after it. -/
  connection : Connection
  /-- The attempts and the pauses, in their order. -/
  log : List Event

namespace RetryPolicy

variable {p : RetryPolicy} {attempt : UInt32}

/-- What it means that another attempt is allowed. -/
theorem allows_iff : p.allows attempt = true ↔ attempt.toNat < p.maxRetries.toNat := by
  rw [allows, decide_eq_true_eq, UInt32.lt_iff_toNat_lt]

/-- The number of another attempt that is allowed is one greater: there is room for it. -/
theorem toNat_succ (h : p.allows attempt = true) : (attempt + 1).toNat = attempt.toNat + 1 := by
  have hlt := allows_iff.1 h
  have hmax := p.maxRetries.toNat_lt
  rw [UInt32.toNat_add]
  exact Nat.mod_eq_of_lt (by simp only [UInt32.toNat_one]; omega)

end RetryPolicy

namespace Client

/-- Attempts to connect, after `attempt` further attempts. `dial` says what the network answers to each
attempt. -/
def attemptFrom (dial : Nat → HostAddress → Except StreamError Peer) (policy : RetryPolicy)
    (attempt : UInt32) (c : Connection) : Opening :=
  match c.connect (dial attempt.toNat) with
  | .ok _ c' => ⟨.ok (), c', [.attempt attempt (.ok ())]⟩
  | .error e c' =>
    if h : e.isTransient && policy.allows attempt then
      let o := attemptFrom dial policy (attempt + 1) c'
      { o with log := .attempt attempt (.error e) :: .pause policy.pause :: o.log }
    else ⟨.error e, c', [.attempt attempt (.error e)]⟩
termination_by policy.maxRetries.toNat - attempt.toNat
decreasing_by
  have hallows := (Bool.and_eq_true_iff.1 h).2
  have hlt := RetryPolicy.allows_iff.1 hallows
  rw [RetryPolicy.toNat_succ hallows]
  omega

/-- Connects, with as many further attempts as the policy of the configuration allows. -/
def connect (config : Config) (dial : Nat → HostAddress → Except StreamError Peer) : Opening :=
  attemptFrom dial config.retry 0 (Connection.new config)

end Client

end ColumnWire.Session
