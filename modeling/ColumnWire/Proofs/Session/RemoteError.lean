import Mathlib.Tactic.Common
import ColumnWire.Proofs.Packet.RoundTrip
import ColumnWire.Session.RemoteError

/-!
# Chains of remote errors

Going through an error and its causes ends, and meets every cause behind what it caused
(`Chain.toList_some`). Main statement: the error that a packet reports has as its chain what the packet
and its causes say, the outermost first (`RemoteError.chain_ofException`).
-/

namespace ColumnWire.Session

open ColumnWire.Packet

namespace RemoteError

/-- Behind the innermost cause there is nothing. -/
@[simp] lemma Chain.toList_none : toList ⟨none⟩ = [] := by
  rw [toList]
  rfl

/-- Behind an error comes what caused it. -/
@[simp] lemma Chain.toList_some (e : RemoteError) : toList ⟨some e⟩ = e :: toList ⟨e.nested⟩ := by
  rw [toList]
  rfl

/-- The chain of the error that a packet reports is what the packet and its causes say. -/
theorem chain_ofException (e : ServerException) :
    (ofException e).chain.toList.map toFault = e.faults := by
  induction e with
  | last f => simp [ofException, chain, ServerException.faults]
  | caused f cause ih =>
      have hstep : (ofException ⟨f, some cause⟩).chain.toList =
          ofException ⟨f, some cause⟩ :: (ofException cause).chain.toList := Chain.toList_some _
      rw [hstep, List.map_cons, ih]
      rfl

/-- It is as deep as the packet. -/
theorem depth_ofException (e : ServerException) : (ofException e).depth = e.faults.length := by
  rw [← chain_ofException, List.length_map, depth]

/-- Its innermost cause is the last that the packet speaks of. -/
theorem rootCause_ofException (e : ServerException) :
    some (ofException e).rootCause.toFault = e.faults.getLast? := by
  have hfirst : (ofException e).chain.toList ≠ [] := by simp [chain]
  rw [← chain_ofException, List.getLast?_map, rootCause, List.getLast?_eq_some_getLast hfirst]
  rfl

end RemoteError

end ColumnWire.Session
