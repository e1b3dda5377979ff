/-!
# Protocol revisions

Each side announces the revision of the protocol that it speaks. Some fields of later packets are
there only from a certain revision on; the gates below say from which.
-/

namespace ColumnWire.Packet

/-- A revision of the protocol; zero while none is known. -/
structure Revision where
  /-- The number that is announced. -/
  number : UInt64
  deriving DecidableEq, Repr

namespace Revision

/-- The revision that this client announces. -/
def client : Revision := ⟨54429⟩

/-- No revision yet. -/
def unknown : Revision := ⟨0⟩

/-- Whether no revision is known. -/
def isUnknown (r : Revision) : Bool := r.number == 0

/-- The revision that a query carries: that of the server, or of the client while the server's is
unknown. -/
def negotiated (server : Revision) : Revision :=
  if server.isUnknown then client else server

/-- Whether the server's greeting names a time zone. -/
def hasTimezone (r : Revision) : Bool := 54058 ≤ r.number

/-- Whether the server's greeting has a display name. -/
def hasDisplayName (r : Revision) : Bool := 54372 ≤ r.number

/-- Whether the server's greeting has a patch version. -/
def hasVersionPatch (r : Revision) : Bool := 54401 ≤ r.number

/-- Whether a query has the secret that servers share. -/
def hasInterserverSecret (r : Revision) : Bool := 54441 ≤ r.number

/-- Whether a query has a section of parameters. -/
def hasParameters (r : Revision) : Bool := 54459 ≤ r.number

/-- Whether a revision is older than this client's. -/
def isBelowClient (r : Revision) : Bool := r.number < client.number

end Revision

end ColumnWire.Packet
