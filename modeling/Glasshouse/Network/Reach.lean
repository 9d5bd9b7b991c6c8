/-!
# Reaching a server

Whether a server can be reached is a fact about the network, not about the server. The causes of a
failed connection are listed from the outermost to the operating system's own.
-/

namespace Glasshouse.Network

/-- What becomes of an attempt to connect. -/
inductive Reach where
  /-- The server takes the connection and answers. -/
  | answering
  /-- Nothing takes connections at the address. -/
  | refused
  /-- There is no route to the address. -/
  | noRoute
  /-- The connection is taken, and nothing is ever answered. -/
  | silent
deriving DecidableEq, Repr

/-- The operating system's text for a failed attempt. -/
def Reach.systemError? : Reach → Option String
  | answering | silent => none
  | refused => some "Connection refused (os error 111)"
  | noRoute => some "Network is unreachable (os error 101)"

end Glasshouse.Network
