/-!
# Shutdown

A coordinator tells every receiver that the program is to end. A receiver remembers which request
it has seen last; each request counts, also one that repeats another.
-/

namespace TableFeed

/-- The requests so far and what each receiver has seen of them. -/
structure Shutdown where
  requests : Nat := 0
  seen : List Nat := []
  deriving DecidableEq, Repr

namespace Shutdown

/-- The program is to end. -/
def requested (s : Shutdown) : Bool :=
  0 < s.requests

/-- Asks the program to end. -/
def request (s : Shutdown) : Shutdown :=
  { s with requests := s.requests + 1 }

/-- A new receiver, which has seen everything so far. -/
def subscribe (s : Shutdown) : Shutdown :=
  { s with seen := s.seen ++ [s.requests] }

/-- Every receiver sees the current state. -/
def markSeen (s : Shutdown) : Shutdown :=
  { s with seen := s.seen.map fun _ => s.requests }

/-- An interrupt while the program waits for one. -/
def interrupt (s : Shutdown) : Shutdown :=
  s.request

/-- For each receiver, whether there are requests it has not seen. -/
def unseen (s : Shutdown) : List Bool :=
  s.seen.map (· != s.requests)

end Shutdown

end TableFeed
