import TableFeed.Publishing.Publisher

/-!
# Publishing to the log

A publisher that logs every message in place of sending it. It can record what it published, and
it can be told to refuse every message after a number of successes.
-/

namespace TableFeed

/-- A publisher that logs; `published` holds what it recorded, oldest first. -/
structure LogPublisher where
  record : Bool := false
  failAfter : Option Nat := none
  published : List (String × Message) := []
  deriving Repr

namespace LogPublisher

/-- A publisher that keeps what it publishes. -/
def recording : LogPublisher :=
  { record := true }

/-- A recording publisher that refuses everything after a number of successes. -/
def failingAfter (successes : Nat) : LogPublisher :=
  { record := true, failAfter := some successes }

/-- The next message is refused. -/
def refuses (p : LogPublisher) : Bool :=
  p.failAfter.any (· ≤ p.published.length)

/-- Publishes a message under a topic: the publisher afterwards, the log lines, the failure. -/
def publish (p : LogPublisher) (topic : String) (m : Message) :
    LogPublisher × List LogLine × Option Error :=
  if p.refuses then (p, [], some (.publish topic "log publisher rejected message"))
  else
    let published := if p.record then p.published ++ [(topic, m)] else p.published
    ({ p with published }, [⟨.info, s!"[LOG] {topic} {m.payload}"⟩], none)

instance : Publisher LogPublisher where
  publish := LogPublisher.publish

end LogPublisher

end TableFeed
