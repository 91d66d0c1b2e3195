import TableFeed.Error
import TableFeed.Log
import TableFeed.Publishing.Message

/-!
# Publishers

A publisher takes messages, each under a topic. It may refuse any of them, and what it does with
the next one may depend on all before it.
-/

namespace TableFeed

/-- Publishers whose states are of type `π`. -/
class Publisher (π : Type) where
  /-- Publishes a message under a topic: the publisher afterwards, the log lines, the failure. -/
  publish : π → String → Message → π × List LogLine × Option Error

end TableFeed
