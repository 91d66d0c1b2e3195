import TableFeed.Config.Basic
import TableFeed.Events.Delivery
import TableFeed.Stream.Entry

/-!
# The event consumer

The consumer reads entries of a stream for a group and has a service handle them. It first reads
the entries it was given before and never acknowledged; when there are none left it goes on to new
ones, and it returns to the old ones whenever a batch is abandoned, so that a failed entry is
handled again before anything newer. Failed reads and abandoned batches wait out a backoff.
-/

namespace TableFeed

/-- Which entries a read asks for. -/
inductive Cursor where
  /-- Entries given before and not acknowledged. -/
  | pending
  /-- Entries never given before. -/
  | fresh
  deriving DecidableEq, Repr

/-- The mark of a cursor in a command. -/
def Cursor.mark : Cursor → String
  | .pending => "0"
  | .fresh => ">"

/-- A command to the server. -/
inductive Command where
  | createGroup
  | read (cursor : Cursor)
  | ack (ids : List String)
  deriving DecidableEq, Repr

/-- The words of a command. -/
def Command.words (c : ConsumerConfig) : Command → List String
  | .createGroup => ["XGROUP", "CREATE", c.stream, c.group, "$", "MKSTREAM"]
  | .read cursor =>
    ["XREADGROUP", "GROUP", c.group, c.consumer, "BLOCK", toString c.block.millis, "COUNT",
      toString c.count, "STREAMS", c.stream, cursor.mark]
  | .ack ids => ["XACK", c.stream, c.group] ++ ids

/-- What comes of a read. -/
inductive ReadReply where
  | entries (es : List Entry)
  | failed (cause : StreamError)
  /-- The end is asked for before the server answers. -/
  | interrupted
  deriving DecidableEq, Repr

/-- What the consumer meets in one round. -/
structure Turn where
  reply : ReadReply
  /-- Why the acknowledgment of the round fails, if it does. -/
  ackFailure : Option StreamError := none
  /-- The end is asked for while entries are handled or a backoff is waited out. -/
  endAsked : Bool := false
  deriving Repr

/-- A consumer whose service has states `σ`. -/
structure Consumer (σ : Type) where
  config : ConsumerConfig
  state : σ
  backoff : Backoff
  attempts : Attempts
  cursor : Cursor := .pending
  /-- The commands sent so far, first to last. -/
  commands : List Command := []
  /-- The delays waited out so far, first to last. -/
  waits : List Duration := []
  stopped : Bool := false

namespace Consumer

variable {σ : Type}

/-- A consumer that has sent nothing yet. -/
def ofConfig (config : ConsumerConfig) (state : σ) : Consumer σ :=
  { config, state, backoff := { limits := config.backoff },
    attempts := .ofLimit config.maxDeliveries }

/-- Sends a command. -/
def send (c : Consumer σ) (command : Command) : Consumer σ :=
  { c with commands := c.commands ++ [command] }

/-- Writes to the log of the service. -/
def note (service : Service σ) (c : Consumer σ) (level : Level) (body : String) : Consumer σ :=
  { c with state := service.note ⟨level, body⟩ c.state }

/-- Creates the group; one that exists already will do. -/
def ensureGroup (service : Service σ) (failure : Option StreamError) (c : Consumer σ) :
    Consumer σ × Option Error :=
  let c := c.send .createGroup
  match failure with
  | none => (c.note service .info s!"[EventStore] Created consumer group '{c.config.group}'", none)
  | some e => if e.isBusyGroup then (c, none) else (c, some (.eventStore e))

/-- Acknowledges entries, if there are any. A failure is logged. -/
def acknowledge (service : Service σ) (ids : List String) (failure : Option StreamError)
    (c : Consumer σ) : Consumer σ :=
  if ids.isEmpty then c
  else
    let c := c.send (.ack ids)
    match failure with
    | none => c
    | some e =>
      c.note service .warn
        s!"[EventStore] Failed to acknowledge events: {(Error.eventStore e).message}"

/-- Counts a failed round; gives the delay after it. -/
def fail (c : Consumer σ) : Consumer σ × Duration :=
  let (backoff, delay) := c.backoff.next
  ({ c with backoff, waits := c.waits ++ [delay] }, delay)

/-- Forgets the failed rounds. -/
def succeed (c : Consumer σ) : Consumer σ :=
  { c with backoff := c.backoff.reset }

/-- Handles the entries of a read. -/
def receive (service : Service σ) (entries : List Entry) (ackFailure : Option StreamError)
    (c : Consumer σ) : Consumer σ :=
  if entries.isEmpty then { c.succeed with cursor := .fresh }
  else
    let (state, attempts, delivery) := service.deliverTracked entries c.attempts c.state
    let c := ({ c with state, attempts } : Consumer σ).acknowledge service delivery.acked ackFailure
    if delivery.abandoned then
      let (c, delay) := ({ c with cursor := .pending } : Consumer σ).fail
      c.note service .debug s!"[EventStore] Retrying unacknowledged events in {delay.text}"
    else c.succeed

/-- One round: a read and what comes of it. A consumer that has stopped reads no more. -/
def step (service : Service σ) (c : Consumer σ) (turn : Turn) : Consumer σ :=
  if c.stopped then c
  else
    let c := c.send (.read c.cursor)
    match turn.reply with
    | .interrupted => { c with stopped := true }
    | .failed e =>
      let (c, delay) := c.fail
      let retrying :=
        s!"[EventStore] Read failed (attempt {c.backoff.failures}), retrying in {delay.text}"
      let c := c.note service .warn s!"{retrying}: {(Error.eventStore e).message}"
      { c with stopped := turn.endAsked }
    | .entries es => { c.receive service es turn.ackFailure with stopped := turn.endAsked }

/-- The rounds of a run. -/
def run (service : Service σ) (c : Consumer σ) (turns : List Turn) : Consumer σ :=
  turns.foldl (step service) c

/-- A run from the creation of the group to the end; only a group that cannot be created fails
it. -/
def subscribe (service : Service σ) (groupFailure : Option StreamError) (turns : List Turn)
    (c : Consumer σ) : Consumer σ × Option Error :=
  match c.ensureGroup service groupFailure with
  | (c, some e) => (c, some e)
  | (c, none) =>
    let c := c.run service turns
    (c.note service .info s!"[EventStore] Stopped consuming '{c.config.stream}'", none)

/-- The start of a consumer, as the log shows it. -/
def connect (service : Service σ) (c : Consumer σ) : Consumer σ :=
  let stream := s!"stream '{c.config.stream}' group '{c.config.group}'"
  c.note service .info
    s!"[EventStore] Connected, {stream} consumer '{c.config.consumer}'"

end Consumer

end TableFeed
