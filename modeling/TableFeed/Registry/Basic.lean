import TableFeed.Publishing.Batch
import TableFeed.Registry.Store
import TableFeed.Source.Reader
import TableFeed.Timing.Scheduler

/-!
# The registry

The registry maps a thing's id to its feed: where its rows are published, which source they are
read from, and which poller reads it. A source is a reader with the metadata of its last completed
reading; a poller waits for its ticker and then reads and publishes one batch. Sources and pollers
are named by numbers and outlive the feed they were made for: a poller that was told to stop still
finishes the batch it is at.

Every operation here is one step that nothing else comes between.
-/

namespace TableFeed

/-- A reader with the metadata of its last completed reading. -/
structure Source where
  reader : Reader
  snapshot : Json
  /-- The poller that is reading. -/
  holder : Option Nat := none
  deriving Repr

/-- A registered thing. -/
structure Feed where
  channel : String
  /-- The number of its source. -/
  source : Nat
  interval : Duration
  /-- The number of its running poller. -/
  poller : Option Nat := none
  deriving DecidableEq, Repr

/-- The feed without a poller. -/
def Feed.idle (f : Feed) : Feed :=
  { f with poller := none }

/-- What a poller is at. -/
inductive Phase where
  /-- It waits for its ticker. -/
  | waiting
  /-- It has taken a tick and waits for its source. -/
  | ticked
  | reading
  /-- It publishes a batch, of which these messages are left. -/
  | publishing (batch : Batch) (rest : List (String × Message))
  | exited
  deriving DecidableEq, Repr

/-- A task that polls a source. -/
structure Poller where
  thing : String
  channel : String
  source : Nat
  /-- Its batches are published by a service that logs its calls. -/
  traced : Bool
  ticker : Ticker
  phase : Phase := .waiting
  deriving DecidableEq, Repr

namespace Poller

/-- The poller, told to stop. -/
def stop (p : Poller) : Poller :=
  { p with ticker := p.ticker.stop }

/-- It waits and was told to stop. -/
def exiting (p : Poller) : Bool :=
  p.ticker.stopped && p.phase == .waiting

/-- The poller, which exits if it waits and was told to stop. -/
def exit (p : Poller) : Poller :=
  if p.exiting then { p with phase := .exited } else p

end Poller

/-- The registered things in the order of their ids, with all sources and pollers made so far. -/
structure Registry where
  feeds : List (String × Feed) := []
  sources : List Source := []
  pollers : List Poller := []
  deriving Repr

namespace Registry

/-- The feed of a thing. -/
def feed? (r : Registry) (id : String) : Option Feed :=
  r.feeds.lookup id

/-- The ids of the registered things, in order. -/
def ids (r : Registry) : List String :=
  r.feeds.map (·.1)

/-- The pollers that have not exited. -/
def running (r : Registry) : Nat :=
  r.pollers.countP fun p => p.phase != .exited

/-- The feeds with one more, in the order of ids; a feed of the same id is replaced. -/
def putFeed (id : String) (f : Feed) : List (String × Feed) → List (String × Feed)
  | [] => [(id, f)]
  | (i, g) :: rest =>
    if i = id then (id, f) :: rest
    else if id < i then (id, f) :: (i, g) :: rest
    else (i, g) :: putFeed id f rest

/-- The number of the poller that runs for a thing. -/
def poller? (r : Registry) (id : String) : Option Nat :=
  (r.feed? id).bind (·.poller)

/-- Tells a poller to stop, if there is one. -/
def halt (r : Registry) : Option Nat → Registry
  | none => r
  | some p => { r with pollers := r.pollers.modify p Poller.stop }

/-- The feed of a reader that is put in next. -/
def newFeed (r : Registry) (channel : String) (reader : Reader) : Feed :=
  { channel, source := r.sources.length, interval := .interval reader.interval }

/-- Puts a new reader under an id. The feed that was there is replaced and its poller told to stop;
the new one has none yet. -/
def install (r : Registry) (id channel : String) (reader : Reader) : Registry :=
  let feed := r.newFeed channel reader
  let r := r.halt (r.poller? id)
  { r with
    sources := r.sources ++ [{ reader, snapshot := reader.metadata }]
    feeds := putFeed id feed r.feeds }

/-- Puts readers under their ids, one after the other. -/
def installAll (r : Registry) (loaded : List (StoredFeed × Reader)) : Registry :=
  loaded.foldl (fun r (f, reader) => r.install f.id f.channel reader) r

/-- Removes the feed of a thing and tells its poller to stop. -/
def remove? (r : Registry) (id : String) : Option Registry :=
  (r.feed? id).map fun f =>
    let r := r.halt f.poller
    { r with feeds := r.feeds.filter (·.1 ≠ id) }

/-- Starts a poller for the feed of a thing; the one before it is told to stop.

If the first tick lies behind the end of the clock, the feed has no poller any more and `clockRange` is
the failure. A running service does not get behind that sum: the call goes down with it, and so does the
task that made the call. What becomes of the failure here (it is returned, logged, counted by a delivery,
and the delivery is made again) only adds to the runs of a service; up to the sum the two are the same. -/
def start (r : Registry) (id : String) (traced : Bool) (now : Instant) :
    Registry × Option Error :=
  match r.feed? id with
  | none => (r, some (.notFound id))
  | some f =>
    let r := r.halt f.poller
    match Ticker.start? f.interval now with
    | none => ({ r with feeds := putFeed id f.idle r.feeds }, some .clockRange)
    | some ticker =>
      let poller : Poller :=
        { thing := id, channel := f.channel, source := f.source, traced, ticker }
      ({ r with
          pollers := r.pollers ++ [poller]
          feeds := putFeed id { f with poller := some r.pollers.length } r.feeds }, none)

/-- Tells every poller of a feed to stop. -/
def stopAll (r : Registry) : Registry :=
  let r := r.feeds.foldl (fun r e => r.halt e.2.poller) r
  { r with feeds := r.feeds.map fun e => (e.1, e.2.idle) }

/-- What the store is to keep: every feed with the snapshot of its source. -/
def stored (r : Registry) : List StoredFeed :=
  r.feeds.map fun (id, f) =>
    { id, channel := f.channel,
      metadata := match r.sources[f.source]? with
        | some s => s.snapshot
        | none => .null }

/-- The text of the store. -/
def storeText (r : Registry) : String :=
  Store.text r.stored

/-! ### Steps of pollers -/

/-- The registry with a poller at another phase. -/
def setPhase (r : Registry) (p : Nat) (phase : Phase) : Registry :=
  { r with pollers := r.pollers.modify p fun q => { q with phase } }

/-- A poller takes a tick that is due, unless it was told to stop. -/
def takeTick (r : Registry) (p : Nat) (now : Instant) : Registry :=
  match r.pollers[p]? with
  | none => r
  | some q =>
    match q.phase with
    | .waiting =>
      if q.ticker.ready now then
        let q := { q with ticker := q.ticker.take now, phase := .ticked }
        { r with pollers := r.pollers.set p q }
      else r
    | _ => r

/-- A poller that has taken a tick gets hold of its source, if no other poller holds it. -/
def holdSource (r : Registry) (p : Nat) : Registry :=
  match r.pollers[p]? with
  | none => r
  | some q =>
    match q.phase, r.sources[q.source]? with
    | .ticked, some s =>
      if s.holder.isSome then r
      else { r.setPhase p .reading with
        sources := r.sources.set q.source { s with holder := some p } }
    | _, _ => r

/-- A poller ends a reading: its source keeps the reader as it is now and a new snapshot, and the
rows go on to be published. -/
def finishReading (r : Registry) (p : Nat) (kind : ReaderKind) (reader : Reader)
    (result : Except ReadError (List Row)) : Registry :=
  match r.pollers[p]? with
  | none => r
  | some q =>
    let r := { r with
      sources := r.sources.set q.source { reader, snapshot := reader.metadata } }
    match result with
    | .error _ => r.setPhase p .waiting
    | .ok rows =>
      let batch : Batch := ⟨kind.tag, q.thing, q.channel, rows⟩
      r.setPhase p (.publishing batch batch.messages)

/-- A poller exits, if it waits and was told to stop. -/
def exit (r : Registry) (p : Nat) : Registry :=
  { r with pollers := r.pollers.modify p Poller.exit }

/-- The pollers that wait and were told to stop exit. -/
def exitStopped (r : Registry) : Registry :=
  { r with pollers := r.pollers.map Poller.exit }

/-- The things whose pollers wait and were told to stop, in the order of the pollers. -/
def exiting (r : Registry) : List String :=
  (r.pollers.filter Poller.exiting).map (·.thing)

/-- The poller whose tick is due first of those due up to a moment, with that moment; of two that
are due at once, the older one. -/
def nextDue (r : Registry) (limit : Instant) : Option (Nat × Instant) :=
  let due (q : Poller) : Bool := q.phase == .waiting && q.ticker.ready limit
  (r.pollers.zipIdx.filter fun (q, _) => due q).foldl
    (fun best (q, i) =>
      match best with
      | some (_, moment) => if q.ticker.due < moment then some (i, q.ticker.due) else best
      | none => some (i, q.ticker.due))
    none

/-- The number of ticks of a poller that are due up to a moment. -/
def pollerTicks (limit : Instant) (q : Poller) : Nat :=
  if q.ticker.ready limit then (limit - q.ticker.due) / q.ticker.interval.nanos + 1 else 0

/-- The number of ticks due up to a moment. -/
def ticksUntil (r : Registry) (limit : Instant) : Nat :=
  r.pollers.foldl (fun n q => n + pollerTicks limit q) 0

end Registry

end TableFeed
