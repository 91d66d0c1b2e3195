import TableFeed.Events.Attempts
import TableFeed.Events.Event
import TableFeed.Service.Basic

/-!
# Delivery of entries

A batch of entries is handled in order. Handling stops at the first entry that fails, so that it
and those behind it are delivered again; entries in front of it may be acknowledged. Where attempts
are counted, an entry whose attempts are used up is dropped: acknowledged and passed over.
-/

namespace TableFeed

/-- What came of handling an entry. -/
inductive Verdict where
  | handled
  /-- It failed and its attempts are used up. -/
  | dropped
  /-- It failed and is to be delivered again. -/
  | failed
  deriving DecidableEq, Repr

/-- What came of a batch. -/
structure Delivery where
  /-- The entries that may be acknowledged, in order. -/
  acked : List String := []
  /-- The entries given up; they are acknowledged too. -/
  dropped : List String := []
  /-- An entry failed and those behind it were not handled. -/
  abandoned : Bool := false
  deriving DecidableEq, Repr

/-- The delivery with an entry in front that is not to be delivered again. -/
def Delivery.settle (d : Delivery) (id : String) (verdict : Verdict) : Delivery :=
  { d with
    acked := id :: d.acked
    dropped := if verdict = .dropped then id :: d.dropped else d.dropped }

namespace Service

variable {σ : Type}

/-- Does what an event asks for. -/
def handle (service : Service σ) (s : σ) : Event → σ × Option Error
  | .thingCreate p | .thingUpdate p => service.createThing p.id p.channel p.source s
  | .thingRemove id => service.removeThing id s
  | .channelRemove id => service.removeChannel id s
  | .ignored _ => (s, none)

/-- Handles an entry. Metadata for another adapter and the removal of an unknown thing are no
failures. -/
def process (service : Service σ) (e : Entry) (s : σ) : σ × Option Error :=
  match Event.decode e with
  | .error (.foreignMetadata _) =>
    (service.note ⟨.debug, s!"[EventStore] Skipping event {e.id} for another domain"⟩ s, none)
  | .error cause => (s, some cause)
  | .ok (.thingRemove id) =>
    match service.handle s (.thingRemove id) with
    | (s, none) => (s, none)
    | (s, some cause) =>
      if cause.isNotFound then
        (service.note
          ⟨.debug, s!"[EventStore] Event {e.id} removes an unknown thing: {cause.message}"⟩ s, none)
      else (s, some cause)
  | .ok event => service.handle s event

/-- Handles an entry and counts a failed attempt where there is a count. A failure is logged. -/
def attempt (service : Service σ) (e : Entry) (attempts : Option Attempts) (s : σ) :
    σ × Option Attempts × Verdict :=
  match service.process e s with
  | (s, none) => (s, attempts.map (·.clear e.id), .handled)
  | (s, some cause) =>
    match attempts.map (·.fail e.id) with
    | some (attempts, true) =>
      let dropping := s!"[EventStore] Dropping event {e.id} after {attempts.limit} failed attempts"
      (service.note ⟨.error, s!"{dropping}: {cause.message}"⟩ s, some attempts, .dropped)
    | other =>
      (service.note ⟨.warn, s!"[EventStore] Failed to handle event {e.id}: {cause.message}"⟩ s,
        other.map (·.1), .failed)

/-- Handles a batch of entries, counting failed attempts where there is a count. -/
def deliver (service : Service σ) :
    List Entry → Option Attempts → σ → σ × Option Attempts × Delivery
  | [], attempts, s => (s, attempts, {})
  | e :: rest, attempts, s =>
    match service.attempt e attempts s with
    | (s, attempts, .failed) => (s, attempts, { abandoned := true })
    | (s, attempts, verdict) =>
      let (s, attempts, d) := deliver service rest attempts s
      (s, attempts, d.settle e.id verdict)

/-- Handles a batch of entries without counting attempts. -/
def deliverOnce (service : Service σ) (entries : List Entry) (s : σ) : σ × Delivery :=
  let (s, _, d) := service.deliver entries none s
  (s, d)

/-- Handles a batch of entries and counts failed attempts. -/
def deliverTracked (service : Service σ) (entries : List Entry) (attempts : Attempts) (s : σ) :
    σ × Attempts × Delivery :=
  match service.deliver entries (some attempts) s with
  | (s, some attempts, d) => (s, attempts, d)
  | (s, none, d) => (s, attempts, d)

end Service

end TableFeed
