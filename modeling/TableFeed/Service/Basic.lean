import TableFeed.Error
import TableFeed.Log
import TableFeed.Publishing.Batch

/-!
# Services

A service takes provisioning calls and batches of rows, and changes a state. A traced service does
the same and writes a log line for every call, with its arguments and its outcome; the time that
the call took stands as `_`.
-/

namespace TableFeed

/-- What can be asked of an adapter with states `σ`. A call gives the state afterwards and the
failure, if there was one. -/
structure Service (σ : Type) where
  createThing (id channel metadata : String) : σ → σ × Option Error
  updateThing (id channel metadata : String) : σ → σ × Option Error
  removeThing (id : String) : σ → σ × Option Error
  createChannel (id name : String) : σ → σ × Option Error
  removeChannel (id : String) : σ → σ × Option Error
  publish (batch : Batch) : σ → σ × Option Error
  /-- Writes to the log. -/
  note (line : LogLine) : σ → σ

namespace Service

/-- The log line for the outcome of a call. -/
def outcome (operation : String) (failure : Option Error) : LogLine :=
  match failure with
  | none => ⟨.info, s!"{operation} took _ to complete without errors."⟩
  | some e => ⟨.warn, s!"{operation} took _ to complete with error: {e.message}."⟩

variable {σ : Type}

/-- A call that logs its outcome. -/
def trace (service : Service σ) (operation : String) (call : σ → σ × Option Error) (s : σ) :
    σ × Option Error :=
  let (s, failure) := call s
  (service.note (outcome operation failure) s, failure)

/-- The service that logs the outcome of every call. -/
def traced (service : Service σ) : Service σ where
  createThing id channel metadata :=
    service.trace s!"create_thing mfx:dbreader:{id}:{channel}"
      (service.createThing id channel metadata)
  updateThing id channel metadata :=
    service.trace s!"update_thing mfx:dbreader:{id}:{channel}"
      (service.updateThing id channel metadata)
  removeThing id := service.trace s!"remove_thing mfx:dbreader:{id}" (service.removeThing id)
  createChannel id name :=
    service.trace s!"create_channel mfx:dbreader:{id}:{name}" (service.createChannel id name)
  removeChannel id := service.trace s!"remove_channel mfx_channel_{id}" (service.removeChannel id)
  publish batch := service.trace batch.display (service.publish batch)
  note := service.note

end Service

end TableFeed
