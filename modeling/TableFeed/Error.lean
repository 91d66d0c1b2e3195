import TableFeed.Json.Failure

/-!
# Errors

What can go wrong, by cause. `ReadError` is the failure of one reading of a source; `Error` is
everything else the adapter reports. The wording of each stands in its `message`.
-/

namespace TableFeed

/-- Why a file could not be read or written. -/
inductive FileError where
  | notFound
  | isDirectory
  | notDirectory
  | nameTooLong
  | nulInName
  | denied
  | notText
  /-- Another failure of the system, in its words. -/
  | other (wording : String)
  deriving DecidableEq, Repr

/-- The wording of a file error. -/
def FileError.message : FileError → String
  | .notFound => "No such file or directory (os error 2)"
  | .isDirectory => "Is a directory (os error 21)"
  | .notDirectory => "Not a directory (os error 20)"
  | .nameTooLong => "File name too long (os error 36)"
  | .nulInName => "file name contained an unexpected NUL byte"
  | .denied => "Permission denied (os error 13)"
  | .notText => "stream did not contain valid UTF-8"
  | .other wording => wording

/-- Why a database did not answer. -/
inductive DatabaseError where
  /-- There is no server. -/
  | unreachable
  /-- The server answered an error. -/
  | refused
  /-- A text of the message cannot be sent. -/
  | unsendable
  deriving DecidableEq, Repr

/-- The wording of a database error. -/
def DatabaseError.message : DatabaseError → String
  | .unreachable => "error connecting to server"
  | .refused => "db error"
  | .unsendable => "error encoding message to server"

/-- The failure of one reading of a source. -/
inductive ReadError where
  | fileOpen (path : String) (cause : FileError)
  | emptySource (path : String)
  | connection (target : String) (cause : DatabaseError)
  | query (text : String) (cause : DatabaseError)
  | decode (column message : String)
  deriving DecidableEq, Repr

namespace ReadError

/-- The wording of a reading's failure. -/
def message : ReadError → String
  | .fileOpen path cause => s!"failed to open source file {path}: {cause.message}"
  | .emptySource path => s!"source {path} is empty"
  | .connection target cause => s!"connection to {target} failed: {cause.message}"
  | .query text cause => s!"query '{text}' failed: {cause.message}"
  | .decode column message => s!"column '{column}' could not be decoded: {message}"

/-- The source holds no header. -/
def isEmptySource : ReadError → Bool
  | .emptySource _ => true
  | _ => false

end ReadError

/-- Why the event stream did not answer. -/
inductive StreamError where
  /-- The address of the stream is malformed. -/
  | address (detail : String)
  /-- The server answered an error of a kind that is known. -/
  | signalled (kind : String) (detail : Option String)
  /-- The server answered an error of another kind. -/
  | extension (code : String) (detail : Option String)
  deriving DecidableEq, Repr

/-- The wording of a stream error. -/
def StreamError.message : StreamError → String
  | .address detail => detail ++ "- InvalidClientConfig"
  | .signalled kind none => "An error was signalled by the server- " ++ kind
  | .signalled kind (some detail) =>
    "An error was signalled by the server - " ++ kind ++ ": " ++ detail
  | .extension code detail =>
    code ++ ": " ++ detail.getD "Unknown extension error encountered"

/-- What the adapter reports. -/
inductive Error where
  | configuration (message : String) (key : Option String)
  | storeNotFound (path : String)
  | malformedIdentity
  | malformedMetadata (cause : Json.Error)
  | notFound (id : String)
  | readerNotFound (id : String) (cause : Error)
  | source (cause : ReadError)
  | publish (topic message : String)
  | eventDecode (message : String)
  | foreignMetadata (expected : String)
  | eventStore (cause : StreamError)
  | file (cause : FileError)
  /-- The first tick of a timer lies behind the end of the clock. Such a sum has no value, and in a
  running service the call that forms it does not return; see `Registry.start`. -/
  | clockRange
  deriving Repr, Inhabited

namespace Error

/-- The wording of an error. -/
def message : Error → String
  | .configuration message _ => s!"Configuration error: {message}"
  | .storeNotFound path => s!"configuration store not found: {path}"
  | .malformedIdentity => "malformed identity received"
  | .malformedMetadata cause => s!"malformed reader metadata: {cause.message}"
  | .notFound id => s!"configuration not found: {id}"
  | .readerNotFound id cause => s!"Reader {id} not found: {cause.message}"
  | .source cause => s!"Source error: {cause.message}"
  | .publish topic message => s!"Publish to '{topic}' failed: {message}"
  | .eventDecode message => s!"Event decode error: {message}"
  | .foreignMetadata expected => s!"metadata is not of type {expected}"
  | .eventStore cause => s!"Event store error: {cause.message}"
  | .file cause => s!"IO error: {cause.message}"
  | .clockRange => "overflow when adding duration to instant"

/-- The error says that an id is unknown, by itself or as the cause of another. -/
def isNotFound : Error → Bool
  | .notFound _ => true
  | .readerNotFound _ cause => cause.isNotFound
  | _ => false

/-- The error says that a source holds no header. -/
def isEmptySource : Error → Bool
  | .source cause => cause.isEmptySource
  | _ => false

end Error

end TableFeed
