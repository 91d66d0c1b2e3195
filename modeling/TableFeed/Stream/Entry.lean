import TableFeed.Events.Event
import TableFeed.Text.Url

/-!
# The event stream

Entries as the stream server gives them, the errors it answers, and the addresses it may have.
-/

namespace TableFeed

/-- A value of a field as the server gives it. -/
inductive RawValue where
  | text (s : String)
  | bytes (bs : List UInt8)
  /-- A number, a list or nothing. -/
  | other
  deriving DecidableEq, Repr

/-- The text of a value, if it is one. -/
def RawValue.text? : RawValue → Option String
  | .text s => some s
  | .bytes bs => Utf8.decode? bs
  | .other => none

/-- An entry as the server gives it. -/
structure RawEntry where
  id : String
  fields : List (String × RawValue)
  deriving DecidableEq, Repr

/-- The entry with the fields that are texts. Of fields of the same name the last one counts. -/
def RawEntry.entry (e : RawEntry) : Entry :=
  let last (name : String) : Option RawValue := e.fields.reverse.lookup name
  { id := e.id
    fields := (e.fields.map (·.1)).eraseDups.filterMap fun name =>
      ((last name).bind RawValue.text?).map (name, ·) }

namespace StreamError

/-- The kinds of errors that are known, by the word in front. -/
def kinds : List (String × String) :=
  [("ERR", "ResponseError"), ("EXECABORT", "ExecAbortError"), ("LOADING", "BusyLoadingError"),
   ("NOSCRIPT", "NoScriptError"), ("MOVED", "Moved"), ("ASK", "Ask"), ("TRYAGAIN", "TryAgain"),
   ("CLUSTERDOWN", "ClusterDown"), ("CROSSSLOT", "CrossSlot"), ("MASTERDOWN", "MasterDown"),
   ("READONLY", "ReadOnly"), ("NOTBUSY", "NotBusy")]

/-- The error of a reply: a word and a text behind it. -/
def ofReply (reply : String) : StreamError :=
  let (code, detail) := Split.first (· = ' ') reply.toList
  let code := String.ofList code
  let detail := detail.map String.ofList
  match kinds.lookup code with
  | some kind => .signalled kind detail
  | none => .extension code detail

/-- The error says that the group exists already. -/
def isBusyGroup (e : StreamError) : Bool :=
  Split.contains "BUSYGROUP".toList e.message.toList

/-- A text is not the number of a database. -/
def badDatabase (text : List Char) : Bool :=
  text ≠ [] && (Digits.signed64? (String.ofList text)).isNone

/-- A part of a login is no text once its escapes are taken back. -/
def badLogin (part : List Char) : Bool :=
  (Utf8.decode? (Percent.decodeBytes (Utf8.encode part))).isNone

/-- What is wrong with the address of a socket, if anything is. -/
def ofSocket? (u : Url) : Option StreamError :=
  let database := u.parameters.reverse.lookup "db"
  if u.path.head? ≠ some '/' ∨ u.host ∉ [.none, .name "localhost".toList] then
    some (.address "Missing path")
  else if database.any fun text => (Digits.signed64? text).isNone then
    some (.address "Invalid database number")
  else none

/-- What is wrong with the address of a server that is named by its host, if anything is. -/
def ofHost? (u : Url) : Option StreamError :=
  if u.host = .none then some (.address "Missing hostname")
  else if u.scheme = "rediss" then
    some (.address "can't connect with TLS, the feature is not enabled")
  else if badDatabase (Blank.trimBy (· = '/') u.path) then
    some (.address "Invalid database number")
  else if badLogin u.user then some (.address "Username is not valid UTF-8 string")
  else if badLogin u.password then some (.address "Password is not valid UTF-8 string")
  else none

/-- What is wrong with the address of a server, if anything is. -/
def ofAddress? (address : String) : Option StreamError :=
  match Url.parse address with
  | .error _ => some (.address "Redis URL did not parse")
  | .ok u =>
    if u.scheme ∈ ["unix", "redis+unix"] then ofSocket? u
    else if u.scheme ∈ ["redis", "rediss"] then ofHost? u
    else some (.address "Redis URL did not parse")

end StreamError

end TableFeed
