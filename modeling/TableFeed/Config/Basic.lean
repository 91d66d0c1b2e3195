import TableFeed.Config.CommandLine
import TableFeed.Text.Percent
import TableFeed.Timing.Backoff

/-!
# Configuration

The configuration of the adapter, made from its settings, and what its parts are made of: the
address of the event store, the event consumer and the message bus.
-/

namespace TableFeed

/-- How provisioning events are consumed. -/
structure ConsumerConfig where
  stream : String := "mainflux.things"
  group : String := "mainflux.dbreader"
  consumer : String := "dbreader"
  /-- The most entries of one read. -/
  count : Nat := 100
  /-- The longest a read waits for entries. -/
  block : Duration := .ofSeconds 5
  /-- The failed attempts after which an entry is given up. -/
  maxDeliveries : Nat := 5
  backoff : BackoffLimits := {}
  deriving Repr

/-- How messages are published to a broker. -/
structure BrokerConfig where
  uri : String
  exchange : String
  persistent : Bool := true
  declareExchange : Bool := true
  mandatory : Bool := false
  deriving Repr

/-- The configuration of the adapter. -/
structure Config where
  readerKind : ReaderKind
  logLevel : String
  configFile : String
  fsUser : String
  fsPass : String
  esUrl : String
  esPass : String
  esDb : Nat
  esConsumer : String
  esStream : String
  esGroup : String
  esMaxDeliveries : Nat
  amqpUrl : String
  amqpExchange : String
  dryRun : Bool
  deriving Repr

namespace Config

/-- The configuration of some settings; the others have their defaults. -/
def ofSettings (given : List (Setting × String)) : Config :=
  let get (s : Setting) : String := (given.lookup s).getD s.default
  let word (s : Setting) : Nat := (Setting.word32? (get s)).getD 0
  { readerKind := (ReaderKind.ofTag? (get .readerType)).getD .csv
    logLevel := get .logLevel
    configFile := get .configFile
    fsUser := get .fsUser
    fsPass := get .fsPass
    esUrl := get .esUrl
    esPass := get .esPass
    esDb := word .esDb
    esConsumer := get .esConsumer
    esStream := get .esStream
    esGroup := get .esGroup
    esMaxDeliveries := word .esMaxDeliveries
    amqpUrl := get .amqpUrl
    amqpExchange := get .amqpExchange
    dryRun := get .dryRun = "true" }

/-- The configuration that a command line and an environment give. -/
def parse (args : List String) (env : List (String × String)) : Except SettingError Config :=
  (CommandLine.settings args env).map ofSettings

/-- The address of the event store: the setting itself if it is a URL, else one made of host and
port, database and password. -/
def eventStoreUrl (c : Config) : String :=
  if Split.contains "://".toList c.esUrl.toList then c.esUrl
  else
    let login := if c.esPass.isEmpty then "" else ":" ++ Percent.encode c.esPass ++ "@"
    "redis://" ++ login ++ c.esUrl ++ "/" ++ toString c.esDb

/-- How provisioning events are consumed. -/
def consumer (c : Config) : ConsumerConfig :=
  { stream := c.esStream, group := c.esGroup, consumer := c.esConsumer,
    maxDeliveries := c.esMaxDeliveries }

/-- How messages are published. -/
def broker (c : Config) : BrokerConfig :=
  { uri := c.amqpUrl, exchange := c.amqpExchange }

end Config

end TableFeed
