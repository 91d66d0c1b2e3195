import TableFeed.Config.Basic
import TableFeed.Error
import TableFeed.Log
import TableFeed.Publishing.Address

/-!
# Publishing to a broker

A broker is addressed by a URL and takes messages at an exchange. Both are checked before anything
is sent.
-/

namespace TableFeed.BrokerConfig

/-- The address of the broker, if the configuration is usable. -/
def validate (c : BrokerConfig) : Except Error BrokerAddress :=
  if Blank.isEmpty c.exchange then
    .error (.configuration "AMQP exchange must not be empty" (some "MF_AMQP_EXCHANGE"))
  else
    (BrokerAddress.parse c.uri).mapError fun cause =>
      .configuration s!"Invalid AMQP URI: {cause.message}" (some "MF_AMQP_URL")

/-- The broker as the log names it, without the login. -/
def endpoint (c : BrokerConfig) : String :=
  match BrokerAddress.parse c.uri with
  | .ok a => a.endpoint
  | .error _ => "<invalid uri>"

/-- The start of a connection to a broker that does not answer: the log lines and the failure. -/
def connectUnanswered (c : BrokerConfig) : List LogLine × Error :=
  match c.validate with
  | .error e => ([], e)
  | .ok _ =>
    ([⟨.info, s!"[RabbitMQPublisher] Connecting to {c.endpoint}"⟩],
      .publish c.exchange "failed to connect to RabbitMQ")

end TableFeed.BrokerConfig
