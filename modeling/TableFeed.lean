import TableFeed.Calendar.Date
import TableFeed.Calendar.Internet
import TableFeed.Calendar.Layout
import TableFeed.Calendar.Scan
import TableFeed.Config.Basic
import TableFeed.Config.CommandLine
import TableFeed.Config.Setting
import TableFeed.Database.Bytes
import TableFeed.Database.Cell
import TableFeed.Database.Moment
import TableFeed.Database.Numeric
import TableFeed.Error
import TableFeed.Events.Attempts
import TableFeed.Events.Delivery
import TableFeed.Events.Event
import TableFeed.Json.Basic
import TableFeed.Json.Failure
import TableFeed.Json.Ignored
import TableFeed.Json.Parser
import TableFeed.Json.Printer
import TableFeed.Json.Schema
import TableFeed.Json.Token
import TableFeed.Log
import TableFeed.Main
import TableFeed.Number.Binary64
import TableFeed.Number.Numeral
import TableFeed.Number.Shortest
import TableFeed.Publishing.Address
import TableFeed.Publishing.Batch
import TableFeed.Publishing.Broker
import TableFeed.Publishing.LogPublisher
import TableFeed.Publishing.Message
import TableFeed.Publishing.Publisher
import TableFeed.Registry.Basic
import TableFeed.Registry.Store
import TableFeed.Sample
import TableFeed.Service.Adapter
import TableFeed.Service.Basic
import TableFeed.Shutdown
import TableFeed.Source.FileReader
import TableFeed.Source.Files
import TableFeed.Source.Reader
import TableFeed.Source.Share
import TableFeed.Source.SqlReader
import TableFeed.Stream.Consumer
import TableFeed.Stream.Entry
import TableFeed.Table.Binding
import TableFeed.Table.Cell
import TableFeed.Table.Csv
import TableFeed.Table.Row
import TableFeed.Text.Blank
import TableFeed.Text.Case
import TableFeed.Text.Case.Letters
import TableFeed.Text.CharSet
import TableFeed.Text.Digits
import TableFeed.Text.Domain
import TableFeed.Text.Domain.Direction
import TableFeed.Text.Domain.Forms
import TableFeed.Text.Domain.Joining
import TableFeed.Text.Domain.Marks
import TableFeed.Text.InternetAddress
import TableFeed.Text.Percent
import TableFeed.Text.Punycode
import TableFeed.Text.Quoted
import TableFeed.Text.Quoted.Hidden
import TableFeed.Text.Split
import TableFeed.Text.Url
import TableFeed.Text.Utf8
import TableFeed.Timing.Backoff
import TableFeed.Timing.Duration
import TableFeed.Timing.Scheduler
import TableFeed.Proofs.Lookup
import TableFeed.Proofs.Text.Cutting
import TableFeed.Proofs.Registry.Feeds
import TableFeed.Proofs.Registry.Pollers
import TableFeed.Proofs.Timing.Ticker
import TableFeed.Proofs.Registry.Change
import TableFeed.Proofs.Registry.Wiring
import TableFeed.Proofs.Registry.Interleaving
import TableFeed.Proofs.Registry.OnePoller
import TableFeed.Proofs.Registry.Origins
import TableFeed.Proofs.Registry.Halting
import TableFeed.Proofs.Events.Attempts
import TableFeed.Proofs.Events.Handling
import TableFeed.Proofs.Stream.Rounds
import TableFeed.Proofs.Stream.Discipline
import TableFeed.Proofs.Stream.Server
import TableFeed.Proofs.Service.Deeds
import TableFeed.Proofs.Events.Durability
import TableFeed.Proofs.Events.Redelivery
import TableFeed.Proofs.Events.Outcome
import TableFeed.Proofs.Source.Files
import TableFeed.Proofs.Json.Line
import TableFeed.Proofs.Service.Errands
import TableFeed.Proofs.Registry.StoreText
import TableFeed.Proofs.Service.Agreement
import TableFeed.Proofs.Number.Rounding
import TableFeed.Proofs.Number.Digits
import TableFeed.Proofs.Json.Number
import TableFeed.Proofs.Json.Float
import TableFeed.Proofs.Json.Strings
import TableFeed.Proofs.Json.Values
import TableFeed.Proofs.Json.Records
import TableFeed.Proofs.Json.Kinds
import TableFeed.Proofs.Source.Settled
import TableFeed.Proofs.Registry.Kept
import TableFeed.Proofs.Service.RoundTrip
import TableFeed.Proofs.Source.Increments
import TableFeed.Proofs.Registry.Locks
import TableFeed.Proofs.Registry.Progress
import TableFeed.Proofs.Registry.Positions
import TableFeed.Proofs.Registry.Saves
import TableFeed.Proofs.Publishing.FanOut
import TableFeed.Proofs.Registry.Batches
import TableFeed.Proofs.Registry.Publications
import TableFeed.Proofs.Registry.Delivery
import TableFeed.Proofs.Service.Handled
import TableFeed.Proofs.Service.Provisioning
import TableFeed.Proofs.Timing.FirstTick
import TableFeed.Proofs.Events.Convergence
import TableFeed.Proofs.Events.Irrelevant
import TableFeed.Proofs.Publishing.Outgoing
import TableFeed.Proofs.Table.Row
import TableFeed.Proofs.Table.Binding
import TableFeed.Proofs.Source.Ordinals
import TableFeed.Proofs.Json.Grammar
import TableFeed.Proofs.Json.NumberText
import TableFeed.Proofs.Json.Pieces
import TableFeed.Proofs.Json.Written
import TableFeed.Proofs.Json.Skipped
import TableFeed.Proofs.Json.Members
import TableFeed.Proofs.Events.Foreign
import TableFeed.Proofs.Number.Numeral
import TableFeed.Proofs.Json.Denoted
import TableFeed.Proofs.Json.Reprinted
import TableFeed.Proofs.Json.Trimmed
import TableFeed.Proofs.Events.Provision
import TableFeed.Proofs.Publishing.Wire
import TableFeed.Proofs.Service.Overruns
import TableFeed.Proofs.Source.Reading
import TableFeed.Proofs.Source.Projection
import TableFeed.Proofs.Source.Fetching
import TableFeed.Proofs.Service.Loading
import TableFeed.Proofs.Timing.Runs
import TableFeed.Proofs.Timing.Pace
import TableFeed.Proofs.Number.Plain
import TableFeed.Proofs.Sample.Dates
import TableFeed.Proofs.Sample.Kinds
import TableFeed.Proofs.Timing.Delays
import TableFeed.Proofs.Stream.Waits
import TableFeed.Proofs.Calendar.Days
import TableFeed.Proofs.Calendar.Stamps
import TableFeed.Proofs.Sample.Stamps
import TableFeed.Proofs.Database.Decimals
import TableFeed.Proofs.Database.Groups
import TableFeed.Proofs.Json.Plain
import TableFeed.Proofs.Database.Texts
import TableFeed.Proofs.Database.Numeric
import TableFeed.Proofs.Events.Counts
import TableFeed.Proofs.Database.Money
import TableFeed.Proofs.Text.Percent
import TableFeed.Proofs.Text.Url
import TableFeed.Proofs.Config.EventStore
import TableFeed.Proofs.Sample.Weekdays
import TableFeed.Proofs.Table.Insertion
