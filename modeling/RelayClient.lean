import RelayClient.Bytes
import RelayClient.Cipher.ChaCha20
import RelayClient.Cipher.Curve25519
import RelayClient.Cipher.Poly1305
import RelayClient.Cipher.Salsa20
import RelayClient.Cipher.Scrypt
import RelayClient.Cipher.SealedBox
import RelayClient.Cipher.Sha256
import RelayClient.Cipher.Sha512
import RelayClient.Cipher.Words
import RelayClient.CommandLine
import RelayClient.Credential.KeyStore
import RelayClient.Credential.PushToken
import RelayClient.Credential.Record
import RelayClient.Credential.WorkFactor
import RelayClient.Decimal.Layout
import RelayClient.Decimal.Shortest
import RelayClient.Dictionary
import RelayClient.Envelope.Kind
import RelayClient.Envelope.Message
import RelayClient.Envelope.Outcome
import RelayClient.Exchange.Messenger
import RelayClient.Exchange.PendingTable
import RelayClient.Failure
import RelayClient.Json.Number
import RelayClient.Json.Syntax
import RelayClient.Json.TextMap
import RelayClient.Json.Value
import RelayClient.KeyPair
import RelayClient.Main
import RelayClient.Observers
import RelayClient.Pack.Display
import RelayClient.Pack.Head
import RelayClient.Pack.Reader
import RelayClient.Pack.Value
import RelayClient.Pack.Writer
import RelayClient.Powers
import RelayClient.Proofs.Cipher.Exactness
import RelayClient.Proofs.Cipher.SealedBox
import RelayClient.Proofs.Credential.BareToken
import RelayClient.Proofs.Credential.Contents
import RelayClient.Proofs.Credential.Exhaustion
import RelayClient.Proofs.Credential.Fields
import RelayClient.Proofs.Credential.Leniency
import RelayClient.Proofs.Credential.Migration
import RelayClient.Proofs.Credential.OneCredential
import RelayClient.Proofs.Credential.Presence
import RelayClient.Proofs.Credential.Reading
import RelayClient.Proofs.Credential.Record
import RelayClient.Proofs.Credential.Refusal
import RelayClient.Proofs.Credential.RoundTrip
import RelayClient.Proofs.Credential.Sealing
import RelayClient.Proofs.Credential.TaggedText
import RelayClient.Proofs.Dictionary
import RelayClient.Proofs.Envelope.LastEntries
import RelayClient.Proofs.Envelope.Normal
import RelayClient.Proofs.Envelope.RoundTrip
import RelayClient.Proofs.Envelope.Truncation
import RelayClient.Proofs.Exchange.Correlation
import RelayClient.Proofs.Exchange.Fate
import RelayClient.Proofs.Exchange.History
import RelayClient.Proofs.Exchange.Idle
import RelayClient.Proofs.Exchange.Occupancy
import RelayClient.Proofs.Exchange.Operations
import RelayClient.Proofs.Exchange.Registrations
import RelayClient.Proofs.Exchange.Requests
import RelayClient.Proofs.Exchange.Sending
import RelayClient.Proofs.Exchange.Waiters
import RelayClient.Proofs.Json.Numbers
import RelayClient.Proofs.Json.Objects
import RelayClient.Proofs.Json.TextMaps
import RelayClient.Proofs.Lists
import RelayClient.Proofs.Observers.Reentrancy
import RelayClient.Proofs.Pack.Fronts
import RelayClient.Proofs.Pack.Heads
import RelayClient.Proofs.Pack.Sameness
import RelayClient.Proofs.Pack.Values
import RelayClient.Proofs.Push.Pacing
import RelayClient.Proofs.Recovery.Conservation
import RelayClient.Proofs.Recovery.Ending
import RelayClient.Proofs.Recovery.Frame
import RelayClient.Proofs.Recovery.Ladder
import RelayClient.Proofs.Recovery.Moves
import RelayClient.Proofs.Recovery.Rest
import RelayClient.Proofs.Recovery.StandDown
import RelayClient.Proofs.Replica.Alerts
import RelayClient.Proofs.Replica.Arrival
import RelayClient.Proofs.Replica.BatteryReadings
import RelayClient.Proofs.Replica.Completion
import RelayClient.Proofs.Replica.Deferral
import RelayClient.Proofs.Replica.Edits
import RelayClient.Proofs.Replica.Messages
import RelayClient.Proofs.Replica.Queue
import RelayClient.Proofs.Replica.Separation
import RelayClient.Proofs.Replica.Unread
import RelayClient.Proofs.Session.Accounts
import RelayClient.Proofs.Session.Attempts
import RelayClient.Proofs.Session.BuildupAnnouncements
import RelayClient.Proofs.Session.BuildupOfEvents
import RelayClient.Proofs.Session.ChannelNeedsTask
import RelayClient.Proofs.Session.Closings
import RelayClient.Proofs.Session.Core
import RelayClient.Proofs.Session.Moves
import RelayClient.Proofs.Session.OneWay
import RelayClient.Proofs.Session.Readiness
import RelayClient.Proofs.Session.Refusals
import RelayClient.Proofs.Session.Request
import RelayClient.Proofs.Session.Scheduling
import RelayClient.Proofs.Session.Sequel
import RelayClient.Proofs.Session.Stopped
import RelayClient.Proofs.Session.Stray
import RelayClient.Proofs.Session.TakeDown
import RelayClient.Proofs.Session.Teardown
import RelayClient.Proofs.Session.Watch
import RelayClient.Proofs.Status.Derived
import RelayClient.Proofs.Status.Events
import RelayClient.Proofs.Status.Forgetting
import RelayClient.Proofs.Status.Pace
import RelayClient.Proofs.Status.Progress
import RelayClient.Proofs.Status.Tickers
import RelayClient.Proofs.StepGate.Gating
import RelayClient.Proofs.StepGate.Histories
import RelayClient.Proofs.Storage.Changes
import RelayClient.Proofs.Storage.Durability
import RelayClient.Proofs.Storage.Interruption
import RelayClient.Proofs.Storage.Paths
import RelayClient.Proofs.Storage.Setbacks
import RelayClient.Proofs.Text.Hex
import RelayClient.Proofs.Text.Spelling
import RelayClient.Push
import RelayClient.Replica.Battery
import RelayClient.Replica.Container
import RelayClient.Replica.Data
import RelayClient.Replica.Routing
import RelayClient.Session.Basic
import RelayClient.Session.DeviceCall
import RelayClient.Session.Lifecycle
import RelayClient.Session.Recovery
import RelayClient.Session.Reports
import RelayClient.Session.Schedule
import RelayClient.Session.StopOptions
import RelayClient.Session.Surroundings
import RelayClient.Session.Trust
import RelayClient.Settings.Basic
import RelayClient.Settings.EnvironmentFile
import RelayClient.Settings.Usage
import RelayClient.Settings.Workers
import RelayClient.Signaling
import RelayClient.Status.Basic
import RelayClient.Status.Buildup
import RelayClient.Status.Tracks
import RelayClient.StepGate
import RelayClient.Storage.Basic
import RelayClient.Storage.Disk
import RelayClient.Storage.DiskPath
import RelayClient.Storage.FileStore
import RelayClient.Text.Alphanumeric
import RelayClient.Text.Blank
import RelayClient.Text.Duration
import RelayClient.Text.Hex
import RelayClient.Text.Printable
import RelayClient.Text.Quoted
import RelayClient.Text.Ranges
import RelayClient.Text.Units
import RelayClient.Text.Utf8
