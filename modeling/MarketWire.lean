import MarketWire.Channel.Depth
import MarketWire.Channel.Interval
import MarketWire.Channel.Subscription
import MarketWire.Clock.Calendar
import MarketWire.Clock.Instant
import MarketWire.Clock.Span
import MarketWire.Credentials
import MarketWire.Digest.Base64
import MarketWire.Digest.Hmac
import MarketWire.Digest.Sha256
import MarketWire.Endpoint
import MarketWire.Host.Basic
import MarketWire.Host.Folding
import MarketWire.Host.Ipv4
import MarketWire.Host.Ipv6
import MarketWire.Host.Label
import MarketWire.Host.Name
import MarketWire.Host.Punycode
import MarketWire.Json.Basic
import MarketWire.Json.Draft
import MarketWire.Json.Fields
import MarketWire.Json.Reader
import MarketWire.Json.Writer
import MarketWire.Members
import MarketWire.Message
import MarketWire.Number.Binary64
import MarketWire.Number.Numeral
import MarketWire.Number.Power
import MarketWire.Number.Shortest
import MarketWire.Proofs.Acknowledgement
import MarketWire.Proofs.Calendar
import MarketWire.Proofs.Encoding
import MarketWire.Proofs.Environment
import MarketWire.Proofs.Handover.Account
import MarketWire.Proofs.Handover.Conservation
import MarketWire.Proofs.Handover.Deed
import MarketWire.Proofs.Handover.Frame
import MarketWire.Proofs.Handover.History
import MarketWire.Proofs.Handover.Registration
import MarketWire.Proofs.Handover.Settling
import MarketWire.Proofs.Handover.Tally
import MarketWire.Proofs.Handover.Wakeup
import MarketWire.Proofs.Json.Joining
import MarketWire.Proofs.Json.Reading
import MarketWire.Proofs.Listing
import MarketWire.Proofs.Masking
import MarketWire.Proofs.Members
import MarketWire.Proofs.Message
import MarketWire.Proofs.Push
import MarketWire.Proofs.Queue
import MarketWire.Proofs.Rest.Correction
import MarketWire.Proofs.Rest.Course
import MarketWire.Proofs.Rest.Guarding
import MarketWire.Proofs.Rest.Header
import MarketWire.Proofs.Rest.Measuring
import MarketWire.Proofs.Rest.Reach
import MarketWire.Proofs.Rest.Receiving
import MarketWire.Proofs.Rest.Retrying
import MarketWire.Proofs.Rest.Signing
import MarketWire.Proofs.Rest.Target
import MarketWire.Proofs.Roll
import MarketWire.Proofs.Routing
import MarketWire.Proofs.Session.Actor
import MarketWire.Proofs.Session.Admission
import MarketWire.Proofs.Session.Agreement
import MarketWire.Proofs.Session.AtRest
import MarketWire.Proofs.Session.Bearing
import MarketWire.Proofs.Session.Chronicle
import MarketWire.Proofs.Session.Closing
import MarketWire.Proofs.Session.Conduct
import MarketWire.Proofs.Session.Confirming
import MarketWire.Proofs.Session.Deed
import MarketWire.Proofs.Session.Delivery
import MarketWire.Proofs.Session.Drive
import MarketWire.Proofs.Session.Ending
import MarketWire.Proofs.Session.Frame
import MarketWire.Proofs.Session.Hearing
import MarketWire.Proofs.Session.Heartbeat
import MarketWire.Proofs.Session.Keepalive
import MarketWire.Proofs.Session.Ledger
import MarketWire.Proofs.Session.Locking
import MarketWire.Proofs.Session.Order
import MarketWire.Proofs.Session.Privacy
import MarketWire.Proofs.Session.Prospect
import MarketWire.Proofs.Session.Record
import MarketWire.Proofs.Session.Recovery
import MarketWire.Proofs.Session.Refusal
import MarketWire.Proofs.Session.Script
import MarketWire.Proofs.Session.Standing
import MarketWire.Proofs.Session.Tracking
import MarketWire.Proofs.Session.Trial
import MarketWire.Proofs.Session.Turning
import MarketWire.Proofs.Session.Unclosed
import MarketWire.Proofs.Session.Verdict
import MarketWire.Proofs.Session.Work
import MarketWire.Proofs.Shape
import MarketWire.Proofs.Subscription
import MarketWire.Proofs.Wire
import MarketWire.Registry
import MarketWire.Rest.Client
import MarketWire.Rest.Envelope
import MarketWire.Rest.Error
import MarketWire.Rest.Exchange
import MarketWire.Rest.Framing
import MarketWire.Rest.Header
import MarketWire.Rest.Outcome
import MarketWire.Rest.Status
import MarketWire.Rest.TimeSync
import MarketWire.Rest.Url
import MarketWire.Router
import MarketWire.Signature
import MarketWire.Stream.Access
import MarketWire.Stream.Address
import MarketWire.Stream.Backoff
import MarketWire.Stream.Error
import MarketWire.Stream.Feed
import MarketWire.Stream.Handover
import MarketWire.Stream.Link
import MarketWire.Stream.Mailbox
import MarketWire.Stream.Peer
import MarketWire.Stream.Phase
import MarketWire.Stream.Rehearsal
import MarketWire.Stream.Request
import MarketWire.Stream.Session.Attempt
import MarketWire.Stream.Session.Basic
import MarketWire.Stream.Session.Call
import MarketWire.Stream.Session.Step
import MarketWire.Stream.Session.Worker
import MarketWire.Stream.Settings
import MarketWire.Stream.Turnstile
import MarketWire.Text.Blank
import MarketWire.Text.Direction
import MarketWire.Text.Joining
import MarketWire.Text.Mark
import MarketWire.Text.Normal
import MarketWire.Text.Percent
import MarketWire.Text.Pieces
import MarketWire.Text.Quoted
import MarketWire.Text.Range
import MarketWire.Text.Unseen
import MarketWire.Text.UpperCase
import MarketWire.Text.Utf8
