import LinkGuard.Asset
import LinkGuard.Asset.Embedded
import LinkGuard.Cache.File
import LinkGuard.Cache.Folder
import LinkGuard.Cache.Migration
import LinkGuard.Command.Address
import LinkGuard.Command.Arguments
import LinkGuard.Command.Program
import LinkGuard.Decimal.Shortest
import LinkGuard.Domain.Ascii
import LinkGuard.Domain.Punycode
import LinkGuard.Duration
import LinkGuard.Endpoint.Query
import LinkGuard.Endpoint.Refusal
import LinkGuard.Endpoint.Service
import LinkGuard.Http.Message
import LinkGuard.Http.Target
import LinkGuard.Http.Wire
import LinkGuard.Inquiry
import LinkGuard.Json.Cursor
import LinkGuard.Json.Literal
import LinkGuard.Json.Number
import LinkGuard.Json.Problem
import LinkGuard.Json.Read
import LinkGuard.Json.Record
import LinkGuard.Json.Skip
import LinkGuard.Json.Write
import LinkGuard.Lifecycle.Exit
import LinkGuard.Lifecycle.Server
import LinkGuard.Lookup
import LinkGuard.Main
import LinkGuard.Message
import LinkGuard.Page
import LinkGuard.Proofs.Cache.Table
import LinkGuard.Proofs.Endpoint.Redirect
import LinkGuard.Proofs.Endpoint.Search
import LinkGuard.Proofs.Http.Response
import LinkGuard.Proofs.Json.Ensures
import LinkGuard.Proofs.Json.Literal
import LinkGuard.Proofs.Json.Reading
import LinkGuard.Proofs.Json.Records
import LinkGuard.Proofs.Lookup.Distinct
import LinkGuard.Proofs.Message.RoundTrip
import LinkGuard.Proofs.Remote.Answers
import LinkGuard.Proofs.Remote.History
import LinkGuard.Proofs.Remote.Reported
import LinkGuard.Proofs.Remote.Secrecy
import LinkGuard.Proofs.Remote.Steps
import LinkGuard.Proofs.Text.Form
import LinkGuard.Proofs.Text.Utf8
import LinkGuard.Proofs.Threat.Spelling
import LinkGuard.Proofs.Time.Range
import LinkGuard.Proofs.Wire.Reading
import LinkGuard.Redirect
import LinkGuard.Remote.Batch
import LinkGuard.Remote.Client
import LinkGuard.Remote.Engine
import LinkGuard.Remote.Settings
import LinkGuard.Status
import LinkGuard.Subscription
import LinkGuard.Template.Read
import LinkGuard.Template.Render
import LinkGuard.Template.Scan
import LinkGuard.Template.Syntax
import LinkGuard.Template.Tag
import LinkGuard.Text.Blank
import LinkGuard.Text.Form
import LinkGuard.Text.Letters
import LinkGuard.Text.Percent
import LinkGuard.Text.Quoted
import LinkGuard.Text.Unprintable
import LinkGuard.Text.Utf8
import LinkGuard.Threat
import LinkGuard.Threat.Json
import LinkGuard.Time.Calendar
import LinkGuard.Time.Instant
import LinkGuard.Time.Timestamp
import LinkGuard.Unicode.Composition
import LinkGuard.Unicode.Mapping
import LinkGuard.Unicode.Script
import LinkGuard.Unicode.Table
import LinkGuard.Url.Address
import LinkGuard.Url.Basic
import LinkGuard.Url.Component
import LinkGuard.Url.Host
import LinkGuard.Url.Parser
import LinkGuard.Url.Path
import LinkGuard.Verdict
import LinkGuard.Wire.Field
import LinkGuard.Proofs.Cache.History
import LinkGuard.Proofs.Cache.TimedMap
import LinkGuard.Proofs.Cache.Migration
import LinkGuard.Proofs.Cache.Interruption
import LinkGuard.Proofs.Cache.Openers
import LinkGuard.Proofs.Remote.Overtaking
import LinkGuard.Proofs.Remote.Subscriptions
import LinkGuard.Proofs.Lifecycle.Shutdown
import LinkGuard.Proofs.Remote.Faults
import LinkGuard.Proofs.Remote.Accounting
import LinkGuard.Proofs.Remote.Scheduling
import LinkGuard.Proofs.Time.Later
import LinkGuard.Proofs.Remote.Expiry
import LinkGuard.Proofs.Endpoint.Unread
import LinkGuard.Proofs.Json.Following
import LinkGuard.Proofs.Message.Written
import LinkGuard.Proofs.Endpoint.Requested
import LinkGuard.Proofs.Redirect.Decision
import LinkGuard.Proofs.Lookup.Aggregation
import LinkGuard.Proofs.Outcome
import LinkGuard.Proofs.Text.Exactness
import LinkGuard.Proofs.Wire.Grammar
import LinkGuard.Proofs.Wire.Passing
import LinkGuard.Proofs.Wire.Fields
import LinkGuard.Proofs.Message.Fields
import LinkGuard.Proofs.Template.Escaping
import LinkGuard.Proofs.Template.Flat
import LinkGuard.Proofs.Template.Filling
import LinkGuard.Proofs.Url.Host
import LinkGuard.Proofs.Page.Slots
import LinkGuard.Proofs.Page.Embedded
import LinkGuard.Proofs.Page.Warning
import LinkGuard.Proofs.Lifecycle.Triggers
import LinkGuard.Proofs.Endpoint.Refused
import LinkGuard.Proofs.Text.Pieces
import LinkGuard.Proofs.Asset.Path
import LinkGuard.Proofs.Text.Pairs
import LinkGuard.Proofs.Endpoint.Files
import LinkGuard.Proofs.Remote.Request
import LinkGuard.Proofs.Duration.Grammar
import LinkGuard.Proofs.Duration.Reading
import LinkGuard.Proofs.Subscription.Reading
import LinkGuard.Proofs.Text.Ascii
import LinkGuard.Proofs.Url.Names
import LinkGuard.Proofs.Url.Paths
import LinkGuard.Proofs.Url.Target
import LinkGuard.Proofs.Time.Calendar
import LinkGuard.Proofs.Time.Written
import LinkGuard.Proofs.Json.Numbers
import LinkGuard.Proofs.Records.ReadBack
import LinkGuard.Proofs.Time.Resolution
import LinkGuard.Proofs.Cache.Freshness
import LinkGuard.Proofs.Endpoint.Parameters
