import AddressRecords.Address.Family
import AddressRecords.Address.Numeral
import AddressRecords.Address.V4
import AddressRecords.Address.V6
import AddressRecords.Api.Client
import AddressRecords.Api.Envelope
import AddressRecords.Api.Failure
import AddressRecords.Api.Request
import AddressRecords.Api.Script
import AddressRecords.Api.Status
import AddressRecords.Config
import AddressRecords.Credentials
import AddressRecords.Diagnostics.Log
import AddressRecords.Diagnostics.Message
import AddressRecords.Diagnostics.Sinks
import AddressRecords.Domain.Basic
import AddressRecords.Domain.Name
import AddressRecords.Failure
import AddressRecords.Handle
import AddressRecords.Handle.Operation
import AddressRecords.Idna.Ascii
import AddressRecords.Idna.Bidi
import AddressRecords.Idna.Joiner
import AddressRecords.Idna.Mapping
import AddressRecords.Idna.Punycode
import AddressRecords.Json.Document
import AddressRecords.Json.Double
import AddressRecords.Json.Fault
import AddressRecords.Json.Reader
import AddressRecords.Json.Scan
import AddressRecords.Json.Value
import AddressRecords.Main
import AddressRecords.Record.Map
import AddressRecords.Record.Store
import AddressRecords.Text.Digits
import AddressRecords.Text.Number
import AddressRecords.Text.Quoted
import AddressRecords.Text.Utf8
import AddressRecords.Trace
import AddressRecords.Ttl
import AddressRecords.Unicode.BidiClass
import AddressRecords.Unicode.CombiningClass
import AddressRecords.Unicode.Composition
import AddressRecords.Unicode.JoiningType
import AddressRecords.Unicode.Mark
import AddressRecords.Unicode.Normalization
import AddressRecords.Unicode.Printable
import AddressRecords.Unicode.Table
import AddressRecords.Unicode.WhiteSpace
import AddressRecords.Url.Basic
import AddressRecords.Url.Form
import AddressRecords.Url.Host
import AddressRecords.Url.Parse
import AddressRecords.Url.Percent
import AddressRecords.Validation.Program
import AddressRecords.Validation.Run
import AddressRecords.Validation.Settings
import AddressRecords.Zone.Cache
import AddressRecords.Zone.Concurrent
import AddressRecords.Zone.Resolver
import AddressRecords.Zone.Status
import AddressRecords.Zone.Table
import AddressRecords.Proofs.Address.Text
import AddressRecords.Proofs.Domain.Suffixes
import AddressRecords.Proofs.Record.History
import AddressRecords.Proofs.Record.Key
import AddressRecords.Proofs.Record.Map
import AddressRecords.Proofs.Record.Remembered
import AddressRecords.Proofs.Remote.Agreement
import AddressRecords.Proofs.Remote.Coherence
import AddressRecords.Proofs.Remote.Exchange
import AddressRecords.Proofs.Remote.Faithful
import AddressRecords.Proofs.Remote.Lone
import AddressRecords.Proofs.Remote.Mirror
import AddressRecords.Proofs.Remote.Owner
import AddressRecords.Proofs.Remote.Request
import AddressRecords.Proofs.Remote.Run
import AddressRecords.Proofs.Text.Digits
import AddressRecords.Proofs.Url.Plain
import AddressRecords.Proofs.Zone.Lookup
import AddressRecords.Proofs.Zone.Memo
import AddressRecords.Proofs.Zone.Cells
import AddressRecords.Proofs.Zone.Filling
import AddressRecords.Proofs.Zone.Moves
import AddressRecords.Proofs.Zone.Walk
import AddressRecords.Proofs.Zone.Flight
import AddressRecords.Proofs.Calls.Messages
import AddressRecords.Proofs.Calls.Pages
import AddressRecords.Proofs.Isolation.Oblivious
import AddressRecords.Proofs.Isolation.Keys
import AddressRecords.Proofs.Calls.Apart
import AddressRecords.Proofs.Calls.Protocol
import AddressRecords.Handle.Concurrent
import AddressRecords.Proofs.Concurrent.Alone
import AddressRecords.Proofs.Concurrent.Answers
import AddressRecords.Proofs.Concurrent.Stages
import AddressRecords.Proofs.Concurrent.Interleaving
import AddressRecords.Proofs.Concurrent.Pending
import AddressRecords.Proofs.Concurrent.Order
import AddressRecords.Proofs.Concurrent.Reflection
import AddressRecords.Proofs.Atomicity.Lists
import AddressRecords.Proofs.Atomicity.Failing
import AddressRecords.Proofs.Domain.Rereading
import AddressRecords.Proofs.Secrecy.Token
import AddressRecords.Proofs.Validation.DryRun
import AddressRecords.Proofs.Calls.Pagination
import AddressRecords.Proofs.Validation.Course
import AddressRecords.Proofs.Validation.Exit
import AddressRecords.Proofs.Zone.Settled
import AddressRecords.Proofs.Atomicity.Input
import AddressRecords.Proofs.Validation.LiveRun
import AddressRecords.Proofs.Text.Utf8
import AddressRecords.Proofs.Json.Written
import AddressRecords.Proofs.Calls.Query
import AddressRecords.Proofs.Calls.Contents
import AddressRecords.Proofs.Json.Passing
import AddressRecords.Proofs.Answers.Errors
import AddressRecords.Proofs.Answers.Stale
import AddressRecords.Proofs.Record.Whole
import AddressRecords.Proofs.Zone.Notices
import AddressRecords.Proofs.Answers.Announcements
import AddressRecords.Proofs.Calls.Parameters
import AddressRecords.Proofs.Url.Segments
import AddressRecords.Proofs.Url.Behind
import AddressRecords.Proofs.Url.Literal
import AddressRecords.Proofs.Calls.Addressing
import AddressRecords.Proofs.Record.Families
import AddressRecords.Proofs.Answers.Connecting
import AddressRecords.Proofs.Calls.Rounds
import AddressRecords.Proofs.Domain.Distinct
import AddressRecords.Proofs.Record.Entries
import AddressRecords.Proofs.Domain.Descent
import AddressRecords.Proofs.Config.Written
import AddressRecords.Proofs.Diagnostics.Families
