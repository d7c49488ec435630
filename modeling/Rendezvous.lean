import Rendezvous.Client.Basic
import Rendezvous.Client.Cell
import Rendezvous.Client.Notice
import Rendezvous.Client.Operation
import Rendezvous.Client.Screens
import Rendezvous.Client.Traffic
import Rendezvous.Client.Trouble
import Rendezvous.Credential.Directory
import Rendezvous.Credential.Entries
import Rendezvous.Credential.Failure
import Rendezvous.Credential.Storage
import Rendezvous.Credential.Store
import Rendezvous.Credential.Vault
import Rendezvous.Decimal.Binary
import Rendezvous.Decimal.Digits
import Rendezvous.Decimal.Places
import Rendezvous.Decimal.Scaled
import Rendezvous.Decimal.Shortest
import Rendezvous.Json.Codec
import Rendezvous.Json.Fault
import Rendezvous.Json.Number
import Rendezvous.Json.Record
import Rendezvous.Json.Skip
import Rendezvous.Json.Token
import Rendezvous.Json.Value
import Rendezvous.Main
import Rendezvous.Rehearsal.Dialogue
import Rendezvous.Rehearsal.Script
import Rendezvous.Rehearsal.Stage
import Rendezvous.Service.Endpoint
import Rendezvous.Service.Environment
import Rendezvous.Service.Failure
import Rendezvous.Terminal.App
import Rendezvous.Terminal.Command
import Rendezvous.Terminal.Console
import Rendezvous.Terminal.Options
import Rendezvous.Terminal.View
import Rendezvous.Text.Blank
import Rendezvous.Text.Concealed
import Rendezvous.Text.Numeral
import Rendezvous.Text.Quoted
import Rendezvous.Text.Spans
import Rendezvous.Text.Split
import Rendezvous.Text.Utf8
import Rendezvous.Time.Calendar
import Rendezvous.Time.Reader
import Rendezvous.Time.Timestamp
import Rendezvous.Web.Domain
import Rendezvous.Web.Domain.Composition
import Rendezvous.Web.Domain.Direction
import Rendezvous.Web.Domain.Joining
import Rendezvous.Web.Domain.Mapping
import Rendezvous.Web.Host
import Rendezvous.Web.Http
import Rendezvous.Web.Path
import Rendezvous.Web.Percent
import Rendezvous.Web.Punycode
import Rendezvous.Web.Url
import Rendezvous.Wire.Account
import Rendezvous.Wire.Chat
import Rendezvous.Wire.Discovery
import Rendezvous.Wire.Instant
import Rendezvous.Wire.Kind
import Rendezvous.Wire.Profile
import Rendezvous.Proofs.Client.Alike
import Rendezvous.Proofs.Client.Bearer
import Rendezvous.Proofs.Client.Confined
import Rendezvous.Proofs.Client.Deck
import Rendezvous.Proofs.Client.Exchange
import Rendezvous.Proofs.Client.Failing
import Rendezvous.Proofs.Client.Flags
import Rendezvous.Proofs.Client.Hand
import Rendezvous.Proofs.Client.Lasting
import Rendezvous.Proofs.Client.LogOut
import Rendezvous.Proofs.Client.Paging
import Rendezvous.Proofs.Client.Published
import Rendezvous.Proofs.Client.Run
import Rendezvous.Proofs.Client.Session
import Rendezvous.Proofs.Client.Spared
import Rendezvous.Proofs.Client.Steps
import Rendezvous.Proofs.Client.Talk
import Rendezvous.Proofs.Client.Verbatim
import Rendezvous.Proofs.Credential.Attempt
import Rendezvous.Proofs.Credential.Contract
import Rendezvous.Proofs.Credential.Directory
import Rendezvous.Proofs.Credential.Entries
import Rendezvous.Proofs.Credential.Persistence
import Rendezvous.Proofs.Json.Codec
import Rendezvous.Proofs.Json.Dictionary
import Rendezvous.Proofs.Json.Quoted
import Rendezvous.Proofs.Json.Record
import Rendezvous.Proofs.Json.Reordered
import Rendezvous.Proofs.Json.Whole
import Rendezvous.Proofs.Terminal.Afterwards
import Rendezvous.Proofs.Terminal.Sight
import Rendezvous.Proofs.Terminal.Sitting
import Rendezvous.Proofs.Text.Blank
import Rendezvous.Proofs.Text.Words
import Rendezvous.Proofs.Terminal.Grammar
import Rendezvous.Proofs.Text.Utf8
import Rendezvous.Proofs.Time.Calendar
import Rendezvous.Proofs.Time.Succession
import Rendezvous.Proofs.Time.Timestamp
import Rendezvous.Proofs.Web.Percent
import Rendezvous.Proofs.Wire.RoundTrip
import Rendezvous.Proofs.Service.Catalog
import Rendezvous.Proofs.Web.Path
import Rendezvous.Proofs.Web.Address
import Rendezvous.Proofs.Service.Route
import Rendezvous.Proofs.Web.Ordinary
import Rendezvous.Proofs.Service.Below
import Rendezvous.Proofs.Client.Asked
import Rendezvous.Proofs.Terminal.Requests
import Rendezvous.Proofs.Terminal.Correspondence
import Rendezvous.Proofs.Credential.Writers
import Rendezvous.Proofs.Json.Document
import Rendezvous.Proofs.Json.Passing
import Rendezvous.Proofs.Json.Tokens
import Rendezvous.Proofs.Json.Definite
import Rendezvous.Proofs.Json.Gathered
import Rendezvous.Proofs.Json.Members
import Rendezvous.Proofs.Wire.Outline
import Rendezvous.Proofs.Wire.Known
import Rendezvous.Proofs.Wire.Age
import Rendezvous.Proofs.Wire.Expiry
