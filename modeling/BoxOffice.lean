import BoxOffice.Calendar
import BoxOffice.Instant
import BoxOffice.Text.Digits
import BoxOffice.Quantity
import BoxOffice.Uuid
import BoxOffice.Table
import BoxOffice.Line
import BoxOffice.UnknownStatus
import BoxOffice.Reservation
import BoxOffice.Rounding
import BoxOffice.Decimal
import BoxOffice.TicketClass
import BoxOffice.Answer
import BoxOffice.Text.Blank
import BoxOffice.Instant.Text
import BoxOffice.Refusal
import BoxOffice.Store
import BoxOffice.Availability
import BoxOffice.Binary64
import BoxOffice.Binary64.Shortest
import BoxOffice.IdSupply
import BoxOffice.Store.Capacity
import BoxOffice.Booking
import BoxOffice.Decimal.Text
import BoxOffice.Event
import BoxOffice.Text.Uppercase
import BoxOffice.TicketClass.Rules
import BoxOffice.TicketClass.Changes
import BoxOffice.TicketClass.Draft
import BoxOffice.Desk
import BoxOffice.Json.Value
import BoxOffice.Fault
import BoxOffice.Text.Utf8
import BoxOffice.Text.Form
import BoxOffice.Http.Listing
import BoxOffice.Http.MediaType
import BoxOffice.Http.Message
import BoxOffice.Http.Origins
import BoxOffice.Http.Route
import BoxOffice.Store.Transaction
import BoxOffice.Operation
import BoxOffice.Json.Token
import BoxOffice.Json.Doc
import BoxOffice.Json.Number
import BoxOffice.Json.Codec
import BoxOffice.Json.Record
import BoxOffice.Wire
import BoxOffice.Http.Site
import BoxOffice.IpAddress
import BoxOffice.Sweeper
import BoxOffice.Session
import BoxOffice.Settings
import BoxOffice.Proofs.Counting
import BoxOffice.Proofs.Balance
import BoxOffice.Proofs.Concluding
import BoxOffice.Proofs.Holding
import BoxOffice.Proofs.Effect
import BoxOffice.Proofs.Runs
import BoxOffice.Proofs.Conservation
import BoxOffice.Proofs.Publishing
import BoxOffice.Proofs.Events
import BoxOffice.Proofs.EventLog
import BoxOffice.Proofs.Resolutions
import BoxOffice.Work
import BoxOffice.Proofs.Rollback
import BoxOffice.Proofs.Overdue
import BoxOffice.Proofs.Sweeps
import BoxOffice.Proofs.Racing
import BoxOffice.Proofs.Addresses
import BoxOffice.Proofs.Incidents
import BoxOffice.Proofs.Requests
import BoxOffice.Proofs.Serving
import BoxOffice.Proofs.Lifetimes
import BoxOffice.Proofs.Independence
import BoxOffice.Proofs.Integrity
import BoxOffice.Proofs.Offers
import BoxOffice.Proofs.Checking
import BoxOffice.Checked
import BoxOffice.Proofs.Steps
import BoxOffice.Proofs.Capacity
import BoxOffice.Proofs.Range
import BoxOffice.Proofs.Keys
import BoxOffice.Proofs.Footprints
import BoxOffice.Proofs.Stateless
import BoxOffice.Proofs.Securing
import BoxOffice.Proofs.Opening
import BoxOffice.Proofs.Rearranging
import BoxOffice.Proofs.Submitting
import BoxOffice.Proofs.Reserving
import BoxOffice.Proofs.Digits
import BoxOffice.Proofs.Spelling
import BoxOffice.Proofs.Moments
import BoxOffice.Proofs.Scanning
import BoxOffice.Proofs.Trees
import BoxOffice.Proofs.Records
import BoxOffice.Proofs.Rereading
import BoxOffice.Proofs.Lookups
import BoxOffice.Proofs.Forms
import BoxOffice.Proofs.Listings
import BoxOffice.Proofs.Waiting
import BoxOffice.Proofs.Ticks
import BoxOffice.Proofs.Ticking
import BoxOffice.Proofs.Hosts
import BoxOffice.Proofs.Configuring
import BoxOffice.Proofs.Pricing
import BoxOffice.Proofs.Sharing
