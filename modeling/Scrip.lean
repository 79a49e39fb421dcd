import Scrip.Bearer
import Scrip.Decimal.Amount
import Scrip.Decimal.Basic
import Scrip.Decimal.Binary
import Scrip.Decimal.Fixed
import Scrip.Error.Failure
import Scrip.Error.Refusal
import Scrip.History.Record
import Scrip.History.Stats
import Scrip.History.Word
import Scrip.Http.Server
import Scrip.Http.Message
import Scrip.Http.Route
import Scrip.Http.Target
import Scrip.Store.Row
import Scrip.Json.Basic
import Scrip.Json.Reader
import Scrip.Json.Writer
import Scrip.Ledger
import Scrip.Log.Entry
import Scrip.Log.Message
import Scrip.Log.Setup
import Scrip.Log.Template
import Scrip.Money
import Scrip.Proofs.History.Totals
import Scrip.Proofs.History.Word
import Scrip.Proofs.Ledger.Conservation
import Scrip.Proofs.Ledger.Deed
import Scrip.Proofs.Ledger.Interleaving
import Scrip.Proofs.Ledger.Ownership
import Scrip.Proofs.Ledger.Purchase
import Scrip.Proofs.Ledger.Run
import Scrip.Proofs.Service.Checkout
import Scrip.Proofs.Service.Credits
import Scrip.Proofs.Service.Journal
import Scrip.Proofs.Service.Operation
import Scrip.Proofs.Service.Reading
import Scrip.Proofs.Service.TopUps
import Scrip.Proofs.Store.Growth
import Scrip.Proofs.Store.Lookup
import Scrip.Proofs.Work.Alone
import Scrip.Proofs.Work.Crew
import Scrip.Proofs.Work.Reads
import Scrip.Proofs.Work.Safe
import Scrip.Proofs.Work.Scope
import Scrip.Proofs.Work.Statement
import Scrip.Purchase.Rules
import Scrip.Recommendation.Picks
import Scrip.Recommendation.Tier
import Scrip.Request.Body
import Scrip.Request.Field
import Scrip.Request.Issue
import Scrip.Service.Checkout
import Scrip.Service.Credits
import Scrip.Service.Identity
import Scrip.Service.Journal
import Scrip.Service.Operation
import Scrip.Service.Registry
import Scrip.Service.Suggestions
import Scrip.Service.TopUps
import Scrip.Settings
import Scrip.Store.Basic
import Scrip.Store.Write
import Scrip.Text.Basic
import Scrip.Text.Half
import Scrip.Text.Quoted
import Scrip.Text.Whole
import Scrip.Time.DateTime
import Scrip.Work.Crew
import Scrip.Work.Database
import Scrip.Work.Faults
import Scrip.Work.Locks
import Scrip.Work.Script
import Scrip.Work.Session
import Scrip.Work.Statement
import Scrip.Proofs.Http.Texts
import Scrip.Proofs.Http.Unchanged
import Scrip.Proofs.Isolation.Accounts
import Scrip.Proofs.Ledger.AppendOnly
import Scrip.Proofs.Recommendation.ClosedForm
import Scrip.Proofs.Ledger.Views
import Scrip.Proofs.Ledger.Tallies
import Scrip.Proofs.Service.Suggestions
import Scrip.Proofs.Text.Blank
import Scrip.Proofs.Http.WellFormed
import Scrip.Proofs.Http.Callers
import Scrip.Proofs.Http.TopUp
import Scrip.Proofs.Work.Locks
import Scrip.Proofs.Ledger.Decision
import Scrip.Proofs.Work.Undisturbed
import Scrip.Proofs.Service.Objections
import Scrip.Proofs.Ledger.Settlement
import Scrip.Proofs.Money.Exact
import Scrip.Proofs.History.Listing
import Scrip.Proofs.Recommendation.Turns
import Scrip.Proofs.Decimal.Overflow
import Scrip.Proofs.Ledger.Debits
import Scrip.Proofs.Ledger.Shelf
import Scrip.Proofs.Money.Display
import Scrip.Proofs.Http.Guard
import Scrip.Proofs.Text.Pattern
import Scrip.Proofs.Time.Calendar
import Scrip.Proofs.History.Months
import Scrip.Proofs.Json.RoundTrip
import Scrip.Proofs.Log.Line
import Scrip.Proofs.Recommendation.Stable
import Scrip.Proofs.History.Statistics
import Scrip.Proofs.Ledger.Postings
