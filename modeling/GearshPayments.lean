import GearshPayments.Transition
import GearshPayments.Resumption.Basic
import GearshPayments.Resumption.Run
import GearshPayments.Resumption.Pool
import GearshPayments.Resumption.Invariant
import GearshPayments.Resumption.Monitor
import GearshPayments.Resumption.Guarantee
import GearshPayments.Resumption.Relabel
import GearshPayments.Resumption.Questions
import GearshPayments.Resumption.Alone
import GearshPayments.Table
import GearshPayments.DoubleEntry
import GearshPayments.Pot
import GearshPayments.Problem
import GearshPayments.Numbers
import GearshPayments.Events.EventTypes
import GearshPayments.Events.CloudEvent
import GearshPayments.Newest
import GearshPayments.Windows
import GearshPayments.Keyset
import GearshPayments.JavaScript.Buffer
import GearshPayments.Calendar
import GearshPayments.Store.Schema
import GearshPayments.Store.Tx
import GearshPayments.Events.Outbox
import GearshPayments.Escrow.StateMachine
import GearshPayments.Escrow.Ledger
import GearshPayments.Escrow.Service
import GearshPayments.Escrow.Commit
import GearshPayments.Fx.Rounding
import GearshPayments.PayFast.Forms
import GearshPayments.PayFast.Client
import GearshPayments.PayFast.Adhoc
import GearshPayments.Payments.Webhook
import GearshPayments.Payments.Capture
import GearshPayments.Fx.Service
import GearshPayments.Payments.Intents
import GearshPayments.Reconciliation.Balances
import GearshPayments.Escrow.Conservation
import GearshPayments.Escrow.Records
import GearshPayments.Escrow.Owed
import GearshPayments.Escrow.Revenue
import GearshPayments.Escrow.EventLog
import GearshPayments.Refunds.Service
import GearshPayments.System
import GearshPayments.Payments.Agreement
import GearshPayments.Payments.ExactlyOnce
import GearshPayments.Payments.Lock
import GearshPayments.Refunds.Gateway
import GearshPayments.Refunds.Run
import GearshPayments.Refunds.Settlement
import GearshPayments.Refunds.Books
import GearshPayments.Refunds.Interleaving
import GearshPayments.Payouts.Service
import GearshPayments.Payouts.Dispatcher
import GearshPayments.Payouts.Methods
import GearshPayments.Payouts.Writes
import GearshPayments.Payouts.Queue
import GearshPayments.Payouts.Stages
import GearshPayments.Payouts.Once
import GearshPayments.Payouts.Cancel
import GearshPayments.Payouts.Guard
import GearshPayments.Payouts.Ticks
import GearshPayments.Engine
import GearshPayments.Payouts.DeadEnds
import GearshPayments.Subscribers.PubSub
import GearshPayments.Subscribers.Payload
import GearshPayments.Subscribers.Handlers
import GearshPayments.Subscribers.Disputes
import GearshPayments.Subscribers.Ordering
import GearshPayments.Subscribers.DisputeWindow
import GearshPayments.Escrow.Balance
import GearshPayments.Payouts.Unfinished
import GearshPayments.Payouts.Announcements
import GearshPayments.Resumption.Actions
import GearshPayments.Idempotency.AtMostOnce
import GearshPayments.Idempotency.Service
import GearshPayments.HalfEven
import GearshPayments.DoubleRounding
import GearshPayments.Fx.Exact
import GearshPayments.Fx.Conversion
import GearshPayments.Fx.Rates
import GearshPayments.Payments.OneRate
import GearshPayments.Payments.CleanSplit
import GearshPayments.JavaScript.Text
import GearshPayments.PrefixCode
import GearshPayments.JavaScript.Utf16
import GearshPayments.JavaScript.UrlSearchParams
import GearshPayments.JavaScript.Number
import GearshPayments.PayFast.IpWhitelist
import GearshPayments.PayFast.Signature
import GearshPayments.Payments.ItnAmount
import GearshPayments.Reconciliation.FalseAlarm
import GearshPayments.Refunds.Charge
import GearshPayments.Payouts.Verified
import GearshPayments.Payouts.Backoff
import GearshPayments.Runs
import GearshPayments.JavaScript.Json
import GearshPayments.JavaScript.JsonParse
import GearshPayments.Admin.AuditMiddleware
import GearshPayments.JavaScript.Date
import GearshPayments.Events.Publisher
import GearshPayments.Events.Order
import GearshPayments.Resumption.Knowledge
import GearshPayments.Payments.Create
import GearshPayments.Reconciliation.Run
import GearshPayments.Common.Pagination
import GearshPayments.Payments.Quotes
import GearshPayments.Payments.LockedForms
import GearshPayments.Admin.StuckRefunds
import GearshPayments.Reconciliation.CrossCheck
import GearshPayments.Reconciliation.Daily
import GearshPayments.Admin.Dates
import GearshPayments.Escrow.FullRefund
import GearshPayments.Refunds.Eligibility
import GearshPayments.Payments.Pipeline
import GearshPayments.Payments.SignedForms
import GearshPayments.Resumption.Amid
import GearshPayments.Rounds
import GearshPayments.Events.Enqueues
import GearshPayments.Events.Drain
import GearshPayments.Expiring
import GearshPayments.Security.Backend
import GearshPayments.Security.Guards
import GearshPayments.Resumption.Barred
import GearshPayments.Idempotency.Timed
import GearshPayments.Security.Traffic
import GearshPayments.Security.Responses
import GearshPayments.Security.Sessions
import GearshPayments.Admin.Balances
import GearshPayments.Escrow.Bookings
import GearshPayments.Books
import GearshPayments.Reconciliation.Rows
