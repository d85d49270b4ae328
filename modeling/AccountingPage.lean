import AccountingPage.Amount
import AccountingPage.Component.Basic
import AccountingPage.Component.Method
import AccountingPage.Config.Basic
import AccountingPage.Config.Reader
import AccountingPage.Decimal.Layout
import AccountingPage.Decimal.Shortest
import AccountingPage.Draft
import AccountingPage.Effect
import AccountingPage.Element
import AccountingPage.Fields
import AccountingPage.Json.Collection
import AccountingPage.Json.Error
import AccountingPage.Json.Numeral
import AccountingPage.Json.Printer
import AccountingPage.Json.Quotation
import AccountingPage.Json.Reader
import AccountingPage.Json.Reading
import AccountingPage.Json.Skip
import AccountingPage.Json.Value
import AccountingPage.Page
import AccountingPage.Record.Choices
import AccountingPage.Record.Nav
import AccountingPage.Record.Panels
import AccountingPage.Record.QuickForm
import AccountingPage.Record.TransactionForm
import AccountingPage.Records
import AccountingPage.Regions
import AccountingPage.Registry
import AccountingPage.Reply
import AccountingPage.Request
import AccountingPage.Session
import AccountingPage.Store
import AccountingPage.Submission
import AccountingPage.Text.Blank
import AccountingPage.Text.Numeral
import AccountingPage.Text.Printable
import AccountingPage.Text.Quoted
import AccountingPage.TextMap
import AccountingPage.Proofs.Registry
import AccountingPage.Proofs.Marks
import AccountingPage.Proofs.Grouping
import AccountingPage.Proofs.Calls
import AccountingPage.Proofs.Operations
import AccountingPage.Proofs.SectionFlags
import AccountingPage.Proofs.Rebinding
import AccountingPage.Proofs.SingleFlight
import AccountingPage.Proofs.DraftBody
import AccountingPage.Proofs.Isolation
import AccountingPage.Proofs.SubmitTrace
import AccountingPage.Proofs.Json.Grammar
import AccountingPage.Proofs.Json.Soundness
import AccountingPage.Proofs.ReplyBody
import AccountingPage.Proofs.Json.Acceptance
import AccountingPage.Proofs.Overrides
import AccountingPage.Proofs.Addresses
import AccountingPage.Proofs.WriteBack
import AccountingPage.Proofs.Stability
import AccountingPage.Proofs.AccountNames
import AccountingPage.Proofs.FormulaVariables
import AccountingPage.Proofs.FormEntries
import AccountingPage.Proofs.Json.Skipping
import AccountingPage.Proofs.IdPath
import AccountingPage.Proofs.LeadingInteger
import AccountingPage.Proofs.AmountSources
import AccountingPage.Proofs.Settling
import AccountingPage.Proofs.AmountEdits
import AccountingPage.Proofs.VariableInputs
import AccountingPage.Proofs.Points
import AccountingPage.Proofs.StoredFlags
import AccountingPage.Proofs.Separation
import AccountingPage.Proofs.Registrations
