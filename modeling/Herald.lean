import Herald.Dispatch.Settling
import Herald.Json.Steps
import Herald.Proofs.Delivery.Accounting
import Herald.Proofs.Delivery.Matches
import Herald.Proofs.Delivery.Posts
import Herald.Proofs.Dispatch.Faults
import Herald.Proofs.Dispatch.History
import Herald.Proofs.Dispatch.Independence
import Herald.Proofs.Dispatch.Tracked
import Herald.Proofs.Dispatch.Undisturbed
import Herald.Proofs.Push.Lossless
import Herald.Proofs.Rate.Faults
import Herald.Proofs.Rate.Period
import Herald.Proofs.Rate.Prunes
import Herald.Pruning.Timeline
import Herald.Settings.Json
import Herald.Dispatch.Printed
import Herald.Proofs.Dispatch.Credentials
import Herald.Proofs.Dispatch.Journal
import Herald.Proofs.Json.Records
import Herald.Proofs.Settings.Reading
import Herald.Proofs.Json.Lexing
import Herald.Proofs.Json.Written
import Herald.Proofs.Settings.RoundTrip
import Herald.Proofs.Dispatch.Alone
import Herald.Proofs.Rate.Private
import Herald.Proofs.Rate.Selections
import Herald.Proofs.Json.Agreement
import Herald.Proofs.Settings.Alike
import Herald.Proofs.Dispatch.Crowd
import Herald.Proofs.Store.FiniteMap
import Herald.Proofs.Pruning.Course
import Herald.Proofs.Pruning.Timeline
import Herald.Proofs.Notice.Readable
import Herald.Proofs.Settings.Printed
import Herald.Proofs.Rate.Spacings
import Herald.Proofs.Time.Totals
import Herald.Proofs.Dispatch.Shares
import Herald.Proofs.Rate.Forward
import Herald.Proofs.Notice.Calendar
import Herald.Proofs.Text.Ordering
import Herald.Proofs.Notice.Chronology
import Herald.Proofs.Notice.Faithful
