import WikiDates.Main
import WikiDates.Proofs.Calendar.DayNumber
import WikiDates.Proofs.Calendar.Linear
import WikiDates.Proofs.Calendar.Shift
import WikiDates.Proofs.Results
import WikiDates.Proofs.Carrying
import WikiDates.Proofs.Override
import WikiDates.Proofs.Number.Binary64
import WikiDates.Proofs.Substitution
import WikiDates.Proofs.RangeFaults
import WikiDates.Proofs.Writable
import WikiDates.Proofs.AcceptedSettings
import WikiDates.Proofs.Isolation
import WikiDates.Proofs.Recognition
import WikiDates.Proofs.Memoryless
import WikiDates.Proofs.Printing
import WikiDates.Proofs.OptionText
import WikiDates.Proofs.Pattern.Quotation
import WikiDates.Proofs.Pattern.Grammar
import WikiDates.Proofs.Pattern.Validity
import WikiDates.Proofs.Lines
import WikiDates.Proofs.NextDay
import WikiDates.Proofs.DefaultForm
import WikiDates.Proofs.Calendar.Week
import WikiDates.Proofs.Locale.Known
import WikiDates.Proofs.Unwritable
import WikiDates.Proofs.Months
import WikiDates.Proofs.GivenDate
import WikiDates.Proofs.Dictionary
import WikiDates.Proofs.RenderingReport
import WikiDates.Proofs.CommandReport
import WikiDates.Proofs.FixedLengths
import WikiDates.Proofs.OptionOrder
import WikiDates.Proofs.Pieces
import WikiDates.Proofs.Tokens
import WikiDates.Proofs.Calendar.Order
import WikiDates.Proofs.DayOrder
import WikiDates.Proofs.Undoing
import WikiDates.Proofs.Fields
import WikiDates.Proofs.Canonical
import WikiDates.Proofs.Amounts
import WikiDates.Proofs.Pattern.Concatenation
import WikiDates.Proofs.Pattern.QuotedText
