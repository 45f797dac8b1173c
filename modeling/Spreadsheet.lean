import Spreadsheet.Proofs.Edits
import Spreadsheet.Proofs.Tracking
import Spreadsheet.Proofs.Walk
import Spreadsheet.Proofs.Freshness
import Spreadsheet.Proofs.FullRecalculation
import Spreadsheet.Proofs.Probe
import Spreadsheet.Proofs.Spread
import Spreadsheet.Proofs.Upkeep
import Spreadsheet.Proofs.Gluing
import Spreadsheet.Proofs.Copies
import Spreadsheet.Proofs.StoredText
import Spreadsheet.Proofs.Renumbering
import Spreadsheet.Proofs.Places
import Spreadsheet.Proofs.Following
import Spreadsheet.Proofs.Triggers
import Spreadsheet.Proofs.Blocks
import Spreadsheet.Proofs.Rejection
import Spreadsheet.Proofs.OwnStyles
import Spreadsheet.Proofs.Overlays
import Spreadsheet.Proofs.Undo
import Spreadsheet.Proofs.Descent
import Spreadsheet.Proofs.Faults
import Spreadsheet.Proofs.Fields
import Spreadsheet.Proofs.Tidiness
import Spreadsheet.Proofs.Styling
import Spreadsheet.Proofs.Selection
import Spreadsheet.Proofs.DirectReaders
import Spreadsheet.Proofs.RulesFollowing
import Spreadsheet.Proofs.Priorities
import Spreadsheet.Proofs.Entries
import Spreadsheet.Proofs.FillWalks
import Spreadsheet.Proofs.FillPlans
import Spreadsheet.Proofs.HiddenCells
import Spreadsheet.Proofs.Calls
import Spreadsheet.Proofs.CalledText
import Spreadsheet.Proofs.Alike
import Spreadsheet.Proofs.CopiedFormulas
import Spreadsheet.Proofs.Precedence
import Spreadsheet.Proofs.AdmittedNames
import Spreadsheet.Proofs.Counters
import Spreadsheet.Proofs.RepeatedCopies
import Spreadsheet.Proofs.WholeDoubles
import Spreadsheet.Proofs.AddressTexts
import Spreadsheet.Proofs.Indirection
import Spreadsheet.Proofs.NewSheets
import Spreadsheet.Proofs.Retries
import Spreadsheet.Proofs.AddressForms
import Spreadsheet.Proofs.RangeAlgebra
import Spreadsheet.Proofs.Tolerances
import Spreadsheet.Proofs.OperandOrder
import Spreadsheet.Proofs.RoundedDoubles
import Spreadsheet.Proofs.Aggregates
import Spreadsheet.Proofs.Overflow
import Spreadsheet.Proofs.DrawnArrows
import Spreadsheet.Proofs.CheckedMessages
