import Subselect.Decimal.Reader
import Subselect.Engine.Script
import Subselect.Main
import Subselect.Session
import Subselect.Proofs.Nesting
import Subselect.Proofs.Scanning
import Subselect.Proofs.Asking
import Subselect.Proofs.Completion
import Subselect.Proofs.Evaluation
import Subselect.Proofs.Progress
import Subselect.Proofs.Brackets
import Subselect.Proofs.Course
import Subselect.Proofs.Detection
import Subselect.Proofs.Items
import Subselect.Proofs.Membership
import Subselect.Proofs.Limits
import Subselect.Proofs.Dispatch
import Subselect.Proofs.Reception
import Subselect.Proofs.Spans
import Subselect.Proofs.Excerpts
import Subselect.Proofs.Columns
import Subselect.Proofs.Insertion
import Subselect.Proofs.Forms
import Subselect.Proofs.Accounting
import Subselect.Proofs.Integers
import Subselect.Proofs.Program
import Subselect.Proofs.Unrolling
import Subselect.Proofs.Choices
import Subselect.Proofs.Folding
import Subselect.Proofs.Reports
import Subselect.Proofs.Endings
