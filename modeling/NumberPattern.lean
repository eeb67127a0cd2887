import NumberPattern.Proofs.Lexicon.History
import NumberPattern.Proofs.Locale.Keys
import NumberPattern.Proofs.Plan.Compiled
import NumberPattern.Proofs.Plan.Equality
import NumberPattern.Proofs.Run.Declining
import NumberPattern.Proofs.Run.Grouping
import NumberPattern.Proofs.Run.Minus
import NumberPattern.Proofs.Run.Ordinals
import NumberPattern.Proofs.Run.Scaling
import NumberPattern.Proofs.Run.Trimming
import NumberPattern.Proofs.Run.Units
import NumberPattern.Proofs.Run.WholeAmounts
import NumberPattern.Proofs.Scan.Gates
import NumberPattern.Proofs.Scan.Lookahead
import NumberPattern.Proofs.Scan.Occurrences
import NumberPattern.Proofs.Session.Cached
import NumberPattern.Proofs.Session.Formatting
import NumberPattern.Proofs.Session.Selection
import NumberPattern.Proofs.Session.Transparency
import NumberPattern.Script
