import Tabletop.Random.Scripted
import Tabletop.Main
import Tabletop.Saved.Check
import Tabletop.Saved.Log
import Tabletop.Saved.Loot
import Tabletop.Session.Checks
import Tabletop.Session.Loot
import Tabletop.Proofs.ExtendedCheck.Dominance
import Tabletop.Proofs.ExtendedCheck.Invariant
import Tabletop.Proofs.History.WholeLog
import Tabletop.Proofs.Notation.Grammar
import Tabletop.Proofs.Notation.RoundTrip
import Tabletop.Proofs.Rolling.Replay
import Tabletop.Proofs.WeightedPool.Invariant
import Tabletop.Proofs.WeightedPool.Selection
import Tabletop.Proofs.Rolling.Draws
import Tabletop.Proofs.Rolling.Advantage
import Tabletop.Proofs.Session.Calls
import Tabletop.Proofs.Session.Ledger
import Tabletop.Proofs.Binary64.Format
import Tabletop.Proofs.Binary64.Sum
import Tabletop.Proofs.DropTable.Amounts
import Tabletop.Proofs.DropTable.Construction
import Tabletop.Proofs.Contest.Ranking
import Tabletop.Proofs.Log.Calendar
import Tabletop.Proofs.DropTable.Frequencies
import Tabletop.Proofs.Log.Timestamp
import Tabletop.Proofs.Log.Identifier
import Tabletop.Proofs.Saved.Reading
import Tabletop.Proofs.Saved.Values
import Tabletop.Proofs.Saved.Resumption
import Tabletop.Proofs.Saved.Loot
import Tabletop.Proofs.Outcome.Margin
import Tabletop.Proofs.Session.Lockstep
import Tabletop.Proofs.WeightedPool.OrderedMap
import Tabletop.Proofs.Session.Statistics
import Tabletop.Proofs.Outcome.Order
import Tabletop.Proofs.Rolling.Choice
import Tabletop.Proofs.Scoring.Faces
import Tabletop.Proofs.Scoring.Threshold
import Tabletop.Proofs.Rolling.Alike
import Tabletop.Proofs.DropTable.Ownership
import Tabletop.Proofs.DropTable.Listing
import Tabletop.Proofs.History.Latest
import Tabletop.Proofs.ExtendedCheck.Ending
import Tabletop.Proofs.Rolling.Totals
import Tabletop.Proofs.Binary64.Exact
import Tabletop.Proofs.Notation.Spelling
import Tabletop.Proofs.Rolling.Mean
import Tabletop.Proofs.Settings.Reading
import Tabletop.Proofs.Session.Diagnostics
import Tabletop.Proofs.Session.Agreement
import Tabletop.Proofs.Session.Drops
import Tabletop.Proofs.Settings.BotchWarning
