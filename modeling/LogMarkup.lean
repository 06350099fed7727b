import LogMarkup.Cache
import LogMarkup.Character.Checked
import LogMarkup.Main
import LogMarkup.Meaning.OfTree
import LogMarkup.Proofs.Interpretation
import LogMarkup.Proofs.Lexeme
import LogMarkup.Proofs.Scanning
import LogMarkup.Proofs.Recognition
import LogMarkup.Proofs.ValidReading
import LogMarkup.Proofs.Derivation
import LogMarkup.Proofs.Exploration
import LogMarkup.Proofs.Lookahead
import LogMarkup.Proofs.NodeSpelling
import LogMarkup.Proofs.Spelling
import LogMarkup.Proofs.Building
import LogMarkup.Proofs.RoundTrip
import LogMarkup.Proofs.FurthestPlace
import LogMarkup.Proofs.Offset
import LogMarkup.Proofs.ErrorStability
import LogMarkup.Proofs.TreePieces
import LogMarkup.Proofs.TreeText
import LogMarkup.Proofs.FirstError
import LogMarkup.Proofs.Offence
import LogMarkup.Proofs.Fault
import LogMarkup.Proofs.Batch
import LogMarkup.Proofs.Coverage
import LogMarkup.Proofs.Seam
import LogMarkup.Proofs.Composition
import LogMarkup.Proofs.ReachedCondition
import LogMarkup.Proofs.TreeFault
import LogMarkup.Proofs.TreeBuilding
import LogMarkup.Proofs.CanonicalForm
import LogMarkup.Proofs.CallShape
import LogMarkup.Proofs.Culprit
import LogMarkup.Proofs.Walking
import LogMarkup.Proofs.CacheStep
import LogMarkup.Proofs.CacheRun
import LogMarkup.Proofs.Transparency
import LogMarkup.Proofs.Participation
import LogMarkup.Proofs.Clash
import LogMarkup.Proofs.Untargeted
import LogMarkup.Proofs.PlainText
import LogMarkup.Proofs.CommandTable
import LogMarkup.Proofs.Listing
import LogMarkup.Proofs.Failure
import LogMarkup.Proofs.OptionWords
import LogMarkup.Proofs.EmoteCommand
