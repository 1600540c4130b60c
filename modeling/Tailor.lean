import Tailor.Main
import Tailor.Proofs.Block.Outline
import Tailor.Proofs.Block.Passage
import Tailor.Proofs.Session.Outcome
import Tailor.Proofs.Block.Acceptance
import Tailor.Proofs.Block.Extent
import Tailor.Proofs.Block.Survival
import Tailor.Proofs.Block.Viability
import Tailor.Proofs.Block.Rejection
import Tailor.Proofs.Session.Effect
import Tailor.Proofs.Session.Alike
import Tailor.Proofs.Block.Pruning
import Tailor.Proofs.Block.Reevaluation
import Tailor.Proofs.Block.Removal
import Tailor.Proofs.Block.Renumbering
import Tailor.Proofs.Session.Commands
import Tailor.Proofs.Query.Ledger
import Tailor.Proofs.Query.AskOnce
import Tailor.Proofs.Block.Calls
import Tailor.Proofs.Query.Sharing
import Tailor.Proofs.Block.Duality
import Tailor.Proofs.Text.Utf8
import Tailor.Proofs.Document.LineEnds
import Tailor.Proofs.Run.Outcome
import Tailor.Proofs.Run.Source
import Tailor.Proofs.Run.Course
import Tailor.Proofs.Run.Policy
import Tailor.Proofs.Files.Way
import Tailor.Proofs.Outcome
import Tailor.Proofs.Files.Faults
import Tailor.Proofs.Query.Input
import Tailor.Proofs.Run.Crash
import Tailor.Proofs.CommandLine.Outcome
import Tailor.Proofs.CommandLine.Rendering
import Tailor.Proofs.Files.Ground
import Tailor.Proofs.Files.Effect
import Tailor.Proofs.Files.Shown
import Tailor.Proofs.Files.Delivery
import Tailor.Proofs.Files.Follow
import Tailor.Proofs.Run.Showing
import Tailor.Proofs.Config.Paths
import Tailor.Proofs.Span.Cutting
import Tailor.Proofs.Session.Faults
import Tailor.Proofs.Document.Phases
import Tailor.Proofs.Block.Concatenation
import Tailor.Proofs.Query.Answers
import Tailor.Proofs.Query.Dialogue
import Tailor.Proofs.Files.Landing
import Tailor.Proofs.Run.Rehearsal
import Tailor.Proofs.Config.Listing
import Tailor.Proofs.CommandLine.Agreement
import Tailor.Proofs.Expression.Splitting
import Tailor.Proofs.Expression.Values
import Tailor.Proofs.Expression.References
import Tailor.Proofs.Expression.Variables
import Tailor.Proofs.Directive.Forms
import Tailor.Proofs.Span.Settling
import Tailor.Proofs.Document.Rejoining
import Tailor.Proofs.Config.Values
import Tailor.Proofs.Config.Entries
import Tailor.Proofs.Config.Problems
import Tailor.Proofs.Config.Effective
import Tailor.Proofs.Block.Midway
import Tailor.Proofs.Files.Paving
import Tailor.Proofs.Files.Linking
import Tailor.Proofs.Files.Replacement
