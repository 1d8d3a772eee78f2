import Figment.Main
import Figment.Proofs.Pattern.Grammar
import Figment.Proofs.Pattern.Longest
import Figment.Proofs.Pattern.Quantifier
import Figment.Proofs.Pattern.Class
import Figment.Proofs.Pattern.Reading
import Figment.Proofs.Template.Grammar
import Figment.Proofs.Evaluation.Call
import Figment.Proofs.Template.Segments
import Figment.Proofs.Evaluation.Levels
import Figment.Proofs.Evaluation.Machine
import Figment.Proofs.Evaluation.Termination
import Figment.Proofs.Evaluation.Frame
import Figment.Proofs.Evaluation.Pieces
import Figment.Proofs.Data.Overlay
import Figment.Proofs.Data.History
import Figment.Proofs.Unicode.Lowercase
import Figment.Proofs.Template.Marks
import Figment.Proofs.Naming
import Figment.Proofs.Evaluation.Registered
import Figment.Proofs.Template.Writing
import Figment.Proofs.Evaluation.Literal
import Figment.Proofs.Evaluation.Direct
import Figment.Proofs.Data.Changes
import Figment.Proofs.Evaluation.Lookups
import Figment.Proofs.Evaluation.Limit
import Figment.Proofs.Evaluation.Abandoned
import Figment.Proofs.Evaluation.Picks
import Figment.Proofs.Checking
import Figment.Proofs.Data.Listing
import Figment.Proofs.Data.Spelling
import Figment.Proofs.Evaluation.Missing
import Figment.Proofs.Data.Merging
import Figment.Proofs.Caching
import Figment.Proofs.Locale.Fallback
import Figment.Proofs.Template.CutShort
import Figment.Proofs.Template.Joining
import Figment.Proofs.Evaluation.Record
import Figment.Proofs.Evaluation.Shortcut
import Figment.Proofs.Evaluation.Sequence
import Figment.Proofs.Random.Choices
import Figment.Proofs.Pattern.Effort
import Figment.Proofs.Pattern.Candidates
import Figment.Proofs.Placeholder.Templates
import Figment.Proofs.Random.Evenness
import Figment.Proofs.Data.Conversion
import Figment.Proofs.Placeholder.Outcomes
import Figment.Proofs.Evaluation.Refusals
import Figment.Proofs.Registration
import Figment.Proofs.Coverage
import Figment.Proofs.Suggestion
import Figment.Proofs.Refusal
