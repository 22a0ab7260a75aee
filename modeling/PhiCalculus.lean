import PhiCalculus.Json.Writer
import PhiCalculus.Main
import PhiCalculus.Proofs.Growth
import PhiCalculus.Proofs.Changes
import PhiCalculus.Proofs.Steps
import PhiCalculus.Proofs.Operations
import PhiCalculus.Proofs.Monotone
import PhiCalculus.Proofs.Persistence
import PhiCalculus.Proofs.Attempts
import PhiCalculus.Proofs.Signals
import PhiCalculus.Proofs.Soundness
import PhiCalculus.Proofs.Calls
import PhiCalculus.Proofs.Scoping
import PhiCalculus.Proofs.Independence
import PhiCalculus.Proofs.Vertices
import PhiCalculus.Proofs.Prototypes
import PhiCalculus.Proofs.Order
import PhiCalculus.Proofs.Tracing
import PhiCalculus.Proofs.WellFormed
import PhiCalculus.Proofs.FailureSources
import PhiCalculus.Proofs.FailureTerms
import PhiCalculus.Proofs.JsonText
import PhiCalculus.Proofs.Documents
import PhiCalculus.Proofs.Labels
import PhiCalculus.Proofs.Identity
import PhiCalculus.Proofs.Decimals
import PhiCalculus.Proofs.Homes
import PhiCalculus.Proofs.Spreading
import PhiCalculus.Proofs.Queries
import PhiCalculus.Proofs.Copies
import PhiCalculus.Proofs.Memoization
import PhiCalculus.Proofs.Views
import PhiCalculus.Proofs.MethodViews
import PhiCalculus.Proofs.Depths
import PhiCalculus.Proofs.Dataization
import PhiCalculus.Proofs.FailedOperations
import PhiCalculus.Proofs.MethodObjects
import PhiCalculus.Proofs.AppliedMethods
import PhiCalculus.Proofs.Integers
import PhiCalculus.Proofs.Coercions
import PhiCalculus.Proofs.Branches
import PhiCalculus.Proofs.Numerals
import PhiCalculus.Proofs.IntegerLiterals
import PhiCalculus.Proofs.ByteLiterals
import PhiCalculus.Proofs.PrintedValues
import PhiCalculus.Proofs.ArrayAccess
import PhiCalculus.Proofs.Escapes
import PhiCalculus.Proofs.Invocations
import PhiCalculus.Proofs.Exits
import PhiCalculus.Proofs.Declarations
import PhiCalculus.Proofs.PositionalArguments
import PhiCalculus.Proofs.Spellings
import PhiCalculus.Proofs.LineBreaks
import PhiCalculus.Proofs.ShownTexts
import PhiCalculus.Proofs.Vocabulary
import PhiCalculus.Proofs.VocabularyRuns
import PhiCalculus.Proofs.TraceLines
