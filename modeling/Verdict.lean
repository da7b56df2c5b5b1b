import Verdict.Fixture
import Verdict.Json.Parser
import Verdict.Command
import Verdict.Main
import Verdict.Proofs.Trial
import Verdict.Proofs.Query.Outcome
import Verdict.Proofs.Query.Reading
import Verdict.Proofs.Query.Walk
import Verdict.Proofs.Query.Rejections
import Verdict.Proofs.Query.Meaning
import Verdict.Proofs.Query.Polarity
import Verdict.Proofs.Path
import Verdict.Proofs.Query.Relocation
import Verdict.Proofs.Query.Keys
import Verdict.Proofs.Query.Reasons
import Verdict.Proofs.Query.Sufficiency
import Verdict.Proofs.Text.Digit
import Verdict.Proofs.Query.Checks
import Verdict.Proofs.Query.Location
import Verdict.Proofs.Number.Integer
import Verdict.Proofs.Time.Calendar
import Verdict.Proofs.Time.Timestamp
import Verdict.Proofs.Literal.Reading
import Verdict.Proofs.Literal.RoundTrip
import Verdict.Proofs.Query.Alike
import Verdict.Proofs.Query.Congruence
import Verdict.Proofs.Value.Parts
import Verdict.Proofs.Query.Equality
import Verdict.Proofs.Value.KeyOrder
import Verdict.Proofs.Query.KeyOrder
import Verdict.Proofs.Literal.DateRange
import Verdict.Proofs.Query.Depth
import Verdict.Proofs.Query.RootKeys
import Verdict.Proofs.Query.Journal
import Verdict.Proofs.Query.Displacement
import Verdict.Proofs.Query.Clauses
import Verdict.Proofs.Query.Negation
import Verdict.Proofs.Query.DottedKeys
import Verdict.Proofs.Query.LeafOperators
import Verdict.Proofs.Query.Filtering
import Verdict.Proofs.Query.EveryKey
import Verdict.Proofs.Value.Extension
import Verdict.Proofs.Query.Extension
import Verdict.Proofs.Query.Routes
import Verdict.Proofs.Query.Sites
import Verdict.Proofs.Query.ReasonPaths
import Verdict.Proofs.Fixture.TestIds
import Verdict.Proofs.Value.Order
import Verdict.Proofs.Value.PartialEquivalence
import Verdict.Proofs.Literal.Format
import Verdict.Proofs.Verbosity
import Verdict.Proofs.Value.Resolution
import Verdict.Proofs.Keyed
import Verdict.Proofs.Value.History
import Verdict.Proofs.Fixture.Cases
