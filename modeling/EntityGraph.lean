import EntityGraph.Main
import EntityGraph.Proofs.Planning.RootField
import EntityGraph.Proofs.Planning.SourceField
import EntityGraph.Proofs.Resolution.EagerFetching
import EntityGraph.Proofs.Resolution.Independence
import EntityGraph.Proofs.Store.MappedSide
import EntityGraph.Proofs.Planning.BoundArguments
import EntityGraph.Proofs.Planning.Typenames
import EntityGraph.Proofs.Planning.WellScoped
import EntityGraph.Proofs.Resolution.Positions
import EntityGraph.Proofs.Resolution.RequiredJoins
import EntityGraph.Proofs.Store.Conformance
import EntityGraph.Proofs.Store.Identity
import EntityGraph.Proofs.Resolution.Events
import EntityGraph.Proofs.Resolution.FieldErrors
import EntityGraph.Proofs.Resolution.RootFields
import EntityGraph.Proofs.Resolution.Visits
import EntityGraph.Proofs.Resolution.Accounting
import EntityGraph.Proofs.Plan.Symbols
import EntityGraph.Proofs.Plan.Written
import EntityGraph.Proofs.Plan.Readability
import EntityGraph.Proofs.Plan.Reading
import EntityGraph.Proofs.Plan.Bound
import EntityGraph.Proofs.Planning.Ordering
import EntityGraph.Proofs.Configuration.RoundTrip
import EntityGraph.Proofs.Resolution.Records
import EntityGraph.Proofs.Planning.Conjunctions
import EntityGraph.Proofs.Planning.Coercion
import EntityGraph.Proofs.Plan.Passed
import EntityGraph.Proofs.Plan.Placeholders
import EntityGraph.Proofs.Planning.JoinTree
import EntityGraph.Proofs.Value.Overlap
