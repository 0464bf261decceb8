import QueryEngine.Function.Registry
import QueryEngine.Json.Basic
import QueryEngine.Plan.Explain
import QueryEngine.Proofs.Alignment.Datasets
import QueryEngine.Proofs.Grouping.Exact
import QueryEngine.Proofs.Join.Agreement
import QueryEngine.Proofs.Join.Nested
import QueryEngine.Proofs.Pushdown.Errors
import QueryEngine.Proofs.Resolution.Scoped
import QueryEngine.Verbosity
import QueryEngine.Proofs.Resolution.Stable
import QueryEngine.Proofs.Cursor.Moves
import QueryEngine.Proofs.Walk.Expansion
import QueryEngine.Proofs.Walk.Recursion
import QueryEngine.Proofs.Nullability.Expressions
import QueryEngine.Proofs.Nullability.Rows
import QueryEngine.Proofs.Nullability.Projections
import QueryEngine.Proofs.Physical.Compiled
import QueryEngine.Proofs.Nullability.Plans
import QueryEngine.Proofs.Nullability.Datasets
import QueryEngine.Proofs.Resolution.Termination
import QueryEngine.Proofs.Grouping.Permuted
import QueryEngine.Proofs.Grouping.Truncated
import QueryEngine.Proofs.Join.Budget
import QueryEngine.Proofs.Physical.FailStop
import QueryEngine.Proofs.Physical.SortOrder
import QueryEngine.Proofs.Pushdown.KeyRows
import QueryEngine.Proofs.Pushdown.Qualifiers
import QueryEngine.Proofs.Typing.Soundness
import QueryEngine.Proofs.Value.Numbers
import QueryEngine.Proofs.Join.Buckets
import QueryEngine.Proofs.Grouping.Positions
import QueryEngine.Proofs.Grouping.AggregateKeys
import QueryEngine.Proofs.Regex.Like
import QueryEngine.Proofs.Physical.Patterns
import QueryEngine.Proofs.Value.Casts
import QueryEngine.Proofs.Typing.Derived
import QueryEngine.Proofs.Physical.Slices
import QueryEngine.Proofs.Physical.Flattening
import QueryEngine.Proofs.Pushdown.Repeated
import QueryEngine.Proofs.Grouping.Extremes
import QueryEngine.Proofs.Dataset.Listing
