import TimeRange.Json.Context
import TimeRange.Json.Expression
import TimeRange.Log
import TimeRange.Main
import TimeRange.Session
import TimeRange.Proofs.Calendar.Gregorian
import TimeRange.Proofs.Grammar.Sentence
import TimeRange.Proofs.Grammar.Progress
import TimeRange.Proofs.Grammar.Acceptance
import TimeRange.Proofs.Grammar.Misfit
import TimeRange.Proofs.Grammar.Canonical
import TimeRange.Proofs.Resolution.AsOf
import TimeRange.Proofs.Calendar.Boundary
import TimeRange.Proofs.Zone.BoundedMoves
import TimeRange.Proofs.Zone.Rounding
import TimeRange.Proofs.Resolution.WholeBuckets
import TimeRange.Proofs.Zone.History
import TimeRange.Proofs.Zone.LocalBucket
import TimeRange.Proofs.Resolution.LocalGrain
import TimeRange.Proofs.Zone.LocalOrder
import TimeRange.Proofs.Resolution.LocalRange
import TimeRange.Proofs.Resolution.Advance
import TimeRange.Proofs.Zone.ConstantOffset
import TimeRange.Proofs.Zone.Reach
import TimeRange.Proofs.Resolution.Headroom
import TimeRange.Proofs.Grammar.DurationShape
import TimeRange.Proofs.Grammar.Strictness
import TimeRange.Proofs.Grammar.Spelling
import TimeRange.Proofs.Grammar.Spacing
import TimeRange.Proofs.Zone.FirstShowing
import TimeRange.Proofs.Zone.RoundingTwice
import TimeRange.Proofs.Resolution.UnnamedBound
import TimeRange.Proofs.Text.Timestamp
import TimeRange.Proofs.Json.StoredContext
import TimeRange.Proofs.Calendar.MonthMoves
import TimeRange.Proofs.Zone.NestedRounding
import TimeRange.Proofs.Zone.MovingTwice
import TimeRange.Proofs.Zone.CalendarEnds
import TimeRange.Proofs.Grammar.LastComponent
import TimeRange.Proofs.Grammar.Pattern
import TimeRange.Proofs.Grammar.LongestMatch
