import CivilTime.Proofs.Calendar.WallTime
import CivilTime.Proofs.Instant.CivilText
import CivilTime.Proofs.Instant.RoundTrip
import CivilTime.Proofs.Instant.Second
import CivilTime.Proofs.Instant.WallClock
import CivilTime.Proofs.Outcome
import CivilTime.Proofs.Pattern.Denotation
import CivilTime.Proofs.Pattern.Field
import CivilTime.Proofs.Pattern.Name
import CivilTime.Proofs.Pattern.Numeral
import CivilTime.Proofs.Pattern.Offset
import CivilTime.Proofs.Pattern.Readable
import CivilTime.Proofs.Pattern.Reader
import CivilTime.Proofs.Pattern.RoundTrip
import CivilTime.Proofs.Pattern.Shape
import CivilTime.Proofs.Pattern.Told
import CivilTime.Proofs.Zone.Localize
import CivilTime.Proofs.Zone.Readings
import CivilTime.Proofs.Zone.Regimes
import CivilTime.Proofs.Zone.View
import CivilTime.Session
import CivilTime.Proofs.Pattern.Grammar
import CivilTime.Proofs.Instant.Period
import CivilTime.Proofs.Zone.Gazetteer
import CivilTime.Proofs.Instant.Anchored
import CivilTime.Proofs.Instant.Repeated
import CivilTime.Proofs.Session.DefaultZone
import CivilTime.Proofs.Session.GivenZone
import CivilTime.Proofs.Instant.Understood
import CivilTime.Proofs.Instant.Transfer
import CivilTime.Proofs.Calendar.Month
import CivilTime.Proofs.Instant.Navigation
import CivilTime.Proofs.Session.PresentSecond
import CivilTime.Proofs.Calendar.MonthEnds
import CivilTime.Proofs.Instant.Steady
import CivilTime.Proofs.Calendar.Week
import CivilTime.Proofs.Instant.MonthEnds
import CivilTime.Proofs.Instant.Week
import CivilTime.Proofs.Instant.Tiling
import CivilTime.Proofs.Calendar.MonthSteps
import CivilTime.Proofs.Zone.Search
import CivilTime.Proofs.Instant.Sums
import CivilTime.Proofs.Pattern.Sorted
import CivilTime.Proofs.Instant.Timestamp
import CivilTime.Proofs.Pattern.Written
import CivilTime.Proofs.Pattern.Seam
import CivilTime.Proofs.Instant.Duration
import CivilTime.Proofs.Zone.OffsetId
import CivilTime.Proofs.Instant.Distance
import CivilTime.Proofs.Instant.Countdown
import CivilTime.Proofs.Instant.Rendering
import CivilTime.Proofs.Journal
import CivilTime.Proofs.Session.Records
