import Krometrail.Targets.Recording
import Krometrail.Targets.Selection
import Krometrail.Targets.Reconnection
import Krometrail.Targets.Delivery
import Krometrail.Segments.Announcements
import Krometrail.Recovery.WholeRecords
import Krometrail.Artifacts.FlightSafety
import Krometrail.Artifacts.Permits
import Krometrail.Capture.Accounts
import Krometrail.Capture.GapDelivery
import Krometrail.Capture.Geometry
import Krometrail.Video.Agreement
import Krometrail.Artifacts.CacheKeys
import Krometrail.Artifacts.Publishing
import Krometrail.Privacy.Disclosure
import Krometrail.Privacy.Passes
import Krometrail.Downloads.Convergence
import Krometrail.Control.BoundedProjections
import Krometrail.Events.StopSignal
import Krometrail.Events.Correlation
import Krometrail.Events.Losses
import Krometrail.Instances.Exclusion
import Krometrail.Targets.Transactions
import Krometrail.Segments.RandomAccess
import Krometrail.Capture.Ordinals
import Krometrail.Capture.LedgerRuns
import Krometrail.EventIndex.Losses
import Krometrail.Timeline.Windows
import Krometrail.Vision.FastPath
import Krometrail.Privacy.UrlParts
import Krometrail.Targets.EffectOrder
import Krometrail.Targets.PageTable
import Krometrail.Timeline.ProtectedRanges
import Krometrail.Timeline.CaptureQuality
import Krometrail.Vision.RegionGeometry
import Krometrail.Artifacts.NormalizationLimits
import Krometrail.Vision.MotionHistory
import Krometrail.EventIndex.CompactSelection
import Krometrail.Control.HeldModifiers
import Krometrail.Control.NetworkQuiet
import Krometrail.DebugBundle.Assembly
import Krometrail.Downloads.Containment
import Krometrail.Control.RenderedPrefixes
import Krometrail.Artifacts.Converging
import Krometrail.Control.BatchRuns
import Krometrail.Control.DecodedTrees
import Krometrail.Control.SessionOwner
import Krometrail.Capture.TimingHistograms
import Krometrail.Capture.Admission
