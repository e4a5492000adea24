import ArchiveDesk.Proofs.Desk.Consent
import ArchiveDesk.Proofs.Desk.ShownDialog
import ArchiveDesk.Proofs.Upload.CheckBeforeImport
import ArchiveDesk.Settings.File
import ArchiveDesk.Upload.Run
import ArchiveDesk.Desk.Course
import ArchiveDesk.Proofs.Desk.Mirror
import ArchiveDesk.Proofs.Upload.Refusal
import ArchiveDesk.Proofs.Desk.Rounds
import ArchiveDesk.Proofs.Desk.Discretion
import ArchiveDesk.Proofs.Desk.Passages
import ArchiveDesk.Proofs.Desk.ShownError
import ArchiveDesk.Proofs.Desk.Chronicle
import ArchiveDesk.Proofs.Desk.Lookups
import ArchiveDesk.Proofs.Desk.CaughtUp
import ArchiveDesk.Proofs.Upload.PhasePath
import ArchiveDesk.Proofs.Upload.CallReports
import ArchiveDesk.Proofs.Upload.Departure
import ArchiveDesk.Proofs.Upload.ImportFlag
import ArchiveDesk.Proofs.Lifecycle.Finished
import ArchiveDesk.Proofs.Lifecycle.Hits
import ArchiveDesk.Proofs.Settings.LifecycleUrls
import ArchiveDesk.Proofs.Json.Writer
import ArchiveDesk.Proofs.Lifecycle.Outcome
import ArchiveDesk.Proofs.Lifecycle.Stable
import ArchiveDesk.Proofs.Lifecycle.PageNumbers
import ArchiveDesk.Proofs.Lifecycle.Turning
import ArchiveDesk.Proofs.Desk.Clicks
import ArchiveDesk.Proofs.Lifecycle.Toggles
import ArchiveDesk.Proofs.Remote.Success
import ArchiveDesk.Proofs.Desk.Activity
import ArchiveDesk.Proofs.Number.Quotient
import ArchiveDesk.Proofs.ByteSize.FullUnits
import ArchiveDesk.Proofs.Settings.Composition
import ArchiveDesk.Proofs.Upload.Listening
